import LogWeave.Text.MarkClass

/-! Letters and marks that are one character.

A letter with its marks can be spelt in several ways; the composed form of a text (`composed`) is
the one with the fewest characters. The table holds the composites of letters that are written small
or have no case; Hangul syllables are counted (`Syllable`). -/
namespace LogWeave.Text

/-! ### Syllables -/

namespace Syllable

/-- The first syllable. Syllables come in the order of their letters: of the first letter, the
vowel and the last letter, which may be missing. -/
def first : Nat := 0xAC00

def firstLetter : Nat := 0x1100

def firstVowel : Nat := 0x1161

/-- The number before that of the first letter that may end a syllable. -/
def noLast : Nat := 0x11A7

/-- What a syllable is made of: the one before its last letter and that letter, or its two
letters. -/
def parts? (c : Char) : Option (Char × Char) :=
  let n := c.toNat - first
  if first ≤ c.toNat && n < 19 * 21 * 28 then
    if n % 28 = 0 then
      some (Char.ofNat (firstLetter + n / (21 * 28)), Char.ofNat (firstVowel + n / 28 % 21))
    else some (Char.ofNat (c.toNat - n % 28), Char.ofNat (noLast + n % 28))
  else none

/-- The syllable that two characters make. -/
def of? (c d : Char) : Option Char :=
  let letter := c.toNat - firstLetter
  let vowel := d.toNat - firstVowel
  let syllable := c.toNat - first
  let last := d.toNat - noLast
  if firstLetter ≤ c.toNat && letter < 19 && firstVowel ≤ d.toNat && vowel < 21 then
    some (Char.ofNat (first + (letter * 21 + vowel) * 28))
  else if first ≤ c.toNat && syllable < 19 * 21 * 28 && syllable % 28 = 0 && noLast < d.toNat &&
      last < 28 then
    some (Char.ofNat (c.toNat + last))
  else none

end Syllable

/-! ### Composites -/

/-- For a mark, letters without it and the same letters with it. -/
def compositeRows : List (Nat × String × String) := [
  (0x300, "aeinouwyâêôüăēōơưαεηιουωϊϋеиἀἁἐἑἠἡἰἱὀὁὐ", "àèìǹòùẁỳầềồǜằḕṑờừὰὲὴὶὸὺὼῒῢѐѝἂἃἒἓἢἣἲἳὂὃὒ"),
  (0x300, "ὑὠὡ", "ὓὢὣ"),
  (0x301, "acegiklmnoprsuwyzâåæçêïôõøüăēōũơưαεηιου", "áćéǵíḱĺḿńóṕŕśúẃýźấǻǽḉếḯốṍǿǘắḗṓṹớứάέήίόύ"),
  (0x301, "ωϊϋгкἀἁἐἑἠἡἰἱὀὁὐὑὠὡ", "ώΐΰѓќἄἅἔἕἤἥἴἵὄὅὔὕὤὥ"),
  (0x302, "aceghijosuwyzạẹọ", "âĉêĝĥîĵôŝûŵŷẑậệộ"), (0x303, "aeinouvyâêôăơư", "ãẽĩñõũṽỹẫễỗẵỡữ"),
  (0x304, "aegiouyäæõöüǫȧȯαιυиуḷṛ", "āēḡīōūȳǟǣȭȫǖǭǡȱᾱῑῡӣӯḹṝ"),
  (0x306, "aegiouȩαιυаежиуạ", "ăĕğĭŏŭḝᾰῐῠӑӗӂйўặ"),
  (0x307, "abcdefghmnoprstwxyzśšṣ𐗒𐗚", "ȧḃċḋėḟġḣṁṅȯṗṙṡṫẇẋẏżṥṧṩ𐗉𐗤"),
  (0x308, "aehiotuwxyõūιυаежзиоучыэіәө", "äëḧïöẗüẅẍÿṏṻϊϋӓёӝӟӥӧӱӵӹӭїӛӫ"),
  (0x309, "aeiouyâêôăơư", "ảẻỉỏủỷẩểổẳởử"), (0x30A, "auwy", "åůẘẙ"), (0x30B, "ouу", "őűӳ"),
  (0x30C, "acdeghijklnorstuzüʒ", "ǎčďěǧȟǐǰǩľňǒřšťǔžǚǯ"), (0x30F, "aeioruѵ", "ȁȅȉȍȑȕѷ"),
  (0x311, "aeioru", "ȃȇȋȏȓȗ"), (0x313, "αεηιορυω", "ἀἐἠἰὀῤὐὠ"), (0x314, "αεηιορυω", "ἁἑἡἱὁῥὑὡ"),
  (0x31B, "ou", "ơư"), (0x323, "abdehiklmnorstuvwyzơư", "ạḅḍẹḥịḳḷṃṇọṛṣṭụṿẉỵẓợự"), (0x324, "u", "ṳ"),
  (0x325, "a", "ḁ"), (0x326, "st", "șț"), (0x327, "cdeghklnrst", "çḑȩģḩķļņŗşţ"),
  (0x328, "aeiou", "ąęįǫų"), (0x32D, "delntu", "ḓḙḽṋṱṷ"), (0x32E, "h", "ḫ"), (0x330, "eiu", "ḛḭṵ"),
  (0x331, "bdhklnrtz", "ḇḏẖḵḻṉṟṯẕ"),
  (0x338, "<=>←→↔⇐⇒⇔∃∈∋∣∥∼≃≅≈≍≡≤≥≲≳≶≷≺≻≼≽⊂⊃⊆⊇⊑⊒⊢⊨⊩", "≮≠≯↚↛↮⇍⇏⇎∄∉∌∤∦≁≄≇≉≭≢≰≱≴≵≸≹⊀⊁⋠⋡⊄⊅⊈⊉⋢⋣⊬⊭⊮"),
  (0x338, "⊫⊲⊳⊴⊵", "⊯⋪⋫⋬⋭"), (0x342, "αηιυωϊϋἀἁἠἡἰἱὐὑὠὡ", "ᾶῆῖῦῶῗῧἆἇἦἧἶἷὖὗὦὧ"),
  (0x653, "\u0627", "\u0622"),
  (0x654, "\u0627\u0648\u064a\u06c1\u06d2\u06d5", "\u0623\u0624\u0626\u06c2\u06d3\u06c0"),
  (0x655, "\u0627", "\u0625"), (0x93C, "नरळ", "ऩऱऴ"), (0x9BE, "\u09c7", "\u09cb"),
  (0x9D7, "\u09c7", "\u09cc"), (0xB3E, "\u0b47", "\u0b4b"), (0xB56, "\u0b47", "\u0b48"),
  (0xB57, "\u0b47", "\u0b4c"), (0xBBE, "\u0bc6\u0bc7", "\u0bca\u0bcb"),
  (0xBD7, "ஒ\u0bc6", "ஔ\u0bcc"), (0xC56, "\u0c46", "\u0c48"), (0xCC2, "\u0cc6", "\u0cca"),
  (0xCD5, "\u0cbf\u0cc6\u0cca", "\u0cc0\u0cc7\u0ccb"), (0xCD6, "\u0cc6", "\u0cc8"),
  (0xD3E, "\u0d46\u0d47", "\u0d4a\u0d4b"), (0xD57, "\u0d46", "\u0d4c"),
  (0xDCA, "\u0dd9\u0ddc", "\u0dda\u0ddd"), (0xDCF, "\u0dd9", "\u0ddc"), (0xDDF, "\u0dd9", "\u0dde"),
  (0x102E, "ဥ", "ဦ"),
  (0x1B35, "ᬅᬇᬉᬋᬍᬑ\u1b3a\u1b3c\u1b3e\u1b3f\u1b42", "ᬆᬈᬊᬌᬎᬒ\u1b3b\u1b3d\u1b40\u1b41\u1b43"),
  (0x3099, "うかきくけこさしすせそたちつてとはひふへほゝウカキクケコサシスセソタチツテトハ", "ゔがぎぐげござじずぜぞだぢづでどばびぶべぼゞヴガギグゲゴザジズゼゾダヂヅデドバ"),
  (0x3099, "ヒフヘホワヰヱヲヽ", "ビブベボヷヸヹヺヾ"), (0x309A, "はひふへほハヒフヘホ", "ぱぴぷぺぽパピプペポ"), (0x110BA, "𑂙𑂛𑂥", "𑂚𑂜𑂫"),
  (0x11127, "𑄱𑄲", "𑄮𑄯"), (0x1133E, "𑍇", "𑍋"), (0x11357, "𑍇", "𑍌"), (0x113B8, "𑏂", "𑏇"),
  (0x113BB, "𑎄", "𑎅"), (0x113C2, "𑎎", "𑎎𑏅"), (0x113C9, "𑎂𑎐𑏂", "𑎃𑎑𑏈"), (0x114B0, "𑒹", "𑒼"),
  (0x114BA, "𑒹", "𑒻"), (0x114BD, "𑒹", "𑒾"), (0x115AF, "𑖸𑖹", "𑖺𑖻"), (0x11930, "𑤵", "𑤸"),
  (0x1611E, "𖄞", "𖄡"), (0x1611F, "𖄡𖄡𖄩𖄩", "𖄣𖄦𖄧𖄤"), (0x16120, "𖄡𖄞", "𖄥𖄨"), (0x16129, "𖄞", "𖄢"),
  (0x16D67, "𖵩𖵩", "𖵪𖵧𖵪")]

/-- The rows, letter by letter. -/
def composites : List (Nat × List (Char × Char)) :=
  compositeRows.map fun (mark, plain, marked) => (mark, plain.toList.zip marked.toList)

/-- What a character is made of. -/
def parts? (c : Char) : Option (Char × Char) :=
  match Syllable.parts? c with
  | some parts => some parts
  | none => composites.findSome? fun (mark, letters) =>
    (letters.find? (·.2 == c)).map fun letter => (letter.1, Char.ofNat mark)

/-- The character that two make. -/
def composite? (c d : Char) : Option Char :=
  match Syllable.of? c d with
  | some syllable => some syllable
  | none => composites.findSome? fun (mark, letters) =>
    if mark = d.toNat then (letters.find? (·.1 == c)).map (·.2) else none

/-! ### The composed form -/

/-- A character in its parts, at most some times over. -/
def spread : (times : Nat) → Char → List Char
  | 0, c => [c]
  | k + 1, c =>
    match parts? c with
    | some (letter, mark) => spread k letter ++ [mark]
    | none => [c]

/-- Puts a mark behind those of smaller classes. -/
def put (c : Char) : List Char → List Char
  | d :: rest =>
    if 0 < MarkClass.of d && MarkClass.of d < MarkClass.of c then d :: put c rest else c :: d :: rest
  | [] => [c]

/-- Nothing is gained or lost. -/
theorem put_perm (c : Char) (text : List Char) : (put c text).Perm (c :: text) := by
  induction text with
  | nil => exact .refl _
  | cons d rest ih =>
    rw [put]
    split
    · exact (ih.cons d).trans (.swap c d rest)
    · exact .refl _

/-- A text in parts, with the marks behind a letter in the order of their classes. No character
has more than three marks. -/
def decomposed (text : List Char) : List Char := (text.flatMap (spread 3)).foldr put []

/-- Joins what follows to a letter, where no mark stands in the way. Between them stand marks that
have not been joined, the last one first. -/
def join (letter : Char) (between : List Char) : List Char → List Char
  | [] => letter :: between.reverse
  | c :: rest =>
    let isFree := between.head?.all fun d => MarkClass.of d < MarkClass.of c
    match if isFree then composite? letter c else none with
    | some composite => join composite between rest
    | none =>
      if MarkClass.of c = 0 then letter :: between.reverse ++ join c [] rest
      else join letter (c :: between) rest

/-- A text with the fewest characters. -/
def composed (text : List Char) : List Char :=
  match decomposed text with
  | [] => []
  | c :: rest => join c [] rest

end LogWeave.Text
