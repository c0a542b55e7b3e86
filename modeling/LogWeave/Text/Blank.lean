/-! Sets of characters, and white space among them.

A set is given as ranges of numbers (`isWithin`). `isBlank` is the White_Space property, and
`trimChars_blanks_append` says that blanks in front of a text do not show in what is left of it
without the blanks at its ends. -/
namespace LogWeave.Text

/-- Whether a character is in one of some ranges. -/
def isWithin (ranges : List (Nat × Nat)) (c : Char) : Bool :=
  ranges.any fun r => r.1 ≤ c.toNat && c.toNat ≤ r.2

/-- Ranges in order that do not touch. -/
def areSeparated : List (Nat × Nat) → Bool
  | [] => true
  | [r] => r.1 ≤ r.2
  | r :: s :: rest => r.1 ≤ r.2 && r.2 + 1 < s.1 && areSeparated (s :: rest)

/-- The White_Space property. -/
def isBlank (c : Char) : Bool :=
  let n := c.toNat
  (0x09 ≤ n && n ≤ 0x0D) || n == 0x20 || n == 0x85 || n == 0xA0 || n == 0x1680 ||
    (0x2000 ≤ n && n ≤ 0x200A) || n == 0x2028 || n == 0x2029 || n == 0x202F || n == 0x205F ||
    n == 0x3000

def skipBlanks (cs : List Char) : List Char := cs.dropWhile isBlank

/-- Blanks dropped from both ends. -/
def trimChars (cs : List Char) : List Char :=
  (skipBlanks (skipBlanks cs).reverse).reverse

def trim (s : String) : String := String.ofList (trimChars s.toList)

theorem skipBlanks_append_blanks (blanks cs : List Char) (h : ∀ c ∈ blanks, isBlank c = true) :
    skipBlanks (blanks ++ cs) = skipBlanks cs := by
  induction blanks with
  | nil => rfl
  | cons b rest ih =>
    have hb : isBlank b = true := h b (List.mem_cons_self ..)
    have ih := ih fun c hc => h c (List.mem_cons_of_mem b hc)
    simpa [skipBlanks, hb] using ih

/-- Blanks in front of a text do not show in what `trimChars` leaves. -/
theorem trimChars_blanks_append (blanks cs : List Char) (h : ∀ c ∈ blanks, isBlank c = true) :
    trimChars (blanks ++ cs) = trimChars cs := by
  simp only [trimChars, skipBlanks_append_blanks blanks cs h]

end LogWeave.Text
