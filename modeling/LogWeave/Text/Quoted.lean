import LogWeave.Text.Hidden

/-! Text quoted for a diagnostic.

A quoted text stands between double quotes; quotes and backslashes in it are escaped, the common
controls have short escapes, and a character that would not show is written by its code point. A
text of plain characters reads the same inside its quotes (`escape_plain`). -/
namespace LogWeave.Text

/-- The code point of a character in hexadecimal, between braces. -/
def codePoint (c : Char) : List Char :=
  ['\\', 'u', '\x7b'] ++ Nat.toDigits 16 c.toNat ++ ['\x7d']

def escapeChar (c : Char) : List Char :=
  match c with
  | '\x00' => ['\\', '0']
  | '\t' => ['\\', 't']
  | '\n' => ['\\', 'n']
  | '\r' => ['\\', 'r']
  | '"' => ['\\', '"']
  | '\\' => ['\\', '\\']
  | _ => if isHidden c then codePoint c else [c]

def escape (cs : List Char) : List Char := cs.flatMap escapeChar

def quoted (s : String) : String := String.ofList ('"' :: escape s.toList ++ ['"'])

/-- Nothing to escape: the character shows and is neither a quote nor a backslash. -/
def isPlain (c : Char) : Bool := c != '"' && c != '\\' && !isHidden c

theorem escapeChar_plain (c : Char) (h : isPlain c = true) : escapeChar c = [c] := by
  simp only [isPlain, Bool.and_eq_true, bne_iff_ne, Bool.not_eq_true'] at h
  obtain ⟨⟨hq, hb⟩, hh⟩ := h
  unfold escapeChar
  split <;> first | contradiction | (exact absurd hh (by decide)) | simp [hh]

/-- A text of plain characters is its own escaped form. -/
theorem escape_plain (cs : List Char) (h : ∀ c ∈ cs, isPlain c = true) : escape cs = cs := by
  induction cs with
  | nil => rfl
  | cons c rest ih =>
    have hc := escapeChar_plain c (h c (List.mem_cons_self ..))
    have ih := ih fun d hd => h d (List.mem_cons_of_mem c hd)
    simp [escape, hc] at ih ⊢
    exact ih

end LogWeave.Text
