import LogWeave.Proofs.Text.Encoding
import Mathlib.Algebra.Order.Ring.Nat

/-! Texts in the order of their bytes.

UTF-8 keeps the order of the characters: the first byte does not fall as the number of the character
rises (`leadOf_mono`), and where it stays the tails tell the numbers apart (`tailsOf_lt`). So of two
texts the smaller has the smaller bytes (`utf8_le_utf8`). -/
namespace LogWeave.Text

/-! ### Bytes one by one -/

/-- What comes first decides, unless it is the same. -/
theorem cons_lt_cons_of_le {b d : UInt8} {xs ys : Bytes} (hle : b.toNat ≤ d.toNat)
    (h : b.toNat = d.toNat → xs < ys) : b :: xs < d :: ys := by
  refine List.cons_lt_cons_iff.2 ?_
  rcases hle.lt_or_eq with hlt | heq
  · exact .inl (UInt8.lt_iff_toNat_lt.2 hlt)
  · exact .inr ⟨UInt8.toNat_inj.1 heq, h heq⟩

/-- The last tails of a number, six bits each. -/
def tailsOf : (count : Nat) → Nat → Bytes
  | 0, _ => []
  | k + 1, n => tailOf (n / 64 ^ k) :: tailsOf k n

/-- Tails tell numbers apart that are the same in front of them. -/
theorem tailsOf_lt {k n m : Nat} (h : n < m) (hfront : n / 64 ^ k = m / 64 ^ k) (xs ys : Bytes) :
    tailsOf k n ++ xs < tailsOf k m ++ ys := by
  induction k with
  | zero =>
    rw [pow_zero, Nat.div_one, Nat.div_one] at hfront
    exact absurd hfront h.ne
  | succ k ih =>
    rw [pow_succ, ← Nat.div_div_eq_div_mul, ← Nat.div_div_eq_div_mul] at hfront
    have hle : n / 64 ^ k ≤ m / 64 ^ k := Nat.div_le_div_right h.le
    refine cons_lt_cons_of_le ?_ fun heq => ih ?_
    · rw [toNat_tailOf, toNat_tailOf]
      omega
    · rw [toNat_tailOf, toNat_tailOf] at heq
      omega

/-! ### Characters -/

/-- How many tails a character has. -/
def tailCount (n : Nat) : Nat :=
  if n ≤ 0x7F then 0 else if n ≤ 0x7FF then 1 else if n ≤ 0xFFFF then 2 else 3

/-- The first byte of a character. -/
def leadOf (n : Nat) : Nat :=
  if n ≤ 0x7F then n else if n ≤ 0x7FF then n / 64 + 192
  else if n ≤ 0xFFFF then n / 4096 + 224 else n / 262144 + 240

theorem encode_eq (c : Char) : String.utf8EncodeChar c =
    UInt8.ofNat (leadOf c.toNat) :: tailsOf (tailCount c.toNat) c.toNat := by
  have hvalid := toNat_valid c
  rw [utf8EncodeChar_eq, leadOf, tailCount]
  split_ifs
  · rfl
  · rw [Nat.mod_eq_of_lt (by omega)]
    simp [tailsOf]
  · rw [Nat.mod_eq_of_lt (by omega)]
    simp [tailsOf]
  · rw [Nat.mod_eq_of_lt (by omega)]
    simp [tailsOf]

variable {n m : Nat}

theorem leadOf_lt (h : n < 0x110000) : leadOf n < 256 := by
  unfold leadOf
  split_ifs <;> omega

theorem leadOf_mono (h : n ≤ m) (hm : m < 0x110000) : leadOf n ≤ leadOf m := by
  unfold leadOf
  split_ifs <;> omega

/-- The first byte tells how many tails follow, and what stands in front of them. -/
theorem of_leadOf_eq (hn : n < 0x110000) (hm : m < 0x110000) (h : leadOf n = leadOf m) :
    tailCount n = tailCount m ∧ n / 64 ^ tailCount m = m / 64 ^ tailCount m := by
  unfold leadOf at h
  unfold tailCount
  split_ifs at h ⊢ <;> norm_num <;> omega

/-- The smaller character has the smaller bytes, whatever stands behind them. -/
theorem encode_lt {c d : Char} (h : c < d) (xs ys : Bytes) :
    String.utf8EncodeChar c ++ xs < String.utf8EncodeChar d ++ ys := by
  have hlt : c.toNat < d.toNat := h
  have hd : d.toNat < 0x110000 := by
    have hvalid := toNat_valid d
    omega
  have hc : c.toNat < 0x110000 := hlt.trans hd
  have hlead {k : Nat} (hk : k < 0x110000) : (UInt8.ofNat (leadOf k)).toNat = leadOf k := by
    rw [UInt8.toNat_ofNat', Nat.mod_eq_of_lt (leadOf_lt hk)]
  rw [encode_eq, encode_eq, List.cons_append, List.cons_append]
  refine cons_lt_cons_of_le ?_ fun heq => ?_
  · rw [hlead hc, hlead hd]
    exact leadOf_mono hlt.le hd
  · rw [hlead hc, hlead hd] at heq
    obtain ⟨hcount, hfront⟩ := of_leadOf_eq hc hd heq
    rw [hcount]
    exact tailsOf_lt hlt hfront xs ys

/-! ### Texts -/

theorem flatMap_encode_lt {cs ds : List Char} (h : cs < ds) :
    cs.flatMap String.utf8EncodeChar < ds.flatMap String.utf8EncodeChar := by
  induction h with
  | nil =>
    rw [List.flatMap_cons, encode_eq]
    exact List.Lex.nil
  | rel h =>
    rw [List.flatMap_cons, List.flatMap_cons]
    exact encode_lt h _ _
  | cons _ ih =>
    rw [List.flatMap_cons, List.flatMap_cons]
    exact List.append_left_lt ih

theorem utf8_lt_of_lt {a b : String} (h : a < b) : utf8 a < utf8 b := flatMap_encode_lt h

/-- **Texts are in the order of their bytes.** -/
theorem utf8_le_utf8 {a b : String} : utf8 a ≤ utf8 b ↔ a ≤ b := by
  constructor
  · intro h
    by_contra hab
    exact h (utf8_lt_of_lt (String.not_le.1 hab))
  · intro h hba
    have hab : a < b := by
      refine String.not_le.1 fun hle => ?_
      rw [String.le_antisymm h hle] at hba
      exact List.lt_irrefl _ hba
    exact List.lt_asymm (utf8_lt_of_lt hab) hba

end LogWeave.Text
