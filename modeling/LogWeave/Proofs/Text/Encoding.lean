import LogWeave.Text.Bytes
import Mathlib.Tactic.IntervalCases

/-! Text written as bytes and read back.

The first byte of a character tells how many follow, and what the second may be (`lead_one` to
`lead_four`); a character's bytes give the character, whatever stands behind them (`front_utf8`).
So the bytes of a text give the text (`decode_utf8`). -/
namespace LogWeave.Text

/-! ### First bytes -/

theorem lead_one {b : UInt8} (h : b.toNat < 0x80) : lead b = some (1, 0x80, 0xBF) := by
  have hb : b < 0x80 := UInt8.lt_iff_toNat_lt.2 h
  simp [lead, hb]

theorem lead_two {b : UInt8} (hlow : 0xC2 ≤ b.toNat) (hhigh : b.toNat ≤ 0xDF) :
    lead b = some (2, 0x80, 0xBF) := by
  rw [← UInt8.ofNat_toNat (x := b)]
  interval_cases b.toNat <;> rfl

/-- The second byte keeps clear of what two bytes can spell, and of the surrogates. -/
theorem lead_three {b : UInt8} (hlow : 0xE0 ≤ b.toNat) (hhigh : b.toNat ≤ 0xEF) :
    lead b = some (3, if b.toNat = 0xE0 then 0xA0 else 0x80,
      if b.toNat = 0xED then 0x9F else 0xBF) := by
  rw [← UInt8.ofNat_toNat (x := b)]
  interval_cases b.toNat <;> rfl

/-- The second byte keeps clear of what three bytes can spell, and of what no character is. -/
theorem lead_four {b : UInt8} (hlow : 0xF0 ≤ b.toNat) (hhigh : b.toNat ≤ 0xF4) :
    lead b = some (4, if b.toNat = 0xF0 then 0x90 else 0x80,
      if b.toNat = 0xF4 then 0x8F else 0xBF) := by
  rw [← UInt8.ofNat_toNat (x := b)]
  interval_cases b.toNat <;> rfl

/-! ### Tails -/

/-- A tail holds six bits. -/
def tailOf (n : Nat) : UInt8 := UInt8.ofNat (n % 64 + 128)

theorem toNat_tailOf (n : Nat) : (tailOf n).toNat = n % 64 + 128 := by
  rw [tailOf, UInt8.toNat_ofNat']
  omega

theorem tails_cons {n : Nat} {low high b : UInt8} {seen rest : Bytes} (hlow : low ≤ b)
    (hhigh : b ≤ high) :
    tails (n + 1) low high seen (b :: rest) = tails n 0x80 0xBF (seen ++ [b]) rest := by
  simp [tails, hlow, hhigh]

/-- Behind the second byte any tail will do. -/
theorem tails_tailOf (n m : Nat) (seen rest : Bytes) :
    tails (n + 1) 0x80 0xBF seen (tailOf m :: rest) =
      tails n 0x80 0xBF (seen ++ [tailOf m]) rest := by
  refine tails_cons (UInt8.le_iff_toNat_le.2 ?_) (UInt8.le_iff_toNat_le.2 ?_)
  · show 128 ≤ _
    rw [toNat_tailOf]
    omega
  · show _ ≤ 191
    rw [toNat_tailOf]
    omega

/-! ### Characters -/

theorem toNat_valid (c : Char) : c.toNat < 0xD800 ∨ 0xDFFF < c.toNat ∧ c.toNat < 0x110000 :=
  c.valid

theorem front_of_tails {b low high : UInt8} {size n : Nat} {ts rest : Bytes}
    (hlead : lead b = some (size, low, high)) (htails : tails (size - 1) low high [] rest = .ok ts)
    (hscalar : scalar size b ts = n) : front b rest = .char (Char.ofNat n) size := by
  simp only [front, hlead, htails, hscalar]

theorem front_two {n : Nat} (hlow : 0x80 ≤ n) (hhigh : n < 0x800) (rest : Bytes) :
    front (UInt8.ofNat (n / 64 % 32 + 192)) (tailOf n :: rest) = .char (Char.ofNat n) 2 := by
  have hb : (UInt8.ofNat (n / 64 % 32 + 192)).toNat = n / 64 + 192 := by
    rw [UInt8.toNat_ofNat']
    omega
  refine front_of_tails (lead_two (by omega) (by omega)) (tails_tailOf 0 n [] rest) ?_
  simp only [scalar, hb, toNat_tailOf, List.nil_append, List.foldl_cons, List.foldl_nil]
  norm_num
  omega

theorem front_three {n : Nat} (hlow : 0x800 ≤ n) (hhigh : n < 0x10000)
    (hvalid : n < 0xD800 ∨ 0xDFFF < n) (rest : Bytes) :
    front (UInt8.ofNat (n / 4096 % 16 + 224)) (tailOf (n / 64) :: tailOf n :: rest) =
      .char (Char.ofNat n) 3 := by
  have hb : (UInt8.ofNat (n / 4096 % 16 + 224)).toNat = n / 4096 + 224 := by
    rw [UInt8.toNat_ofNat']
    omega
  refine front_of_tails (lead_three (by omega) (by omega)) ((tails_cons ?_ ?_).trans
    (tails_tailOf 0 n _ rest)) ?_
  · rw [UInt8.le_iff_toNat_le, toNat_tailOf, hb]
    split
    · show 160 ≤ _
      omega
    · show 128 ≤ _
      omega
  · rw [UInt8.le_iff_toNat_le, toNat_tailOf, hb]
    split
    · show _ ≤ 159
      omega
    · show _ ≤ 191
      omega
  · simp only [scalar, hb, toNat_tailOf, List.nil_append, List.cons_append, List.foldl_cons,
      List.foldl_nil]
    norm_num
    omega

theorem front_four {n : Nat} (hlow : 0x10000 ≤ n) (hhigh : n < 0x110000) (rest : Bytes) :
    front (UInt8.ofNat (n / 262144 % 8 + 240))
        (tailOf (n / 4096) :: tailOf (n / 64) :: tailOf n :: rest) =
      .char (Char.ofNat n) 4 := by
  have hb : (UInt8.ofNat (n / 262144 % 8 + 240)).toNat = n / 262144 + 240 := by
    rw [UInt8.toNat_ofNat']
    omega
  refine front_of_tails (lead_four (by omega) (by omega)) (((tails_cons ?_ ?_).trans
    (tails_tailOf 1 _ _ _)).trans (tails_tailOf 0 n _ rest)) ?_
  · rw [UInt8.le_iff_toNat_le, toNat_tailOf, hb]
    split
    · show 144 ≤ _
      omega
    · show 128 ≤ _
      omega
  · rw [UInt8.le_iff_toNat_le, toNat_tailOf, hb]
    split
    · show _ ≤ 143
      omega
    · show _ ≤ 191
      omega
  · simp only [scalar, hb, toNat_tailOf, List.nil_append, List.cons_append, List.foldl_cons,
      List.foldl_nil]
    norm_num
    omega

theorem utf8EncodeChar_eq (c : Char) : String.utf8EncodeChar c =
    if c.toNat ≤ 0x7F then [UInt8.ofNat c.toNat]
    else if c.toNat ≤ 0x7FF then [UInt8.ofNat (c.toNat / 64 % 32 + 192), tailOf c.toNat]
    else if c.toNat ≤ 0xFFFF then
      [UInt8.ofNat (c.toNat / 4096 % 16 + 224), tailOf (c.toNat / 64), tailOf c.toNat]
    else
      [UInt8.ofNat (c.toNat / 262144 % 8 + 240), tailOf (c.toNat / 4096), tailOf (c.toNat / 64),
        tailOf c.toNat] := rfl

/-- **The bytes of a character give the character**, and no more than those are taken. -/
theorem front_utf8 (c : Char) : ∃ b ts, String.utf8EncodeChar c = b :: ts ∧
    ∀ rest, front b (ts ++ rest) = .char c (ts.length + 1) := by
  have hvalid := toNat_valid c
  rw [utf8EncodeChar_eq]
  -- The character is read off its number.
  suffices h : ∃ b ts, _ = b :: ts ∧
      ∀ rest, front b (ts ++ rest) = .char (Char.ofNat c.toNat) (ts.length + 1) by
    rwa [Char.ofNat_toNat] at h
  split_ifs with hone htwo hthree
  · have hb : (UInt8.ofNat c.toNat).toNat = c.toNat := by
      rw [UInt8.toNat_ofNat']
      omega
    exact ⟨_, [], rfl, fun rest => front_of_tails (lead_one (by omega)) rfl hb⟩
  · exact ⟨_, [_], rfl, fun rest => front_two (by omega) (by omega) rest⟩
  · exact ⟨_, [_, _], rfl, fun rest => front_three (by omega) (by omega) (by omega) rest⟩
  · exact ⟨_, [_, _, _], rfl, fun rest => front_four (by omega) (by omega) rest⟩

/-! ### Texts -/

theorem decodeFrom_skip (offset : Nat) (ts rest : Bytes) :
    decodeFrom offset ts.length (ts ++ rest) = decodeFrom (offset + ts.length) 0 rest := by
  induction ts generalizing offset with
  | nil => rfl
  | cons b ts ih =>
    show decodeFrom (offset + 1) ts.length (ts ++ rest) = _
    rw [ih, List.length_cons, Nat.add_assoc, Nat.add_comm 1]

theorem decodeFrom_utf8 (cs : List Char) (offset : Nat) :
    decodeFrom offset 0 (cs.flatMap String.utf8EncodeChar) = .ok cs := by
  induction cs generalizing offset with
  | nil => rfl
  | cons c cs ih =>
    obtain ⟨b, ts, hbytes, hfront⟩ := front_utf8 c
    rw [List.flatMap_cons, hbytes, List.cons_append, decodeFrom, hfront]
    show (decodeFrom (offset + 1) ts.length _).map _ = _
    rw [decodeFrom_skip, ih]
    rfl

/-- **The bytes of a text give the text.** -/
theorem decode_utf8 (s : String) : decode (utf8 s) = .ok s := by
  rw [decode, utf8, decodeFrom_utf8]
  exact congrArg Except.ok String.ofList_toList

end LogWeave.Text
