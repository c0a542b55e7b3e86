import LogWeave.Proofs.Text.Encoding
import Mathlib.Data.List.Basic

/-! Only the bytes of a text are read as one.

What stands at the front as a character is that character's bytes (`front_char`): no character is
spelt with more bytes than it needs, and none that is no character is spelt at all. So bytes are
decoded if and only if they are the bytes of a text, and to that text (`decode_eq_ok`). -/
namespace LogWeave.Text

/-! ### First bytes -/

/-- A byte that begins no character. -/
theorem lead_none {b : UInt8} (h : 0x80 ≤ b.toNat ∧ b.toNat < 0xC2 ∨ 0xF4 < b.toNat) :
    lead b = none := by
  have hb := b.toNat_lt
  rw [← UInt8.ofNat_toNat (x := b)]
  rcases h with ⟨hlow, hhigh⟩ | hlow
  · interval_cases b.toNat <;> rfl
  · interval_cases b.toNat <;> rfl

/-! ### Tails -/

/-- Bytes that can follow a first byte, the second within a range of its own. -/
def AreTails : (low high : UInt8) → Bytes → Prop
  | _, _, [] => True
  | low, high, b :: rest => low ≤ b ∧ b ≤ high ∧ AreTails 0x80 0xBF rest

theorem tails_eq_ok {n : Nat} {low high : UInt8} {seen bytes ts : Bytes}
    (h : tails n low high seen bytes = .ok ts) :
    ∃ more rest, bytes = more ++ rest ∧ ts = seen ++ more ∧ more.length = n ∧
      AreTails low high more := by
  induction n generalizing low high seen bytes with
  | zero =>
    cases h
    exact ⟨[], bytes, rfl, (List.append_nil _).symm, rfl, trivial⟩
  | succ n ih =>
    cases bytes with
    | nil => cases h
    | cons b bytes =>
      simp only [tails] at h
      split at h
      · rename_i hb
        simp only [Bool.and_eq_true, decide_eq_true_eq] at hb
        obtain ⟨more, rest, rfl, rfl, hlength, hmore⟩ := ih h
        exact ⟨b :: more, rest, rfl, by simp, by simp [hlength], hb.1, hb.2, hmore⟩
      · cases h

/-- Six bits are read off a tail, and they give the tail back. -/
theorem tailOf_eq {b : UInt8} {n : Nat} (hlow : 0x80 ≤ b.toNat) (hhigh : b.toNat ≤ 0xBF)
    (h : n % 64 = b.toNat % 64) : tailOf n = b := by
  refine UInt8.toNat_inj.1 ?_
  rw [toNat_tailOf]
  omega

/-! ### Characters -/

theorem toNat_ofNat {n : Nat} (h : n < 0xD800 ∨ 0xDFFF < n ∧ n < 0x110000) :
    (Char.ofNat n).toNat = n := by
  have hvalid : n.isValidChar := h
  rw [Char.ofNat, dif_pos hvalid]
  rfl

theorem ofNat_eq {b : UInt8} {n : Nat} (h : n = b.toNat) : UInt8.ofNat n = b := by
  rw [h, UInt8.ofNat_toNat]

theorem bounds_of_areTails {low high b : UInt8} {rest : Bytes}
    (h : AreTails low high (b :: rest)) : low.toNat ≤ b.toNat ∧ b.toNat ≤ high.toNat :=
  ⟨UInt8.le_iff_toNat_le.1 h.1, UInt8.le_iff_toNat_le.1 h.2.1⟩

theorem encode_one {b : UInt8} (hb : b.toNat < 0x80) :
    String.utf8EncodeChar (Char.ofNat (scalar 1 b [])) = [b] := by
  have hscalar : scalar 1 b [] = b.toNat := rfl
  rw [hscalar, utf8EncodeChar_eq, toNat_ofNat (by omega), if_pos (by omega), UInt8.ofNat_toNat]

theorem encode_two {b t : UInt8} (hlow : 0xC2 ≤ b.toNat) (hhigh : b.toNat ≤ 0xDF)
    (h : AreTails 0x80 0xBF [t]) :
    String.utf8EncodeChar (Char.ofNat (scalar 2 b [t])) = [b, t] := by
  obtain ⟨ht, ht'⟩ : 128 ≤ t.toNat ∧ t.toNat ≤ 191 := bounds_of_areTails h
  have hscalar : scalar 2 b [t] = (b.toNat - 192) * 64 + (t.toNat - 128) := by
    simp only [scalar, List.foldl_cons, List.foldl_nil]
    norm_num
    omega
  generalize scalar 2 b [t] = n at hscalar
  rw [utf8EncodeChar_eq, toNat_ofNat (by omega), if_neg (by omega), if_pos (by omega),
    ofNat_eq (b := b) (by omega), tailOf_eq ht ht' (by omega)]

theorem encode_three {b s t : UInt8} (hlow : 0xE0 ≤ b.toNat) (hhigh : b.toNat ≤ 0xEF)
    (h : AreTails (if b.toNat = 0xE0 then 0xA0 else 0x80) (if b.toNat = 0xED then 0x9F else 0xBF)
      [s, t]) :
    String.utf8EncodeChar (Char.ofNat (scalar 3 b [s, t])) = [b, s, t] := by
  obtain ⟨ht, ht'⟩ : 128 ≤ t.toNat ∧ t.toNat ≤ 191 := bounds_of_areTails h.2.2
  obtain ⟨hs, hs'⟩ := bounds_of_areTails h
  have hleast : 128 ≤ s.toNat ∧ (b.toNat = 224 → 160 ≤ s.toNat) := by
    split at hs <;> simp at hs <;> omega
  have hmost : s.toNat ≤ 191 ∧ (b.toNat = 237 → s.toNat ≤ 159) := by
    split at hs' <;> simp at hs' <;> omega
  have hscalar : scalar 3 b [s, t] =
      (b.toNat - 224) * 4096 + (s.toNat - 128) * 64 + (t.toNat - 128) := by
    simp only [scalar, List.foldl_cons, List.foldl_nil]
    norm_num
    omega
  generalize scalar 3 b [s, t] = n at hscalar
  rw [utf8EncodeChar_eq, toNat_ofNat (by omega), if_neg (by omega), if_neg (by omega),
    if_pos (by omega), ofNat_eq (b := b) (by omega), tailOf_eq hleast.1 hmost.1 (by omega),
    tailOf_eq ht ht' (by omega)]

theorem encode_four {b r s t : UInt8} (hlow : 0xF0 ≤ b.toNat) (hhigh : b.toNat ≤ 0xF4)
    (h : AreTails (if b.toNat = 0xF0 then 0x90 else 0x80) (if b.toNat = 0xF4 then 0x8F else 0xBF)
      [r, s, t]) :
    String.utf8EncodeChar (Char.ofNat (scalar 4 b [r, s, t])) = [b, r, s, t] := by
  obtain ⟨ht, ht'⟩ : 128 ≤ t.toNat ∧ t.toNat ≤ 191 := bounds_of_areTails h.2.2.2.2
  obtain ⟨hs, hs'⟩ : 128 ≤ s.toNat ∧ s.toNat ≤ 191 := bounds_of_areTails h.2.2
  obtain ⟨hr, hr'⟩ := bounds_of_areTails h
  have hleast : 128 ≤ r.toNat ∧ (b.toNat = 240 → 144 ≤ r.toNat) := by
    split at hr <;> simp at hr <;> omega
  have hmost : r.toNat ≤ 191 ∧ (b.toNat = 244 → r.toNat ≤ 143) := by
    split at hr' <;> simp at hr' <;> omega
  have hscalar : scalar 4 b [r, s, t] = (b.toNat - 240) * 262144 + (r.toNat - 128) * 4096 +
      (s.toNat - 128) * 64 + (t.toNat - 128) := by
    simp only [scalar, List.foldl_cons, List.foldl_nil]
    norm_num
    omega
  generalize scalar 4 b [r, s, t] = n at hscalar
  rw [utf8EncodeChar_eq, toNat_ofNat (by omega), if_neg (by omega), if_neg (by omega),
    if_neg (by omega), ofNat_eq (b := b) (by omega), tailOf_eq hleast.1 hmost.1 (by omega),
    tailOf_eq hs hs' (by omega), tailOf_eq ht ht' (by omega)]

/-- **What is read as a character are that character's bytes.** -/
theorem front_char {b : UInt8} {rest : Bytes} {c : Char} {size : Nat}
    (h : front b rest = .char c size) :
    ∃ ts more, rest = ts ++ more ∧ ts.length + 1 = size ∧ String.utf8EncodeChar c = b :: ts := by
  unfold front at h
  split at h
  · cases h
  · rename_i size low high hlead
    split at h
    · rename_i ts htails
      cases h
      obtain ⟨_, rest, rfl, rfl, hlength, hmore⟩ := tails_eq_ok htails
      refine ⟨ts, rest, rfl, ?_⟩
      -- The first byte says how many tails there are.
      rcases Nat.lt_or_ge b.toNat 0x80 with hone | hone
      · rw [lead_one hone] at hlead
        cases hlead
        obtain rfl := List.length_eq_zero_iff.1 hlength
        exact ⟨rfl, encode_one hone⟩
      by_cases htwo : 0xC2 ≤ b.toNat ∧ b.toNat ≤ 0xDF
      · rw [lead_two htwo.1 htwo.2] at hlead
        cases hlead
        obtain ⟨t, rfl⟩ := List.length_eq_one_iff.1 hlength
        exact ⟨rfl, encode_two htwo.1 htwo.2 hmore⟩
      by_cases hthree : 0xE0 ≤ b.toNat ∧ b.toNat ≤ 0xEF
      · rw [lead_three hthree.1 hthree.2] at hlead
        cases hlead
        obtain ⟨s, t, rfl⟩ := List.length_eq_two.1 hlength
        exact ⟨rfl, encode_three hthree.1 hthree.2 hmore⟩
      by_cases hfour : 0xF0 ≤ b.toNat ∧ b.toNat ≤ 0xF4
      · rw [lead_four hfour.1 hfour.2] at hlead
        cases hlead
        obtain ⟨r, s, t, rfl⟩ := List.length_eq_three.1 hlength
        exact ⟨rfl, encode_four hfour.1 hfour.2 hmore⟩
      rw [lead_none (by omega)] at hlead
      cases hlead
    · cases h
    · cases h

/-! ### Texts -/

theorem decodeFrom_eq_ok {bytes : Bytes} {offset : Nat} {cs : List Char}
    (h : decodeFrom offset 0 bytes = .ok cs) : bytes = cs.flatMap String.utf8EncodeChar := by
  match bytes with
  | [] =>
    cases h
    rfl
  | b :: rest =>
    rw [decodeFrom] at h
    split at h
    · rename_i c size hfront
      obtain ⟨ts, more, rfl, hsize, hbytes⟩ := front_char hfront
      rw [← hsize, Nat.add_sub_cancel, decodeFrom_skip] at h
      cases hmore : decodeFrom (offset + 1 + ts.length) 0 more with
      | error fault => rw [hmore] at h; cases h
      | ok later =>
        rw [hmore] at h
        cases h
        rw [List.flatMap_cons, hbytes, ← decodeFrom_eq_ok hmore]
        rfl
    · cases h
    · cases h
termination_by bytes.length

/-- **Bytes are read as a text if and only if they are the bytes of that text.** -/
theorem decode_eq_ok {bytes : Bytes} {s : String} : decode bytes = .ok s ↔ bytes = utf8 s := by
  refine ⟨fun h => ?_, fun h => h ▸ decode_utf8 s⟩
  rw [decode] at h
  cases hbytes : decodeFrom 0 0 bytes with
  | error fault => rw [hbytes] at h; cases h
  | ok cs =>
    rw [hbytes] at h
    cases h
    rw [utf8, String.toList_ofList]
    exact decodeFrom_eq_ok hbytes

theorem utf8_push (s : String) {c : Char} (h : c.toNat < 0x80) :
    utf8 (s.push c) = utf8 s ++ [UInt8.ofNat c.toNat] := by
  rw [utf8, String.toList_push, List.flatMap_append, List.flatMap_singleton, utf8EncodeChar_eq,
    if_pos (by omega), utf8]

/-- The last byte of a character is small only if the character is. -/
theorem encode_eq_concat {c : Char} {bytes : Bytes} {b : UInt8} (hb : b.toNat < 0x80)
    (h : String.utf8EncodeChar c = bytes ++ [b]) : bytes = [] ∧ c.toNat = b.toNat := by
  have hlast := congrArg List.getLast? h
  rw [List.getLast?_concat, utf8EncodeChar_eq] at hlast
  have htail : some (tailOf c.toNat) ≠ some b := by
    intro heq
    rw [← Option.some.inj heq, toNat_tailOf] at hb
    omega
  rw [utf8EncodeChar_eq] at h
  split_ifs at h hlast with hone
  · cases bytes with
    | nil =>
      refine ⟨rfl, ?_⟩
      rw [← (List.cons.inj h).1, UInt8.toNat_ofNat']
      omega
    | cons _ rest => simp at h
  all_goals exact absurd hlast htail

/-- A text whose bytes end in a small one ends in that character. -/
theorem utf8_eq_concat {s : String} {bytes : Bytes} {c : Char} (hc : c.toNat < 0x80)
    (h : utf8 s = bytes ++ [UInt8.ofNat c.toNat]) :
    ∃ t, s = t.push c ∧ bytes = utf8 t := by
  have hbyte : (UInt8.ofNat c.toNat).toNat = c.toNat := by
    rw [UInt8.toNat_ofNat']
    omega
  rcases List.eq_nil_or_concat s.toList with hnil | ⟨front, d, hs⟩
  · rw [utf8, hnil] at h
    simp at h
  · rw [List.concat_eq_append] at hs
    rw [utf8, hs, List.flatMap_append, List.flatMap_singleton] at h
    obtain ⟨b, ts, hd, -⟩ := front_utf8 d
    obtain ⟨ds, last, hlast⟩ := List.eq_nil_or_concat (String.utf8EncodeChar d) |>.resolve_left
      (by simp [hd])
    rw [hlast, List.concat_eq_append, ← List.append_assoc] at h
    obtain ⟨hbytes, hsmall⟩ := List.append_inj' h rfl
    rw [(List.cons.inj hsmall).1, List.concat_eq_append] at hlast
    obtain ⟨rfl, hnumber⟩ := encode_eq_concat (by omega) hlast
    have hdc : d = c := by rw [← Char.ofNat_toNat d, hnumber, hbyte, Char.ofNat_toNat]
    refine ⟨String.ofList front, ?_, ?_⟩
    · rw [← String.toList_inj, hs, hdc]
      simp
    · rw [← hbytes, List.append_nil, utf8, String.toList_ofList]

end LogWeave.Text
