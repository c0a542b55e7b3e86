import LogWeave.Proofs.Json.Order
import LogWeave.Proofs.Json.Parts

/-! Documents, written and read back.

A value that `Fits` is read back from any plain layout of it, with the members of its objects in
the order of their names (`Takes.value`); a record is read back from an object of its members
(`Record.takes_reader`). -/
namespace LogWeave.Json

open Reader

/-! ### Values -/

namespace Value

/-- Whole numbers have 64 bits, the keys of an object differ, and lists and objects stand within
each other to a depth. -/
inductive Fits : (depth : Nat) → Value → Prop
  | null {depth} : Fits depth .null
  | bool {depth} (b : Bool) : Fits depth (.bool b)
  | whole {depth} {n : Int} (h : Fits64 n) : Fits depth (.whole n)
  | text {depth} (s : String) : Fits depth (.text s)
  | list {depth} {vs : List Value} (h : ∀ v ∈ vs, Fits depth v) : Fits (depth + 1) (.list vs)
  | object {depth} {ms : List (String × Value)} (hkeys : (ms.map Prod.fst).Nodup)
      (h : ∀ m ∈ ms, Fits depth m.2) : Fits (depth + 1) (.object ms)

end Value

namespace Printer

/-- Blanks between the parts, and a colon. -/
structure Layout.Plain (l : Layout) : Prop where
  newline : ∀ depth, Blank (l.newline depth)
  colon : ∃ bs, l.colon = ':' :: bs ∧ Blank bs

theorem compact_plain : compact.Plain where
  newline _ := Reader.Blank.nil
  colon := ⟨[], rfl, Reader.Blank.nil⟩

theorem spread_plain : spread.Plain where
  newline depth c hc := by
    rcases List.mem_cons.1 hc with rfl | hc
    · rfl
    · rw [List.eq_of_mem_replicate hc]
      rfl
  colon := ⟨[' '], rfl, by simp [Blank, Cursor.isBlank]⟩

theorem items_eq_map (l : Layout) (depth : Nat) (vs : List Value) :
    items l depth vs = vs.map (value l depth) := by
  induction vs with
  | nil => rfl
  | cons v vs ih => rw [items, ih, List.map_cons]

theorem members_eq_map (l : Layout) (depth : Nat) (ms : List (String × Value)) :
    members l depth ms = ms.map (Reads.member fun m => l.colon ++ value l depth m.2) := by
  induction ms with
  | nil => rfl
  | cons m ms ih => rw [members, ih, List.map_cons, Reads.member, List.append_assoc]

theorem number_eq_cons (n : Int) : ∃ c cs, number (.whole n) = c :: cs ∧
    (c = '-' || c.isDigit) = true := by
  cases n with
  | ofNat n =>
    obtain ⟨first, ds, hn, hall⟩ := toDigits_eq_cons n
    exact ⟨first, ds, (number_ofNat n).trans hn, by simp [hall first List.mem_cons_self]⟩
  | negSucc n => exact ⟨'-', _, number_negSucc n, rfl⟩

end Printer

/-- No blank and no bracket begins a number. -/
theorem solid_of_number {c : Char} (h : (c = '-' || c.isDigit) = true) :
    Cursor.isBlank c = false ∧ c ≠ '[' ∧ c ≠ ']' ∧ c ≠ '\x7b' := by
  refine ⟨?_, ?_, ?_, ?_⟩
  · by_contra hblank
    simp only [Cursor.isBlank, Bool.not_eq_false, Bool.or_eq_true, beq_iff_eq] at hblank
    rcases hblank with ((rfl | rfl) | rfl) | rfl <;> exact absurd h (by decide)
  · rintro rfl
    exact absurd h (by decide)
  · rintro rfl
    exact absurd h (by decide)
  · rintro rfl
    exact absurd h (by decide)

/-- A value begins with no blank and no closing bracket. -/
theorem begins_value (l : Printer.Layout) (depth : Nat) {most : Nat} {v : Value}
    (h : v.Fits most) : Begins (Printer.value l depth v) := by
  cases h with
  | null => exact ⟨_, _, rfl, rfl, by decide⟩
  | bool b => cases b <;> exact ⟨_, _, rfl, rfl, by decide⟩
  | @whole _ n _ =>
    obtain ⟨c, cs, hn, hc⟩ := Printer.number_eq_cons n
    exact ⟨c, cs, hn, (solid_of_number hc).1, (solid_of_number hc).2.2.1⟩
  | text s => exact ⟨_, _, rfl, rfl, by decide⟩
  | list h => exact ⟨_, _, Printer.enclose_eq .., rfl, by decide⟩
  | object hkeys h => exact ⟨_, _, Printer.enclose_eq .., rfl, by decide⟩

namespace Reader

variable {α β : Type} {l : Printer.Layout}

theorem Takes.scalar {v : Value} {c : Char} {cs : List Char} (hblank : Cursor.isBlank c = false)
    (hlist : c ≠ '[') (hobject : c ≠ '\x7b')
    (h : ∀ rest, Ends rest → Reads (value.scalar c) (c :: cs) v rest) (most : Nat) :
    Takes (Json.value most) (c :: cs) v := by
  cases most with
  | zero =>
    refine .solid hblank fun rest hrest => ?_
    have hopen : (c = '[' || c = '\x7b') = false := by simp [hlist, hobject]
    rw [hopen]
    exact h rest hrest
  | succ most =>
    refine .solid hblank fun rest hrest => ?_
    split
    · exact absurd rfl hlist
    · exact absurd rfl hobject
    · exact h rest hrest

/-- What stands behind a key. -/
theorem Reads.colon_value (hl : l.Plain) {p : Reader α} {text rest : List Char} {a : α}
    (h : Takes p text a) (hrest : Ends rest) (f : α → β) :
    Reads (Reader.colon >>= fun _ => p >>= fun a => Pure.pure (f a)) (l.colon ++ text) (f a)
      rest := by
  obtain ⟨bs, hcolon, hb⟩ := hl.colon
  rw [hcolon]
  exact (Reads.colon Blank.nil _).bind ((h hb hrest).bind_pure f)

/-- What stands within the brackets of an object. -/
theorem Reads.members (hl : l.Plain) {depth : Nat} {ms : List (String × Value)}
    {body : Nat → Reader α} {a : α} {rest : List Char}
    (h : ∀ gap last most, Blank gap → Blank last → ms.length < most →
      Reads (body most) (Printer.within gap last (ms.map
        (member fun m => l.colon ++ Printer.value l (depth + 1) m.2))) a ('\x7d' :: rest)) :
    Reads (Reader.bracketed closeObject body) (Printer.value l depth (.object ms)) a rest := by
  show Reads _ (Printer.enclose l depth '\x7b' '\x7d' (Printer.members l (depth + 1) ms)) _ _
  rw [Printer.enclose_eq, Printer.members_eq_map]
  refine bracketed closes_object fun most hmost => ?_
  refine h _ _ most (hl.newline _) (hl.newline _) (Nat.lt_of_le_of_lt ?_ hmost)
  have hparts : ∀ part ∈ ms.map (member fun m => l.colon ++ Printer.value l (depth + 1) m.2),
      part ≠ [] := List.forall_mem_map.2 fun m _ => List.cons_ne_nil '"' _
  have hlength := Printer.length_within hparts (l.newline (depth + 1)) (l.newline depth)
  rwa [List.length_map] at hlength

/-- What begins with the bracket of an object. -/
theorem Takes.solid_object {read : Char → Reader α} {depth : Nat} {ms : List (String × Value)}
    {a : α} (h : ∀ rest, Reads (read '\x7b') (Printer.value l depth (.object ms)) a rest) :
    Takes (Scalar.solid read) (Printer.value l depth (.object ms)) a := by
  have hspelt : Printer.value l depth (.object ms) = '\x7b' :: _ := Printer.enclose_eq ..
  rw [hspelt] at h ⊢
  exact .solid rfl fun rest _ => h rest

/-- **A value is read back as it was written.** -/
theorem Takes.value (hl : l.Plain) {most : Nat} {v : Value} (h : v.Fits most) (depth : Nat) :
    Takes (Json.value most) (Printer.value l depth v) v.ordered := by
  induction h generalizing depth with
  | null =>
    show Takes _ ('n' :: ['u', 'l', 'l']) Value.null
    refine .scalar rfl (by decide) (by decide) (fun rest _ => ?_) _
    exact (Reads.scalar_word "null" rfl rest).bind_pure fun _ => Value.null
  | bool b =>
    cases b with
    | false =>
      show Takes _ ('f' :: ['a', 'l', 's', 'e']) (Value.bool false)
      refine .scalar rfl (by decide) (by decide) (fun rest _ => ?_) _
      exact (Reads.scalar_word "false" rfl rest).bind_pure fun _ => Value.bool false
    | true =>
      show Takes _ ('t' :: ['r', 'u', 'e']) (Value.bool true)
      refine .scalar rfl (by decide) (by decide) (fun rest _ => ?_) _
      exact (Reads.scalar_word "true" rfl rest).bind_pure fun _ => Value.bool true
  | @whole most n hn =>
    obtain ⟨c, cs, hspelt, hc⟩ := Printer.number_eq_cons n
    obtain ⟨hblank, hlist, -, hobject⟩ := solid_of_number hc
    show Takes _ (Printer.number (.whole n)) (Value.number (.whole n))
    rw [hspelt]
    refine .scalar hblank hlist hobject (fun rest hrest => ?_) _
    rw [scalar_number hc, ← hspelt]
    exact (Reads.number hn hrest).bind_pure Value.number
  | text s =>
    show Takes _ ('"' :: (s.toList.flatMap Printer.escapeChar ++ ['"'])) (Value.text s)
    refine .scalar rfl (by decide) (by decide) (fun rest _ => ?_) _
    exact (Reads.body s rest).bind_pure Value.text
  | @list most vs h ih =>
    show Takes _ (Printer.enclose l depth '[' ']' (Printer.items l (depth + 1) vs))
      (Value.list (Value.orderedItems vs))
    rw [Printer.enclose_eq, Printer.items_eq_map, Value.orderedItems_eq_map]
    refine .solid rfl fun rest _ => (Reads.bracketed Reads.closes_list ?_).map Value.list
    intro bound hbound
    have hbegins : ∀ v ∈ vs, Begins (Printer.value l (depth + 1) v) :=
      fun v hv => begins_value l _ (h v hv)
    have hparts : ∀ part ∈ vs.map (Printer.value l (depth + 1)), part ≠ [] :=
      List.forall_mem_map.2 fun v hv => (hbegins v hv).ne_nil
    have hlength := Printer.length_within hparts (l.newline (depth + 1)) (l.newline depth)
    rw [List.length_map] at hlength
    exact Reads.elements (hl.newline _) (hl.newline _) hbegins
      (fun v hv => ih v hv (depth + 1)) (Nat.lt_of_le_of_lt hlength hbound) rest
  | @object most ms hkeys h ih =>
    show Takes _ (Printer.value l depth (.object ms))
      (Value.object (Value.sorted (Value.orderedMembers ms)))
    have hkeys' : ((Value.orderedMembers ms).map Prod.fst).Nodup := by
      rwa [Value.orderedMembers_eq_map, List.map_map]
    rw [← Value.foldl_put hkeys', Value.orderedMembers_eq_map, List.foldl_map]
    refine .solid_object fun rest => (Reads.members hl ?_).map Value.object
    intro gap last bound hgap hlast hbound
    refine Reads.foldMembers hgap hlast ?_ hbound rest
    rintro before m after rfl rest hrest
    exact Reads.colon_value hl (ih m (by simp) (depth + 1)) hrest fun v => Value.put m.1 v _

end Reader

/-! ### Whole numbers -/

/-- A whole number within bounds is read where one is expected. -/
theorem Reader.Takes.integer {least most n : Int} (hn : Fits64 n) (hbounds : least ≤ n ∧ n ≤ most)
    (expected : String) :
    Takes (Scalar.integer least most expected) (Printer.number (.whole n)) n := by
  obtain ⟨c, cs, hspelt, hc⟩ := Printer.number_eq_cons n
  rw [hspelt]
  refine .solid (solid_of_number hc).1 fun rest hrest => ?_
  rw [if_pos hc, ← hspelt]
  refine (Reads.number hn hrest).bind_nil ?_
  show Reads (if least ≤ n ∧ n ≤ most then _ else _) _ _ _
  rw [if_pos hbounds]
  exact .pure n rest

/-- A whole number is not the word for nothing. -/
theorem Reader.Takes.optional_number {α : Type} {p : Reader α} {n : Int} {a : α}
    (h : Takes p (Printer.number (.whole n)) a) :
    Takes (Scalar.optional p) (Printer.number (.whole n)) (some a) := by
  obtain ⟨c, cs, hspelt, hc⟩ := Printer.number_eq_cons n
  rw [hspelt] at h ⊢
  refine h.optional (solid_of_number hc).1 ?_
  rintro rfl
  exact absurd hc (by decide)

/-! ### Records -/

namespace Record

variable {ρ : Type}

/-- What is kept of a member. -/
def Draft.keep (d : Draft ρ) (m : String × Value × (ρ → ρ)) : Draft ρ :=
  ⟨m.1 :: d.seen, m.2.2 d.value⟩

theorem Draft.foldl_keep (ms : List (String × Value × (ρ → ρ))) (d : Draft ρ) :
    ms.foldl Draft.keep d =
      ⟨(ms.map Prod.fst).reverse ++ d.seen, ms.foldl (fun x m => m.2.2 x) d.value⟩ := by
  induction ms generalizing d with
  | nil => rfl
  | cons m ms ih => simp [ih, Draft.keep]

/-- **A record is read back from an object of its members**, in any order, if each of them is. A
member comes with what is kept of it. -/
theorem takes_reader {r : Record ρ} (ms : List (String × Value × (ρ → ρ)))
    {l : Printer.Layout} (hl : l.Plain) {depth : Nat} (hkeys : (ms.map Prod.fst).Nodup)
    (hfields : ∀ m ∈ ms, ∃ field, r.fields.find? (·.name == m.1) = some field ∧
      ∀ x, Takes (field.read x) (Printer.value l (depth + 1) m.2.1) (m.2.2 x))
    (hneeded : ∀ field ∈ r.fields, field.needed = true → field.name ∈ ms.map Prod.fst) :
    Takes r.reader (Printer.value l depth (.object (ms.map fun m => (m.1, m.2.1))))
      (ms.foldl (fun x m => m.2.2 x) r.blank) := by
  refine .settle (.solid_object fun rest => Reads.members hl ?_)
  intro gap last most hgap hlast hmost
  rw [List.length_map] at hmost
  rw [List.map_map]
  have hfollows : Reads.Follows r.readMember Draft.keep
      (fun m => l.colon ++ Printer.value l (depth + 1) m.2.1) ⟨[], r.blank⟩ ms := by
    rintro before m after rfl rest hrest
    obtain ⟨field, hfind, hread⟩ := hfields m (by simp)
    have hfresh : m.1 ∉ before.map Prod.fst := by
      intro hmem
      rw [List.map_append, List.map_cons] at hkeys
      exact (List.nodup_append.1 hkeys).2.2 _ hmem _ List.mem_cons_self rfl
    rw [Draft.foldl_keep, List.append_nil]
    unfold readMember
    rw [hfind]
    show Reads (if _ then _ else _) _ _ _
    rw [if_neg (by simpa using hfresh)]
    exact Reads.colon_value hl (hread _) hrest fun x => Draft.mk (m.1 :: _) x
  refine (Reads.foldMembers hgap hlast hfollows hmost rest).bind_nil ?_
  rw [Draft.foldl_keep, List.append_nil]
  have habsent : r.absent? ⟨(ms.map Prod.fst).reverse,
      ms.foldl (fun x m => m.2.2 x) r.blank⟩ = none := by
    refine List.find?_eq_none.2 fun field hfield => ?_
    simp only [Bool.and_eq_true, Bool.not_eq_true', not_and, Bool.not_eq_false,
      List.contains_reverse, List.contains_iff_mem]
    exact hneeded field hfield
  rw [habsent]
  exact Reads.pure _ _

/-- A field is found by its name. -/
theorem find?_name {fields : List (Field ρ)} (hnames : (fields.map Field.name).Nodup)
    {field : Field ρ} (hmem : field ∈ fields) :
    fields.find? (·.name == field.name) = some field := by
  induction fields with
  | nil => cases hmem
  | cons first rest ih =>
    obtain ⟨hfresh, hrest⟩ := List.nodup_cons.1 hnames
    rcases List.mem_cons.1 hmem with rfl | hmem
    · simp
    · have hne : first.name ≠ field.name := by
        intro heq
        exact hfresh (heq ▸ List.mem_map_of_mem hmem)
      simpa [hne] using ih hrest hmem

/-- **A record is read back from an object of all its fields**, if each of them is. -/
theorem takes_fields {r : Record ρ} (ms : List (Value × (ρ → ρ)))
    (hnames : (r.fields.map Field.name).Nodup) {l : Printer.Layout} (hl : l.Plain) {depth : Nat}
    (h : List.Forall₂ (fun field m =>
      ∀ x, Takes (field.read x) (Printer.value l (depth + 1) m.1) (m.2 x)) r.fields ms) :
    Takes r.reader
      (Printer.value l depth (.object ((r.fields.map Field.name).zip (ms.map Prod.fst))))
      (ms.foldl (fun x m => m.2 x) r.blank) := by
  obtain ⟨hlength, hzip⟩ := List.forall₂_iff_zip.1 h
  let members := (r.fields.zip ms).map fun p => (p.1.name, p.2)
  have hfst : members.map Prod.fst = r.fields.map Field.name := by
    calc members.map Prod.fst
        = ((r.fields.zip ms).map Prod.fst).map Field.name := by
          rw [List.map_map, List.map_map]
          rfl
      _ = r.fields.map Field.name := by rw [List.map_fst_zip hlength.le]
  have hobject : (members.map fun m => (m.1, m.2.1)) =
      (r.fields.map Field.name).zip (ms.map Prod.fst) := by
    rw [List.zip_map, List.map_map]
    rfl
  have hfold : members.foldl (fun x m => m.2.2 x) r.blank =
      ms.foldl (fun x m => m.2 x) r.blank := by
    calc members.foldl (fun x m => m.2.2 x) r.blank
        = ((r.fields.zip ms).map Prod.snd).foldl (fun x m => m.2 x) r.blank := by
          rw [List.foldl_map, List.foldl_map]
      _ = ms.foldl (fun x m => m.2 x) r.blank := by rw [List.map_snd_zip hlength.ge]
  rw [← hobject, ← hfold]
  refine takes_reader members hl (hfst ▸ hnames) ?_ fun field hfield _ => ?_
  · refine List.forall_mem_map.2 fun p hp => ?_
    exact ⟨p.1, find?_name hnames (List.of_mem_zip hp).1, hzip hp⟩
  · rw [hfst]
    exact List.mem_map_of_mem hfield

end Record

end LogWeave.Json
