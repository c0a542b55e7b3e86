import LogWeave.Proofs.Line.Writing
import LogWeave.Proofs.Run.Notices
import LogWeave.Proofs.Run.Order

/-! Batches are put in the only stable order of their times.

What becomes of a line is told without its reader (`Arrival.Reading`), and so is the order of a
batch: times never go back and lines of one time stay as they came (`Arranges`). A batch has one
such order, and its lines are printed in it, each as it reads (`collate_stable`). So the lines of a
source are in the order they would have without the others, and a leap second stands between the
seconds around it. -/
namespace LogWeave

namespace Stamp

/-- Where a line is divided: at its first space. -/
theorem split?_eq_some {cs stamp message : List Char} :
    split? cs = some (stamp, message) ↔ cs = stamp ++ ' ' :: message ∧ ' ' ∉ stamp := by
  refine ⟨fun h => ?_, fun ⟨hcs, hstamp⟩ => ?_⟩
  · rw [split?] at h
    split at h
    · cases h
    · rename_i blank rest hrest
      cases h
      obtain rfl : blank = ' ' := by
        have hhead := List.head?_dropWhile_not (· != ' ') cs
        simpa [hrest] using hhead
      refine ⟨?_, fun hmem => ?_⟩
      · rw [← hrest, List.takeWhile_append_dropWhile]
      · simpa using List.mem_takeWhile_imp hmem
  · rw [hcs]
    exact split?_append stamp message fun c hc hblank => hstamp (hblank ▸ hc)

/-- A line has a message and a time where a stamp can be read in front of its first space. -/
theorem readLine_eq_ok {line message : String} {t : Time.Instant} :
    readLine line = .ok (message, t) ↔
      ∃ stamp, line = stamp ++ " " ++ message ∧ ' ' ∉ stamp.toList ∧ read stamp = .ok t := by
  constructor
  · intro h
    rw [readLine] at h
    split at h
    · cases h
    · rename_i stamp rest hsplit
      obtain ⟨hline, hstamp⟩ := split?_eq_some.1 hsplit
      cases hread : read (String.ofList stamp) with
      | error why => rw [hread] at h; cases h
      | ok s =>
        rw [hread] at h
        cases h
        refine ⟨String.ofList stamp, ?_, by simpa using hstamp, hread⟩
        rw [← String.toList_inj]
        simpa using hline
  · rintro ⟨stamp, rfl, hstamp, hread⟩
    have hsplit : split? (stamp ++ " " ++ message).toList = some (stamp.toList, message.toList) :=
      split?_eq_some.2 ⟨by simp, hstamp⟩
    rw [readLine, hsplit]
    simp only [String.ofList_toList, hread]
    rfl

end Stamp

namespace Arrival

/-- What becomes of a line in print: a notice stands in place of the text, at the time of its
receipt; the text goes without its stamp, at the time the stamp spells; a text without a stamp stays
as it is, at the time of its receipt. -/
inductive Reading (a : Arrival) : Entry → Prop
  | notice {text : String} (ha : a.notice = some text) :
      Reading a ⟨a.source, "", a.receivedAt, some text⟩
  | stamped {stamp message : String} {t : Time.Instant} (ha : a.notice = none)
      (htext : a.text = stamp ++ " " ++ message) (hstamp : ' ' ∉ stamp.toList)
      (hread : Stamp.read stamp = .ok t) : Reading a ⟨a.source, message, t, none⟩
  | bare (ha : a.notice = none)
      (hbare : ∀ stamp message t, a.text = stamp ++ " " ++ message → ' ' ∉ stamp.toList →
        Stamp.read stamp ≠ .ok t) : Reading a ⟨a.source, a.text, a.receivedAt, none⟩

theorem reading_entry (a : Arrival) : a.Reading a.entry := by
  unfold entry
  split
  · rename_i notice hnotice
    exact .notice hnotice
  · rename_i hnotice
    split
    · rename_i message t hline
      obtain ⟨stamp, htext, hstamp, hread⟩ := Stamp.readLine_eq_ok.1 hline
      exact .stamped hnotice htext hstamp hread
    · rename_i why hline
      refine .bare hnotice fun stamp message t htext hstamp hread => ?_
      have hok := Stamp.readLine_eq_ok.2 ⟨stamp, htext, hstamp, hread⟩
      rw [hok] at hline
      cases hline

/-- **A line reads in one way only.** -/
theorem reading_iff {a : Arrival} {e : Entry} : a.Reading e ↔ a.entry = e := by
  refine ⟨fun h => ?_, fun h => h ▸ a.reading_entry⟩
  cases h with
  | notice ha => rw [entry, ha]
  | stamped ha htext hstamp hread =>
    have hline := Stamp.readLine_eq_ok.2 ⟨_, htext, hstamp, hread⟩
    simp only [entry, ha, hline]
  | bare ha hbare =>
    cases hline : Stamp.readLine a.text with
    | error why => simp only [entry, ha, hline]
    | ok read =>
      obtain ⟨stamp, htext, hstamp, hread⟩ := Stamp.readLine_eq_ok.1 hline
      exact absurd hread (hbare stamp _ _ htext hstamp)

end Arrival

open Run (Earlier arranged arranged_perm arranged_earlier collate_numbered)

/-- A stable order of a batch: its lines with their places, one for each, -/
structure Arranges (batch : List Arrival) (order : List (Arrival × Nat)) : Prop where
  perm : order.Perm batch.zipIdx
  /-- whose times never go back, -/
  rising : order.Pairwise fun x y => x.1.entry.loggedAt ≤ y.1.entry.loggedAt
  /-- with lines of one time in the order of their places. -/
  stable : order.Pairwise fun x y => x.1.entry.loggedAt = y.1.entry.loggedAt → x.2 < y.2

theorem zipIdx_sorted (batch : List Arrival) : batch.zipIdx.Pairwise fun x y => x.2 < y.2 := by
  refine List.pairwise_map.1 ?_
  rw [List.zipIdx_map_snd]
  exact List.pairwise_lt_range'

theorem Run.Earlier.asymm {x y : Arrival × Nat} (h : Earlier x y) : ¬ Earlier y x := by
  rintro (hlt | ⟨heq, hlt⟩)
  · rcases h with h | ⟨h, -⟩
    · exact h.asymm hlt
    · exact hlt.ne' h
  · rcases h with h | ⟨-, h⟩
    · exact h.ne' heq
    · exact h.asymm hlt

/-- Numbered lines have one order in which each is earlier than those after it. -/
theorem eq_arranged {numbered order : List (Arrival × Nat)} (hperm : order.Perm numbered)
    (horder : order.Pairwise Earlier) (hnumbered : numbered.Pairwise fun x y => x.2 < y.2) :
    order = arranged numbered :=
  (hperm.trans (arranged_perm numbered).symm).eq_of_pairwise
    (fun _ _ _ _ hxy hyx => absurd hyx hxy.asymm) horder (arranged_earlier hnumbered)

theorem arranges_iff {batch : List Arrival} {order : List (Arrival × Nat)} :
    Arranges batch order ↔ order = arranged batch.zipIdx := by
  constructor
  · intro h
    refine eq_arranged h.perm ?_ (zipIdx_sorted batch)
    refine (h.rising.and h.stable).imp fun {x y} hxy => ?_
    rcases hxy.1.lt_or_eq with hlt | heq
    · exact .inl hlt
    · exact .inr ⟨heq, hxy.2 heq⟩
  · rintro rfl
    have hearlier := arranged_earlier (zipIdx_sorted batch)
    refine ⟨arranged_perm _, hearlier.imp ?_, hearlier.imp ?_⟩
    · rintro x y (hlt | ⟨heq, -⟩)
      · exact hlt.le
      · exact heq.le
    · rintro x y (hlt | ⟨-, hlt⟩) heq
      · exact absurd heq hlt.ne
      · exact hlt

/-- Those of one source are arranged as they would be without the others. -/
theorem filter_arranged {numbered : List (Arrival × Nat)}
    (h : numbered.Pairwise fun x y => x.2 < y.2) (p : Arrival × Nat → Bool) :
    (arranged numbered).filter p = arranged (numbered.filter p) :=
  eq_arranged ((arranged_perm numbered).filter p) ((arranged_earlier h).filter p) (h.filter p)

/-- A batch is printed as its lines read in their order. -/
theorem collate_eq_arranged (batch : List Arrival) :
    collate batch = (arranged batch.zipIdx).map fun x => x.1.entry := by
  rw [← collate_numbered, List.zipIdx_map_fst]

/-- The lines of a source and a time come in the order of the program. -/
theorem filter_tied_collate (batch : List Arrival) (source : String) (t : Time.Instant) :
    (collate batch).filter (fun e => e.source == source && e.loggedAt == t) =
      (batch.map Arrival.entry).filter fun e => e.source == source && e.loggedAt == t := by
  refine filter_collate (List.pairwise_filter.2 (List.pairwise_of_forall fun a b ha hb => ?_))
  simp only [Bool.and_eq_true, beq_iff_eq] at ha hb
  exact (ha.2.trans hb.2.symm).le

/-- The lines of a source are put in order without regard to the others. -/
theorem filter_source_collate (batch : List Arrival) (source : String) :
    (collate batch).filter (fun e => e.source == source) =
      collate (batch.filter fun a => a.source == source) := by
  let own (x : Arrival × Nat) : Bool := x.1.source == source
  have hown : (batch.zipIdx.filter own).map Prod.fst =
      batch.filter fun a => a.source == source := by
    have h := List.filter_map (f := Prod.fst) (p := fun a : Arrival => a.source == source)
      (l := batch.zipIdx)
    rw [List.zipIdx_map_fst] at h
    exact h.symm
  rw [collate_eq_arranged, List.filter_map, ← hown, collate_numbered,
    ← filter_arranged (zipIdx_sorted batch)]
  simp [own, Function.comp_def, Arrival.source_entry]

/-- **A batch is printed in the only stable order of its times.** It has one such order, and what is
printed is what its lines read, one by one in that order. Each source has its lines as it would
without the others, those of one time in the order of the program. A leap second is later than the
second it follows and earlier than the next. -/
theorem collate_stable (batch : List Arrival) :
    (∃ order, (∀ other, Arranges batch other ↔ other = order) ∧
      ∀ entries, List.Forall₂ (fun x e => x.1.Reading e) order entries ↔
        entries = collate batch) ∧
    (∀ source,
      (collate batch).filter (fun e => e.source == source) =
        collate (batch.filter fun a => a.source == source) ∧
      ∀ t, (collate batch).filter (fun e => e.source == source && e.loggedAt == t) =
        (batch.map Arrival.entry).filter fun e => e.source == source && e.loggedAt == t) ∧
    ∀ (w w' : Time.Writing) (t t' : Time.Instant), Stamp.read w.text = .ok t →
      Stamp.read w'.text = .ok t' →
        (w.second < w'.second → t < t') ∧
        (w.second = w'.second → w.isLeap = false → w'.isLeap = true → t < t') := by
  refine ⟨⟨arranged batch.zipIdx, fun other => arranges_iff, fun entries => ?_⟩,
    fun source => ⟨filter_source_collate batch source, filter_tied_collate batch source⟩, ?_⟩
  · simp only [Arrival.reading_iff]
    rw [← List.forall₂_map_left_iff (f := fun x : Arrival × Nat => x.1.entry),
      List.forall₂_eq_eq_eq, ← collate_eq_arranged, eq_comm]
  · intro w w' t t' ht ht'
    exact ⟨Time.Writing.lt_of_second_lt ht ht', Time.Writing.lt_of_leap ht ht'⟩

end LogWeave
