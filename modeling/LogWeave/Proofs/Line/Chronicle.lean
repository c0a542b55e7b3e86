import LogWeave.Line.Source
import LogWeave.Line.Stamp
import Mathlib.Order.Defs.LinearOrder

/-! A service's log, and how far it has been read.

All lines of a `Chronicle` carry times, each later than the one before. So a time divides it: what
has been seen up to that time stands before what is still to come. A reader that resumes at a time
asks for all lines of that second or later and drops those it has seen; what remains is exactly what
is to come (`fresh_fromSecond`). -/
namespace LogWeave

namespace Time.Instant

instance : LinearOrder Instant where
  le_refl := le_refl
  le_trans _ _ _ := le_trans
  le_antisymm _ _ := le_antisymm
  le_total := le_total
  lt_iff_le_not_ge a b := ⟨fun h => ⟨(le_total a b).resolve_right h, h⟩, And.right⟩
  toDecidableLE := inferInstance
  toDecidableLT := inferInstance
  toDecidableEq := inferInstance

/-- The beginning of the second. -/
def wholeSecond (t : Instant) : Instant where
  seconds := t.seconds
  nanos := 0
  valid := ⟨t.valid.1, t.valid.2.1, .inl (by decide)⟩

theorem wholeSecond_le (t : Instant) : t.wholeSecond ≤ t :=
  le_iff.2 (.inr ⟨rfl, Nat.zero_le _⟩)

end Time.Instant

/-- Lines with their times, each later than those before it. -/
structure Chronicle where
  lines : List (Time.Instant × String)
  stamped : ∀ l ∈ lines, Stamp.of? l.2 = some l.1
  increasing : lines.Pairwise fun a b => a.1 < b.1

namespace Chronicle

variable (log : Chronicle) (seen since : Option Time.Instant)

def texts : List String := log.lines.map Prod.snd

/-- Of a time that has been seen. -/
def isSeen (seen : Option Time.Instant) (l : Time.Instant × String) : Bool := seen.any (l.1 ≤ ·)

/-- What has been seen. -/
def upTo : List String := (log.lines.takeWhile (isSeen seen)).map Prod.snd

/-- What is still to come. -/
def after : List String := (log.lines.dropWhile (isSeen seen)).map Prod.snd

/-- The lines of a second or later. -/
def fromSecond : List String :=
  (log.lines.filter fun l => since.all (·.wholeSecond ≤ l.1)).map Prod.snd

theorem upTo_append_after : log.upTo seen ++ log.after seen = log.texts := by
  rw [upTo, after, ← List.map_append, List.takeWhile_append_dropWhile, texts]

theorem upTo_prefix : log.upTo seen <+: log.texts := ⟨_, log.upTo_append_after seen⟩

@[simp] theorem upTo_none : log.upTo none = [] := by
  have h : log.lines.takeWhile (isSeen none) = [] := by
    cases log.lines <;> simp [isSeen]
  rw [upTo, h, List.map_nil]

variable {log seen since}

/-- In the order of time, what is not seen stands at the end. -/
theorem filter_not_isSeen {lines : List (Time.Instant × String)}
    (h : lines.Pairwise fun a b => a.1 < b.1) :
    lines.filter (fun l => !isSeen seen l) = lines.dropWhile (isSeen seen) := by
  induction lines with
  | nil => rfl
  | cons l rest ih =>
    obtain ⟨hl, hrest⟩ := List.pairwise_cons.1 h
    by_cases hs : isSeen seen l = true
    · rw [List.filter_cons_of_neg (by simp [hs]), List.dropWhile_cons_of_pos hs, ih hrest]
    · rw [List.filter_cons_of_pos (by simp [hs]), List.dropWhile_cons_of_neg hs,
        List.filter_eq_self.2]
      intro m hm
      cases seen with
      | none => rfl
      | some t =>
        simp only [isSeen, Option.any_some, decide_eq_true_eq, not_le] at hs
        simpa [isSeen] using lt_trans hs (hl m hm)

/-- A reader that knows what it has seen keeps what is still to come, and nothing of the second it
resumes in comes twice. -/
theorem fresh_fromSecond {knows : String → Bool}
    (hk : ∀ l ∈ log.lines, knows l.2 = isSeen since l) :
    (log.fromSecond since).filter (fun text => !knows text) = log.after since := by
  rw [fromSecond, List.filter_map, List.filter_filter, after, ← filter_not_isSeen log.increasing]
  congr 1
  refine List.filter_congr fun l hl => ?_
  rw [Function.comp_apply, hk l hl]
  cases since with
  | none => simp [isSeen]
  | some t =>
    by_cases ht : l.1 ≤ t
    · simp [isSeen, ht]
    · have hlt : t.wholeSecond ≤ l.1 := le_trans t.wholeSecond_le (le_of_lt (not_le.1 ht))
      simp [isSeen, hlt]

/-- Where the seen lines end is where the log is divided. -/
theorem divided {front back : List (Time.Instant × String)} (hlines : log.lines = front ++ back)
    (hfront : ∀ l ∈ front, isSeen seen l = true) (hback : ∀ l ∈ back, isSeen seen l = false) :
    log.upTo seen = front.map Prod.snd ∧ log.after seen = back.map Prod.snd := by
  have hnone : back.takeWhile (isSeen seen) = [] ∧ back.dropWhile (isSeen seen) = back := by
    cases back with
    | nil => exact ⟨rfl, rfl⟩
    | cons l rest =>
      have hl := hback l (List.mem_cons_self ..)
      exact ⟨List.takeWhile_cons_of_neg (by simp [hl]), List.dropWhile_cons_of_neg (by simp [hl])⟩
  rw [upTo, after, hlines, List.takeWhile_append_of_pos hfront, List.dropWhile_append_of_pos hfront,
    hnone.1, hnone.2, List.append_nil]
  exact ⟨rfl, rfl⟩

/-- **The next line moves the division by one.** -/
theorem observe_next {text : String} {later : List String} (h : log.after seen = text :: later) :
    ∃ t, Stamp.of? text = some t ∧ Time.Instant.later seen t = t ∧
      log.upTo (some t) = log.upTo seen ++ [text] ∧ log.after (some t) = later := by
  obtain ⟨⟨t, text⟩, rest, hdrop, rfl, rfl⟩ := List.map_eq_cons_iff.1 h
  have hlines : log.lines = (log.lines.takeWhile (isSeen seen) ++ [(t, text)]) ++ rest := by
    rw [List.append_assoc, List.singleton_append, ← hdrop, List.takeWhile_append_dropWhile]
  have hinc := log.increasing
  rw [hlines, List.append_assoc, List.singleton_append, List.pairwise_append,
    List.pairwise_cons] at hinc
  obtain ⟨-, ⟨hrest, -⟩, hbefore⟩ := hinc
  have hnew : isSeen seen (t, text) = false := by
    have hd := List.head?_dropWhile_not (isSeen seen) log.lines
    rw [hdrop] at hd
    simpa using hd
  have hfront : ∀ l ∈ log.lines.takeWhile (isSeen seen) ++ [(t, text)],
      isSeen (some t) l = true := by
    intro l hl
    rcases List.mem_append.1 hl with hl | hl
    · simpa [isSeen] using le_of_lt (hbefore l hl _ (List.mem_cons_self ..))
    · simp [isSeen, List.mem_singleton.1 hl]
  have hback : ∀ l ∈ rest, isSeen (some t) l = false := by
    intro l hl
    simpa [isSeen] using hrest l hl
  obtain ⟨hupTo, hafter⟩ := divided hlines hfront hback
  refine ⟨t, log.stamped (t, text) ?_, ?_, ?_, hafter⟩
  · rw [hlines]
    simp
  · cases seen with
    | none => rfl
    | some s =>
      have hlater : ¬ t ≤ s := by simpa [isSeen] using hnew
      rw [Time.Instant.later, if_neg hlater]
  · rw [hupTo, List.map_append, ← upTo, List.map_singleton]

end Chronicle

end LogWeave
