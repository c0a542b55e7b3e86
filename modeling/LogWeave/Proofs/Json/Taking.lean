import LogWeave.Proofs.Json.KeepingUp

/-! What a reader takes off the front of a text.

`Reader.Reads` says what a reader makes of a text with a given rest behind it, wherever the text
starts; readers put together one after the other read texts put together so (`Reads.bind`).
`Reader.Takes` is the same for any blanks in front and any rest that may follow a value. -/
namespace LogWeave.Json

variable {α β σ : Type}

namespace Reader

/-- With `rest` behind it the text gives `a`, wherever it starts, and `rest` is left. -/
def Reads (p : Reader α) (text : List Char) (a : α) (rest : List Char) : Prop :=
  ∀ place, ∃ place', p ⟨text ++ rest, place⟩ = .ok (a, ⟨rest, place'⟩)

/-- Nothing but blanks. -/
def Blank (cs : List Char) : Prop := ∀ c ∈ cs, Cursor.isBlank c = true

/-- No blank stands in front. -/
def Solid (cs : List Char) : Prop := ∀ c ∈ cs.head?, Cursor.isBlank c = false

/-- Whatever may follow a value: a blank, a comma, a closing bracket or nothing. -/
def Ends (cs : List Char) : Prop :=
  ∀ c ∈ cs.head?, Cursor.isBlank c = true ∨ c = ',' ∨ c = ']' ∨ c = '}'

theorem Blank.nil : Blank [] := by simp [Blank]

theorem Ends.nil : Ends [] := by simp [Ends]

theorem Ends.of_blank {bs cs : List Char} (hb : Blank bs) (hc : Ends cs) : Ends (bs ++ cs) := by
  cases bs with
  | nil => exact hc
  | cons b bs =>
    intro c heq
    cases heq
    exact .inl (hb _ List.mem_cons_self)

theorem Solid.cons {c : Char} (h : Cursor.isBlank c = false) (cs : List Char) : Solid (c :: cs) := by
  intro d heq
  cases heq
  exact h

/-! ### One reader after another -/

theorem skipFrom_blank {bs cs : List Char} (hb : Blank bs) (hs : Solid cs) (place : Place) :
    ∃ place', Cursor.skipFrom (bs ++ cs) place = ⟨cs, place'⟩ := by
  induction bs generalizing place with
  | nil =>
    cases cs with
    | nil => exact ⟨place, rfl⟩
    | cons c cs =>
      have hc : Cursor.isBlank c = false := hs c rfl
      exact ⟨place, by simp [Cursor.skipFrom, hc]⟩
  | cons b bs ih =>
    have hb' : Cursor.isBlank b = true := hb b List.mem_cons_self
    obtain ⟨place', heq⟩ := ih (fun c hc => hb c (List.mem_cons_of_mem b hc)) (place.after b)
    exact ⟨place', by simpa [Cursor.skipFrom, hb'] using heq⟩

namespace Reads

variable {p : Reader α} {a : α} {b : β} {text text' rest : List Char} {c : Char}

theorem pure (a : α) (rest : List Char) : Reads (Pure.pure a) [] a rest :=
  fun place => ⟨place, rfl⟩

theorem bind {f : α → Reader β} (h : Reads p text a (text' ++ rest))
    (hf : Reads (f a) text' b rest) : Reads (p >>= f) (text ++ text') b rest := by
  intro place
  obtain ⟨middle, hp⟩ := h place
  obtain ⟨place', hb⟩ := hf middle
  refine ⟨place', ?_⟩
  rw [List.append_assoc, bind_of_ok hp]
  exact hb

/-- The second one reads nothing. -/
theorem bind_nil {f : α → Reader β} (h : Reads p text a rest) (hf : Reads (f a) [] b rest) :
    Reads (p >>= f) text b rest := by
  have hbind : Reads (p >>= f) (text ++ []) b rest := h.bind hf
  rwa [List.append_nil] at hbind

theorem bind_pure (f : α → β) (h : Reads p text a rest) :
    Reads (p >>= fun a => Pure.pure (f a)) text (f a) rest :=
  h.bind_nil (pure (f a) rest)

theorem map (f : α → β) (h : Reads p text a rest) : Reads (f <$> p) text (f a) rest := by
  intro place
  obtain ⟨place', hp⟩ := h place
  exact ⟨place', map_eq_ok.2 ⟨a, hp, rfl⟩⟩

theorem advance {f : Unit → Reader β} (c : Char) (h : Reads (f ()) text b rest) :
    Reads (Reader.advance >>= f) (c :: text) b rest :=
  fun place => h (place.after c)

theorem advance_one (c : Char) (rest : List Char) : Reads Reader.advance [c] () rest :=
  fun place => ⟨place.after c, rfl⟩

theorem peek {f : Option Char → Reader β} (h : Reads (f (text ++ rest).head?) text b rest) :
    Reads (Reader.peek >>= f) text b rest := h

theorem peek_cons {f : Option Char → Reader β} (h : Reads (f (some c)) (c :: text) b rest) :
    Reads (Reader.peek >>= f) (c :: text) b rest := h

theorem peekSolid {f : Option Char → Reader β} {bs : List Char} (hb : Blank bs)
    (hs : Solid (text ++ rest)) (h : Reads (f (text ++ rest).head?) text b rest) :
    Reads (Reader.peekSolid >>= f) (bs ++ text) b rest := by
  intro place
  obtain ⟨middle, hskip⟩ := skipFrom_blank hb hs place
  obtain ⟨place', heq⟩ := h middle
  refine ⟨place', ?_⟩
  rw [List.append_assoc]
  have hpeek : Reader.peekSolid ⟨bs ++ (text ++ rest), place⟩ =
      .ok ((text ++ rest).head?, ⟨text ++ rest, middle⟩) := by
    show Except.ok ((Cursor.skipFrom _ _).rest.head?, Cursor.skipFrom _ _) = _
    rw [hskip]
  rw [bind_of_ok hpeek]
  exact heq

/-- The blanks in front of what is left. -/
theorem peekSolid_only {f : Option Char → Reader β} {bs : List Char} (hb : Blank bs)
    (hc : Cursor.isBlank c = false) (h : Reads (f (some c)) [] b (c :: rest)) :
    Reads (Reader.peekSolid >>= f) bs b (c :: rest) := by
  have hpeek : Reads (Reader.peekSolid >>= f) (bs ++ []) b (c :: rest) :=
    peekSolid hb (Solid.cons hc rest) h
  rwa [List.append_nil] at hpeek

theorem bound {f : Nat → Reader β} (h : Reads (f ((text ++ rest).length + 1)) text b rest) :
    Reads (Reader.bound >>= f) text b rest := h

theorem settle (h : Reads p text a rest) : Reads (Reader.settle p) text a rest := by
  intro place
  obtain ⟨place', hp⟩ := h place
  exact ⟨place', settle_eq_ok.2 hp⟩

theorem word (cs rest : List Char) : Reads (Reader.word cs) cs () rest := by
  induction cs with
  | nil => exact pure () rest
  | cons c cs ih =>
    refine peek_cons ?_
    show Reads (if c = c then _ else _) _ _ _
    rw [if_pos rfl]
    exact advance c ih

theorem scalar_word (letters : String) {c : Char} {cs : List Char}
    (h : letters.toList = c :: cs) (rest : List Char) :
    Reads (Scalar.word letters) (c :: cs) () rest := by
  refine advance c ?_
  rw [h]
  exact word cs rest

theorem solid {read : Char → Reader α} {bs : List Char} (hb : Blank bs)
    (hc : Cursor.isBlank c = false) (h : Reads (read c) (c :: text) a rest) :
    Reads (Scalar.solid read) (bs ++ c :: text) a rest :=
  peekSolid hb (Solid.cons hc _) h

theorem colon {bs : List Char} (hb : Blank bs) (rest : List Char) :
    Reads Reader.colon (bs ++ [':']) () rest :=
  peekSolid hb (Solid.cons rfl _) (advance_one ':' rest)

/-- Digits are read up to what is none. -/
theorem digits {ds : List Char} (hds : ∀ d ∈ ds, d.isDigit = true)
    (hrest : ∀ c ∈ rest.head?, c.isDigit = false) : Reads Reader.digits ds ds rest := by
  have htake : (ds ++ rest).takeWhile Char.isDigit = ds := by
    rw [List.takeWhile_append_of_pos hds]
    cases rest with
    | nil => simp
    | cons c rest => simp [hrest c rfl]
  have hadvance : ∀ (ds : List Char) (place : Place), ∃ place',
      Cursor.advanceBy ds.length ⟨ds ++ rest, place⟩ = ⟨rest, place'⟩ := by
    intro ds
    induction ds with
    | nil => exact fun place => ⟨place, rfl⟩
    | cons d ds ih => exact fun place => ih (place.after d)
  intro place
  obtain ⟨place', heq⟩ := hadvance ds place
  refine ⟨place', ?_⟩
  show Except.ok (List.takeWhile Char.isDigit (ds ++ rest), _) = _
  rw [htake, heq]

/-! ### Between brackets -/

/-- A closing that gets past a bracket. -/
def Closes (close : Closing) (c : Char) : Prop :=
  ∀ rest place, ∃ place', close ⟨c :: rest, place⟩ = (⟨rest, place'⟩, none)

theorem closes_list : Closes closeList ']' :=
  fun _ place => ⟨place.after ']', rfl⟩

theorem closes_object : Closes closeObject '}' :=
  fun _ place => ⟨place.after '}', rfl⟩

theorem bracketed {close : Closing} {body : Nat → Reader α} {opening closing : Char}
    (hclose : Closes close closing)
    (h : ∀ most, text.length < most → Reads (body most) text a (closing :: rest)) :
    Reads (Reader.bracketed close body) (opening :: (text ++ [closing])) a rest := by
  refine advance opening (bound fun place => ?_)
  have hmost : text.length < (text ++ [closing] ++ rest).length + 1 := by
    simp only [List.length_append]
    omega
  obtain ⟨middle, hbody⟩ := h _ hmost place
  obtain ⟨place', heq⟩ := hclose rest middle
  refine ⟨place', enclosed_eq_ok.2 ⟨_, ?_, heq⟩⟩
  simpa using hbody

variable {gap last : List Char}

theorem nextElement_first (hgap : Blank gap) (hc : Cursor.isBlank c = false) (hne : c ≠ ']') :
    Reads (nextElement true) gap true (c :: rest) := by
  refine peekSolid_only hgap hc ?_
  split
  · cases ‹some c = none›
  · exact absurd (Option.some.inj ‹_›) hne
  · exact pure true _

theorem nextElement_next (hgap : Blank gap) (hc : Cursor.isBlank c = false) (hne : c ≠ ']') :
    Reads (nextElement false) (',' :: gap) true (c :: rest) := by
  refine peekSolid Blank.nil (Solid.cons rfl _) (advance ',' (peekSolid_only hgap hc ?_))
  split
  · exact absurd (Option.some.inj ‹_›) hne
  · exact pure true _
  · cases ‹some c = none›

theorem nextElement_last (hlast : Blank last) (first : Bool) (rest : List Char) :
    Reads (nextElement first) last false (']' :: rest) :=
  peekSolid_only hlast rfl (pure false _)

theorem nextKey_first (hgap : Blank gap) (rest : List Char) :
    Reads (nextKey true) gap true ('"' :: rest) :=
  peekSolid_only hgap rfl (pure true _)

theorem nextKey_next (hgap : Blank gap) (rest : List Char) :
    Reads (nextKey false) (',' :: gap) true ('"' :: rest) :=
  peekSolid Blank.nil (Solid.cons rfl _) (advance ',' (peekSolid_only hgap rfl (pure true _)))

theorem nextKey_last (hlast : Blank last) (first : Bool) (rest : List Char) :
    Reads (nextKey first) last false ('}' :: rest) :=
  peekSolid_only hlast rfl (pure false _)

end Reads

/-! ### Values by themselves -/

/-- The text gives `a` whatever blanks stand in front, if it is at its end behind it. -/
def Takes (p : Reader α) (text : List Char) (a : α) : Prop :=
  ∀ ⦃bs rest⦄, Blank bs → Ends rest → Reads p (bs ++ text) a rest

namespace Takes

variable {p : Reader α} {a : α} {text : List Char} {c : Char}

theorem solid {read : Char → Reader α} (hc : Cursor.isBlank c = false)
    (h : ∀ rest, Ends rest → Reads (read c) (c :: text) a rest) :
    Takes (Scalar.solid read) (c :: text) a :=
  fun _ rest hb hrest => .solid hb hc (h rest hrest)

theorem map (f : α → β) (h : Takes p text a) : Takes (f <$> p) text (f a) :=
  fun _ _ hb hrest => (h hb hrest).map f

/-- What is made of a value that has been read. -/
theorem bind_pure (f : α → β) (h : Takes p text a) :
    Takes (p >>= fun a => Pure.pure (f a)) text (f a) :=
  fun _ _ hb hrest => (h hb hrest).bind_pure f

theorem settle (h : Takes p text a) : Takes (Reader.settle p) text a :=
  fun _ _ hb hrest => (h hb hrest).settle

/-- The word for nothing. -/
theorem null (p : Reader α) : Takes (Scalar.optional p) "null".toList none := by
  intro bs rest hb hrest
  refine .peekSolid hb (Solid.cons rfl _) ?_
  exact (Reads.scalar_word "null" rfl rest).bind_pure fun _ => none

/-- What is no word may not be `null`. -/
theorem optional (h : Takes p (c :: text) a) (hc : Cursor.isBlank c = false) (hne : c ≠ 'n') :
    Takes (Scalar.optional p) (c :: text) (some a) := by
  intro bs rest hb hrest
  refine .peekSolid hb (Solid.cons hc _) ?_
  have hread := (h Blank.nil hrest).map some
  split
  · exact absurd (Option.some.inj ‹_›) hne
  · exact hread

/-- A whole text is read if the reader takes it. -/
theorem whole (h : Takes p text a) : read p (String.ofList text) = .ok a := by
  obtain ⟨place, heq⟩ := h Blank.nil Ends.nil ⟨1, 0⟩
  rw [List.nil_append, List.append_nil] at heq
  refine read_eq_ok.2 ⟨⟨[], place⟩, ⟨[], place⟩, ?_, rfl⟩
  rwa [Cursor.start, String.toList_ofList]

end Takes

end Reader

end LogWeave.Json
