import LogWeave.Json.Reader
import Mathlib.Data.List.Forall2
import Mathlib.Data.Option.Basic

/-! Two readers of one text, side by side.

A reader keeps up with another one if it reads whatever the other reads, and comes as far
(`Reader.KeepsUp`); what the two make of it goes together by a relation. Readers that are put
together alike keep up if their parts do: so does a record, if its members do one by one
(`Record.keepsUp_reader`). Whatever is read as a text or a whole number is read as a document of
this kind (`keepsUp_text`, `keepsUp_integer`). -/
namespace LogWeave.Json

variable {α β γ δ ρ τ : Type}

namespace Reader

/-- Whatever `p` reads `q` reads too, and comes as far; `R` says how their results go together. -/
def KeepsUp (R : α → β → Prop) (p : Reader α) (q : Reader β) : Prop :=
  ∀ ⦃s s' : Cursor⦄ ⦃a : α⦄, p s = .ok (a, s') → ∃ b, q s = .ok (b, s') ∧ R a b

theorem bind_apply (p : Reader α) (f : α → Reader β) (s : Cursor) :
    (p >>= f) s = p s >>= fun x => f x.1 x.2 := rfl

theorem bind_of_ok {p : Reader α} {f : α → Reader β} {s s' : Cursor} {a : α}
    (h : p s = .ok (a, s')) : (p >>= f) s = f a s' := by
  rw [bind_apply, h]
  rfl

theorem bind_eq_ok {p : Reader α} {f : α → Reader β} {s s'' : Cursor} {b : β} :
    (p >>= f) s = .ok (b, s'') ↔ ∃ a s', p s = .ok (a, s') ∧ f a s' = .ok (b, s'') := by
  rw [bind_apply]
  cases hp : p s with
  | error stop => simp [Bind.bind, Except.bind]
  | ok x =>
    refine ⟨fun h => ⟨x.1, x.2, rfl, h⟩, fun ⟨a, s', heq, h⟩ => ?_⟩
    cases heq
    exact h

theorem map_eq_ok {p : Reader α} {f : α → β} {s s' : Cursor} {b : β} :
    (f <$> p) s = .ok (b, s') ↔ ∃ a, p s = .ok (a, s') ∧ b = f a := by
  rw [map_eq_pure_bind, bind_eq_ok]
  constructor
  · rintro ⟨a, t, hp, hdone⟩
    cases hdone
    exact ⟨a, hp, rfl⟩
  · rintro ⟨a, hp, rfl⟩
    exact ⟨a, s', hp, rfl⟩

variable {R : α → β → Prop} {p : Reader α} {q : Reader β}

namespace KeepsUp

theorem pure {a : α} {b : β} (h : R a b) : KeepsUp R (Pure.pure a) (Pure.pure b) := by
  intro s s' a' heq
  cases heq
  exact ⟨b, rfl, h⟩

/-- Whoever reads the same keeps up. -/
theorem refl {R : α → α → Prop} (h : ∀ a, R a a) (p : Reader α) : KeepsUp R p p :=
  fun _ _ a heq => ⟨a, heq, h a⟩

/-- Nobody falls behind one that reads nothing. -/
theorem of_stops (h : ∀ s s' a, p s ≠ .ok (a, s')) : KeepsUp R p q :=
  fun s s' a heq => absurd heq (h s s' a)

theorem bind {S : γ → δ → Prop} {f : α → Reader γ} {g : β → Reader δ} (h : KeepsUp R p q)
    (hfg : ∀ a b, R a b → KeepsUp S (f a) (g b)) : KeepsUp S (p >>= f) (q >>= g) := by
  intro s s'' c heq
  obtain ⟨a, s', hp, hf⟩ := bind_eq_ok.1 heq
  obtain ⟨b, hq, hab⟩ := h hp
  obtain ⟨d, hg, hcd⟩ := hfg a b hab hf
  exact ⟨d, bind_eq_ok.2 ⟨b, s', hq, hg⟩, hcd⟩

/-- Both begin alike. -/
theorem after {S : γ → δ → Prop} (p : Reader α) {f : α → Reader γ} {g : α → Reader δ}
    (h : ∀ a, KeepsUp S (f a) (g a)) : KeepsUp S (p >>= f) (p >>= g) :=
  (refl (R := Eq) (fun _ => rfl) p).bind fun a _ heq => heq ▸ h a

/-- What is made of the result of one of them. -/
theorem map_left {S : γ → β → Prop} {f : α → γ} (h : KeepsUp R p q)
    (hf : ∀ a b, R a b → S (f a) b) : KeepsUp S (f <$> p) q := by
  intro s s' c heq
  obtain ⟨a, hp, rfl⟩ := map_eq_ok.1 heq
  obtain ⟨b, hq, hab⟩ := h hp
  exact ⟨b, hq, hf a b hab⟩

theorem ite {c : Prop} [Decidable c] {p' : Reader α} {q' : Reader β} (h : KeepsUp R p q)
    (h' : KeepsUp R p' q') : KeepsUp R (if c then p else p') (if c then q else q') := by
  split
  · exact h
  · exact h'

end KeepsUp

theorem failAhead_ne_ok (complaint : Complaint) (s s' : Cursor) (a : α) :
    failAhead complaint s ≠ .ok (a, s') := nofun

theorem object_ne_ok (complaint : Complaint) (s s' : Cursor) (a : α) :
    object complaint s ≠ .ok (a, s') := nofun

/-- A complaint about what has been read. -/
theorem bind_object_ne_ok (p : Reader β) (complaint : β → Complaint) (s s' : Cursor) (a : α) :
    (p >>= fun b => object (complaint b)) s ≠ .ok (a, s') := by
  intro h
  obtain ⟨b, t, -, hstop⟩ := bind_eq_ok.1 h
  exact object_ne_ok _ _ _ _ hstop

theorem settle_eq_ok {s s' : Cursor} {a : α} : settle p s = .ok (a, s') ↔ p s = .ok (a, s') := by
  unfold settle
  split
  · rename_i heq
    rw [heq]
    simp
  · rfl

theorem enclosed_eq_ok {close : Closing} {s s'' : Cursor} {a : α} :
    enclosed close p s = .ok (a, s'') ↔ ∃ s', p s = .ok (a, s') ∧ close s' = (s'', none) := by
  unfold enclosed
  constructor
  · intro h
    split at h
    · rename_i b t hp
      split at h
      · rename_i u hclose
        cases h
        exact ⟨t, hp, hclose⟩
      · cases h
    · cases h
    · cases h
  · rintro ⟨s', hp, hclose⟩
    simp only [hp, hclose]

namespace KeepsUp

theorem settle (h : KeepsUp R p q) : KeepsUp R (settle p) (settle q) := by
  intro s s' a heq
  obtain ⟨b, hq, hab⟩ := h (settle_eq_ok.1 heq)
  exact ⟨b, settle_eq_ok.2 hq, hab⟩

theorem enclosed (h : KeepsUp R p q) (close : Closing) :
    KeepsUp R (enclosed close p) (enclosed close q) := by
  intro s s'' a heq
  obtain ⟨s', hp, hclose⟩ := enclosed_eq_ok.1 heq
  obtain ⟨b, hq, hab⟩ := h hp
  exact ⟨b, enclosed_eq_ok.2 ⟨s', hq, hclose⟩, hab⟩

theorem bracketed {body : Nat → Reader α} {body' : Nat → Reader β} (close : Closing)
    (h : ∀ most, KeepsUp R (body most) (body' most)) :
    KeepsUp R (bracketed close body) (bracketed close body') :=
  after advance fun _ => after bound fun most => (h most).enclosed close

theorem foldMembers {step : α → String → Reader α} {step' : β → String → Reader β}
    (h : ∀ a b key, R a b → KeepsUp R (step a key) (step' b key)) (most : Nat) (first : Bool)
    {a : α} {b : β} (hab : R a b) :
    KeepsUp R (foldMembers step most first a) (foldMembers step' most first b) := by
  induction most generalizing first a b with
  | zero => exact pure hab
  | succ most ih =>
    refine after (nextKey first) fun more => ite ?_ (pure hab)
    exact after Text.body fun key => (h a b key hab).bind fun a' b' hab' => ih false hab'

end KeepsUp

end Reader

open Reader

/-! ### Scalars -/

namespace Scalar

theorem mismatch_ne_ok (expected : String) (s s' : Cursor) (a : α) :
    mismatch expected s ≠ .ok (a, s') := by
  intro heq
  obtain ⟨c, t, -, hc⟩ := bind_eq_ok.1 (settle_eq_ok.1 heq)
  split at hc
  · exact bind_object_ne_ok _ _ _ _ _ hc
  · exact bind_object_ne_ok _ _ _ _ _ hc
  · exact bind_object_ne_ok _ _ _ _ _ hc
  · exact bind_object_ne_ok Text.body _ _ _ _ hc
  · exact object_ne_ok _ _ _ _ hc
  · exact object_ne_ok _ _ _ _ hc
  · split at hc
    · exact bind_object_ne_ok number _ _ _ _ hc
    · exact failAhead_ne_ok _ _ _ _ hc
  · exact failAhead_ne_ok _ _ _ _ hc

theorem keepsUp_solid {R : α → β → Prop} {read : Char → Reader α} {read' : Char → Reader β}
    (h : ∀ c, KeepsUp R (read c) (read' c)) : KeepsUp R (solid read) (solid read') := by
  refine .after peekSolid fun c => ?_
  cases c with
  | none => exact .of_stops (failAhead_ne_ok _)
  | some c => exact h c

end Scalar

theorem Cursor.skipFrom_skipFrom (cs : List Char) (p : Place) :
    skipFrom (skipFrom cs p).rest (skipFrom cs p).place = skipFrom cs p := by
  induction cs generalizing p with
  | nil => rfl
  | cons c rest ih =>
    by_cases hc : isBlank c = true
    · simp only [skipFrom, hc, if_true, ih]
    · simp [skipFrom, hc]

@[simp] theorem Cursor.skipBlanks_skipBlanks (s : Cursor) :
    s.skipBlanks.skipBlanks = s.skipBlanks :=
  skipFrom_skipFrom s.rest s.place

namespace Scalar

/-- Blanks in front of a value do not matter. -/
theorem solid_skipBlanks (read : Char → Reader α) (s : Cursor) :
    solid read s.skipBlanks = solid read s := by
  have hpeek : peekSolid s.skipBlanks = peekSolid s := by
    show Except.ok (s.skipBlanks.skipBlanks.rest.head?, s.skipBlanks.skipBlanks) = _
    rw [Cursor.skipBlanks_skipBlanks]
    rfl
  rw [solid, bind_apply, bind_apply, hpeek]

end Scalar

/-! ### Values read as documents -/

/-- A text is a document. -/
theorem keepsUp_text (expected : String) :
    KeepsUp (fun text v => v = Value.text text) (Scalar.text expected) Reader.value := by
  refine Scalar.keepsUp_solid fun c => ?_
  by_cases hc : c = '"'
  · subst hc
    intro s s' text heq
    exact ⟨.text text, bind_eq_ok.2 ⟨text, s', heq, rfl⟩, rfl⟩
  · rw [if_neg hc]
    exact .of_stops (Scalar.mismatch_ne_ok _)

/-- What begins like a number is read as one. -/
theorem scalar_number {c : Char} (hc : (c = '-' || c.isDigit) = true) :
    value.scalar c = (do pure (.number (← Scalar.number))) := by
  unfold value.scalar
  split
  iterate 4 exact absurd hc (by decide)
  exact if_pos hc

/-- A whole number within bounds is a document. -/
theorem keepsUp_integer (least most : Int) (expected : String) :
    KeepsUp (fun n v => v = Value.whole n ∧ least ≤ n ∧ n ≤ most)
      (Scalar.integer least most expected) Reader.value := by
  refine Scalar.keepsUp_solid fun c => ?_
  by_cases hc : (c = '-' || c.isDigit) = true
  · rw [if_pos hc]
    split
    iterate 2 exact absurd hc (by decide)
    rw [scalar_number hc]
    intro s s'' n heq
    obtain ⟨number, s', hnumber, hrest⟩ := bind_eq_ok.1 heq
    split at hrest
    · rename_i m
      split at hrest
      · rename_i hbounds
        cases hrest
        exact ⟨.whole n, bind_eq_ok.2 ⟨_, _, hnumber, rfl⟩, rfl, hbounds⟩
      · cases hrest
    · cases hrest
  · rw [if_neg hc]
    exact .of_stops (Scalar.mismatch_ne_ok _)

theorem keepsUp_unsigned (most : Int) (expected : String) :
    KeepsUp (fun (n : Nat) v => v = Value.whole n ∧ (n : Int) ≤ most)
      (Int.toNat <$> Scalar.integer 0 most expected) Reader.value := by
  refine (keepsUp_integer 0 most expected).map_left fun n v ⟨hv, hpos, hle⟩ => ?_
  rw [Int.toNat_of_nonneg hpos]
  exact ⟨hv, hle⟩

/-- What may be `null` is a document, `null` if it is nothing. -/
theorem keepsUp_value_optional {read : Reader α} {written : α → Value}
    (h : KeepsUp (fun a v => v = written a) read Reader.value) :
    KeepsUp (fun a v => v = (a.map written).getD .null) (Scalar.optional read) Reader.value := by
  intro s s'' a heq
  obtain ⟨front, s', hpeek, hrest⟩ := bind_eq_ok.1 heq
  split at hrest
  · -- The word stands there.
    obtain ⟨_, t, hword, hdone⟩ := bind_eq_ok.1 hrest
    cases hdone
    exact ⟨.null, bind_eq_ok.2 ⟨some 'n', s', hpeek, bind_eq_ok.2 ⟨(), _, hword, rfl⟩⟩, rfl⟩
  · obtain rfl : s.skipBlanks = s' := congrArg Prod.snd (Except.ok.inj hpeek)
    obtain ⟨a', hread, rfl⟩ := map_eq_ok.1 hrest
    obtain ⟨v, hvalue, rfl⟩ := h hread
    exact ⟨_, (Scalar.solid_skipBlanks _ s).symm.trans hvalue, rfl⟩

/-! ### Values that may be missing -/

/-- Blanks in front do not matter, and what begins like the word for nothing is not read. -/
structure Reader.Wordless (p : Reader α) : Prop where
  blanks : ∀ s : Cursor, p s.skipBlanks = p s
  word : ∀ (s s' : Cursor) (a : α), s.skipBlanks.rest.head? = some 'n' → p s ≠ .ok (a, s')

theorem Reader.Wordless.map {p : Reader α} (h : p.Wordless) (f : α → β) : (f <$> p).Wordless where
  blanks s := by rw [map_eq_pure_bind, bind_apply, bind_apply, h.blanks]
  word s s' b hs heq := by
    obtain ⟨a, hp, -⟩ := map_eq_ok.1 heq
    exact h.word s s' a hs hp

theorem Scalar.wordless_integer (least most : Int) (expected : String) :
    (integer least most expected).Wordless where
  blanks := solid_skipBlanks _
  word s s' n hs heq := by
    obtain ⟨front, t, hpeek, hrest⟩ := bind_eq_ok.1 heq
    obtain rfl : s.skipBlanks.rest.head? = front := congrArg Prod.fst (Except.ok.inj hpeek)
    rw [hs] at hrest
    exact mismatch_ne_ok expected _ _ _ hrest

/-- What must be there is read also where it may be missing. -/
theorem Reader.Wordless.keepsUp_optional {p : Reader α} (h : p.Wordless) :
    KeepsUp (fun a found => found = some a) p (Scalar.optional p) := by
  intro s s' a heq
  have hread : (some <$> p) s.skipBlanks = .ok (some a, s') :=
    map_eq_ok.2 ⟨a, (h.blanks s).trans heq, rfl⟩
  refine ⟨some a, bind_eq_ok.2 ⟨s.skipBlanks.rest.head?, s.skipBlanks, rfl, ?_⟩, rfl⟩
  generalize hfront : s.skipBlanks.rest.head? = front
  split
  · exact absurd heq (h.word s s' a hfront)
  · exact hread

/-! ### Records -/

/-- Members of one name that keep up, whatever has been read before. -/
structure Field.KeepsUp (R : ρ → τ → Prop) (f : Field ρ) (g : Field τ) : Prop where
  name_eq : f.name = g.name
  needed_eq : f.needed = g.needed
  listed_eq : f.listed = g.listed
  read : ∀ x y, R x y → Reader.KeepsUp R (f.read x) (g.read y)

namespace Record

variable {R : ρ → τ → Prop} {r : Record ρ} {r' : Record τ}

/-- What is looked for is found at one place. -/
theorem find?_rel {fields : List (Field ρ)} {fields' : List (Field τ)}
    (h : List.Forall₂ (Field.KeepsUp R) fields fields') {p : Field ρ → Bool} {q : Field τ → Bool}
    (hpq : ∀ f g, Field.KeepsUp R f g → p f = q g) :
    Option.Rel (Field.KeepsUp R) (fields.find? p) (fields'.find? q) := by
  induction h with
  | nil => exact .none
  | @cons f g _ _ hfg _ ih =>
    rw [List.find?_cons, List.find?_cons, hpq f g hfg]
    split
    · exact .some hfg
    · exact ih

/-- Drafts that have seen the same members and go together. -/
structure Draft.Alike (R : ρ → τ → Prop) (d : Draft ρ) (d' : Draft τ) : Prop where
  seen_eq : d.seen = d'.seen
  value : R d.value d'.value

theorem keepsUp_readMember (h : List.Forall₂ (Field.KeepsUp R) r.fields r'.fields)
    {d : Draft ρ} {d' : Draft τ} (key : String) (hd : d.Alike R d') :
    Reader.KeepsUp (Draft.Alike R) (r.readMember d key) (r'.readMember d' key) := by
  have hfind := find?_rel h (p := (·.name == key)) (q := (·.name == key))
    fun f g hfg => by rw [hfg.name_eq]
  unfold readMember
  revert hfind
  generalize r.fields.find? _ = found, r'.fields.find? _ = found'
  intro hfind
  cases hfind with
  | none => exact .after colon fun _ => .after Skip.value fun _ => .pure hd
  | some hfg =>
    rw [hd.seen_eq]
    refine .ite (.of_stops (object_ne_ok _)) (.after colon fun _ => ?_)
    exact (hfg.read _ _ hd.value).bind fun _ _ hab => .pure ⟨rfl, hab⟩

theorem keepsUp_readObject (h : List.Forall₂ (Field.KeepsUp R) r.fields r'.fields)
    (hblank : R r.blank r'.blank) (most : Nat) :
    Reader.KeepsUp R (r.readObject most) (r'.readObject most) := by
  have hblank : Draft.Alike R ⟨[], r.blank⟩ ⟨[], r'.blank⟩ := ⟨rfl, hblank⟩
  refine (KeepsUp.foldMembers (fun _ _ key hd => keepsUp_readMember h key hd) most true
    hblank).bind fun d d' hd => ?_
  have habsent : Option.Rel (Field.KeepsUp R) (r.absent? d) (r'.absent? d') :=
    find?_rel h fun f g hfg => by rw [hfg.needed_eq, hfg.name_eq, hd.seen_eq]
  revert habsent
  generalize r.absent? d = missing, r'.absent? d' = missing'
  intro habsent
  cases habsent with
  | none => exact .pure hd.value
  | some => exact .of_stops (object_ne_ok _)

theorem keepsUp_readList {fields : List (Field ρ)} {fields' : List (Field τ)}
    (h : List.Forall₂ (Field.KeepsUp R) fields fields') (count count' read : Nat) {x : ρ} {y : τ}
    (hxy : R x y) :
    Reader.KeepsUp R (r.readList count fields read x) (r'.readList count' fields' read y) := by
  induction h generalizing read x y with
  | nil => exact .pure hxy
  | cons hfg _ ih =>
    refine .after (nextElement (read == 0)) fun more => .ite ?_ ?_
    · exact (hfg.read x y hxy).bind fun _ _ hxy => ih (read + 1) hxy
    · rw [hfg.listed_eq]
      split
      · exact .of_stops (object_ne_ok _)
      · exact ih (read + 1) hxy

/-- **A record keeps up with another one, if its members do one by one.** -/
theorem keepsUp_reader (h : List.Forall₂ (Field.KeepsUp R) r.fields r'.fields)
    (hblank : R r.blank r'.blank) : Reader.KeepsUp R r.reader r'.reader := by
  refine .settle (Scalar.keepsUp_solid fun c => ?_)
  split
  · exact .bracketed closeList fun _ => keepsUp_readList h _ _ 0 hblank
  · exact .bracketed closeObject fun most => keepsUp_readObject h hblank most
  · exact .of_stops (Scalar.mismatch_ne_ok _)

end Record

/-! ### Members as they stand -/

/-- What an object gives for a key: nothing if it is not there or `null`. -/
def given (members : List (String × Value)) (key : String) : Option Value :=
  match Value.get? members key with
  | some .null => none
  | found => found

@[simp] theorem given_nil (key : String) : given [] key = none := rfl

theorem given_cons_of_ne {members : List (String × Value)} {key name : String} (h : name ≠ key)
    (v : Value) : given ((name, v) :: members) key = given members key := by
  simp [given, Value.get?, h]

/-- What may be `null` is given if it is not. -/
theorem given_cons_optional {members : List (String × Value)} (name : String) {written : α → Value}
    (h : ∀ a, written a ≠ .null) (a : Option α) :
    given ((name, (a.map written).getD .null) :: members) name = a.map written := by
  cases a with
  | none => simp [given, Value.get?]
  | some a =>
    simp only [given, Value.get?, List.find?_cons, beq_self_eq_true, Option.map_some,
      Option.getD_some]
    split
    · rename_i heq
      exact absurd (Option.some.inj heq) (h a)
    · rfl

/-- A member read as a document. -/
def Field.bare (name : String) (needed listed : Bool) (keep : Value → τ → τ) : Field τ :=
  ⟨name, needed, listed, fun y => do pure (keep (← Reader.value) y)⟩

/-- The members of a record as they stand in a text, the last one in front. -/
def Record.bare (r : Record ρ) : Record (List (String × Value)) where
  name := r.name
  blank := []
  fields := r.fields.map fun f =>
    .bare f.name f.needed f.listed fun v members => (f.name, v) :: members

/-- A member that may be `null`, and the same as it stands. -/
theorem Field.KeepsUp.optional {R : ρ → τ → Prop} {read : Reader α} {written : α → Value}
    (h : Reader.KeepsUp (fun a v => v = written a) read Reader.value) {name : String}
    {needed listed : Bool} {put : ρ → Option α → ρ} {keep : Value → τ → τ}
    (hput : ∀ x y a, R x y → R (put x a) (keep ((a.map written).getD .null) y)) :
    Field.KeepsUp R ⟨name, needed, listed, fun x => do pure (put x (← Scalar.optional read))⟩
      (.bare name needed listed keep) where
  name_eq := rfl
  needed_eq := rfl
  listed_eq := rfl
  read x y hx := (keepsUp_value_optional h).bind fun a _ hv => .pure (hv ▸ hput x y a hx)

/-! ### Whole texts -/

/-- A text is read as a whole if nothing but blanks is left of it. -/
theorem read_eq_ok {p : Reader α} {text : String} {a : α} : read p text = .ok a ↔
    ∃ s s', p (Cursor.start text) = .ok (a, s) ∧ peekSolid s = .ok (none, s') := by
  unfold read
  dsimp only
  constructor
  · intro h
    split at h
    · rename_i hp
      cases h
      obtain ⟨a', s, hread, hrest⟩ := bind_eq_ok.1 hp
      obtain ⟨c, s', hpeek, hdone⟩ := bind_eq_ok.1 hrest
      cases c with
      | none =>
        cases hdone
        exact ⟨s, _, hread, hpeek⟩
      | some => exact absurd hdone (failAhead_ne_ok _ _ _ _)
    · cases h
    · cases h
  · rintro ⟨s, s', hread, hpeek⟩
    rw [bind_of_ok hread, bind_of_ok hpeek]
    rfl

/-- The wording of a complaint does not matter to what is read. -/
theorem mapError_eq_ok {ε ε' : Type} {x : Except ε α} {g : ε → ε'} {a : α} :
    x.mapError g = .ok a ↔ x = .ok a := by
  cases x with
  | error e => exact iff_of_false (fun h => by cases h) (fun h => by cases h)
  | ok b =>
    show Except.ok b = .ok a ↔ _
    rw [Except.ok.injEq, Except.ok.injEq]

/-- A whole text is read by whoever keeps up. -/
theorem Reader.KeepsUp.whole {R : α → β → Prop} {p : Reader α} {q : Reader β}
    (h : Reader.KeepsUp R p q) {text : String} {a : α} (ha : read p text = .ok a) :
    ∃ b, read q text = .ok b ∧ R a b := by
  obtain ⟨s, s', hp, hpeek⟩ := read_eq_ok.1 ha
  obtain ⟨b, hq, hab⟩ := h hp
  exact ⟨b, read_eq_ok.2 ⟨s, s', hq, hpeek⟩, hab⟩

end LogWeave.Json
