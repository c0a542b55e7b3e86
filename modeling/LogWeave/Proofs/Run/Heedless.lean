import LogWeave.Proofs.Run.Notices
import LogWeave.Proofs.Run.Sighting
import LogWeave.Proofs.Run.Telling

/-! A run that does not follow, and statuses.

Beside what the world does of itself, news of the services may be posted (`World.posting`). Of a run
it is written down which task moves when, and of the world only what it does of itself (`Plays`). In
a run that does not follow no reader ever looks at the bulletin, so putting aside the bulletin, what
the readers have seen there and what is posted (`Weave.aside`) leaves each step what it was. Hence
two runs in which the same tasks move at the same times come to the same, whatever stood on their
bulletins and whatever is posted meanwhile (`Weave.heeds_no_news`). -/
namespace LogWeave.Run

variable {σ τ ρ : Type}

/-- Who posts statuses beside the world. -/
structure News (τ : Type) where
  /-- What is posted next, if anything. -/
  next : (now shown : Nat) → τ → Option ((String × ServiceStatus) × τ)
  /-- When something is posted next. -/
  due : τ → Option Nat

/-- A world with news. -/
def World.posting (w : World σ) (n : News τ) : World (σ × τ) where
  openLog s service query :=
    let (opening, world) := w.openLog s.1 service query
    (opening, world, s.2)
  act now shown s :=
    match w.act now shown s.1 with
    | some (act, world) => some (act, world, s.2)
    | none => (n.next now shown s.2).map fun (post, rest) => (.post post.1 post.2, s.1, rest)
  due s := (w.due s.1).merge min (n.due s.2)
  clock := w.clock

/-- All that happens but what is posted. -/
def unposted (journal : List Happening) : List Happening := journal.filter (·.event.posted?.isNone)

/-- The floor without the bulletin and what is posted there. -/
def Floor.aside (world : ρ → σ) (f : Floor ρ) : Floor σ :=
  { f with bulletin := .new, journal := unposted f.journal, world := world f.world }

/-- The reader without what it has seen on the bulletin. -/
def Tail.aside (t : Tail) : Tail := { t with watch := t.watch.mark none }

/-! ### A reader that does not look at the bulletin -/

section Reader

variable {w : World σ} {n : News τ} {f : Floor (σ × τ)} {t : Tail}

theorem Floor.aside_note (world : ρ → σ) (f : Floor ρ) (source : String) (event : Event)
    (h : event.posted? = none) :
    (f.note source event).aside world = (f.aside world).note source event := by
  simp [Floor.aside, Floor.note, unposted, h]

namespace Tail

/-- The reader and the floor, without the bulletin. -/
abbrev besides (r : Floor (σ × τ) × Tail) : Floor σ × Tail := (r.1.aside Prod.fst, r.2.aside)

theorem besides_send (line : Time.Instant → Arrival) (next : Next) :
    besides (t.send (w.posting n) f line next) = t.aside.send w (f.aside Prod.fst) line next := rfl

theorem besides_start :
    besides (t.start (w.posting n) f) = t.aside.start w (f.aside Prod.fst) := by
  simp only [besides, start, Floor.aside_note Prod.fst _ _ (.opened _) rfl]
  rfl

theorem besides_conclude (how : StreamEnd) :
    besides (t.conclude (w.posting n) f how) = t.aside.conclude w (f.aside Prod.fst) how := by
  have hnote := f.aside_note Prod.fst t.service (.ended how) rfl
  simp only [conclude, besides_send, hnote]
  rfl

theorem besides_refuse (why : Failure) :
    besides (t.refuse (w.posting n) f why) = t.aside.refuse w (f.aside Prod.fst) why := by
  have hnote := f.aside_note Prod.fst t.service .refused rfl
  simp only [refuse, apply_ite besides, besides_send, hnote, besides]
  rfl

theorem besides_read (items : List StreamItem) (resumeAt : Option Nat) :
    (t.read (w.posting n) f items resumeAt).map besides =
      t.aside.read w (f.aside Prod.fst) items resumeAt := by
  match items with
  | [] => exact congrArg some (besides_conclude _)
  | .line line :: rest =>
    have hobserve : (t.observe line).aside = t.aside.observe line := by
      unfold observe
      split <;> rfl
    simp only [read, apply_ite (Option.map besides), Option.map_some, besides_send, hobserve]
    rfl
  | .fail why :: _ => exact congrArg some (besides_conclude _)
  | .hang :: _ => rfl
  | .pause time :: rest =>
    cases resumeAt with
    | none => rfl
    | some due =>
      simp only [read, apply_ite (Option.map besides)]
      rfl

theorem besides_deliver (a : Arrival) (next : Next) :
    (t.deliver f a next).map besides = t.aside.deliver (f.aside Prod.fst) a next := by
  cases hp : (f.channel.join t.number).put? t.number a with
  | some channel =>
    have hp' : ((f.aside Prod.fst).channel.join t.aside.number).put? t.aside.number a =
      some channel := hp
    have hnote := Floor.aside_note Prod.fst { f with channel } t.service (.sent a) rfl
    simp only [deliver, hp, hp', Option.map_some, besides, hnote]
    rfl
  | none =>
    have hp' : ((f.aside Prod.fst).channel.join t.aside.number).put? t.aside.number a = none := hp
    simp only [deliver, hp, hp', apply_ite (Option.map besides)]
    rfl

theorem besides_retire : besides (t.retire f) = t.aside.retire (f.aside Prod.fst) := by
  simp only [besides, retire, Floor.aside_note Prod.fst _ _ .returned rfl]
  rfl

theorem besides_leave (exited : Bool) :
    besides (t.leave f exited) = t.aside.leave (f.aside Prod.fst) exited := by
  simp only [leave, apply_ite besides, besides_retire]
  rfl

end Tail

/-- In a run that does not follow, a reader does the same whatever stands on the bulletin. -/
theorem Tail.step_aside (ha : t.Apt) (hf : t.follow = false) :
    (t.step (w.posting n) f).map besides = t.aside.step w (f.aside Prod.fst) := by
  have hs : t.aside.stage = t.stage := rfl
  have hhalt : (f.aside Prod.fst).isHalted = f.isHalted := rfl
  cases hstage : t.stage with
  | done => simp [step, hs, hstage]
  | dormant => simp [Apt, hstage, hf] at ha
  | leaving exited => simp [step, hs, hstage, besides_leave]
  | pausing resumeAt => simp [Apt, hstage, hf] at ha
  | starting =>
    simp only [step, hs, hstage, hhalt]
    split
    · rfl
    · exact congrArg some besides_start
  | opening readyAt outcome =>
    simp only [step, hs, hstage, hhalt]
    split
    · rfl
    · cases outcome with
      | ok items => simp only [apply_ite (Option.map besides)]; rfl
      | error why =>
        simp only [apply_ite (Option.map besides), Option.map_some, besides_refuse]
        rfl
  | reading items resumeAt =>
    simp only [step, hs, hstage, hhalt]
    split
    · rfl
    · exact besides_read _ _
  | sending a next =>
    simp only [step, hs, hstage, hhalt]
    split
    · rfl
    · simp only [apply_ite (Option.map besides), besides_deliver]
      rfl

end Reader

/-! ### Who moves when -/

/-- Which task moves, and when. -/
structure Beat where
  time : Nat
  task : Nat
  deriving DecidableEq, Repr

namespace Weave

/-- A run without what stands on the bulletin and is posted there, at a time. -/
def aside (world : ρ → σ) (time : Nat) (v : Weave ρ) : Weave σ :=
  { v with
    floor := { v.floor.aside world with now := time }
    tails := v.tails.map Tail.aside }

/-- The world has nothing to do of itself: what it does is to post news. -/
def isNews (w : World σ) (v : Weave (σ × τ)) (k : Nat) : Bool :=
  k == 0 && (w.act v.floor.now v.collator.sink.shown v.floor.world.1).isNone

/-- A run, with who moves when. Of the world it is written down what it does of itself; news are
posted at any time in between. -/
inductive Plays (w : World σ) (n : News τ) (start : Weave (σ × τ)) :
    List Beat → Weave (σ × τ) → Prop where
  | start : Plays w n start [] start
  | move {beats : List Beat} {v v' : Weave (σ × τ)} {k : Nat} (h : Plays w n start beats v)
    (hk : k < (schedule (w.posting n)).tasks v)
    (hs : (schedule (w.posting n)).step v k = some v') (hown : isNews w v k = false) :
    Plays w n start (beats ++ [⟨v.floor.now, k⟩]) v'
  | news {beats : List Beat} {v v' : Weave (σ × τ)} (h : Plays w n start beats v)
    (hs : (schedule (w.posting n)).step v 0 = some v') (hnews : isNews w v 0 = true) :
    Plays w n start beats v'
  | elapse {beats : List Beat} {v : Weave (σ × τ)} {time : Nat} (h : Plays w n start beats v)
    (ht : v.floor.now ≤ time) : Plays w n start beats ((schedule (w.posting n)).wait v time)

/-- Two runs have come to the same. -/
structure Alike {ρ₁ ρ₂ : Type} (v₁ : Weave ρ₁) (v₂ : Weave ρ₂) : Prop where
  /-- The same logs have been opened at the same times in the same way, and the same lines sent. -/
  happened : unposted v₁.floor.journal = unposted v₂.floor.journal
  /-- The same text has been written in the same flushes. -/
  sink : v₁.collator.sink = v₂.collator.sink
  outcome : v₁.collator.outcome = v₂.collator.outcome
  isDone : v₁.isDone = v₂.isDone

/-! ### Steps without the bulletin -/

section Aside

variable {w : World σ} {n : News τ} {start v v' : Weave (σ × τ)} {beats : List Beat} {k : Nat}

theorem isDone_aside (world : ρ → σ) (time : Nat) (v : Weave ρ) :
    (v.aside world time).isDone = v.isDone := by
  simp only [isDone, aside, List.all_map]
  rfl

theorem Alike.of_aside {ρ₁ ρ₂ : Type} {v₁ : Weave ρ₁} {v₂ : Weave ρ₂} {world₁ : ρ₁ → σ}
    {world₂ : ρ₂ → σ} {time : Nat} (h : v₁.aside world₁ time = v₂.aside world₂ time) :
    Alike v₁ v₂ where
  happened := congrArg (·.floor.journal) h
  sink := congrArg (·.collator.sink) h
  outcome := congrArg (·.collator.outcome) h
  isDone := by rw [← isDone_aside world₁ time v₁, h, isDone_aside]

/-- A run begins as if nothing were known of any service. -/
theorem aside_new (world : ρ → σ) (r : Request) (bulletin : Bulletin) (sink : Sink)
    (cancelled : Bool) (s : ρ) :
    (new r bulletin sink cancelled s).aside world 0 = new r .new sink cancelled (world s) := by
  have htails : (r.services.mapIdx (Tail.new r.streaming r.isShared bulletin)).map Tail.aside =
      r.services.mapIdx (Tail.new r.streaming r.isShared .new) := by
    refine List.ext_getElem? fun i => ?_
    simp only [List.getElem?_map, List.getElem?_mapIdx, Option.map_map]
    rfl
  simp only [aside, new, htails]
  rfl

theorem Plays.drifts (h : Plays w n start beats v) :
    (schedule (w.posting n)).Drifts start v := by
  induction h with
  | start => exact .refl
  | move _ hk hs _ ih => exact ih.tail (.move _ hk hs)
  | news _ hs _ ih => exact ih.tail (.move 0 (Nat.succ_pos _) hs)
  | elapse _ ht ih => exact ih.tail (.elapse ht)

theorem exists_plays (h : (schedule (w.posting n)).Drifts start v) :
    ∃ beats, Plays w n start beats v := by
  induction h with
  | refl => exact ⟨[], .start⟩
  | tail _ hd ih =>
    obtain ⟨beats, hplays⟩ := ih
    cases hd with
    | @move _ k hk hs =>
      cases hown : isNews w _ k with
      | false => exact ⟨_, hplays.move hk hs hown⟩
      | true =>
        obtain rfl : k = 0 := by
          simp only [isNews, Bool.and_eq_true, beq_iff_eq] at hown
          exact hown.1
        exact ⟨beats, hplays.news hs hown⟩
    | elapse ht => exact ⟨beats, hplays.elapse ht⟩

/-- Putting aside what has been put aside already changes nothing. -/
theorem aside_aside (world : ρ → σ) (time time' : Nat) (v : Weave ρ) :
    (v.aside world time).aside id time' = v.aside world time' := by
  have htail (t : Tail) : t.aside.aside = t.aside := rfl
  simp [aside, Floor.aside, unposted, List.filter_filter, htail]

/-- What the world does is done just so without the bulletin; what it posts is put aside. -/
theorem aside_apply (world : ρ → σ) (time : Nat) (v : Weave ρ) (act : Act) (s : ρ) :
    { v with floor := { v.floor with world := s }.apply act }.aside world time =
      { v.aside world v.floor.now with
        floor := { v.floor.aside world with world := world s }.apply act }.aside id time := by
  cases act <;> simp [aside, Floor.aside, Floor.apply, Floor.note, unposted, Event.posted?,
    List.filter_filter, Function.comp_def, Tail.aside, Watch.mark]

/-- News change nothing but what is put aside. -/
theorem aside_news (hs : (schedule (w.posting n)).step v 0 = some v')
    (hnews : isNews w v 0 = true) : v'.aside Prod.fst 0 = v.aside Prod.fst 0 := by
  have hnone : w.act v.floor.now v.collator.sink.shown v.floor.world.1 = none := by
    simpa [isNews] using hnews
  simp only [schedule, worldStep, Floor.worldStep, World.posting, hnone, if_true, Option.map_map,
    Option.map_eq_some_iff] at hs
  obtain ⟨⟨post, rest⟩, -, rfl⟩ := hs
  simp [aside, Floor.aside, Floor.apply, Floor.note, unposted, Event.posted?]

theorem worldStep_aside (hown : isNews w v 0 = false) :
    (v.worldStep (w.posting n)).map (aside Prod.fst 0) =
      ((v.aside Prod.fst v.floor.now).worldStep w).map (aside id 0) := by
  obtain ⟨⟨act, s⟩, hact⟩ := Option.isSome_iff_exists.1
    (show (w.act v.floor.now v.collator.sink.shown v.floor.world.1).isSome = true by
      simpa [isNews] using hown)
  have hact' : w.act (v.aside Prod.fst v.floor.now).floor.now
      (v.aside Prod.fst v.floor.now).collator.sink.shown
      (v.aside Prod.fst v.floor.now).floor.world = some (act, s) := hact
  simp only [worldStep, Floor.worldStep, World.posting, hact, hact', Option.map_some]
  exact congrArg some (aside_apply Prod.fst 0 v act (s, v.floor.world.2))

theorem tailStep_aside (hv : ∀ t ∈ v.tails, t.Apt ∧ t.follow = false) (i : Nat) :
    (v.tailStep (w.posting n) i).map (aside Prod.fst v.floor.now) =
      (v.aside Prod.fst v.floor.now).tailStep w i := by
  have htails : (v.aside Prod.fst v.floor.now).tails[i]? = v.tails[i]?.map Tail.aside :=
    List.getElem?_map ..
  cases hi : v.tails[i]? with
  | none => simp [tailStep, htails, hi]
  | some t =>
    obtain ⟨ha, hf⟩ := hv t (List.mem_of_getElem? hi)
    have hstep : t.aside.step w (v.aside Prod.fst v.floor.now).floor =
      (t.step (w.posting n) v.floor).map Tail.besides := (Tail.step_aside ha hf).symm
    simp only [tailStep, htails, hi, Option.map_some, Option.bind_eq_bind, Option.bind_some, hstep]
    cases hx : t.step (w.posting n) v.floor with
    | none => rfl
    | some x =>
      have hnow : x.1.now = v.floor.now := (Tail.turn_of_step hx).floor_eq.1
      simp [aside, Floor.aside, List.map_set, hnow]

theorem watchStep_aside :
    v.watchStep.map (aside Prod.fst v.floor.now) =
      (v.aside Prod.fst v.floor.now).watchStep := by
  simp only [watchStep, apply_ite (Option.map _)]
  rfl

theorem printStep_aside :
    v.printStep.map (aside Prod.fst v.floor.now) =
      (v.aside Prod.fst v.floor.now).printStep := by
  simp only [printStep, Option.map_map]
  rfl

theorem step_aside (n : News τ) (hv : ∀ t ∈ v.tails, t.Apt ∧ t.follow = false)
    (hown : isNews w v k = false) :
    ((schedule (w.posting n)).step v k).map (aside Prod.fst 0) =
      ((schedule w).step (v.aside Prod.fst v.floor.now) k).map (aside id 0) := by
  have hlength : (v.aside Prod.fst v.floor.now).tails.length = v.tails.length :=
    List.length_map _
  by_cases hk : k = 0
  · subst hk
    exact worldStep_aside hown
  · have hstep : ((schedule (w.posting n)).step v k).map (aside Prod.fst v.floor.now) =
        (schedule w).step (v.aside Prod.fst v.floor.now) k := by
      simp only [schedule, hk, if_false, hlength, apply_ite (Option.map _), tailStep_aside hv,
        watchStep_aside, printStep_aside]
    rw [← hstep, Option.map_map]
    congr 1
    funext u
    exact (aside_aside ..).symm

/-! ### Two runs -/

/-- What becomes of a run without statuses when a task moves. -/
def play (w : World σ) (v : Weave σ) (b : Beat) : Option (Weave σ) :=
  ((schedule w).step ((schedule w).wait v b.time) b.task).map (aside id 0)

/-- The readers of a run that does not follow do not look at the bulletin. -/
theorem heedless_of_drifts {r : Request} (hf : r.streaming.follows = false) {ρ : Type}
    {w : World ρ} {bulletin : Bulletin} {sink : Sink} {cancelled : Bool} {s : ρ} {v : Weave ρ}
    (h : (schedule w).Drifts (new r bulletin sink cancelled s) v) :
    ∀ t ∈ v.tails, t.Apt ∧ t.follow = false := by
  have hwoven := Woven.drifts h
  exact fun t ht => ⟨(Told.drifts h).apt t ht, hwoven.follow_eq (hwoven.follows.trans hf) ht⟩

section Runs

variable {r : Request} (hf : r.streaming.follows = false) {bulletin : Bulletin} {sink : Sink}
  {cancelled : Bool} {s : σ × τ}
include hf

/-- What a run comes to can be told from who moves when. -/
theorem Plays.foldlM_eq (h : Plays w n (new r bulletin sink cancelled s) beats v) :
    beats.foldlM (play w) (new r .new sink cancelled s.1) = some (v.aside Prod.fst 0) := by
  induction h with
  | start => exact congrArg some (aside_new Prod.fst ..).symm
  | @move beats u u' k h hk hs hown ih =>
    have hstep : play w (u.aside Prod.fst 0) ⟨u.floor.now, k⟩ = some (u'.aside Prod.fst 0) := by
      rw [play, ← Option.map_some, ← hs, step_aside n (heedless_of_drifts hf h.drifts) hown]
      rfl
    rw [List.foldlM_append, ih]
    simp only [List.foldlM_cons, List.foldlM_nil, Option.bind_eq_bind, Option.bind_some, hstep]
    rfl
  | news h hs hnews ih => rw [ih, aside_news hs hnews]
  | elapse h ht ih => exact ih

/-- Whatever stands on the bulletin and is posted, the same tasks can move at the same times. -/
theorem Plays.exists_companion {τ' : Type} (n' : News τ') (bulletin' : Bulletin) (x : τ')
    (h : Plays w n (new r bulletin sink cancelled s) beats v) :
    ∃ v', Plays w n' (new r bulletin' sink cancelled (s.1, x)) beats v' ∧
      v'.aside Prod.fst 0 = v.aside Prod.fst 0 ∧ v'.floor.now ≤ v.floor.now := by
  induction h with
  | start => exact ⟨_, .start, by rw [aside_new, aside_new], le_rfl⟩
  | @move beats u u₁ k h hk hs hown ih =>
    obtain ⟨v, hv, haside, hle⟩ := ih
    -- The companion waits for the same moment.
    let v₀ := (schedule (w.posting n')).wait v u.floor.now
    have hplays : Plays w n' (new r bulletin' sink cancelled (s.1, x)) beats v₀ := hv.elapse hle
    have hbeside : v₀.aside Prod.fst v₀.floor.now = u.aside Prod.fst u.floor.now :=
      congrArg (fun v => (schedule w).wait v u.floor.now) haside
    have hown₀ : isNews w v₀ k = false := by
      rw [← hown]
      exact congrArg (fun v => k == 0 &&
        (w.act v.floor.now v.collator.sink.shown v.floor.world).isNone) hbeside
    have hk₀ : k < (schedule (w.posting n')).tasks v₀ := by
      have hlength := congrArg (·.tails.length) hbeside
      simp only [aside, List.length_map] at hlength
      exact hk.trans_eq (congrArg (· + 3) hlength.symm)
    have hstep := step_aside n' (heedless_of_drifts hf hplays.drifts) hown₀
    rw [hbeside, ← step_aside n (heedless_of_drifts hf h.drifts) hown, hs] at hstep
    obtain ⟨v₁, hs₁, heq⟩ := Option.map_eq_some_iff.1 hstep
    have hnow := (now_of_step hs₁).1.trans (now_of_step hs).1.symm
    exact ⟨v₁, hplays.move hk₀ hs₁ hown₀, heq, hnow.le⟩
  | news _ hs hnews ih =>
    obtain ⟨v, hv, haside, hle⟩ := ih
    exact ⟨v, hv, haside.trans (aside_news hs hnews).symm, hle.trans (now_of_step hs).1.ge⟩
  | elapse _ ht ih =>
    obtain ⟨v, hv, haside, hle⟩ := ih
    exact ⟨v, hv, haside, hle.trans ht⟩

end Runs

end Aside

/-- **Statuses are of no account to a run that does not follow.** Take two bulletins, and whatever
is posted there. Every run under the one shows who moves when; under the other the same tasks can
move at the same times; and whenever they do, both runs come to the same. -/
theorem heeds_no_news {τ₁ τ₂ : Type} {r : Request} (hf : r.streaming.follows = false)
    (w : World σ) (sink : Sink) (cancelled : Bool) (s : σ) (bulletin₁ bulletin₂ : Bulletin)
    (n₁ : News τ₁) (n₂ : News τ₂) (x₁ : τ₁) (x₂ : τ₂) {v₁ : Weave (σ × τ₁)}
    (h : (schedule (w.posting n₁)).Drifts (new r bulletin₁ sink cancelled (s, x₁)) v₁) :
    (∃ beats, Plays w n₁ (new r bulletin₁ sink cancelled (s, x₁)) beats v₁) ∧
      ∀ beats, Plays w n₁ (new r bulletin₁ sink cancelled (s, x₁)) beats v₁ →
        (∃ v₂, Plays w n₂ (new r bulletin₂ sink cancelled (s, x₂)) beats v₂) ∧
          ∀ v₂, Plays w n₂ (new r bulletin₂ sink cancelled (s, x₂)) beats v₂ → Alike v₁ v₂ := by
  refine ⟨exists_plays h, fun beats h₁ => ⟨?_, fun v₂ h₂ => ?_⟩⟩
  · obtain ⟨v₂, h₂, -⟩ := h₁.exists_companion hf n₂ bulletin₂ x₂
    exact ⟨v₂, h₂⟩
  · have heq := (h₁.foldlM_eq hf).symm.trans (h₂.foldlM_eq hf)
    exact .of_aside (Option.some.inj heq)

/-- What is posted, and from when on. -/
abbrev Timetable := List (Nat × String × ServiceStatus)

/-- News by a timetable. -/
def Timetable.news : News Timetable where
  next now _ posts :=
    match posts with
    | (time, post) :: rest => if time ≤ now then some (post, rest) else none
    | [] => none
  due posts := posts.head?.map Prod.fst

/-- A service exits and runs again. -/
def comings : Timetable :=
  [(10, "web", ⟨.exited, none, none, none⟩), (50, "web", ⟨.running, some .epoch, none, none⟩)]

/-- A world whose streams bring a line and stay open. -/
def steady : World Unit where
  openLog _ _ _ := (.stream [.line "2024-03-01T10:00:05Z b", .hang], ())
  act _ _ _ := none
  due _ := none
  clock _ := ⟨1709287206, 0, valid_clock⟩

/-- The log of earlier instances, which is not followed even if that is asked for. -/
def earlierRequest : Request :=
  { hastyRequest with streaming := ⟨true, true, 100, 500, 1000, 2⟩ }

def earlierStart : Weave (Unit × Timetable) :=
  new earlierRequest .new .endless false ((), comings)

/-- Where the window closes. -/
def earlierBrink : Weave (Unit × Timetable) :=
  (schedule (steady.posting Timetable.news)).runFrom 200 10 0 earlierStart

theorem drifts_earlierBrink :
    (schedule (steady.posting Timetable.news)).Drifts earlierStart earlierBrink :=
  ((schedule (steady.posting Timetable.news)).reachable_runFrom 200 10 0 .start).drifts

/-- A state of that run after its flush. -/
theorem drifts_earlier : ∃ v,
    (schedule (steady.posting Timetable.news)).Drifts earlierStart v ∧
      v.floor.journal.filterMap (·.event.posted?) =
        [⟨.exited, none, none, none⟩, ⟨.running, some .epoch, none, none⟩] ∧
      v.collator.sink.flushes = [⟨100, "b\n"⟩] := by
  have hopen : earlierBrink.collator.outcome = none :=
    Option.isNone_iff_eq_none.1 (by decide +kernel)
  have hbatch : earlierBrink.collator.batch =
      [.line "web" "2024-03-01T10:00:05Z b" (steady.clock 0)] := by decide +kernel
  have hsink : earlierBrink.collator.sink = .endless := by decide +kernel
  have hshared : earlierBrink.collator.shared = false := by decide +kernel
  have hnow : earlierBrink.floor.now = 100 := by decide +kernel
  have hrow : rendering false [.line "web" "2024-03-01T10:00:05Z b" (steady.clock 0)] =
      "b\n" := by
    simp only [rendering, collate, List.map_singleton, List.mergeSort_singleton]
    decide +kernel
  obtain ⟨v, hdrift, hjournal, -, hflushes⟩ := drift_flush (steady.posting Timetable.news) hopen
    (by decide +kernel) (by decide +kernel) (by decide +kernel) (by decide +kernel)
    (by rw [hsink]; rfl) (by rw [hsink]; rfl) (by rw [hbatch]; decide)
  refine ⟨v, drifts_earlierBrink.tail hdrift, ?_, ?_⟩
  · rw [hjournal]
    decide +kernel
  · rw [hflushes, hsink, hbatch, hshared, hnow, hrow]
    rfl

/-- The same request, of a service that is known to have exited. -/
def knownStart : Weave (Unit × Timetable) :=
  new earlierRequest (Bulletin.new.post "web" ⟨.exited, none, some 1, none⟩) .endless false ((), [])

/-- A service exits and runs again while its earlier log is printed; or all that is ever known of it
is that it has exited. -/
theorem heeds_no_news_comings :
    ∃ v₁ beats, earlierRequest.streaming.follows = false ∧
      (schedule (steady.posting Timetable.news)).Drifts earlierStart v₁ ∧
      v₁.floor.journal.filterMap (·.event.posted?) =
        [⟨.exited, none, none, none⟩, ⟨.running, some .epoch, none, none⟩] ∧
      v₁.collator.sink.flushes = [⟨100, "b\n"⟩] ∧
      Plays steady Timetable.news earlierStart beats v₁ ∧
      (∃ v₂, Plays steady Timetable.news knownStart beats v₂) ∧
      ∀ v₂, Plays steady Timetable.news knownStart beats v₂ → Alike v₁ v₂ := by
  obtain ⟨v₁, hv₁, hposts, hflushes⟩ := drifts_earlier
  obtain ⟨⟨beats, hplays⟩, hall⟩ := heeds_no_news rfl steady .endless false () .new
    (Bulletin.new.post "web" ⟨.exited, none, some 1, none⟩) Timetable.news Timetable.news
    comings [] hv₁
  exact ⟨v₁, beats, rfl, hv₁, hposts, hflushes, hplays, hall beats hplays⟩

end Weave

end LogWeave.Run
