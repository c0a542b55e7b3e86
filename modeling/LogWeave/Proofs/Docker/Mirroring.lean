import LogWeave.Proofs.Docker.Framing
import LogWeave.Proofs.Docker.Patrolling

/-! What a patrol posts is what was told last.

An inspection finds the container of a service and tells its status (`Client.Tells`), or fails. Each
round looks at every service once and in order, whatever came of the looks before. So at any time
the bulletin says of a service what was told of it last, a look that fails changes nothing, and who
follows a service is notified when what is told of it differs from what was told before
(`Duty.mirrors`). -/
namespace LogWeave

@[simp] theorem Bulletin.isUp_post (b : Bulletin) (service : String) (status : ServiceStatus) :
    (b.post service status).isUp = b.isUp := by
  unfold post
  split <;> rfl

/-- Who follows a service is notified of a post of it, if that is news. -/
def Watch.isNotified (w : Watch) (b : Bulletin) : Run.Act → Bool
  | .post service status => w.service == service && b.isNews service status
  | .cancel | .nothing => false

namespace Docker

variable {ε : Type}

namespace Client

variable (c : Client ε) (service : String) {e e' : ε} {status : ServiceStatus}

/-- Where a service is found: in the first container with an id that carries its label; if there is
none, in the container of that name. -/
inductive Finds : ε → String → ε → Prop
  | labelled {e e' : ε} {containers : List Summary} {id : String}
      (hlist : c.engine.list e (c.labels (some service)) = (.ok containers, e'))
      (hid : containers.findSome? Summary.id = some id) : Finds e id e'
  | named {e e' e'' : ε} {containers : List Summary} {found : Inspection}
      (hlist : c.engine.list e (c.labels (some service)) = (.ok containers, e'))
      (hnone : containers.findSome? Summary.id = none)
      (hfound : c.engine.inspect e' service = (.ok found, e'')) :
      Finds e (found.id.getD service) e''

/-- An inspection that succeeds: the container of the service is found and inspected, and its state
is the status of the service. -/
inductive Tells : ε → ServiceStatus → ε → Prop
  | inspected {e e' e'' : ε} {container : String} {found : Inspection}
      (hfind : c.Finds service e container e')
      (hfound : c.engine.inspect e' container = (.ok found, e'')) :
      Tells e ((found.state.map State.status).getD .unheard) e''

end Client

/-- What is asked after a question that is answered. -/
theorem Asking.bind_eq_ok {α β : Type} {ask : Asking ε α} {next : α → Asking ε β} {e e'' : ε}
    {b : β} : (ask >>= next) e = (.ok b, e'') ↔
      ∃ a e', ask e = (.ok a, e') ∧ next a e' = (.ok b, e'') := by
  constructor
  · intro h
    rcases hask : ask e with ⟨why | a, e'⟩
    · have hstop : (ask >>= next) e = (.error why, e') := by
        show ExceptT.bindCont next (ask e).1 (ask e).2 = _
        rw [hask]
        rfl
      cases hstop.symm.trans h
    · rw [bind_ok hask] at h
      exact ⟨a, e', rfl, h⟩
  · rintro ⟨a, e', hask, h⟩
    rw [bind_ok hask, h]

theorem Asking.of_eq_ok {α : Type} {doing : String} {ask : ε → Except Refusal α × ε} {e e' : ε}
    {a : α} : Asking.of doing ask e = (.ok a, e') ↔ ask e = (.ok a, e') := by
  unfold Asking.of
  rcases ask e with ⟨refusal | a, e''⟩
  · exact ⟨nofun, nofun⟩
  · exact ⟨fun h => by cases h; rfl, fun h => by cases h; rfl⟩

/-- A question that goes on whatever the answer. -/
theorem Asking.any_eq_ok {α : Type} (ask : ε → Except Refusal α × ε) {e e' : ε}
    {answer : Except Refusal α} :
    (fun e => let (a, e) := ask e; (.ok a, e) : Asking ε (Except Refusal α)) e =
      (.ok answer, e') ↔ ask e = (answer, e') := by
  show (Except.ok (ask e).1, (ask e).2) = _ ↔ _
  exact ⟨fun h => by cases h; rfl, fun h => by rw [h]⟩

namespace Client

variable {c : Client ε} {service : String} {e e' : ε} {status : ServiceStatus} {container : String}

theorem list_eq_ok {wanted : Option String} {containers : List Summary} :
    c.list wanted e = (.ok containers, e') ↔
      c.engine.list e (c.labels wanted) = (.ok containers, e') :=
  Asking.of_eq_ok

theorem resolve_eq_ok : c.resolve service e = (.ok container, e') ↔
    c.Finds service e container e' := by
  let ask (e : ε) := c.engine.inspect e service
  unfold resolve
  rw [Asking.bind_eq_ok]
  constructor
  · rintro ⟨containers, asked, hlist, h⟩
    rw [list_eq_ok] at hlist
    cases hid : containers.findSome? Summary.id with
    | some id =>
      simp only [hid] at h
      cases h
      exact .labelled hlist hid
    | none =>
      simp only [hid] at h
      obtain ⟨answer, inspected, hinspect, h⟩ := Asking.bind_eq_ok.1 h
      cases answer with
      | ok found =>
        cases h
        exact .named hlist hid ((Asking.any_eq_ok ask).1 hinspect)
      | error refusal =>
        dsimp only at h
        split at h <;> cases h
  · rintro (⟨hlist, hid⟩ | ⟨hlist, hnone, hfound⟩)
    · refine ⟨_, _, list_eq_ok.2 hlist, ?_⟩
      rw [hid]
      rfl
    · refine ⟨_, _, list_eq_ok.2 hlist, ?_⟩
      simp only [hnone]
      exact Asking.bind_eq_ok.2 ⟨.ok _, _, (Asking.any_eq_ok ask).2 hfound, rfl⟩

theorem inspect_eq_ok : c.inspect service e = (.ok status, e') ↔ c.Tells service e status e' := by
  unfold inspect
  simp only [Asking.bind_eq_ok, resolve_eq_ok, Asking.of_eq_ok]
  constructor
  · rintro ⟨container, asked, hfind, found, inspected, hfound, h⟩
    cases h
    exact .inspected hfind hfound
  · rintro ⟨hfind, hfound⟩
    exact ⟨_, _, hfind, _, _, hfound, rfl⟩

end Client

namespace Look

variable {b : Bulletin} {look : Look} {looks : List Look}

/-- What a patrol does to the bulletin after a look. -/
def act (l : Look) : Run.Act :=
  match l.2 with
  | .ok status => .post l.1 status
  | .error _ => .nothing

theorem isUp_posted (b : Bulletin) (look : Look) : (look.posted b).isUp = b.isUp := by
  unfold posted
  split
  · exact b.isUp_post look.1 _
  · rfl

theorem last_posted (hup : b.isUp = true) (look : Look) (service : String) :
    (look.posted b).last service =
      if look.1 = service then look.2.toOption.getD (b.last service) else b.last service := by
  unfold posted
  cases hlook : look.2 with
  | ok status =>
    simp only [Bulletin.last_post b hup, Except.toOption, Option.getD_some, eq_comm]
  | error why => simp [Except.toOption]

/-- The statuses that looks have told of a service, in order. -/
def told (service : String) (looks : List Look) : List ServiceStatus :=
  looks.filterMap fun look => if look.1 = service then look.2.toOption else none

/-- What looks have told of a service last; if they have told nothing, what was known before. -/
def lastTold (b : Bulletin) (service : String) (looks : List Look) : ServiceStatus :=
  (told service looks).getLast?.getD (b.last service)

theorem lastTold_concat (b : Bulletin) (service : String) (looks : List Look) (look : Look) :
    lastTold b service (looks ++ [look]) =
      if look.1 = service then look.2.toOption.getD (lastTold b service looks)
      else lastTold b service looks := by
  unfold lastTold told
  rw [List.filterMap_append]
  by_cases hservice : look.1 = service
  · cases hlook : look.2 <;> simp [hservice, hlook, Except.toOption]
  · simp [hservice]

theorem isUp_foldl_posted (b : Bulletin) (looks : List Look) :
    (looks.foldl posted b).isUp = b.isUp := by
  induction looks using List.reverseRecOn with
  | nil => rfl
  | append_singleton looks look ih => rw [List.foldl_concat, isUp_posted, ih]

/-- Posting look by look leaves what was told last. -/
theorem last_foldl_posted (hup : b.isUp = true) (looks : List Look) (service : String) :
    (looks.foldl posted b).last service = lastTold b service looks := by
  induction looks using List.reverseRecOn with
  | nil => rfl
  | append_singleton looks look ih =>
    have hstill : (looks.foldl posted b).isUp = true := (isUp_foldl_posted b looks).trans hup
    rw [List.foldl_concat, last_posted hstill, ih, lastTold_concat]

/-- Nothing is told of a service that is not looked at. -/
theorem lastTold_of_notMem (b : Bulletin) {service : String}
    (h : service ∉ looks.map Prod.fst) : lastTold b service looks = b.last service := by
  have hnone : told service looks = [] := by
    refine List.filterMap_eq_nil_iff.2 fun look hlook => if_neg ?_
    rintro rfl
    exact h (List.mem_map_of_mem hlook)
  rw [lastTold, hnone]
  rfl

end Look

namespace Duty

/-- Whoever is notified finds something changed, and nobody else does. -/
theorem isNotified_iff {b : Bulletin} (hup : b.isUp = true) (act : Run.Act) (w : Watch) :
    w.isNotified b act = true ↔ (Patrol.post b act).last w.service ≠ b.last w.service := by
  cases act with
  | post service status =>
    simp only [Watch.isNotified, Bulletin.isNews, hup, Patrol.post, Bulletin.last_post b hup]
    by_cases hservice : w.service = service
    · simp [hservice, @eq_comm _ status]
    · simp [hservice]
  | cancel | nothing => simp [Watch.isNotified, Patrol.post]

variable {c : Client ε} {d d' : Duty ε} {services : List String} {interval : Nat} {b : Bulletin}
  {e : ε}

/-- The looks so far, and those the round has ahead, are so many rounds. -/
def InRounds (services : List String) (d : Duty ε) : Prop :=
  ∃ n, d.looks.map Prod.fst ++ d.patrol.ahead = (List.replicate n services).flatten

theorem InRounds.move (h : Move c d d') (hi : d.InRound services) (hr : d.InRounds services) :
    d'.InRounds services := by
  obtain ⟨n, hn⟩ := hr
  cases h with
  | step h =>
    obtain ⟨look, rest, hlook, hahead, rfl, -⟩ | ⟨hahead, -, -, -, rfl⟩ := step_cases h
    · refine ⟨n, ?_⟩
      rw [← hn, hahead]
      simp [after, hlook]
    · refine ⟨n + 1, ?_⟩
      rw [hahead, List.append_nil] at hn
      rw [List.replicate_succ', List.flatten_append, ← hn]
      simp [after, ahead, hahead, hi.all]
  | engine | elapse | stop => exact ⟨n, hn⟩

theorem inRounds (h : Reaches c (start services interval b e) d) : d.InRounds services := by
  induction h with
  | refl => exact ⟨0, rfl⟩
  | tail h hm ih => exact ih.move hm (inRound h)

/-- The bulletin is what the looks have posted. -/
theorem bulletin_eq (h : Reaches c (start services interval b e) d) :
    d.bulletin = d.looks.foldl Look.posted b := by
  induction h with
  | refl => rfl
  | tail _ hm ih =>
    cases hm with
    | step hstep =>
      obtain ⟨look, rest, hlook, -, -, hpost⟩ | ⟨hahead, -, -, rfl, -⟩ := step_cases hstep
      · rw [after, hlook, List.foldl_concat, ← ih]
        exact hpost
      · simpa [after, ahead, hahead, Patrol.post] using ih
    | engine | elapse | stop => exact ih

/-- The bulletin says what was told last, and what it said before where nothing was told. -/
theorem last_eq (hup : b.isUp = true) (h : Reaches c (start services interval b e) d)
    (service : String) : d.bulletin.last service = Look.lastTold b service d.looks := by
  rw [bulletin_eq h, Look.last_foldl_posted hup]

/-- A patrol does what its look says. -/
theorem act_eq {service : String} {rest : List String} {act : Run.Act} {patrol : Patrol}
    {engine : ε} (h : d.patrol.step c d.now d.stopped d.engine = some (act, patrol, engine))
    (hahead : d.patrol.ahead = service :: rest) :
    act = Look.act (service, (c.inspect service d.engine).1) := by
  simp only [Patrol.step, hahead, Patrol.look, Option.some.injEq, Prod.mk.injEq] at h
  rw [← h.1]
  rcases c.inspect service d.engine with ⟨_ | status, e'⟩ <;> rfl

/-- A patrol goes on within its round whatever came of its looks, and begins a round when one is
due, unless it is to stop. -/
theorem step_ne_none_iff : d.patrol.step c d.now d.stopped d.engine ≠ none ↔
    d.patrol.ahead ≠ [] ∨ d.stopped = false ∧ d.patrol.due ≤ d.now := by
  unfold Patrol.step
  split
  · rename_i hahead
    simp [hahead]
  · rename_i hahead
    simp [hahead]

/-- A look that a patrol makes, and what it does then. -/
structure Looks (c : Client ε) (b : Bulletin) (d : Duty ε) (look : Look) (d' : Duty ε) : Prop where
  made : ∃ patrol engine,
    d.patrol.step c d.now d.stopped d.engine = some (look.act, patrol, engine) ∧
    d' = d.after c look.act patrol engine
  /-- It is kept behind those before it. -/
  kept : d'.looks = d.looks ++ [look]
  /-- It has a status if the engine tells one. -/
  told : ∀ status, look.2 = .ok status ↔ ∃ asked, c.Tells look.1 d.engine status asked
  /-- If it has none, it changes nothing. -/
  failed : (∀ status, look.2 ≠ .ok status) → d'.bulletin = d.bulletin
  /-- Who follows the service is notified of a status that differs from what was told before. -/
  notified : ∀ w : Watch, w.isNotified d.bulletin look.act = true ↔
    w.service = look.1 ∧ ∃ status, look.2 = .ok status ∧ status ≠ Look.lastTold b look.1 d.looks
  /-- So who is notified finds something changed, and nobody else does. -/
  changed : ∀ w : Watch, w.isNotified d.bulletin look.act = true ↔
    d'.bulletin.last w.service ≠ d.bulletin.last w.service

theorem looks_of_step (hup : b.isUp = true) (h : Reaches c (start services interval b e) d)
    {service : String} {rest : List String} {act : Run.Act} {patrol : Patrol} {engine : ε}
    (hstep : d.patrol.step c d.now d.stopped d.engine = some (act, patrol, engine))
    (hahead : d.patrol.ahead = service :: rest) :
    d.Looks c b (service, (c.inspect service d.engine).1) (d.after c act patrol engine) := by
  have hstill : d.bulletin.isUp = true := by rw [bulletin_eq h, Look.isUp_foldl_posted, hup]
  obtain rfl := act_eq hstep hahead
  refine ⟨⟨patrol, engine, hstep, rfl⟩, by simp [after, ahead, hahead], fun status => ?_, ?_, ?_,
    isNotified_iff hstill _⟩
  · simp only [← Client.inspect_eq_ok]
    rcases c.inspect service d.engine with ⟨answer, asked⟩
    constructor
    · intro h
      exact ⟨asked, by rw [← h]⟩
    · rintro ⟨later, h⟩
      exact congrArg Prod.fst h
  · intro hfailed
    cases hanswer : (c.inspect service d.engine).1 with
    | ok status => exact absurd hanswer (hfailed status)
    | error why => rfl
  · intro w
    rw [← last_eq hup h]
    cases (c.inspect service d.engine).1 with
    | ok status => simp [Look.act, Watch.isNotified, Bulletin.isNews, hstill, @eq_comm _ status]
    | error why => simp [Look.act, Watch.isNotified]

/-- Every look so far was made by the patrol, after those before it. -/
theorem exists_looks (hup : b.isUp = true) (h : Reaches c (start services interval b e) d)
    {before : List Look} {look : Look} (hlook : before ++ [look] <+: d.looks) :
    ∃ d₁ d₂, Reaches c (start services interval b e) d₁ ∧ d₁.looks = before ∧
      d₁.Looks c b look d₂ ∧ Reaches c d₂ d := by
  induction h with
  | refl => simp [start] at hlook
  | @tail d d' h hm ih =>
    by_cases hearlier : before ++ [look] <+: d.looks
    · obtain ⟨d₁, d₂, hfirst, hbefore, hlooks, hlater⟩ := ih hearlier
      exact ⟨d₁, d₂, hfirst, hbefore, hlooks, hlater.tail hm⟩
    · cases hm with
      | step hstep =>
        obtain ⟨look', rest, hnew, hahead, -, -⟩ | ⟨hahead, -, -, -, -⟩ := step_cases hstep
        · have hlooks := looks_of_step hup h hstep hahead
          rw [hlooks.kept, List.prefix_concat_iff] at hlook
          obtain ⟨hbefore, hlook⟩ := List.append_inj' (hlook.resolve_right hearlier) rfl
          obtain rfl := List.head_eq_of_cons_eq hlook
          exact ⟨d, _, h, hbefore.symm, hlooks, .refl⟩
        · exact absurd (by simpa [after, ahead, hahead] using hlook) hearlier
      | engine | elapse | stop => exact absurd hlook hearlier

/-- What a patrol has made of the engine's answers. -/
structure Mirrors (c : Client ε) (services : List String) (b : Bulletin) (d₀ d : Duty ε) :
    Prop where
  /-- The looks so far, and those that the round has ahead, are so many rounds: each looks at every
  service in order, whatever came of the looks before. -/
  rounds : d.InRounds services
  /-- No look keeps the patrol from going on. -/
  goesOn : d.patrol.ahead ≠ [] ∨ d.stopped = false ∧ d.patrol.due ≤ d.now →
    d.patrol.step c d.now d.stopped d.engine ≠ none
  /-- The bulletin says of a service what was told of it last, and what it said before the patrol
  where nothing was told. -/
  last : ∀ service, d.bulletin.last service = Look.lastTold b service d.looks
  /-- Other services are left as they were. -/
  others : ∀ service ∉ services, d.bulletin.last service = b.last service
  /-- Each look asks the engine as it is then. -/
  looks : ∀ before look, before ++ [look] <+: d.looks → ∃ d₁ d₂, Reaches c d₀ d₁ ∧
    d₁.looks = before ∧ d₁.Looks c b look d₂ ∧ Reaches c d₂ d

/-- **The bulletin says what was told last.** However the engine answers and whatever becomes of it:
each round looks at every service, and a look that fails changes nothing and keeps no other from
being made and posted. Who follows a service is notified just when what is told of it differs from
what was told before. -/
theorem mirrors (hup : b.isUp = true) (h : Reaches c (start services interval b e) d) :
    Mirrors c services b (start services interval b e) d where
  rounds := inRounds h
  goesOn := step_ne_none_iff.2
  last := last_eq hup h
  others service hservice := by
    obtain ⟨n, hn⟩ := inRounds h
    rw [last_eq hup h]
    refine Look.lastTold_of_notMem b fun hlook => hservice ?_
    have hmem := hn ▸ List.mem_append_left d.patrol.ahead hlook
    obtain ⟨round, hround, hmem⟩ := List.mem_flatten.1 hmem
    exact List.eq_of_mem_replicate hround ▸ hmem
  looks _ _ := exists_looks hup h

/-! Two rounds at three services: one exits, one cannot be inspected again, one is not there. -/

def faltering : Recording where
  ping := .giving ""
  list := .containers [container "c-a" "a", container "c-b" "b"]
  inspections := [("c-a", ⟨running, [exited], 0⟩),
    ("c-b", ⟨running, [.refusing 500 (.text "no answer")], 0⟩)]
  logs := []
  asked := []
  repeats := false

def outset : Duty Recording := start ["a", "b", "lost"] 1000 .new faltering

def twoRounds : Duty Recording :=
  (goOn client)^[4] { (goOn client)^[4] outset with now := 1000 }

theorem now_goOn_iterate (c : Client ε) (d : Duty ε) (n : Nat) :
    ((goOn c)^[n] d).now = d.now := by
  induction n with
  | zero => rfl
  | succ n ih =>
    rw [Function.iterate_succ_apply', ← ih, goOn]
    split <;> rfl

theorem reaches_twoRounds : Reaches client outset twoRounds := by
  have hnow : ((goOn client)^[4] outset).now ≤ 1000 := by
    rw [now_goOn_iterate]
    decide
  have first := (reaches_goOn_iterate client outset 4).tail (.elapse 1000 hnow)
  exact first.trans (reaches_goOn_iterate client _ 4)

/-- The service that exits is told of twice, and the one that cannot be inspected again keeps what
was told of it first. -/
theorem mirrors_twoRounds :
    (Bulletin.new.isUp = true ∧ Reaches client (start ["a", "b", "lost"] 1000 .new faltering)
        twoRounds) ∧
      Mirrors client ["a", "b", "lost"] .new outset twoRounds ∧
      (twoRounds.looks.map fun look => (look.1, look.2.toOption.map ServiceStatus.phase)) =
        [("a", some .running), ("b", some .running), ("lost", none), ("a", some .exited),
          ("b", none), ("lost", none)] ∧
      (["a", "b", "lost"].map fun service => (twoRounds.bulletin.last service).phase) =
        [.exited, .running, .unknown] :=
  ⟨⟨rfl, reaches_twoRounds⟩, mirrors rfl reaches_twoRounds, by decide +kernel, by decide +kernel⟩

end Duty

end Docker

end LogWeave
