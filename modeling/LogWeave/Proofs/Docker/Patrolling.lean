import LogWeave.Docker.Patrol
import LogWeave.Docker.Recording
import Mathlib.Logic.Function.Iterate
import Mathlib.Logic.Relation

/-! What a patrol still does once it is to stop.

A patrol looks whether it is to stop only between its rounds. Whatever the engine does and whenever
the stop comes, it goes on to look at the services that its round has still ahead, each once and in
order, and posts what they tell; it begins no other round (`Duty.winds_up`). So a stop between two
rounds holds at once, and one within a round does not (`Duty.looks_on_overdrawn`). -/
namespace LogWeave.Docker

/-- A service that has been looked at, and what was told of it. -/
abbrev Look := String × Except Failure ServiceStatus

/-- A bulletin after a look: a status that cannot be told is not posted. -/
def Look.posted (b : Bulletin) (l : Look) : Bulletin :=
  match l.2 with
  | .ok status => b.post l.1 status
  | .error _ => b

/-- A patrol, and what it has come upon so far. -/
structure Duty (ε : Type) where
  patrol : Patrol
  engine : ε
  bulletin : Bulletin
  now : Nat
  /-- It is to stop. -/
  stopped : Bool
  looks : List Look

namespace Duty

variable {ε : Type} {c : Client ε} {d d₀ d' : Duty ε}

def start (services : List String) (interval : Nat) (bulletin : Bulletin) (engine : ε) :
    Duty ε where
  patrol := .new services interval
  engine
  bulletin
  now := 0
  stopped := false
  looks := []

/-- The look that comes next, if the round has one ahead. -/
def ahead (c : Client ε) (d : Duty ε) : List Look :=
  (d.patrol.ahead.take 1).map fun service => (service, (c.inspect service d.engine).1)

/-- A step of the patrol, and what comes of it. -/
def after (c : Client ε) (d : Duty ε) (act : Run.Act) (patrol : Patrol) (engine : ε) : Duty ε :=
  { d with
    patrol, engine
    bulletin := Patrol.post d.bulletin act
    looks := d.looks ++ d.ahead c }

/-- What can happen: the patrol goes on, the engine goes its own way, time passes, or the patrol is
told to stop. -/
inductive Move (c : Client ε) (d : Duty ε) : Duty ε → Prop where
  | step {act : Run.Act} {patrol : Patrol} {engine : ε}
    (h : d.patrol.step c d.now d.stopped d.engine = some (act, patrol, engine)) :
    Move c d (d.after c act patrol engine)
  | engine (engine : ε) : Move c d { d with engine }
  | elapse (time : Nat) (h : d.now ≤ time) : Move c d { d with now := time }
  | stop : Move c d { d with stopped := true }

/-- Where moves may lead. -/
abbrev Reaches (c : Client ε) : Duty ε → Duty ε → Prop := Relation.ReflTransGen (Move c)

/-- A look brings what the engine tells, and it is posted if it is a status. -/
theorem post_look (b : Bulletin) (e : ε) (service : String) :
    Patrol.post b (Patrol.look c e service).1 =
      Look.posted b (service, (c.inspect service e).1) := by
  unfold Patrol.look Look.posted
  rcases c.inspect service e with ⟨_ | status, e⟩ <;> rfl

/-- What a patrol does next: it looks at a service, or it begins a round. -/
theorem step_cases {act : Run.Act} {patrol : Patrol} {engine : ε}
    (h : d.patrol.step c d.now d.stopped d.engine = some (act, patrol, engine)) :
    (∃ look rest, d.ahead c = [look] ∧ d.patrol.ahead = look.1 :: rest ∧
      patrol = { d.patrol with ahead := rest } ∧
      Patrol.post d.bulletin act = look.posted d.bulletin) ∨
    (d.patrol.ahead = [] ∧ d.stopped = false ∧ d.patrol.due ≤ d.now ∧ act = .nothing ∧
      patrol = { d.patrol with ahead := d.patrol.services, due := d.now + d.patrol.interval }) := by
  unfold Patrol.step at h
  split at h
  case h_1 service rest hahead =>
    refine .inl ⟨(service, (c.inspect service d.engine).1), rest, by simp [ahead, hahead],
      hahead, ?_⟩
    obtain ⟨rfl, rfl, -⟩ : (Patrol.look c d.engine service).1 = act ∧
        { d.patrol with ahead := rest } = patrol ∧ _ := by simpa using h
    exact ⟨rfl, post_look ..⟩
  case h_2 hahead =>
    split at h
    case isTrue hready =>
      simp only [Bool.and_eq_true, Bool.not_eq_eq_eq_not, Bool.not_true,
        decide_eq_true_eq] at hready
      obtain ⟨rfl, rfl, -⟩ : Run.Act.nothing = act ∧
          { d.patrol with ahead := d.patrol.services, due := d.now + d.patrol.interval } =
            patrol ∧ _ := by simpa using h
      exact .inr ⟨hahead, hready.1, hready.2, rfl, rfl⟩
    case isFalse => cases h

/-- Once it is to stop, a patrol is done when its round is. -/
theorem step_eq_none_iff (h : d.stopped = true) :
    d.patrol.step c d.now d.stopped d.engine = none ↔ d.patrol.ahead = [] := by
  unfold Patrol.step
  split
  case h_1 hahead => simp [hahead]
  case h_2 hahead => simp [hahead, h]

/-- A round looks at the services in order: what it has ahead is the end of them. -/
structure InRound (services : List String) (d : Duty ε) : Prop where
  all : d.patrol.services = services
  ahead : d.patrol.ahead <:+ services

theorem InRound.move {services : List String} (h : Move c d d') (hi : d.InRound services) :
    d'.InRound services := by
  cases h with
  | step h =>
    obtain ⟨look, rest, -, hahead, rfl, -⟩ | ⟨-, -, -, -, rfl⟩ := step_cases h
    · have hrest : rest <:+ services := (hahead ▸ List.suffix_cons look.1 rest).trans hi.ahead
      exact ⟨hi.all, hrest⟩
    · exact ⟨hi.all, hi.all ▸ List.suffix_rfl⟩
  | engine | elapse | stop => exact ⟨hi.all, hi.ahead⟩

theorem inRound {services : List String} {interval : Nat} {b : Bulletin} {e : ε}
    (h : Reaches c (start services interval b e) d) : d.InRound services := by
  induction h with
  | refl => exact ⟨rfl, List.nil_suffix⟩
  | tail _ h ih => exact ih.move h

/-- What has happened since a patrol was told to stop. -/
structure WindsUp (c : Client ε) (d₀ d : Duty ε) : Prop where
  stopped : d.stopped = true
  /-- It has looked at some of the services that it still had ahead, in order, and has posted what
  was told of them and nothing else. -/
  looks : ∃ later, d.looks = d₀.looks ++ later ∧
    d₀.patrol.ahead = later.map Prod.fst ++ d.patrol.ahead ∧
    d.bulletin = later.foldl Look.posted d₀.bulletin
  /-- It has begun no other round. -/
  due : d.patrol.due = d₀.patrol.due

namespace WindsUp

theorem move (h : Move c d d') (hi : d₀.WindsUp c d) : d₀.WindsUp c d' := by
  obtain ⟨hstopped, ⟨later, hlooks, hahead, hbulletin⟩, hdue⟩ := hi
  cases h with
  | step h =>
    obtain ⟨look, rest, hlook, hnext, rfl, hpost⟩ | ⟨-, hgoes, -⟩ := step_cases h
    · refine ⟨hstopped, ⟨later ++ [look], ?_, ?_, ?_⟩, hdue⟩
      · simp [after, hlooks, hlook]
      · simp [after, hahead, hnext]
      · rw [List.foldl_append, ← hbulletin]
        exact hpost
    · cases hgoes.symm.trans hstopped
  | engine | elapse => exact ⟨hstopped, ⟨later, hlooks, hahead, hbulletin⟩, hdue⟩
  | stop => exact ⟨rfl, ⟨later, hlooks, hahead, hbulletin⟩, hdue⟩

theorem reaches (h : Reaches c d₀ d) (hstop : d₀.stopped = true) : d₀.WindsUp c d := by
  induction h with
  | refl => exact ⟨hstop, ⟨[], by simp, by simp, rfl⟩, rfl⟩
  | tail _ h ih => exact ih.move h

/-- Told to stop between two rounds, it looks at nothing and posts nothing any more. -/
theorem at_once (hi : d₀.WindsUp c d) (h : d₀.patrol.ahead = []) :
    d.looks = d₀.looks ∧ d.bulletin = d₀.bulletin := by
  obtain ⟨later, hlooks, hahead, hbulletin⟩ := hi.looks
  have hnone : later = [] := by
    rw [h] at hahead
    exact List.map_eq_nil_iff.mp (List.append_eq_nil_iff.mp hahead.symm).1
  subst hnone
  exact ⟨by simpa using hlooks, hbulletin⟩

end WindsUp

/-- After the stop a patrol looks at what its round has still ahead, and at nothing else; it is done
when nothing is ahead. -/
theorem winds_up {services : List String} {interval : Nat} {b : Bulletin} {e : ε}
    (h₀ : Reaches c (start services interval b e) d₀) (hstop : d₀.stopped = true)
    (h : Reaches c d₀ d) :
    d₀.patrol.ahead <:+ services ∧ d₀.WindsUp c d ∧
      (d₀.patrol.ahead = [] → d.looks = d₀.looks ∧ d.bulletin = d₀.bulletin) ∧
      (d.patrol.step c d.now d.stopped d.engine = none ↔ d.patrol.ahead = []) :=
  have hw := WindsUp.reaches h hstop
  ⟨(inRound h₀).ahead, hw, hw.at_once, step_eq_none_iff hw.stopped⟩

/-- The patrol goes on by a step, if it takes one. -/
def goOn (c : Client ε) (d : Duty ε) : Duty ε :=
  match d.patrol.step c d.now d.stopped d.engine with
  | some (act, patrol, engine) => d.after c act patrol engine
  | none => d

theorem reaches_goOn (c : Client ε) (d : Duty ε) : Reaches c d (d.goOn c) := by
  unfold goOn
  split
  case h_1 h => exact .single (.step h)
  case h_2 => exact .refl

theorem reaches_goOn_iterate (c : Client ε) (d : Duty ε) (n : Nat) :
    Reaches c d ((goOn c)^[n] d) := by
  induction n with
  | zero => exact .refl
  | succ n ih =>
    rw [Function.iterate_succ_apply']
    exact ih.trans (reaches_goOn c _)

/-! Two services that run. The patrol is told to stop in its second round, when it has asked for
the one in vain; the other has exited by then. -/

def container (id service : String) : Json.Value :=
  .object [("Id", .text id), ("Labels", .object [(Summary.serviceLabel, .text service)])]

def inspected (state : List (String × Json.Value)) : Response :=
  .document (.object [("Id", .text "c"), ("State", .object state)])

def running : Response :=
  inspected [("Running", .bool true), ("StartedAt", .text "2024-03-01T10:00:00Z"),
    ("Status", .text "running")]

def exited : Response :=
  inspected [("ExitCode", .whole 3), ("Running", .bool false),
    ("StartedAt", .text "2024-03-01T10:00:00Z"), ("Status", .text "exited")]

def recorded : Recording where
  ping := .giving ""
  list := .containers [container "c-a" "a", container "c-b" "b"]
  inspections := [("c-a", ⟨running, [], 0⟩), ("c-b", ⟨running, [exited], 0⟩)]
  logs := []
  asked := []
  repeats := false

def client : Client Recording := ⟨Recording.engine, none⟩

def begun : Duty Recording := start ["a", "b"] 1000 .new recorded

def interrupted : Duty Recording :=
  { (goOn client)^[4] { begun.goOn client with now := 1000 } with stopped := true }

theorem reaches_interrupted : Reaches client begun interrupted := by
  have first := (reaches_goOn client begun).tail (.elapse 1000 (Nat.zero_le _))
  exact (first.trans (reaches_goOn_iterate client _ 4)).tail .stop

theorem winds_up_overdrawn :
    (Reaches client (start ["a", "b"] 1000 .new recorded) interrupted ∧
      interrupted.stopped = true ∧ Reaches client interrupted (interrupted.goOn client)) ∧
      interrupted.patrol.ahead <:+ ["a", "b"] ∧
      interrupted.WindsUp client (interrupted.goOn client) :=
  have h := reaches_goOn client interrupted
  have hw := winds_up reaches_interrupted rfl h
  ⟨⟨reaches_interrupted, rfl, h⟩, hw.1, hw.2.1⟩

/-- What has been looked at and what is known of the second service, when the patrol is told to stop
and a step later. -/
theorem facts_interrupted : interrupted.patrol.ahead = ["b"] ∧
    (interrupted.looks.map Prod.fst, (interrupted.bulletin.last "b").phase) =
      (["a", "b", "a"], .running) ∧
    ((interrupted.goOn client).looks.map Prod.fst,
        ((interrupted.goOn client).bulletin.last "b").phase) =
      (["a", "b", "a", "b"], .exited) := by
  decide +kernel

/-- A patrol that is told to stop within a round is not done: it looks at the next service and posts
that it has exited. -/
theorem looks_on_overdrawn :
    Reaches client (start ["a", "b"] 1000 .new recorded) interrupted ∧
      interrupted.stopped = true ∧
      interrupted.patrol.step client interrupted.now interrupted.stopped interrupted.engine ≠ none ∧
      (interrupted.looks.map Prod.fst, (interrupted.bulletin.last "b").phase) =
        (["a", "b", "a"], .running) ∧
      ∃ d, Reaches client interrupted d ∧
        (d.looks.map Prod.fst, (d.bulletin.last "b").phase) = (["a", "b", "a", "b"], .exited) := by
  obtain ⟨hahead, hthen, hlater⟩ := facts_interrupted
  have hstopped : interrupted.stopped = true := rfl
  have hdone := step_eq_none_iff (c := client) (d := interrupted) hstopped
  rw [hahead] at hdone
  exact ⟨reaches_interrupted, hstopped, mt hdone.1 (List.cons_ne_nil _ _), hthen, _,
    reaches_goOn client interrupted, hlater⟩

end Duty

end LogWeave.Docker
