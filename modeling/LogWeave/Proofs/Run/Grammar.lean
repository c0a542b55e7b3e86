import LogWeave.Proofs.Run.Sifting
import LogWeave.Proofs.Run.Telling
import Mathlib.Computability.Language

/-! What a reader that follows may tell, as a language.

A reader makes attempts: an attempt opens the log, and either that is refused, or lines are accepted
until the stream is over. Attempts in a row are a segment. Between two segments the service exits
and is restarted, and nothing else is told (`Grammar.following`). Wherever a reader stands, what has
been told of it fits that stage (`Tail.Turn.fits`), and it can be completed (`Tail.Fits.viable`). -/
namespace LogWeave.Run

open scoped Computability

/-- An opening of the log, that it could not be opened, or a line sent. -/
def Event.isTold : Event → Bool
  | .opened _ | .refused | .sent _ => true
  | _ => false

/-- What is told of a source among all that has happened to it. -/
def traceOf (events : List Event) : List Event := events.filter Event.isTold

@[simp] theorem traceOf_append (events later : List Event) :
    traceOf (events ++ later) = traceOf events ++ traceOf later :=
  List.filter_append ..

@[simp] theorem traceOf_posted (posted : List ServiceStatus) :
    traceOf (posted.map .posted) = [] := by
  simp [traceOf, Event.isTold]

theorem traceOf_note {σ : Type} (service : String) (f : Floor σ) {event : Event}
    (h : event.isTold = true) : traceOf (eventsOf service (f.note service event).journal) =
      traceOf (eventsOf service f.journal) ++ [event] := by
  rw [eventsOf_note, traceOf_append, traceOf, traceOf, List.filter_cons_of_pos h, List.filter_nil]

/-- What is written down beside. -/
theorem traceOf_note_none {σ : Type} (service : String) (f : Floor σ) {event : Event}
    (h : event.isTold = false) : traceOf (eventsOf service (f.note service event).journal) =
      traceOf (eventsOf service f.journal) := by
  rw [eventsOf_note, traceOf_append, traceOf, traceOf, List.filter_cons_of_neg (by simp [h]),
    List.filter_nil, List.append_nil]

/-! ### The language -/

namespace Grammar

/-- The log is opened. -/
def opening (query : LogQuery) : Language Event := {[.opened query]}

/-- It could not be opened. -/
def refusal : Language Event := {[.refused]}

section

variable (service : String) (shared : Bool)

/-- A notice of a source, as it is printed. -/
def noticeText (notice : String) : String := if shared then attributed service notice else notice

/-- A line of the log that is later than where the attempt starts, or carries no time. -/
def accepted (query : LogQuery) : Language Event :=
  {u | ∃ text receivedAt, u = [.sent (.line service text receivedAt)] ∧
    isStale query.since text = false}

/-- The stream is over: a silent line if it ended, a notice if it broke off. -/
def ended : Language Event :=
  {u | ∃ receivedAt, u = [.sent (.ending service .finished none receivedAt)] ∨
    ∃ text, u = [.sent (.ending service (.broken text)
      (some (noticeText service shared reconnectingNotice)) receivedAt)]}

/-- The service has exited. -/
def exited : Language Event :=
  {u | ∃ receivedAt,
    u = [.sent (.notify service (noticeText service shared exitedNotice) receivedAt)]}

/-- The service runs again. -/
def restarted : Language Event :=
  {u | ∃ receivedAt,
    u = [.sent (.notify service (noticeText service shared restartedNotice) receivedAt)]}

def attempt : Language Event :=
  {u | ∃ query, u ∈ opening query * (refusal + (accepted service query)∗ * ended service shared)}

/-- What is told of one instance: attempts, one at least. -/
def segment : Language Event := attempt service shared * (attempt service shared)∗

/-- What is told by a reader that follows. -/
def following : Language Event :=
  segment service shared * (exited service shared * restarted service shared *
    segment service shared)∗

/-- Instances that have been restarted after. -/
def rounds : Language Event :=
  (segment service shared * (exited service shared * restarted service shared))∗

/-- All attempts are over, if there has been one. -/
def begun : Language Event := rounds service shared * (attempt service shared)∗

/-- The stream of an attempt is being read. -/
def underway (query : LogQuery) : Language Event :=
  begun service shared * (opening query * (accepted service query)∗)

/-- An attempt is over, and with it all before it. -/
def settled : Language Event := rounds service shared * segment service shared

end

variable {service : String} {shared : Bool} {query : LogQuery} {u v : List Event}

theorem nil_mem_begun : [] ∈ begun service shared :=
  Language.append_mem_mul (Language.nil_mem_kstar _) (Language.nil_mem_kstar _)

/-- One attempt more. -/
theorem attempt_settled (h : u ∈ begun service shared) (hv : v ∈ attempt service shared) :
    u ++ v ∈ settled service shared := by
  have hle : begun service shared * attempt service shared ≤ settled service shared := by
    rw [begun, settled, segment, mul_assoc, Language.mul_self_kstar_comm]
  exact hle (Language.append_mem_mul h hv)

theorem begun_of_settled (h : u ∈ settled service shared) : u ∈ begun service shared := by
  have hle : settled service shared ≤ begun service shared :=
    mul_le_mul_right mul_kstar_le_kstar _
  exact hle h

/-- An attempt whose log could not be opened is over. -/
theorem refused_settled (h : u ∈ begun service shared * opening query) :
    u ++ [.refused] ∈ settled service shared := by
  obtain ⟨x, hx, y, hy, rfl⟩ := Language.mem_mul.1 h
  rw [List.append_assoc]
  exact attempt_settled hx ⟨query, Language.append_mem_mul hy
    ((Language.mem_add ..).2 (.inl rfl))⟩

theorem opening_underway (h : u ∈ begun service shared * opening query) :
    u ∈ underway service shared query := by
  rw [underway, ← mul_assoc]
  simpa using Language.append_mem_mul h (Language.nil_mem_kstar (accepted service query))

theorem accepted_underway (h : u ∈ underway service shared query)
    (hv : v ∈ accepted service query) : u ++ v ∈ underway service shared query := by
  have hle : underway service shared query * accepted service query ≤
      underway service shared query := by
    rw [underway, mul_assoc, mul_assoc]
    exact mul_le_mul_right (mul_le_mul_right kstar_mul_le_kstar _) _
  exact hle (Language.append_mem_mul h hv)

/-- An attempt whose stream is over is over itself. -/
theorem ended_settled (h : u ∈ underway service shared query) (hv : v ∈ ended service shared) :
    u ++ v ∈ settled service shared := by
  obtain ⟨x, hx, y, hy, rfl⟩ := Language.mem_mul.1 h
  obtain ⟨z, hz, lines, hlines, rfl⟩ := Language.mem_mul.1 hy
  rw [List.append_assoc, List.append_assoc]
  exact attempt_settled hx ⟨query, Language.append_mem_mul hz
    ((Language.mem_add ..).2 (.inr (Language.append_mem_mul hlines hv)))⟩

/-- After a restart the first attempt of another instance may begin. -/
theorem restarted_begun (h : u ∈ settled service shared * exited service shared)
    (hv : v ∈ restarted service shared) : u ++ v ∈ begun service shared := by
  have hround : settled service shared * exited service shared * restarted service shared ≤
      begun service shared := by
    calc settled service shared * exited service shared * restarted service shared
        = rounds service shared * (segment service shared *
            (exited service shared * restarted service shared)) := by
          rw [settled, mul_assoc, mul_assoc]
      _ ≤ rounds service shared := kstar_mul_le_kstar
      _ ≤ begun service shared := le_mul_of_one_le_right' one_le_kstar
  exact hround (Language.append_mem_mul h hv)

/-- All rounds and the last segment are the first segment and all that follows it. -/
theorem following_of_settled (h : u ∈ settled service shared) : u ∈ following service shared := by
  suffices hle : settled service shared ≤ following service shared from hle h
  refine kstar_mul_le ?_ ?_
  · exact le_mul_of_one_le_right' one_le_kstar
  · calc segment service shared * (exited service shared * restarted service shared) *
          following service shared
        = segment service shared * (exited service shared * restarted service shared *
            segment service shared * (exited service shared * restarted service shared *
              segment service shared)∗) := by rw [following]; simp only [mul_assoc]
      _ ≤ following service shared := mul_le_mul_right mul_kstar_le_kstar _

/-- It can be completed to what a reader may tell. -/
def Viable (service : String) (shared : Bool) (u : List Event) : Prop :=
  ∃ rest, u ++ rest ∈ following service shared

theorem viable_settled (h : u ∈ settled service shared) : Viable service shared u :=
  ⟨[], by simpa using following_of_settled h⟩

theorem viable_underway (h : u ∈ underway service shared query) : Viable service shared u :=
  ⟨[.sent (.ending service .finished none .epoch)],
    following_of_settled (ended_settled h ⟨.epoch, .inl rfl⟩)⟩

theorem viable_begun (h : u ∈ begun service shared) : Viable service shared u := by
  have hopening : u ++ [.opened (.all true false)] ∈
      begun service shared * opening (.all true false) := Language.append_mem_mul h rfl
  obtain ⟨rest, hrest⟩ := viable_underway (opening_underway hopening)
  exact ⟨_, by rwa [List.append_assoc] at hrest⟩

theorem viable_exited (h : u ∈ settled service shared * exited service shared) :
    Viable service shared u := by
  have hrestarted : [.sent (.notify service (noticeText service shared restartedNotice) .epoch)] ∈
      restarted service shared := ⟨.epoch, rfl⟩
  obtain ⟨rest, hrest⟩ := viable_begun (restarted_begun h hrestarted)
  exact ⟨_, by rwa [List.append_assoc] at hrest⟩

end Grammar

/-! ### What has been told, stage by stage -/

namespace Tail

open Grammar

variable {σ : Type} {w : World σ} {f : Floor σ} {t : Tail} {r : Floor σ × Tail}
  {trace : List Event}

/-- What has been told of a reader that follows, where it stands. -/
def Fits (trace : List Event) (t : Tail) : Prop :=
  match t.stage with
  | .starting => trace ∈ begun t.service t.shared
  | .opening _ _ => trace ∈ begun t.service t.shared * opening t.query
  | .reading _ _ => trace ∈ underway t.service t.shared t.query
  | .sending a (.read _) =>
    trace ∈ underway t.service t.shared t.query ∧ [.sent a] ∈ accepted t.service t.query
  | .sending a .reconnect =>
    trace ∈ underway t.service t.shared t.query ∧ [.sent a] ∈ ended t.service t.shared
  | .sending a .exit =>
    trace ∈ settled t.service t.shared ∧ [.sent a] ∈ exited t.service t.shared
  | .sending a .restart =>
    trace ∈ settled t.service t.shared * exited t.service t.shared ∧
      [.sent a] ∈ restarted t.service t.shared
  | .sending _ .finish => False
  | .pausing _ => trace ∈ settled t.service t.shared
  | .leaving true | .dormant => trace ∈ settled t.service t.shared * exited t.service t.shared
  | .leaving false | .done => Viable t.service t.shared trace

theorem fits_new (s : Streaming) (shared : Bool) (bulletin : Bulletin) (number : Nat)
    (service : String) : (new s shared bulletin number service).Fits [] := nil_mem_begun

/-- Wherever a reader stands, it can go on to tell what a reader may tell. -/
theorem Fits.viable (h : t.Fits trace) : Viable t.service t.shared trace := by
  unfold Fits at h
  split at h
  · exact viable_begun h
  · exact viable_underway (opening_underway h)
  · exact viable_underway h
  · exact viable_underway h.1
  · exact viable_underway h.1
  · exact viable_settled h.1
  · exact viable_exited h.1
  · exact h.elim
  · exact viable_settled h
  · exact viable_exited h
  · exact viable_exited h
  · exact h
  · exact h

@[simp] theorem query_observe (t : Tail) (line : String) : (t.observe line).query = t.query := by
  unfold observe
  split <;> rfl

@[simp] theorem shared_observe (t : Tail) (line : String) :
    (t.observe line).shared = t.shared := by
  unfold observe
  split <;> rfl

/-- **Whatever a reader that follows does next, what has been told of it fits.** -/
theorem Turn.fits (h : Turn w f t r) (hf : t.follow = true)
    (ht : t.Fits (traceOf (eventsOf t.service f.journal))) :
    r.2.Fits (traceOf (eventsOf t.service r.1.journal)) := by
  have noted (f : Floor σ) (event : Event) (h : event.isTold = true) :=
    traceOf_note t.service f h
  have unnoted (f : Floor σ) (event : Event) (h : event.isTold = false) :=
    traceOf_note_none t.service f h
  have hviable := ht.viable
  cases h with
  | start hs =>
    simp only [Fits, hs] at ht
    exact (noted _ (.opened t.attempt.query) rfl).symm ▸ Language.append_mem_mul ht rfl
  | connect hs =>
    simp only [Fits, hs] at ht
    exact opening_underway ht
  | postpone hs =>
    simp only [Fits, hs] at ht
    exact (noted f .refused rfl).symm ▸ refused_settled ht
  | refuse _ _ _ hfollow => simp [hf] at hfollow
  | finish hs =>
    simp only [Fits, hs] at ht
    simp only [conclude, hf, if_true]
    exact (unnoted f (.ended .finished) rfl).symm ▸ ⟨ht, _, .inl rfl⟩
  | @fail why _ _ hs =>
    simp only [Fits, hs] at ht
    simp only [conclude, hf, if_true]
    exact (unnoted f (.ended (.broken why.message)) rfl).symm ▸ ⟨ht, _, .inr ⟨_, rfl⟩⟩
  | skip hs | hold hs | resume hs =>
    simp only [Fits, hs] at ht
    exact ht
  | @take line rest _ hs _ hk =>
    simp only [Fits, hs] at ht
    have haccepted : [.sent (.line t.service line (w.clock f.receipts))] ∈
        accepted t.service t.query :=
      ⟨line, _, rfl, (knows_eq_isStale t line).symm.trans hk⟩
    show _ ∈ underway (t.observe line).service (t.observe line).shared (t.observe line).query ∧
      _ ∈ accepted (t.observe line).service (t.observe line).query
    rw [service_observe, shared_observe, query_observe]
    exact ⟨ht, haccepted⟩
  | @deliver a next channel hs =>
    rw [noted { f with channel } _ rfl]
    cases next with
    | read =>
      simp only [Fits, hs] at ht
      exact accepted_underway ht.1 ht.2
    | reconnect =>
      simp only [Fits, hs] at ht
      exact ended_settled ht.1 ht.2
    | exit =>
      simp only [Fits, hs] at ht
      exact Language.append_mem_mul ht.1 ht.2
    | restart =>
      simp only [Fits, hs] at ht
      exact restarted_begun ht.1 ht.2
    | finish => simp [Fits, hs] at ht
  | queue => exact ht
  | @exit _ watch hs =>
    simp only [Fits, hs] at ht
    exact (unnoted f (.exited watch.instance?) rfl).symm ▸ ⟨ht, _, rfl⟩
  | retry hs =>
    simp only [Fits, hs] at ht
    exact begun_of_settled ht
  | giveUp => exact hviable
  | rest hs =>
    simp only [Fits, hs] at ht
    exact ht
  | leave => exact (unnoted _ .returned rfl).symm ▸ hviable
  | retire => exact (unnoted _ .returned rfl).symm ▸ hviable
  | @wake watch hs =>
    simp only [Fits, hs] at ht
    exact (unnoted _ (.restarted watch.instance?) rfl).symm ▸ ⟨ht, _, rfl⟩

end Tail

end LogWeave.Run
