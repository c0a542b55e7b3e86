import LogWeave.Status.Bulletin
import Mathlib.Data.List.Basic

/-! What a bulletin and its followers answer, told by what was done before.

The bulletin keeps the last status of each service, and a follower the instance it acknowledged
last. What was done tells both without either: the last status is the last one posted before the
bulletin was taken down (`lastOf`), and what a follower acknowledges follows from when it began,
what it was made to mark and which of its questions were answered (`known`). Main statement:
whatever was done, each answer is the one that is told so (`truthful`). -/
namespace LogWeave

/-- A bulletin and its followers, who are numbered from zero. -/
structure Lookout where
  bulletin : Bulletin
  watches : List Watch

namespace Lookout

/-- What may be done. A question that is not answered at once is dropped. -/
inductive Doing where
  | post (service : String) (status : ServiceStatus)
  | takeDown
  | follow (service : String)
  | mark (i : Nat) (startedAt : Option Time.Instant)
  | askExited (i : Nat)
  | askRestarted (i : Nat)
  deriving DecidableEq

/-- What is answered to it. -/
inductive Reply where
  | news (isNews : Bool)
  | number (i : Nat)
  | resolved
  | pending
  | done
  deriving DecidableEq

/-- It may change the status of a service. -/
def Doing.sets (service : String) : Doing → Bool
  | .post name _ => name == service
  | .takeDown => true
  | .follow _ | .mark _ _ | .askExited _ | .askRestarted _ => false

/-- It is done to a follower. -/
def Doing.isTo (i : Nat) : Doing → Bool
  | .mark j _ | .askExited j | .askRestarted j => j == i
  | .post _ _ | .takeDown | .follow _ => false

/-- It concerns a follower and the service that it follows. -/
def Doing.concerns (service : String) (i : Nat) (d : Doing) : Bool := d.sets service || d.isTo i

def new : Lookout := ⟨.new, []⟩

/-- Asks a follower once. -/
def ask (l : Lookout) (i : Nat) (settle : Watch → Option Watch) : Reply × Lookout :=
  match l.watches[i]?.bind settle with
  | some w => (.resolved, { l with watches := l.watches.set i w })
  | none => (.pending, l)

def step (l : Lookout) : Doing → Reply × Lookout
  | .post service status =>
    (.news (l.bulletin.isNews service status),
      { l with bulletin := l.bulletin.post service status })
  | .takeDown => (.done, { l with bulletin := l.bulletin.takeDown })
  | .follow service =>
    (.number l.watches.length, { l with watches := l.watches ++ [.new l.bulletin service] })
  | .mark i startedAt => (.done, { l with watches := l.watches.modify i (·.mark startedAt) })
  | .askExited i => l.ask i fun w => w.exited? l.bulletin
  | .askRestarted i => l.ask i fun w => w.restarted? l.bulletin

/-- What comes of what was done, the latest first. -/
def after : List Doing → Lookout
  | [] => new
  | d :: past => ((after past).step d).2

/-- What is answered next. -/
def reply (past : List Doing) (d : Doing) : Reply := ((after past).step d).1

/-! ### What was done tells -/

/-- The last status posted of a service while the bulletin was up. -/
def lastOf (service : String) : List Doing → ServiceStatus
  | [] => .unheard
  | .post name status :: past =>
    if name = service ∧ .takeDown ∉ past then status else lastOf service past
  | .takeDown :: past | .follow _ :: past | .mark _ _ :: past | .askExited _ :: past
  | .askRestarted _ :: past => lastOf service past

/-- The services that are followed, in the order of their followers. -/
def followed : List Doing → List String
  | [] => []
  | .follow service :: past => followed past ++ [service]
  | .post _ _ :: past | .takeDown :: past | .mark _ _ :: past | .askExited _ :: past
  | .askRestarted _ :: past => followed past

/-- The last status of the service that a follower follows. -/
def seen (i : Nat) (past : List Doing) : ServiceStatus :=
  match (followed past)[i]? with
  | some service => lastOf service past
  | none => .unheard

/-- The instance that a follower acknowledged last: the one it found when it began, and later each
that it was made to mark and each for which its question was answered. -/
def known (i : Nat) : List Doing → Option Time.Instant
  | [] => none
  | .post _ _ :: past | .takeDown :: past => known i past
  | .follow service :: past =>
    if i = (followed past).length then (lastOf service past).startedAt else known i past
  | .mark j startedAt :: past => if j = i then startedAt else known i past
  | .askExited j :: past =>
    if j = i ∧ (seen i past).phase = .exited then (seen i past).startedAt else known i past
  | .askRestarted j :: past =>
    if j = i ∧ (seen i past).phase = .running ∧ (seen i past).startedAt ≠ known i past then
      (seen i past).startedAt
    else known i past

variable {l : Lookout} {d : Doing} {past : List Doing} {service : String} {i j : Nat}
  {settle : Watch → Option Watch} {w : Watch} {b : Bulletin}

theorem seen_of_followed (h : (followed past)[i]? = some service) :
    seen i past = lastOf service past := by
  simp [seen, h]

/-! ### One step -/

@[simp] theorem bulletin_ask : (l.ask i settle).2.bulletin = l.bulletin := by
  unfold ask
  split <;> rfl

@[simp] theorem length_watches_ask : (l.ask i settle).2.watches.length = l.watches.length := by
  unfold ask
  split <;> simp

/-- A question is answered or changes nothing. -/
theorem ask_cases (l : Lookout) (i : Nat) (settle : Watch → Option Watch) :
    (∃ w', l.watches[i]?.bind settle = some w' ∧
      l.ask i settle = (.resolved, { l with watches := l.watches.set i w' })) ∨
    (l.watches[i]?.bind settle = none ∧ l.ask i settle = (.pending, l)) := by
  unfold ask
  split
  · rename_i w' h
    exact .inl ⟨w', h, rfl⟩
  · rename_i h
    exact .inr ⟨h, rfl⟩

/-- Only the follower that is asked can acknowledge anything by it. -/
theorem watches_ask (l : Lookout) (i j : Nat) (settle : Watch → Option Watch) :
    (l.ask i settle).2.watches[j]? =
      if i = j then (l.watches[i]?.bind settle).or l.watches[j]? else l.watches[j]? := by
  rcases ask_cases l i settle with ⟨w', hsettle, hask⟩ | ⟨hsettle, hask⟩
  · obtain ⟨w, hw, -⟩ := Option.bind_eq_some_iff.1 hsettle
    have hlt : i < l.watches.length := (List.getElem?_eq_some_iff.1 hw).1
    rw [hask, hsettle]
    by_cases hij : i = j
    · subst hij
      simp [hlt]
    · simp [hij]
  · rw [hask, hsettle]
    simp

/-! ### The bulletin and its followers keep what is told -/

theorem isUp_after (past : List Doing) :
    (after past).bulletin.isUp = true ↔ .takeDown ∉ past := by
  induction past with
  | nil => simp [after, new, Bulletin.new]
  | cons d past ih =>
    cases d with
    | post service status =>
      simp only [after, step, Bulletin.post]
      split <;> simpa using ih
    | takeDown => simp [after, step, Bulletin.takeDown]
    | follow _ | mark _ _ => simpa [after, step] using ih
    | askExited _ | askRestarted _ => simpa [after, step] using ih

theorem last_after (past : List Doing) (service : String) :
    (after past).bulletin.last service = lastOf service past := by
  induction past with
  | nil => rfl
  | cons d past ih =>
    cases d with
    | post name status =>
      by_cases hup : .takeDown ∉ past
      · have h := (isUp_after past).2 hup
        simp only [after, step, Bulletin.last_post _ h, lastOf, ih]
        simp [hup, eq_comm]
      · have h : (after past).bulletin.isUp = false := by
          simpa using mt (isUp_after past).1 hup
        simp [after, step, Bulletin.post, h, lastOf, hup, ih]
    | takeDown | follow _ | mark _ _ => exact ih
    | askExited _ | askRestarted _ => simpa [after, step, lastOf] using ih

theorem length_watches_after (past : List Doing) :
    (after past).watches.length = (followed past).length := by
  induction past with
  | nil => rfl
  | cons d past ih =>
    cases d with
    | post _ _ | takeDown => exact ih
    | follow _ | mark _ _ => simpa [after, step, followed] using ih
    | askExited _ | askRestarted _ => simpa [after, step, followed] using ih

/-- What a follower answers, if it keeps what is told. -/
theorem bind_settle? (holds : Option Time.Instant → ServiceStatus → Bool)
    (h : (after past).watches[i]? =
      (followed past)[i]?.map fun service => ⟨service, known i past⟩) :
    ((after past).watches[i]?.bind fun w =>
      w.settle? (after past).bulletin (holds w.instance?)) =
      (followed past)[i]?.bind fun service =>
        if holds (known i past) (seen i past) then some ⟨service, (seen i past).startedAt⟩
        else none := by
  cases hi : (followed past)[i]? with
  | none => simp [h, hi]
  | some service => simp [h, hi, Watch.settle?_eq, last_after, seen_of_followed hi, Watch.mark]

theorem watches_ask_after (j : Nat) (holds : Option Time.Instant → ServiceStatus → Bool)
    (h : (after past).watches[i]? =
      (followed past)[i]?.map fun service => ⟨service, known i past⟩) :
    ((after past).ask j fun w =>
      w.settle? (after past).bulletin (holds w.instance?)).2.watches[i]? =
      (followed past)[i]?.map fun service =>
        ⟨service, if j = i ∧ holds (known i past) (seen i past) = true then (seen i past).startedAt
          else known i past⟩ := by
  rw [watches_ask]
  by_cases hij : j = i
  · subst hij
    rw [bind_settle? holds h, h]
    cases (followed past)[j]? with
    | none => simp
    | some service => cases holds (known j past) (seen j past) <;> simp
  · simp [hij, h]

theorem watches_after (past : List Doing) (i : Nat) :
    (after past).watches[i]? = (followed past)[i]?.map fun service => ⟨service, known i past⟩ := by
  induction past with
  | nil => rfl
  | cons d past ih =>
    cases d with
    | post _ _ | takeDown => exact ih
    | follow service =>
      have hlen := length_watches_after past
      simp only [after, step, followed, known, List.getElem?_append, hlen, ih]
      rcases Nat.lt_trichotomy i (followed past).length with hlt | heq | hgt
      · simp [hlt, Nat.ne_of_lt hlt]
      · simp [heq, Watch.new, last_after]
      · have hsub : i - (followed past).length ≠ 0 := Nat.sub_ne_zero_of_lt hgt
        simp [Nat.not_lt_of_gt hgt, hsub]
    | mark j startedAt =>
      simp only [after, step, followed, known, List.getElem?_modify, ih]
      by_cases hij : j = i
      · cases h : (followed past)[i]? <;> simp [hij, Watch.mark]
      · simp [hij]
    | askExited j =>
      have h := watches_ask_after j (fun _ => ServiceStatus.isExited) ih
      simpa [after, step, followed, known, Watch.exited?, ServiceStatus.isExited] using h
    | askRestarted j =>
      have h := watches_ask_after j (fun known s => s.isAnother known) ih
      simpa [after, step, followed, known, Watch.restarted?, ServiceStatus.isAnother] using h

/-! ### Answers -/

theorem reply_post (past : List Doing) (service : String) (status : ServiceStatus) :
    reply past (.post service status) =
      .news (decide (.takeDown ∉ past ∧ lastOf service past ≠ status)) := by
  have hup := isUp_after past
  simp only [reply, step, Bulletin.isNews, last_after]
  cases hb : (after past).bulletin.isUp with
  | true => simp [hup.1 hb, bne, beq_eq_decide]
  | false => simp [mt hup.2 (by simp [hb])]

theorem reply_ask (i : Nat) (holds : Option Time.Instant → ServiceStatus → Bool)
    (unheard : ∀ known, holds known .unheard = false) :
    ((after past).ask i fun w => w.settle? (after past).bulletin (holds w.instance?)).1 =
      if holds (known i past) (seen i past) then .resolved else .pending := by
  have hbind := bind_settle? holds (watches_after past i)
  rcases ask_cases (after past) i
    fun w => w.settle? (after past).bulletin (holds w.instance?) with ⟨w', h, hask⟩ | ⟨h, hask⟩
  · rw [hbind, Option.bind_eq_some_iff] at h
    obtain ⟨service, -, hw⟩ := h
    have hholds : holds (known i past) (seen i past) = true := by
      by_contra hno
      simp [hno] at hw
    rw [hask, if_pos hholds]
  · have hholds : holds (known i past) (seen i past) = false := by
      cases hi : (followed past)[i]? with
      | none => simp [seen, hi, unheard]
      | some service => simpa [h, hi] using hbind
    simp [hask, hholds]

theorem reply_askExited (past : List Doing) (i : Nat) :
    reply past (.askExited i) = if (seen i past).phase = .exited then .resolved else .pending := by
  have h := @reply_ask past i (fun _ => ServiceStatus.isExited) fun _ => rfl
  simpa [reply, step, Watch.exited?, ServiceStatus.isExited] using h

theorem reply_askRestarted (past : List Doing) (i : Nat) :
    reply past (.askRestarted i) =
      if (seen i past).phase = .running ∧ (seen i past).startedAt ≠ known i past then .resolved
      else .pending := by
  have h := @reply_ask past i (fun known s => s.isAnother known) fun _ => rfl
  simpa [reply, step, Watch.restarted?, ServiceStatus.isAnother] using h

/-- A question that is not answered changes nothing. -/
theorem after_of_pending (h : reply past d = .pending) : after (d :: past) = after past := by
  have of_ask {i : Nat} {settle : Watch → Option Watch}
      (h : ((after past).ask i settle).1 = .pending) :
      ((after past).ask i settle).2 = after past := by
    rcases ask_cases (after past) i settle with ⟨w', -, hask⟩ | ⟨-, hask⟩
    · rw [hask] at h
      cases h
    · rw [hask]
  cases d with
  | post _ _ | takeDown | follow _ | mark _ _ => cases h
  | askExited i | askRestarted i => exact of_ask h

/-! ### What others do -/

variable {later : List Doing} {p : Doing → Bool}

theorem takeDown_mem_filter (hp : ∀ d, d.sets service = true → p d = true) :
    Doing.takeDown ∈ later.filter p ++ past ↔ Doing.takeDown ∈ later ++ past := by
  simp [List.mem_filter, hp .takeDown rfl]

theorem lastOf_cons_of_not_sets (hd : d.sets service = false) :
    lastOf service (d :: past) = lastOf service past := by
  cases d with
  | post name status =>
    have hne : name ≠ service := by simpa [Doing.sets] using hd
    simp [lastOf, hne]
  | takeDown => cases hd
  | follow _ | mark _ _ | askExited _ | askRestarted _ => rfl

theorem lastOf_congr {front back : List Doing} (d : Doing)
    (hlast : lastOf service front = lastOf service back)
    (hdown : Doing.takeDown ∈ front ↔ Doing.takeDown ∈ back) :
    lastOf service (d :: front) = lastOf service (d :: back) := by
  cases d with
  | post _ _ => simp [lastOf, hlast, hdown]
  | takeDown | follow _ | mark _ _ | askExited _ | askRestarted _ => exact hlast

theorem lastOf_filter (hp : ∀ d, d.sets service = true → p d = true) :
    lastOf service (later.filter p ++ past) = lastOf service (later ++ past) := by
  induction later with
  | nil => rfl
  | cons d later ih =>
    cases hd : p d with
    | true =>
      rw [List.filter_cons_of_pos hd]
      exact lastOf_congr d ih (takeDown_mem_filter hp)
    | false =>
      have hsets : d.sets service = false :=
        Bool.eq_false_iff.2 fun hs => Bool.false_ne_true (hd.symm.trans (hp d hs))
      rw [List.filter_cons_of_neg (by simp [hd])]
      exact ih.trans (lastOf_cons_of_not_sets hsets).symm

/-- Who follows keeps its number. -/
theorem followed_append (h : (followed past)[i]? = some service) (later : List Doing) :
    (followed (later ++ past))[i]? = some service := by
  induction later with
  | nil => exact h
  | cons d later ih =>
    cases d with
    | follow name =>
      have hlt := (List.getElem?_eq_some_iff.1 ih).1
      simpa [followed, List.getElem?_append_left hlt] using ih
    | post _ _ | takeDown | mark _ _ | askExited _ | askRestarted _ => exact ih

theorem known_cons_of_not_isTo (hi : (followed past)[i]? = some service)
    (hd : d.isTo i = false) : known i (d :: past) = known i past := by
  cases d with
  | post _ _ | takeDown => rfl
  | follow name =>
    have hlt := (List.getElem?_eq_some_iff.1 hi).1
    simp [known, Nat.ne_of_lt hlt]
  | mark j _ | askExited j | askRestarted j =>
    have hne : j ≠ i := by simpa [Doing.isTo] using hd
    simp [known, hne]

theorem known_congr {front back : List Doing} (hd : d.isTo i = true)
    (hseen : seen i front = seen i back) (hknown : known i front = known i back) :
    known i (d :: front) = known i (d :: back) := by
  cases d with
  | post _ _ | takeDown | follow _ => cases hd
  | mark _ _ | askExited _ | askRestarted _ => simp [known, hseen, hknown]

theorem known_filter (hi : (followed past)[i]? = some service)
    (hp : ∀ d, d.concerns service i = true → p d = true) :
    known i (later.filter p ++ past) = known i (later ++ past) := by
  have hsets : ∀ d, d.sets service = true → p d = true := fun d hd =>
    hp d (by simp [Doing.concerns, hd])
  induction later with
  | nil => rfl
  | cons d later ih =>
    have hlater := followed_append hi later
    have hfilter := followed_append hi (later.filter p)
    cases hd : p d with
    | true =>
      rw [List.filter_cons_of_pos hd]
      cases hto : d.isTo i with
      | true =>
        have hseen : seen i (later.filter p ++ past) = seen i (later ++ past) := by
          rw [seen_of_followed hfilter, seen_of_followed hlater, lastOf_filter hsets]
        exact known_congr hto hseen ih
      | false =>
        exact (known_cons_of_not_isTo hfilter hto).trans
          (ih.trans (known_cons_of_not_isTo hlater hto).symm)
    | false =>
      have hto : d.isTo i = false := Bool.eq_false_iff.2 fun hto =>
        Bool.false_ne_true (hd.symm.trans (hp d (by simp [Doing.concerns, hto])))
      rw [List.filter_cons_of_neg (by simp [hd])]
      exact ih.trans (known_cons_of_not_isTo hlater hto).symm

/-- Once the bulletin is taken down it keeps what was posted last. -/
theorem lastOf_takeDown (later past : List Doing) (service : String) :
    lastOf service (later ++ .takeDown :: past) = lastOf service past := by
  induction later with
  | nil => rfl
  | cons d later ih =>
    cases d with
    | post _ _ => simpa [lastOf] using ih
    | takeDown | follow _ | mark _ _ | askExited _ | askRestarted _ => exact ih

/-- What those who post and those who follow can rely on, after what was done. -/
structure Truthful (past : List Doing) : Prop where
  /-- A status is news if it is not the last one posted of its service. -/
  news : ∀ service status, reply past (.post service status) =
    .news (decide (.takeDown ∉ past ∧ lastOf service past ≠ status))
  /-- Whoever begins to follow has acknowledged the instance it finds. -/
  follows : ∀ service, reply past (.follow service) = .number (followed past).length ∧
    (after (.follow service :: past)).watches =
      (after past).watches ++ [⟨service, (lastOf service past).startedAt⟩]
  /-- A follower has acknowledged the instance it was made to mark or was told of last. -/
  acknowledges : ∀ i : Nat, (after past).watches[i]? =
    (followed past)[i]?.map fun service => ⟨service, known i past⟩
  /-- A follower is told that its service has exited if this is the last that was posted of it. -/
  exited : ∀ i service, (followed past)[i]? = some service →
    reply past (.askExited i) =
      if (lastOf service past).phase = .exited then .resolved else .pending
  /-- A follower is told that its service runs again if the last that was posted is that it runs as
  another instance than the one acknowledged. -/
  restarted : ∀ i service, (followed past)[i]? = some service →
    reply past (.askRestarted i) =
      if (lastOf service past).phase = .running ∧ (lastOf service past).startedAt ≠ known i past
      then .resolved else .pending
  /-- A question that is not answered changes nothing. -/
  pending : ∀ d, reply past d = .pending → after (d :: past) = after past
  /-- For a service counts only what is done to it. -/
  services : ∀ later service status, reply (later ++ past) (.post service status) =
    reply (later.filter (·.sets service) ++ past) (.post service status)
  /-- For a follower counts only what is done to it and to the service that it follows. -/
  followers : ∀ later i service, (followed past)[i]? = some service →
    ∀ d : Doing, d.concerns service i = true →
      reply (later ++ past) d = reply (later.filter (·.concerns service i) ++ past) d
  /-- Once the bulletin is taken down the last statuses stay what they are. -/
  kept : ∀ later service,
    (after (later ++ .takeDown :: past)).bulletin.last service = lastOf service past

/-- What is answered to one who posts depends on what its service has gone through. -/
theorem reply_post_filter (status : ServiceStatus)
    (hp : ∀ d, d.sets service = true → p d = true) :
    reply (later ++ past) (.post service status) =
      reply (later.filter p ++ past) (.post service status) := by
  simp only [reply_post, lastOf_filter hp, takeDown_mem_filter hp]

/-- What is answered for a follower depends on what it and its service have gone through. -/
theorem reply_filter (hi : (followed past)[i]? = some service)
    (hp : ∀ d, d.concerns service i = true → p d = true) (hd : d.concerns service i = true) :
    reply (later ++ past) d = reply (later.filter p ++ past) d := by
  have hsets : ∀ d, d.sets service = true → p d = true := fun d hd =>
    hp d (by simp [Doing.concerns, hd])
  have hlast : lastOf service (later.filter p ++ past) = lastOf service (later ++ past) :=
    lastOf_filter hsets
  have hseen : seen i (later.filter p ++ past) = seen i (later ++ past) := by
    rw [seen_of_followed (followed_append hi _), seen_of_followed (followed_append hi _), hlast]
  cases d with
  | post name status =>
    obtain rfl : name = service := by simpa [Doing.concerns, Doing.sets, Doing.isTo] using hd
    exact reply_post_filter status hsets
  | takeDown | mark _ _ => rfl
  | follow _ => cases hd
  | askExited j =>
    obtain rfl : j = i := by simpa [Doing.concerns, Doing.sets, Doing.isTo] using hd
    rw [reply_askExited, reply_askExited, hseen]
  | askRestarted j =>
    obtain rfl : j = i := by simpa [Doing.concerns, Doing.sets, Doing.isTo] using hd
    rw [reply_askRestarted, reply_askRestarted, hseen, known_filter hi hp]

/-- **Whatever was done, the bulletin and its followers answer what was posted and acknowledged
last**, and no service or follower has anything to do with another. -/
theorem truthful (past : List Doing) : Truthful past where
  news := reply_post past
  follows service := by
    refine ⟨by rw [← length_watches_after]; rfl, ?_⟩
    simp [after, step, Watch.new, last_after]
  acknowledges := watches_after past
  exited i service h := by rw [reply_askExited, seen_of_followed h]
  restarted i service h := by rw [reply_askRestarted, seen_of_followed h]
  pending _ := after_of_pending
  services later service status := reply_post_filter status fun _ => id
  followers later i service h d hd := reply_filter h (fun _ => id) hd
  kept later service := by rw [last_after, lastOf_takeDown]

end Lookout

end LogWeave
