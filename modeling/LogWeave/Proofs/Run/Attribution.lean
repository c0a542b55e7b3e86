import LogWeave.Proofs.Output.Rows
import LogWeave.Proofs.Run.Grammar
import LogWeave.Proofs.Run.Law
import LogWeave.Proofs.Run.Notices
import LogWeave.Proofs.Run.Order
import Mathlib.Data.List.Perm.Subperm

/-! Whose line it is, and how it is printed.

A notice is put into words by the reader that sends it, and a line of the log by the collator that
prints it. What either has to say stands by itself (`Utters`), and both put the colored name of its
source in front or both leave it out, by whether two services have been asked for (`Attributed`).
Names and lines without newlines make rows without newlines, so these are the lines of all that has
been written (`rowsOf_isPrefix`). -/
namespace LogWeave

/-! ### The rows of a text -/

/-- The rows of a text: what its newlines end, one by one. -/
def rowsOf (text : String) : List String :=
  ((text.toList.splitOn '\n').dropLast).map String.ofList

/-- All on one line. -/
def IsRow (text : String) : Prop := '\n' ∉ text.toList

instance (text : String) : Decidable (IsRow text) := inferInstanceAs (Decidable (¬ _))

/-- Of rows on end, a beginning has the first ones. -/
theorem dropLast_splitOn_isPrefix {rows : List (List Char)} (hrows : ∀ row ∈ rows, '\n' ∉ row)
    {cs : List Char} (h : cs <+: rows.flatMap (· ++ ['\n'])) :
    (cs.splitOn '\n').dropLast <+: rows := by
  induction rows generalizing cs with
  | nil =>
    obtain rfl : cs = [] := by simpa using h
    exact List.nil_prefix
  | cons row rest ih =>
    obtain ⟨hrow, hrest⟩ := List.forall_mem_cons.1 hrows
    obtain ⟨lost, hlost⟩ := h
    rw [List.flatMap_cons, List.append_assoc, List.singleton_append] at hlost
    rcases List.append_eq_append_iff.1 hlost with ⟨torn, hcs, -⟩ | ⟨later, hcs, hlater⟩
    · -- The beginning ends within the first row.
      have hone : '\n' ∉ cs := fun hmem => hrow (hcs ▸ List.mem_append_left torn hmem)
      rw [List.splitOn_eq_singleton hone]
      exact List.nil_prefix
    · cases later with
      | nil =>
        rw [List.append_nil] at hcs
        rw [hcs, List.splitOn_eq_singleton hrow]
        exact List.nil_prefix
      | cons c later =>
        obtain ⟨rfl, hprefix⟩ := List.cons.inj hlater
        rw [hcs, List.splitOn_append_cons_self_of_not_mem hrow,
          List.dropLast_cons_of_ne_nil (List.splitOn_ne_nil _ _)]
        exact (List.prefix_cons_inj row).2 (ih hrest ⟨lost, hprefix.symm⟩)

/-- **Rows that are written on end are read back**, as far as they have been written. -/
theorem rowsOf_isPrefix {rows : List String} (hrows : ∀ row ∈ rows, IsRow row)
    {written lost : String} (h : written ++ lost = String.join (rows.map (· ++ "\n"))) :
    rowsOf written <+: rows := by
  have hprefix : written.toList <+: (rows.map String.toList).flatMap (· ++ ['\n']) := by
    refine ⟨lost.toList, ?_⟩
    rw [← String.toList_append, h, String.toList_join, List.flatMap_map, List.flatMap_map]
    exact List.flatMap_congr fun row _ => String.toList_append
  have hread := (dropLast_splitOn_isPrefix (List.forall_mem_map.2 hrows) hprefix).map String.ofList
  simpa [rowsOf, Function.comp_def] using hread

theorem printable_sublist (as : List Arrival) : (printable as).Sublist as :=
  List.filter_sublist.trans (List.takeWhile_sublist _)

theorem mem_printable {as : List Arrival} {a : Arrival} (h : a ∈ printable as) :
    a ∈ as ∧ a.isSilent = false ∧ a.fault? = none := by
  obtain ⟨hmem, hsilent⟩ := List.mem_filter.1 h
  have hsound := List.mem_takeWhile_imp hmem
  exact ⟨(printable_sublist as).subset h, by simpa using hsilent, by simpa using hsound⟩

/-- What has been written are the rows of lines that were to be printed, in some order. -/
theorem Collator.Printed.arrivals {shared : Bool} {c : Collator} {sent torn : List Arrival}
    {batches : List (List Arrival)} (h : c.Printed shared sent batches torn) :
    ∃ printed : List Arrival, printed.Subperm (printable sent) ∧
      c.Writes shared (printed.map Arrival.entry) := by
  let arranged (batch : List Arrival) : List Arrival :=
    batch.mergeSort fun a b => a.entry.before b.entry
  have hperm : ((batches ++ [torn]).flatMap arranged).Perm (batches.flatten ++ torn) := by
    have hflat := List.Perm.flatMap_left (batches ++ [torn]) (f := arranged) (g := id)
      fun batch _ => List.mergeSort_perm batch _
    simpa using hflat
  refine ⟨(batches ++ [torn]).flatMap arranged,
    hperm.subperm.trans h.lines.sublist.subperm, ?_⟩
  have hcollate : (batches ++ [torn]).flatMap collate =
      ((batches ++ [torn]).flatMap arranged).map Arrival.entry := by
    rw [List.map_flatMap]
    refine List.flatMap_congr fun batch _ => ?_
    exact (List.map_mergeSort (f := Arrival.entry) (s := Entry.before) fun _ _ _ _ => rfl).symm
  rw [← hcollate]
  exact h.writes

namespace Run

/-! ### What lines have to say -/

/-- What a line has to say by itself: the message behind its time, the whole of it if no time can be
read, or the words of a notice. -/
inductive Utters (shared : Bool) : Arrival → String → Prop where
  | message {source text message : String} {stamp : Time.Instant}
    (h : Stamp.readLine text = .ok (message, stamp)) (receivedAt : Time.Instant) :
    Utters shared (.line source text receivedAt) message
  | unread {source text : String} {why : Failure} (h : Stamp.readLine text = .error why)
    (receivedAt : Time.Instant) : Utters shared (.line source text receivedAt) text
  | reconnecting (source why : String) (receivedAt : Time.Instant) :
    Utters shared (.ending source (.broken why)
      (some (Grammar.noticeText source shared reconnectingNotice)) receivedAt) reconnectingNotice
  | exited (source : String) (receivedAt : Time.Instant) :
    Utters shared (.notify source (Grammar.noticeText source shared exitedNotice) receivedAt)
      exitedNotice
  | restarted (source : String) (receivedAt : Time.Instant) :
    Utters shared (.notify source (Grammar.noticeText source shared restartedNotice) receivedAt)
      restartedNotice

/-- What a source has to say, as it is printed: after its name if others have their say too. -/
def spoken (shared : Bool) (source text : String) : String :=
  if shared then attributed source text else text

namespace Utters

variable {shared : Bool} {a : Arrival} {text : String}

/-- Whoever puts it into words, the name is in front of all or of none. -/
theorem printed (h : Utters shared a text) : a.printed shared = spoken shared a.source text := by
  cases h with
  | message h | unread h =>
    rw [Arrival.printed_line, printedLine, h]
    rfl
  | reconnecting | exited | restarted => rfl

/-- The message of a line is part of it. -/
theorem isRow_message {line message : String} {stamp : Time.Instant} (hline : IsRow line)
    (h : Stamp.readLine line = .ok (message, stamp)) : IsRow message := by
  unfold Stamp.readLine Stamp.split? at h
  have hsub : (line.toList.dropWhile (· != ' ')).Sublist line.toList := List.dropWhile_sublist _
  cases hdrop : line.toList.dropWhile (· != ' ') with
  | nil => simp [hdrop] at h
  | cons space after =>
    rw [hdrop] at h hsub
    cases hread : Stamp.read (String.ofList (line.toList.takeWhile (· != ' '))) with
    | error why => simp [hread, Except.map] at h
    | ok time =>
      obtain ⟨rfl, -⟩ : String.ofList after = message ∧ time = stamp := by
        simpa [hread, Except.map] using h
      rw [IsRow, String.toList_ofList]
      exact fun hmem => hline (hsub.subset (List.mem_cons_of_mem _ hmem))

/-- What a line on one line has to say is on one line. -/
theorem isRow (h : Utters shared a text) (hlogged : a.isLogged = true → IsRow a.text) :
    IsRow text := by
  cases h with
  | message h => exact isRow_message (hlogged rfl) h
  | unread => exact hlogged rfl
  | reconnecting | exited | restarted => decide

end Utters

/-- A reader's line that is to be printed has something to say. -/
theorem Tail.Tells.utters {t : Tail} {a : Arrival} {next : Next} (h : t.Tells a next)
    (hsilent : a.isSilent = false) (hsound : a.fault? = none) : ∃ text, Utters t.shared a text := by
  cases h with
  | line text rest receivedAt =>
    cases hread : Stamp.readLine text with
    | ok read => exact ⟨read.1, .message hread receivedAt⟩
    | error why => exact ⟨text, .unread hread receivedAt⟩
  | finished => cases hsilent
  | broken hf why receivedAt => exact ⟨_, .reconnecting ..⟩
  | last hf how receivedAt =>
    cases how with
    | finished => cases hsilent
    | broken why => cases hsound
  | exited => exact ⟨_, .exited ..⟩
  | restarted => exact ⟨_, .restarted ..⟩

/-! ### What readers have sent -/

section Voice

variable {σ : Type} {w : World σ} {shared : Bool} {f : Floor σ} {t u : Tail} {r : Floor σ × Tail}

/-- What a reader has sent it has told, and the lines of the log among it are lines of its
streams. -/
structure Tail.Voice (w : World σ) (shared : Bool) (f : Floor σ) (t : Tail) : Prop where
  shared_eq : t.shared = shared
  apt : t.Apt
  told : ∀ a ∈ sentBy t.service f.journal, ∃ next, t.Tells a next
  sifting : t.Sifting w t.service (eventsOf t.service f.journal)
  brought : ∀ line ∈ loggedIn (eventsOf t.service f.journal),
    ∃ state query, line ∈ linesIn (w.openLog state t.service query).1.outcome

/-- What a turn passes on has been brought by the stream. -/
theorem Tail.Sifting.brought {service : String} {events later : List Event}
    (h : t.Sifting w service events) (hsift : Sift w t later u) :
    ∀ line ∈ loggedIn later, ∃ state query,
      line ∈ linesIn (w.openLog state service query).1.outcome := by
  cases hsift with
  | attempt | drop | take => simp [loggedIn, Event.sent?]
  | beside hplain => simp [loggedIn_plain hplain]
  | @pass a rest hs =>
    obtain ⟨_, query, _, -, hsieve⟩ := h.tried (by simp [isUntried, hs])
    obtain ⟨state, read, left, hread, -, hleft⟩ := hsieve.lines
    simp only [Left, hs] at hleft
    have hlogged : a.isLogged = true := by simpa [Labelled, hs] using h.labelled
    rw [loggedIn_sent hlogged]
    refine List.forall_mem_singleton.2 ⟨state, query, ?_⟩
    rw [← hread, hleft.2]
    exact List.mem_append_right read (List.mem_cons_self ..)

namespace Tail.Voice

theorem new (w : World σ) (s : Streaming) (shared : Bool) (f : Floor σ) {bulletin : Bulletin}
    {number : Nat} {service : String} (hj : f.journal = []) :
    (Tail.new s shared bulletin number service).Voice w shared f where
  shared_eq := rfl
  apt := Tail.apt_new ..
  told := by simp [hj, sentBy, eventsOf]
  sifting := by
    rw [hj]
    exact .new s shared bulletin number
  brought := by simp [hj, loggedIn, eventsOf]

/-- Other events do not matter. -/
theorem congr {g : Floor σ} (h : t.Voice w shared f)
    (hevents : eventsOf t.service g.journal = eventsOf t.service f.journal) :
    t.Voice w shared g where
  shared_eq := h.shared_eq
  apt := h.apt
  told := by
    rw [sentBy, hevents]
    exact h.told
  sifting := hevents ▸ h.sifting
  brought := hevents ▸ h.brought

theorem turn (h : t.Voice w shared f) (hx : Turn w f t r) : r.2.Voice w shared r.1 := by
  obtain ⟨-, hservice, hfollow, -, hshared⟩ := hx.tail_eq
  obtain ⟨later, hevents, hsift⟩ := hx.sift h.sifting.labelled
  refine ⟨hshared.trans h.shared_eq, hx.apt h.apt, ?_, ?_, ?_⟩
  · obtain ⟨more, hj, hmore⟩ := hx.tells h.apt
    have hcongr {a : Arrival} (ha : ∃ next, t.Tells a next) : ∃ next, r.2.Tells a next :=
      ha.imp fun _ htells => htells.congr hservice hfollow hshared
    intro a ha
    rw [hservice, hj, sentBy_append] at ha
    rcases List.mem_append.1 ha with ha | ha
    · exact hcongr (h.told a ha)
    · obtain ⟨e, he, hsent⟩ := mem_sentAll.1 (sentBy_subset ha)
      exact hcongr ((hmore e he).2 a hsent)
  · have hsifting := h.sifting.turn hx
    rwa [← hservice] at hsifting
  · intro line hline
    rw [hservice, hevents, loggedIn_append] at hline
    rw [hservice]
    exact (List.mem_append.1 hline).elim (h.brought line) (h.sifting.brought hsift line)

theorem world (h : t.Voice w shared f) (act : Act) (world : σ) :
    t.Voice w shared ({ f with world }.apply act) := by
  obtain ⟨posted, hposted⟩ := Floor.eventsOf_apply t.service { f with world } act
  refine ⟨h.shared_eq, h.apt, ?_, ?_, ?_⟩
  · rw [Floor.sentBy_apply]
    exact h.told
  · rw [hposted]
    exact h.sifting.posted posted
  · have hplain : loggedIn (posted.map Event.posted) = [] :=
      loggedIn_plain (by simp [Event.isPlain, Event.isOpening, loggedIn, Event.sent?])
    rw [hposted, loggedIn_append, hplain, List.append_nil]
    exact h.brought

/-- A reader speaks for itself all along. -/
theorem law (w : World σ) (shared : Bool) : Law w (Tail.Voice w shared) where
  turn h hx := h.turn hx
  other h hx hne := h.congr (hx.eventsOf_other hne)
  world act world h := h.world act world
  beside _ _ h := h.congr rfl
  elapse h _ := h.congr rfl

end Tail.Voice

end Voice

/-! ### What is printed -/

/-- Among the names asked for are two different ones. -/
def areSeveral (services : List String) : Bool :=
  services.any fun first => services.any fun second => first != second

theorem areSeveral_iff {services : List String} :
    areSeveral services = true ↔ ∃ a ∈ services, ∃ b ∈ services, a ≠ b := by
  simp [areSeveral]

/-- A run is shared if two different services have been asked for, however often. -/
theorem isShared_eq_areSeveral {services : List String} {s : Streaming} {r : Request}
    (h : Request.new services s = .ok r) :
    r.isShared = areSeveral services ∧ ∀ service, service ∈ r.services ↔ service ∈ services := by
  obtain ⟨hservices, -⟩ := Request.new_eq_ok.1 h
  have hmem (service : String) : service ∈ r.services ↔ service ∈ services := by
    rw [hservices, mem_distinct]
  refine ⟨?_, hmem⟩
  rw [Bool.eq_iff_iff, areSeveral_iff, Request.isShared, decide_eq_true_eq]
  simp only [← hmem]
  have hnodup := r.nodup
  generalize r.services = names at hnodup
  rcases names with _ | ⟨first, _ | ⟨second, rest⟩⟩
  · simp
  · simp
  · have hne : first ≠ second := by
      rintro rfl
      simp at hnodup
    simp only [List.length_cons, Nat.lt_add_left_iff_pos, Nat.zero_lt_succ, true_iff]
    exact ⟨first, by simp, second, by simp, hne⟩

/-- All streams bring lines without newlines. -/
def World.BringsRows {σ : Type} (w : World σ) : Prop :=
  ∀ state service query, ∀ line ∈ linesIn (w.openLog state service query).1.outcome, IsRow line

/-- Lines that have something to say are told one by one. -/
theorem exists_told {P : Arrival → String → Prop} {as : List Arrival}
    (h : ∀ a ∈ as, ∃ text, P a text) :
    ∃ told : List (Arrival × String), told.map Prod.fst = as ∧ ∀ x ∈ told, P x.1 x.2 := by
  induction as with
  | nil => exact ⟨[], rfl, by simp⟩
  | cons a rest ih =>
    obtain ⟨⟨text, htext⟩, hrest⟩ := List.forall_mem_cons.1 h
    obtain ⟨told, rfl, htold⟩ := ih hrest
    exact ⟨(a, text) :: told, rfl, List.forall_mem_cons.2 ⟨htext, htold⟩⟩

theorem isRow_attributed {source text : String} (hsource : IsRow source) (htext : IsRow text) :
    IsRow (attributed source text) := by
  have hopening : ∀ c : Color, '\n' ∉ c.opening.toList := by
    intro c
    cases c <;> decide
  simp only [IsRow, attributed, colored, Color.paint, String.toList_append, List.mem_append,
    not_or]
  exact ⟨⟨⟨⟨hopening _, hsource⟩, by decide⟩, by decide⟩, htext⟩

theorem isRow_spoken {source text : String} (shared : Bool) (hsource : IsRow source)
    (htext : IsRow text) : IsRow (spoken shared source text) := by
  cases shared
  · exact htext
  · exact isRow_attributed hsource htext

namespace Weave

variable {σ : Type} {w : World σ} {v : Weave σ}

/-- All that has been written. -/
def written (v : Weave σ) : String :=
  String.join (v.collator.sink.flushes.map Flush.text) ++ v.collator.sink.pending

/-- What has been written are rows, each of which says what a line of a source has to say. -/
structure Attributed (services : List String) (v : Weave σ) (told : List (Arrival × String))
    (rows : List String) : Prop where
  /-- The name of its source is in front of each, or of none. -/
  rows_eq : rows = told.map fun x => spoken (areSeveral services) x.1.source x.2
  utters : ∀ x ∈ told, Utters (areSeveral services) x.1 x.2
  /-- The source is the one whose reader has sent it. -/
  sender : ∀ x ∈ told, x.1.source ∈ services ∧ x.1 ∈ sentBy x.1.source v.floor.journal
  once : (told.map Prod.fst).Subperm (sentAll v.floor.journal)
  lines : rowsOf v.written <+: rows
  /-- Only a sink that refuses has not all of them. -/
  whole : ∃ lost, v.written ++ lost = String.join (rows.map (· ++ "\n")) ∧
    (lost ≠ "" → v.collator.sink.refuses = true)

variable {r : Request} {limits : SinkLimits} {services : List String}

/-- What has been printed was sent by a reader of a service, and has something to say. -/
theorem Wired.sender_printable (h : Wired r limits v) (ht : Told v) {a : Arrival}
    (ha : a ∈ printable (sentAll v.floor.journal)) :
    ∃ t ∈ v.tails, a.source = t.service ∧ a ∈ sentBy t.service v.floor.journal ∧
      a.isSilent = false ∧ a.fault? = none := by
  obtain ⟨hsent, hsilent, hsound⟩ := mem_printable ha
  obtain ⟨e, he, hevent⟩ := mem_sentAll.1 hsent
  obtain ⟨t, hmem, hservice, hby⟩ := h.sender he hevent
  exact ⟨t, hmem, (ht.source e he a hevent).trans hservice.symm, hby, hsilent, hsound⟩

/-- What readers have told is printed as theirs. -/
theorem Wired.attributed (h : Wired r limits v) (ht : Told v)
    (hvoice : ∀ t ∈ v.tails, t.Voice w r.isShared v.floor) (hw : w.BringsRows)
    (hshared : r.isShared = areSeveral services)
    (hservices : ∀ service, service ∈ r.services ↔ service ∈ services)
    (hnames : ∀ service ∈ services, IsRow service) :
    ∃ told rows, Attributed services v told rows := by
  obtain ⟨batches, torn, hprinted⟩ := h.printed
  obtain ⟨printed, hsub, lost, hwritten, hlost⟩ := hprinted.arrivals
  have hprintable : ∀ a ∈ printed, a ∈ printable (sentAll v.floor.journal) := hsub.subset
  have hutters : ∀ a ∈ printed, ∃ text, Utters r.isShared a text := by
    intro a ha
    obtain ⟨t, hmem, -, hby, hsilent, hsound⟩ := h.sender_printable ht (hprintable a ha)
    obtain ⟨next, htells⟩ := (hvoice t hmem).told a hby
    rw [← (hvoice t hmem).shared_eq]
    exact htells.utters hsilent hsound
  obtain ⟨told, rfl, htold⟩ := exists_told hutters
  have hsender : ∀ x ∈ told, x.1.source ∈ services ∧
      x.1 ∈ sentBy x.1.source v.floor.journal := by
    intro x hx
    obtain ⟨t, hmem, hsource, hby, -⟩ :=
      h.sender_printable ht (hprintable x.1 (List.mem_map_of_mem hx))
    rw [hsource]
    exact ⟨(hservices _).1 (h.woven.service_mem hmem), hby⟩
  have hrow : ∀ x ∈ told, IsRow (spoken r.isShared x.1.source x.2) := by
    intro x hx
    obtain ⟨t, hmem, hsource, hby, -⟩ :=
      h.sender_printable ht (hprintable x.1 (List.mem_map_of_mem hx))
    refine isRow_spoken _ (hnames _ (hsender x hx).1) ((htold x hx).isRow fun hlogged => ?_)
    have hline : x.1.text ∈ loggedIn (eventsOf t.service v.floor.journal) :=
      List.mem_map_of_mem (List.mem_filter.2 ⟨hby, hlogged⟩)
    obtain ⟨state, query, hbrought⟩ := (hvoice t hmem).brought _ hline
    exact hw state _ query _ hbrought
  -- The collator prints each line as what its reader has to say.
  have hrows : (told.map Prod.fst).map (fun a => a.entry.row r.isShared) =
      (told.map fun x => spoken r.isShared x.1.source x.2).map (· ++ "\n") := by
    rw [List.map_map, List.map_map]
    exact List.map_congr_left fun x hx => congrArg (· ++ "\n") (htold x hx).printed
  rw [List.map_map] at hwritten
  replace hwritten := hwritten.trans (congrArg String.join hrows)
  rw [hshared] at htold hrow hwritten
  exact ⟨told, _, rfl, htold, hsender, hsub.trans (printable_sublist _).subperm,
    rowsOf_isPrefix (List.forall_mem_map.2 hrow) hwritten, lost, hwritten, hlost⟩

/-- **Each line written says whose it is, if there are two to tell apart.** Whatever services are
asked for, whatever their streams bring and the board says: with two different services each row is
the colored name of the service whose reader has sent it and what that line has to say by itself,
and with one service, however often it is asked for, it is this alone. -/
theorem attributes_rows (hw : w.BringsRows) (hnames : ∀ service ∈ services, IsRow service)
    {s : Streaming} (hnew : Request.new services s = .ok r) (limits : SinkLimits)
    (bulletin : Bulletin) (cancelled : Bool) (world : σ)
    (h : (schedule w).Drifts (new r bulletin (.new limits) cancelled world) v) :
    ∃ told rows, Attributed services v told rows := by
  obtain ⟨hshared, hservices⟩ := isShared_eq_areSeveral hnew
  have hvoice : ∀ t ∈ v.tails, t.Voice w r.isShared v.floor :=
    (Tail.Voice.law w r.isShared).everywhere.2 h fun _ _ =>
      .new w r.streaming r.isShared _ rfl
  exact (Wired.drifts h).attributed (.drifts h) hvoice hw hshared hservices hnames

/-- A world in which one service brings a line of its log, and another cannot be opened and
exits. -/
def uneven : World Nat where
  openLog n service _ :=
    (if service = "web" then .stream [.line "2024-03-01T10:00:05Z b", .hang]
      else ⟨0, .error (.transport "refused")⟩, n)
  act now _ n :=
    if n = 0 ∧ 10 ≤ now then some (.post "db" ⟨.exited, none, none, none⟩, 1) else none
  due n := if n = 0 then some 10 else none
  clock _ := ⟨1709287206, 0, valid_clock⟩

theorem bringsRows_uneven : uneven.BringsRows := by
  intro n service query line hline
  by_cases hs : service = "web"
  · have hb : line = "2024-03-01T10:00:05Z b" := by
      simpa [uneven, hs, Opening.stream, linesIn, linesOf] using hline
    rw [hb]
    decide
  · simp [uneven, hs, linesIn] at hline

theorem bringsRows_hasty : hasty.BringsRows := by
  intro state service query line hline
  by_cases hs : state.1 = 0
  · simp [hasty, hs, linesIn] at hline
  · have hb : line = "2024-03-01T10:00:05Z b" := by
      simpa [hasty, hs, Opening.stream, linesIn, linesOf] using hline
    rw [hb]
    decide

/-- The logs of both, following, with a window of 100. -/
def unevenRequest : Request :=
  ⟨["web", "db"], ⟨true, false, 100, 500, 1000, 2⟩, by decide, by decide⟩

/-- Where the window closes. -/
def unevenBrink : Weave Nat :=
  (schedule uneven).runFrom 200 14 0 (new unevenRequest .new .endless false 0)

theorem drifts_unevenBrink :
    (schedule uneven).Drifts (new unevenRequest .new .endless false 0) unevenBrink :=
  ((schedule uneven).reachable_runFrom 200 14 0 .start).drifts

/-- What is sent until then. -/
def unevenLines : List Arrival :=
  [.line "web" "2024-03-01T10:00:05Z b" (uneven.clock 0),
    .notify "db" (attributed "db" exitedNotice) (uneven.clock 1)]

/-- A row of the log and a notice, each with the name of its source. -/
theorem rendering_uneven : rendering true unevenLines =
    String.join ([attributed "web" "b", attributed "db" exitedNotice].map (· ++ "\n")) := by
  let b : Entry := ⟨"web", "b", ⟨1709287205, 0, by decide⟩, none⟩
  let exited : Entry := ⟨"db", "", uneven.clock 1, some (attributed "db" exitedNotice)⟩
  have hentries : unevenLines.map Arrival.entry = [b, exited] := by decide +kernel
  have horder : b.before exited = true := by decide
  have hcollate : collate unevenLines = [b, exited] := by
    rw [collate, hentries]
    simp [List.mergeSort, List.MergeSort.Internal.splitInTwo, horder]
  rw [rendering, hcollate]
  decide +kernel

/-- A state of that run after its first flush. -/
theorem drifts_uneven : ∃ v,
    (schedule uneven).Drifts (new unevenRequest .new .endless false 0) v ∧
      rowsOf v.written = [attributed "web" "b", attributed "db" exitedNotice] := by
  have hopen : unevenBrink.collator.outcome = none :=
    Option.isNone_iff_eq_none.1 (by decide +kernel)
  have hbatch : unevenBrink.collator.batch = unevenLines := by decide +kernel
  have hsink : unevenBrink.collator.sink = .endless := by decide +kernel
  have hshared : unevenBrink.collator.shared = true := by decide +kernel
  obtain ⟨v, hdrift, -, hpending, hflushes⟩ := drift_flush uneven hopen (by decide +kernel)
    (by decide +kernel) (by decide +kernel) (by decide +kernel) (by rw [hsink]; rfl)
    (by rw [hsink]; rfl) (by rw [hbatch]; decide)
  refine ⟨v, drifts_unevenBrink.tail hdrift, ?_⟩
  have hwritten : v.written =
      String.join ([attributed "web" "b", attributed "db" exitedNotice].map (· ++ "\n")) := by
    rw [written, hpending, hflushes, hsink, hbatch, hshared, rendering_uneven]
    simp [Sink.endless, Sink.new]
  rw [hwritten]
  decide +kernel

/-- Two services, one of them asked for twice; and one alone, asked for twice. -/
theorem attributes_rows_uneven :
    (∃ r v told rows, Request.new ["web", "db", "web"] ⟨true, false, 100, 500, 1000, 2⟩ = .ok r ∧
      (schedule uneven).Drifts (new r .new (.new ⟨none, none⟩) false 0) v ∧
      rowsOf v.written = [attributed "web" "b", attributed "db" exitedNotice] ∧
      Attributed ["web", "db", "web"] v told rows) ∧
    ∃ r v told rows, Request.new ["web", "web"] ⟨true, false, 100, 500, 1000, 2⟩ = .ok r ∧
      (schedule hasty).Drifts (new r .new (.new ⟨none, none⟩) false (0, 0)) v ∧
      v.collator.sink.flushes.map Flush.text =
        ["b\nThe container exited.\nThe container restarted, streaming logs..\n"] ∧
      Attributed ["web", "web"] v told rows := by
  constructor
  · obtain ⟨v, hv, hrows⟩ := drifts_uneven
    have hnew : Request.new ["web", "db", "web"] ⟨true, false, 100, 500, 1000, 2⟩ =
      .ok unevenRequest := rfl
    obtain ⟨told, rows, h⟩ :=
      attributes_rows bringsRows_uneven (by decide) hnew ⟨none, none⟩ .new false 0 hv
    exact ⟨unevenRequest, v, told, rows, rfl, hv, hrows, h⟩
  · obtain ⟨v, hv, -, hflushes, -⟩ := drifts_hasty
    have hnew : Request.new ["web", "web"] ⟨true, false, 100, 500, 1000, 2⟩ =
      .ok hastyRequest := rfl
    obtain ⟨told, rows, h⟩ :=
      attributes_rows bringsRows_hasty (by decide) hnew ⟨none, none⟩ .new false (0, 0) hv
    exact ⟨hastyRequest, v, told, rows, rfl, hv, hflushes, h⟩

end Weave

end Run

end LogWeave
