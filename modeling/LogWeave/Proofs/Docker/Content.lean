import LogWeave.Proofs.Docker.Framing
import LogWeave.Proofs.Run.Completion
import LogWeave.Proofs.Run.Failing
import LogWeave.Proofs.Run.Notices
import LogWeave.Proofs.Run.Unbroken

/-! What the content of a log can do to a run.

A stream brings the lines of a log up to the first that spells no text, and there it breaks
(`Yields.of_texts`, `Yields.lost`). So it is for a run: a log of texts is printed to its end, and
one that is followed is read without a disconnection; a log with any other line makes a run fail
(`Client.only_texts_pass`). -/
namespace LogWeave.Docker

open Run (StreamItem World Weave endOf endIn linesOf)
open Text (Bytes utf8)

theorem utf8_injective {s t : String} (h : utf8 s = utf8 t) : s = t := by
  have hs := Text.decode_utf8 s
  rw [h, Text.decode_utf8] at hs
  exact (Except.ok.inj hs).symm

/-- What a line of text is in a stream. -/
def itemOf (text : String) : StreamItem := .line (withoutReturns text)

namespace Yields

variable {service : String} {ending items : List StreamItem} {pieces rest : List Bytes}
  {texts : List String}

/-- **Each text is an item, and they are in order.** -/
theorem texts_append (h : Yields service ending (texts.map utf8 ++ pieces) items) :
    ∃ more, items = texts.map itemOf ++ more ∧ Yields service ending pieces more := by
  induction texts generalizing items with
  | nil => exact ⟨items, rfl, h⟩
  | cons text texts ih =>
    rw [List.map_cons, List.cons_append] at h
    generalize hpiece : utf8 text = piece at h
    cases h with
    | line h =>
      obtain ⟨more, rfl, hmore⟩ := ih h
      rw [utf8_injective hpiece]
      exact ⟨more, rfl, hmore⟩
    | broken h => exact absurd hpiece.symm (h text)

theorem of_texts (h : Yields service ending (texts.map utf8) items) :
    items = texts.map itemOf ++ ending := by
  rw [← List.append_nil (texts.map utf8)] at h
  obtain ⟨more, rfl, hmore⟩ := h.texts_append
  cases hmore
  rfl

/-- A line that spells no text breaks the stream, and what stands behind it is lost. -/
theorem lost {piece : Bytes} (h : Yields service ending (texts.map utf8 ++ piece :: rest) items)
    (hpiece : ∀ text, piece ≠ utf8 text) :
    ∃ why, items = texts.map itemOf ++ Client.broken service why := by
  obtain ⟨more, rfl, hmore⟩ := h.texts_append
  cases hmore with
  | line => exact absurd rfl (hpiece _)
  | @broken _ _ why => exact ⟨why, rfl⟩

end Yields

/-- An output is text if all its lines are. -/
def Body.IsText (output : Bytes) : Prop := ∃ texts : List String, lines output = texts.map utf8

/-- An output that is no text has a first line that is none. -/
theorem Body.not_isText {output : Bytes} (h : ¬ IsText output) :
    ∃ (texts : List String) (piece : Bytes) (rest : List Bytes),
      lines output = texts.map utf8 ++ piece :: rest ∧ ∀ text, piece ≠ utf8 text := by
  suffices hsplit : ∀ pieces : List Bytes, (∃ texts : List String, pieces = texts.map utf8) ∨
      ∃ (texts : List String) (piece : Bytes) (rest : List Bytes),
        pieces = texts.map utf8 ++ piece :: rest ∧ ∀ text, piece ≠ utf8 text from
    (hsplit (lines output)).resolve_left h
  intro pieces
  induction pieces with
  | nil => exact .inl ⟨[], rfl⟩
  | cons piece pieces ih =>
    by_cases hpiece : ∃ text, piece = utf8 text
    · obtain ⟨text, rfl⟩ := hpiece
      rcases ih with ⟨texts, rfl⟩ | ⟨texts, bad, rest, rfl, hbad⟩
      · exact .inl ⟨text :: texts, rfl⟩
      · exact .inr ⟨text :: texts, bad, rest, rfl, hbad⟩
    · exact .inr ⟨[], piece, pieces, rfl, fun text heq => hpiece ⟨text, heq⟩⟩

theorem endOf_texts (texts : List String) (ending : List StreamItem) :
    endOf (texts.map itemOf ++ ending) = endOf ending := by
  induction texts with
  | nil => rfl
  | cons text texts ih => exact ih

theorem endOf_itemsOf {service : String} {output : Bytes} :
    (Body.IsText output → endOf (Client.itemsOf service output) = some .finished) ∧
      (¬ Body.IsText output →
        ∃ why, endOf (Client.itemsOf service output) = some (.broken why)) := by
  have hyields := Client.yields_itemsOf service output
  refine ⟨fun ⟨texts, htexts⟩ => ?_, fun h => ?_⟩
  · rw [htexts] at hyields
    rw [hyields.of_texts, endOf_texts]
    rfl
  · obtain ⟨texts, piece, rest, hlines, hpiece⟩ := Body.not_isText h
    rw [hlines] at hyields
    obtain ⟨why, hitems⟩ := hyields.lost hpiece
    rw [hitems, endOf_texts]
    exact ⟨_, rfl⟩

namespace Client

variable {ε σ : Type} {c : Client ε} {w : World σ} {outputs : String → Bytes} {r : Request}

/-- Each log is opened through the client, and the engine sends an output for its service and
ends. -/
def Supplies (c : Client ε) (w : World σ) (outputs : String → Bytes) : Prop :=
  ∀ state service q, ∃ e answered,
    (w.openLog state service q).1.outcome = (c.openLog service q e).1 ∧
      c.Sends service q e answered (outputs service) false

/-- Each log that opens is opened through the client, and the engine sends a text for it, and then
ends or falls silent. -/
def SuppliesText (c : Client ε) (w : World σ) : Prop :=
  ∀ state service q items, (w.openLog state service q).1.outcome = .ok items →
    ∃ e answered output hangs, (c.openLog service q e).1 = .ok items ∧
      c.Sends service q e answered output hangs ∧ Body.IsText output

theorem Supplies.outcome_eq (h : c.Supplies w outputs) (state : σ) (service : String)
    (q : LogQuery) :
    (w.openLog state service q).1.outcome = .ok (itemsOf service (outputs service)) := by
  obtain ⟨e, answered, houtcome, hsends⟩ := h state service q
  obtain ⟨frames, hfits, houtput, hopen⟩ := hsends.openLog_eq
  rw [houtcome, hopen, streamOf_eq_itemsOf service hfits, houtput]

/-- What is sent of a text does not break its stream. -/
theorem endOf_streamOf_text {service : String} {frames : List Frame} (hfits : ∀ f ∈ frames, f.Fits)
    (htext : Body.IsText (frames.flatMap Frame.content)) (hangs : Bool) :
    endOf (streamOf service ⟨frames, hangs⟩) = if hangs then none else some .finished := by
  cases hangs with
  | false =>
    rw [streamOf_eq_itemsOf service hfits]
    exact endOf_itemsOf.1 htext
  | true =>
    obtain ⟨pieces, hprefix, hyields⟩ := yields_streamOf_hangs service hfits
    obtain ⟨texts, htexts⟩ := htext
    rw [htexts] at hprefix
    obtain ⟨begun, -, rfl⟩ := List.prefix_map_iff.1 hprefix
    rw [hyields.of_texts, endOf_texts]
    rfl

theorem SuppliesText.unbroken (h : c.SuppliesText w) : w.Unbroken := by
  intro state service q items houtcome text
  obtain ⟨e, answered, output, hangs, hitems, hsends, htext⟩ := h state service q items houtcome
  obtain ⟨frames, hfits, rfl, hopen⟩ := hsends.openLog_eq
  rw [hopen] at hitems
  cases hitems
  rw [endOf_streamOf_text hfits htext]
  split <;> simp

variable {bulletin : Bulletin} {world : σ}

section Runs

/-- What comes of opening the logs of these outputs. -/
def planOf (outputs : String → Bytes) (service : String) : Except Failure (List StreamItem) :=
  .ok (itemsOf service (outputs service))

theorem endIn_planOf (outputs : String → Bytes) (service : String) :
    endIn (planOf outputs service) ≠ none := by
  show endOf (itemsOf service (outputs service)) ≠ none
  by_cases htext : Body.IsText (outputs service)
  · rw [endOf_itemsOf.1 htext]
    simp
  · obtain ⟨why, hwhy⟩ := endOf_itemsOf.2 htext
    rw [hwhy]
    simp

variable {course : (Weave.schedule w).Course (.new r bulletin .endless false world)}

theorem Supplies.meets (h : c.Supplies w outputs) (n : Nat) :
    (course.state n).Meets (planOf outputs) :=
  Weave.meets_of_world (planOf outputs) h.outcome_eq (course.drifts n)

/-- **Over logs that end a run begins and is over some day**, if there is a channel for its
lines. -/
theorem Supplies.returns (h : c.Supplies w outputs) (hw : w.NeverCancels)
    (hf : r.streaming.follows = false) (hroom : 1 ≤ r.streaming.linesPerSource)
    (hmost : r.capacity ≤ Run.Channel.most) (bulletin : Bulletin) (world : σ) :
    Weave.start? r bulletin .endless false world = some (.new r bulletin .endless false world) ∧
      ∀ course : (Weave.schedule w).Course (.new r bulletin .endless false world),
        ∃ n, (course.state n).isDone = true := by
  refine ⟨Weave.starts hroom hmost bulletin .endless false world, fun course => ?_⟩
  obtain ⟨n, hn⟩ := Weave.halts_of_ends hf hroom hw course h.meets fun service _ =>
    endIn_planOf outputs service
  exact Weave.returns_of_course course hn

/-- **Over logs of texts a run prints each line, and over any other it fails.** -/
theorem Supplies.outcome (h : c.Supplies w outputs) (hw : w.NeverCancels)
    (hf : r.streaming.follows = false) (hroom : 1 ≤ r.streaming.linesPerSource) {n : Nat}
    (hd : (course.state n).isDone = true) :
    (∀ texts : String → List String,
      (∀ service ∈ r.services, Body.lines (outputs service) = (texts service).map utf8) →
        Weave.Completed r (fun service => (texts service).map itemOf) (course.state n)) ∧
    ((∃ service ∈ r.services, ¬ Body.IsText (outputs service)) →
      ∃ failure service text, (course.state n).collator.outcome = some (.error failure) ∧
        Weave.Failed r (fun service => .ok (itemsOf service (outputs service)))
          (course.state n) failure service text) := by
  have herrands : Weave.Errands r (planOf outputs) (course.state n) :=
    Weave.errands_course hf hroom hw course h.meets n
  refine ⟨fun texts htexts => ?_, ?_⟩
  · have hcompleted := (herrands.underway fun service hs =>
      Run.endOf_eq_finished.1 (endOf_itemsOf.1 ⟨_, htexts service hs⟩)).completed hd
    refine hcompleted.congr fun service hs => ?_
    have hyields := yields_itemsOf service (outputs service)
    rw [htexts service hs] at hyields
    rw [hyields.of_texts, List.append_nil]
  · rintro ⟨service, hs, hbytes⟩
    obtain ⟨why, hwhy⟩ := endOf_itemsOf.2 hbytes
    simp only [Weave.isDone, Bool.and_eq_true] at hd
    obtain ⟨outcome, ho⟩ := Option.isSome_iff_exists.1 hd.1
    obtain ⟨failure, source, text, rfl, hfailed⟩ :=
      (herrands.reported ho).failure ⟨service, hs, why, hwhy⟩
    exact ⟨failure, source, text, ho, hfailed⟩

end Runs

/-- Each log is opened through the client, and the engine sends a text for it and then waits for
more. -/
def Streams (c : Client ε) (w : World σ) : Prop :=
  ∀ state service q, ∃ e answered output,
    (w.openLog state service q).1.outcome = (c.openLog service q e).1 ∧
      c.Sends service q e answered output true ∧ Body.IsText output

theorem Streams.lasting (h : c.Streams w) : w.Lasting := by
  intro state service q
  obtain ⟨e, answered, output, houtcome, hsends, htext⟩ := h state service q
  obtain ⟨frames, hfits, rfl, hopen⟩ := hsends.openLog_eq
  exact ⟨_, by rw [houtcome, hopen], endOf_streamOf_text hfits htext true⟩

/-- **Only a line that is no text breaks a log.** Whoever opens a log gets each text in it as an
item, in order, and a failure only where a line spells none; what stands behind that line is lost.
So a run that does not follow, once there is a channel for its lines, is over some day, and then it
has printed each line of logs of texts and ended well, or failed over any other log. And one that
follows texts never tells of a disconnection, and opens no log a second time while the engine keeps
it open. -/
theorem only_texts_pass {ε : Type} (c : Client ε) :
    (∀ (service : String) (q : LogQuery) (e answered : ε) (output : Bytes),
      c.Sends service q e answered output false →
      ∃ items, c.openLog service q e = (.ok items, answered) ∧
        (∀ texts : List String, Body.lines output = texts.map utf8 → items = texts.map itemOf) ∧
        ∀ (texts : List String) (piece : Bytes) (rest : List Bytes),
          Body.lines output = texts.map utf8 ++ piece :: rest → (∀ text, piece ≠ utf8 text) →
          ∃ why, items = texts.map itemOf ++ broken service why) ∧
    (∀ {σ : Type} (w : World σ) (outputs : String → Bytes) (r : Request) (bulletin : Bulletin)
      (world : σ), c.Supplies w outputs → w.NeverCancels → r.streaming.follows = false →
      1 ≤ r.streaming.linesPerSource →
      (r.capacity ≤ Run.Channel.most →
        Weave.start? r bulletin .endless false world =
          some (.new r bulletin .endless false world) ∧
        ∀ course : (Weave.schedule w).Course (.new r bulletin .endless false world),
          ∃ n, (course.state n).isDone = true) ∧
      ∀ course : (Weave.schedule w).Course (.new r bulletin .endless false world),
        ∀ n, (course.state n).isDone = true →
          (∀ texts : String → List String,
            (∀ service ∈ r.services, Body.lines (outputs service) = (texts service).map utf8) →
              Weave.Completed r (fun service => (texts service).map itemOf) (course.state n)) ∧
          ((∃ service ∈ r.services, ¬ Body.IsText (outputs service)) →
            ∃ failure service text, (course.state n).collator.outcome = some (.error failure) ∧
              Weave.Failed r (fun service => .ok (itemsOf service (outputs service)))
                (course.state n) failure service text)) ∧
    (∀ {σ : Type} (w : World σ) (r : Request) (bulletin : Bulletin) (limits : SinkLimits)
      (cancelled : Bool) (world : σ) (v : Weave σ),
      (Weave.schedule w).Drifts (.new r bulletin (.new limits) cancelled world) v →
      (c.SuppliesText w → ∀ e ∈ v.floor.journal, e.event.breaks = false) ∧
      (c.Streams w → ∀ service, Run.opensOf service v.floor.journal ≤ 1)) := by
  refine ⟨fun service q e answered output hsends => ?_, ?_, ?_⟩
  · obtain ⟨frames, hfits, rfl, hopen⟩ := hsends.openLog_eq
    have hyields := yields_itemsOf service (frames.flatMap Frame.content)
    rw [streamOf_eq_itemsOf service hfits] at hopen
    refine ⟨_, hopen, fun texts htexts => ?_, fun texts piece rest hlines hpiece => ?_⟩
    · rw [htexts] at hyields
      rw [hyields.of_texts, List.append_nil]
    · rw [hlines] at hyields
      exact hyields.lost hpiece
  · intro σ w outputs r bulletin world hsupplies hw hf hroom
    exact ⟨fun hmost => hsupplies.returns hw hf hroom hmost bulletin world,
      fun course n hd => hsupplies.outcome hw hf hroom hd⟩
  · intro σ w r bulletin limits cancelled world v hdrifts
    exact ⟨fun htexts => Weave.breaks_of_drifts htexts.unbroken hdrifts,
      fun hstreams => Weave.opensOf_le_one hstreams.lasting hdrifts⟩

/-- A world whose logs are opened through a client, that does nothing else. -/
def asWorld (c : Client ε) : World ε where
  openLog e service q :=
    let (outcome, e) := c.openLog service q e
    (⟨0, outcome⟩, e)
  act _ _ _ := none
  due _ := none
  clock _ := .epoch

/-- A client of an engine with one container, whose log is an output in one frame. -/
def single (started : String) (output : Bytes) (hangs : Bool) : Client Unit :=
  serving started (inOneFrame output) hangs

theorem sends_single {started : String} {t : Time.Instant} (ht : startTime? started = some t)
    {output : Bytes} (h : output.length < 0x100000000) (hangs : Bool) (service : String)
    (q : LogQuery) : (single started output hangs).Sends service q () () output hangs := by
  simpa [single, inOneFrame] using sends_serving ht (fits_inOneFrame h) hangs service q

/-- The logs of one service, as they are or as they come. -/
def webRequest (follows : Bool) : Request :=
  { Weave.hastyRequest with streaming := ⟨follows, false, 5000, 500, 1000, 2⟩ }

/-- A service with one log, over a while. -/
def trial (follows : Bool) (output : Bytes) : Weave Unit :=
  (Weave.schedule (single aMoment output false).asWorld).runFrom 1000 60 0
    (.new (webRequest follows) .new .endless false ())

theorem drifts_trial (follows : Bool) (output : Bytes) :
    (Weave.schedule (single aMoment output false).asWorld).Drifts
      (.new (webRequest follows) .new .endless false ()) (trial follows output) :=
  ((Weave.schedule _).reachable_runFrom 1000 60 0 .start).drifts

/-- Two lines, the second without its newline. -/
def plainLog : Bytes := utf8 "one\ntwo"

/-- A log of texts, as it is and as it comes. -/
theorem only_texts_pass_plainLog :
    (∃ items, (single aMoment plainLog false).openLog "web" (.all false false) () =
      (.ok items, ()) ∧ items = ["one", "two"].map itemOf) ∧
    (Weave.start? (webRequest false) .new .endless false () =
        some (.new (webRequest false) .new .endless false ()) ∧
      ∃ n, Weave.Completed (webRequest false) (fun _ => ["one", "two"].map itemOf)
        ((Run.Schedule.Course.round (Weave.clocked (single aMoment plainLog false).asWorld)
          (.new (webRequest false) .new .endless false ())).state n)) ∧
    ∀ v, (Weave.schedule (single aMoment plainLog true).asWorld).Drifts
        (.new (webRequest true) .new .endless false ()) v →
      (∀ e ∈ v.floor.journal, e.event.breaks = false) ∧
        Run.opensOf "web" v.floor.journal ≤ 1 := by
  obtain ⟨t, ht⟩ := startTime?_aMoment
  have hlines : Body.lines plainLog = ["one", "two"].map utf8 := by decide +kernel
  have hsends (hangs : Bool) (service : String) (q : LogQuery) :
      (single aMoment plainLog hangs).Sends service q () () plainLog hangs :=
    sends_single ht (by decide +kernel) hangs service q
  obtain ⟨hopened, hruns, -⟩ := only_texts_pass (single aMoment plainLog false)
  refine ⟨?_, ?_, fun v hv => ?_⟩
  · obtain ⟨items, hitems, htexts, -⟩ := hopened _ _ _ _ _ (hsends false "web" (.all false false))
    exact ⟨items, hitems, htexts _ hlines⟩
  · obtain ⟨hreturns, houtcome⟩ := hruns (single aMoment plainLog false).asWorld
      (fun _ => plainLog) (webRequest false) .new ()
      (fun _ service q => ⟨(), (), rfl, hsends false service q⟩)
      (fun _ _ _ _ hact => by cases hact) rfl (by decide)
    obtain ⟨hstart, hreturns⟩ := hreturns (by decide)
    obtain ⟨n, hn⟩ := hreturns (Run.Schedule.Course.round (Weave.clocked _) _)
    exact ⟨hstart, n, (houtcome _ n hn).1 (fun _ => ["one", "two"]) fun _ _ => hlines⟩
  · obtain ⟨-, -, hfollows⟩ := only_texts_pass (single aMoment plainLog true)
    have hsupplies :
        (single aMoment plainLog true).Streams (single aMoment plainLog true).asWorld :=
      fun _ service q => ⟨(), (), plainLog, rfl, hsends true service q, _, hlines⟩
    obtain ⟨hsound, honce⟩ := hfollows _ (webRequest true) .new ⟨none, none⟩ false () v hv
    refine ⟨hsound fun _ service q items hitems => ?_, honce hsupplies "web"⟩
    exact ⟨(), (), plainLog, true, hitems, hsends true service q, _, hlines⟩

/-- Three lines, of which the second is no UTF-8. -/
def latinLog : Bytes := utf8 "one\ncaf" ++ [0xE9] ++ utf8 "\nthree\n"

/-- **A line that is no UTF-8 breaks the stream**, and the line behind it is lost. A run over it
fails; one that follows tells of a disconnection and opens the log again, only to bring the same
line again and again. -/
theorem breaks_latinLog :
    (∀ service q, (single aMoment latinLog false).Sends service q () () latinLog false) ∧
    Body.lines latinLog = [utf8 "one", utf8 "caf" ++ [0xE9], utf8 "three"] ∧
    ((single aMoment latinLog false).openLog "web" (.all false false) ()).1 =
      .ok [.line "one", .fail (.transport
        "log stream of web: incomplete utf-8 byte sequence from index 3")] ∧
    (∃ v, (Weave.schedule (single aMoment latinLog false).asWorld).Drifts
        (.new (webRequest false) .new .endless false ()) v ∧
      v.isDone = true ∧ v.collator.sink.flushes.map Flush.text = ["one\n"] ∧
      v.collator.outcome = some (.error (.transport ("read logs for web: Transport error: " ++
        "log stream of web: incomplete utf-8 byte sequence from index 3")))) ∧
    ∃ v, (Weave.schedule (single aMoment latinLog false).asWorld).Drifts
        (.new (webRequest true) .new .endless false ()) v ∧
      Run.opensOf "web" v.floor.journal = 3 ∧
      Run.loggedBy "web" v.floor.journal = ["one", "one", "one"] ∧
      ∃ e ∈ v.floor.journal, e.event.breaks = true := by
  obtain ⟨t, ht⟩ := startTime?_aMoment
  refine ⟨sends_single ht (by decide +kernel) false, by decide +kernel, rfl, ?_, ?_⟩
  · exact ⟨_, drifts_trial false latinLog, by decide +kernel, by decide +kernel, by decide +kernel⟩
  · exact ⟨_, drifts_trial true latinLog, by decide +kernel, by decide +kernel, by decide +kernel⟩

end Client

end LogWeave.Docker
