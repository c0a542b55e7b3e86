import LogWeave.Docker.Client
import LogWeave.Proofs.Text.Decoding
import Mathlib.Data.List.DropRight
import Mathlib.Data.List.Forall2

/-! Frames do not show in a log.

An output is cut at its newlines (`Body.lines`), and each piece that spells a text is an item of the
stream, up to one that does not (`Yields`). That is what a log yields whatever frames carry it: cuts
within a line, within a character or before a newline do not show (`Client.openLog_framed`). -/
namespace LogWeave.Docker

open Text (Bytes utf8)

/-- A text without the carriage returns at its end. -/
def withoutReturns (text : String) : String :=
  String.ofList (text.toList.rdropWhile (· == '\r'))

theorem withoutReturns_push (text : String) :
    withoutReturns (text.push '\r') = withoutReturns text := by
  rw [withoutReturns, String.toList_push, List.rdropWhile_concat_pos _ _ _ (by decide)]
  rfl

namespace Body

/-- The lines of an output: what stands between its newlines, and what stands behind the last if
that is anything. -/
def lines (output : Bytes) : List Bytes :=
  let parts := output.splitOn newline
  if parts.getLast? = some [] then parts.dropLast else parts

theorem splitLine?_eq_none {bytes : Bytes} (h : splitLine? bytes = none) : newline ∉ bytes := by
  induction bytes with
  | nil => exact List.not_mem_nil
  | cons b rest ih =>
    rw [splitLine?] at h
    split at h
    · cases h
    · rename_i hb
      exact List.not_mem_cons_of_ne_of_not_mem (Ne.symm hb) (ih (Option.map_eq_none_iff.1 h))

theorem splitLine?_eq_some {bytes line rest : Bytes} (h : splitLine? bytes = some (line, rest)) :
    ∃ piece, line = piece ++ [newline] ∧ newline ∉ piece ∧ bytes = piece ++ newline :: rest := by
  induction bytes generalizing line with
  | nil => cases h
  | cons b bytes ih =>
    rw [splitLine?] at h
    split at h
    · rename_i hb
      cases h
      exact ⟨[], by rw [hb]; rfl, List.not_mem_nil, by rw [hb]; rfl⟩
    · rename_i hb
      obtain ⟨⟨line', rest'⟩, hsplit, heq⟩ := Option.map_eq_some_iff.1 h
      cases heq
      obtain ⟨piece, rfl, hpiece, rfl⟩ := ih hsplit
      exact ⟨b :: piece, rfl, List.not_mem_cons_of_ne_of_not_mem (Ne.symm hb) hpiece, rfl⟩

/-- Output is cut where a newline stands. -/
theorem splitLines_eq {most : Nat} {output : Bytes} (h : output.length < most) :
    ∃ whole last, splitLines most output = (whole.map (· ++ [newline]), last) ∧
      output.splitOn newline = whole ++ [last] ∧ ∀ piece ∈ whole ++ [last], newline ∉ piece := by
  induction most generalizing output with
  | zero => cases h
  | succ most ih =>
    rw [splitLines]
    cases hsplit : splitLine? output with
    | none =>
      have hnone := splitLine?_eq_none hsplit
      refine ⟨[], output, rfl, List.splitOn_eq_singleton hnone, ?_⟩
      simpa using hnone
    | some cut =>
      obtain ⟨line, rest⟩ := cut
      obtain ⟨piece, rfl, hpiece, rfl⟩ := splitLine?_eq_some hsplit
      have hshorter : rest.length < most := by
        simp only [List.length_append, List.length_cons] at h
        omega
      obtain ⟨whole, last, hrest, hparts, hpieces⟩ := ih hshorter
      refine ⟨piece :: whole, last, ?_, ?_, ?_⟩
      · simp only [hrest]
        rfl
      · rw [List.splitOn_append_cons_self_of_not_mem hpiece, hparts]
        rfl
      · exact List.forall_mem_cons.2 ⟨hpiece, hpieces⟩

/-- How bytes are read as a line: as the text they spell, without the carriage returns at its
end. -/
def Reads (bytes piece : Bytes) : Prop :=
  ∀ s, lineText bytes = .ok s ↔ ∃ text, piece = utf8 text ∧ s = withoutReturns text

theorem lineText_eq_ok {bytes : Bytes} {s : String} : lineText bytes = .ok s ↔
    ∃ text, withoutEnd bytes = utf8 text ∧ s = withoutReturns text := by
  simp only [← Text.decode_eq_ok]
  rw [lineText]
  cases Text.decode (withoutEnd bytes) with
  | error fault => exact ⟨fun h => (by cases h), fun ⟨_, h, _⟩ => (by cases h)⟩
  | ok text =>
    refine ⟨fun h => ⟨text, rfl, ?_⟩, fun ⟨_, h, hs⟩ => ?_⟩
    · cases h
      rfl
    · cases h
      rw [hs]
      rfl

/-- The last line of an output may lack its newline. -/
theorem reads_last {last : Bytes} (h : newline ∉ last) : Reads last last := by
  intro s
  have hend : withoutEnd last = last := by
    unfold withoutEnd
    split
    · rename_i b rest hlast
      have hb : b ∈ last := by
        rw [← List.mem_reverse, hlast]
        exact List.mem_cons_self ..
      have hnewline : b ≠ newline := fun heq => h (heq ▸ hb)
      rw [if_neg hnewline]
    · rfl
  rw [lineText_eq_ok, hend]

/-- A line is read without its newline. -/
theorem reads_whole (piece : Bytes) : Reads (piece ++ [newline]) piece := by
  intro s
  rw [lineText_eq_ok]
  rcases List.eq_nil_or_concat piece with rfl | ⟨front, b, hpiece⟩
  · rfl
  rw [List.concat_eq_append] at hpiece
  by_cases hb : b = carriageReturn
  · -- The carriage return before the newline is taken off before the text is read.
    have hend : withoutEnd (piece ++ [newline]) = front := by
      simp [withoutEnd, hpiece, hb]
    rw [hend, hpiece, hb]
    refine ⟨fun ⟨text, htext, hs⟩ => ⟨text.push '\r', ?_, ?_⟩, fun ⟨text, htext, hs⟩ => ?_⟩
    · rw [htext, Text.utf8_push text (by decide)]
      rfl
    · rw [hs, withoutReturns_push]
    · obtain ⟨before, rfl, hfront⟩ := Text.utf8_eq_concat (c := '\r') (by decide) htext.symm
      exact ⟨before, hfront, by rw [hs, withoutReturns_push]⟩
  · have hend : withoutEnd (piece ++ [newline]) = piece := by
      simp [withoutEnd, hpiece, hb]
    rw [hend]

/-- The lines of an output are those that end in a newline, and what stands behind them. -/
theorem splitLines_lines (output : Bytes) :
    ∃ whole last, splitLines (output.length + 1) output = (whole.map (· ++ [newline]), last) ∧
      lines output = (if last.isEmpty then whole else whole ++ [last]) ∧
      List.Forall₂ Reads (whole.map (· ++ [newline])) whole ∧ Reads last last := by
  obtain ⟨whole, last, hsplit, hparts, hpieces⟩ := splitLines_eq (Nat.lt_succ_self output.length)
  refine ⟨whole, last, hsplit, ?_, ?_, reads_last (hpieces last (by simp))⟩
  · simp only [lines, hparts, List.getLast?_concat, List.dropLast_concat, Option.some.injEq,
      List.isEmpty_iff]
  · exact List.forall₂_map_left_iff.2 (List.forall₂_same.2 fun piece _ => reads_whole piece)

end Body

open Run (StreamItem)

theorem Asking.bind_ok {ε α β : Type} {ask : Asking ε α} {next : α → Asking ε β} {e asked : ε}
    {a : α} (h : ask e = (.ok a, asked)) : (ask >>= next) e = next a asked := by
  show ExceptT.bindCont next (ask e).1 (ask e).2 = _
  rw [h]
  rfl

/-- What ends a stream that is broken. -/
def Client.broken (service text : String) : List StreamItem :=
  [.fail (.during ("log stream of " ++ service) text)]

/-- What the lines of a log yield, if it ends so: a line each, up to one that spells no text. -/
inductive Yields (service : String) (ending : List StreamItem) :
    List Bytes → List StreamItem → Prop
  | done : Yields service ending [] ending
  | line {text : String} {rest : List Bytes} {items : List StreamItem}
      (h : Yields service ending rest items) :
      Yields service ending (utf8 text :: rest) (.line (withoutReturns text) :: items)
  | broken {piece : Bytes} {rest : List Bytes} {why : String} (h : ∀ text, piece ≠ utf8 text) :
      Yields service ending (piece :: rest) (Client.broken service why)

/-- A piece of output that a frame can carry: its stream is named, and four bytes hold its
length. -/
def Frame.Fits (f : Frame) : Prop := f.stream.isSome ∧ f.content.length < 0x100000000

instance (f : Frame) : Decidable f.Fits :=
  inferInstanceAs (Decidable (f.stream.isSome ∧ f.content.length < 0x100000000))

namespace Client

theorem yields_read (service : String) (ending : List StreamItem) {lines pieces : List Bytes}
    (h : List.Forall₂ Body.Reads lines pieces) :
    Yields service ending pieces (streamOf.read (broken service) ending lines) := by
  induction h with
  | nil => exact .done
  | @cons bytes piece lines pieces hread _ ih =>
    rw [streamOf.read]
    cases htext : Body.lineText bytes with
    | ok s =>
      obtain ⟨text, rfl, rfl⟩ := (hread s).1 htext
      exact .line ih
    | error fault =>
      refine .broken fun text hpiece => ?_
      have hok := (hread (withoutReturns text)).2 ⟨text, hpiece, rfl⟩
      rw [htext] at hok
      cases hok

/-- The items of an output, however it is sent. -/
def itemsOf (service : String) (output : Bytes) : List StreamItem :=
  let (lines, last) := Body.splitLines (output.length + 1) output
  streamOf.read (broken service) [] (if last.isEmpty then lines else lines ++ [last])

theorem yields_itemsOf (service : String) (output : Bytes) :
    Yields service [] (Body.lines output) (itemsOf service output) := by
  obtain ⟨whole, last, hsplit, hlines, hwhole, hlast⟩ := Body.splitLines_lines output
  simp only [itemsOf, hsplit, hlines]
  refine yields_read service [] ?_
  split
  · exact hwhole
  · exact List.rel_append hwhole (.cons hlast .nil)

/-- **Frames do not show**: a body yields what its contents, put together, yield. -/
theorem streamOf_eq_itemsOf (service : String) {frames : List Frame} (h : ∀ f ∈ frames, f.Fits) :
    streamOf service ⟨frames, false⟩ = itemsOf service (frames.flatMap Frame.content) := by
  rw [streamOf, Body.pieces_encode frames h, itemsOf, List.flatMap_def]
  rfl

/-- While a log goes on the line that is not yet at its end is held back. -/
theorem yields_streamOf_hangs (service : String) {frames : List Frame}
    (h : ∀ f ∈ frames, f.Fits) :
    ∃ pieces, pieces <+: Body.lines (frames.flatMap Frame.content) ∧
      Yields service [.hang] pieces (streamOf service ⟨frames, true⟩) := by
  obtain ⟨whole, last, hsplit, hlines, hwhole, -⟩ :=
    Body.splitLines_lines (frames.flatMap Frame.content)
  refine ⟨whole, ?_, ?_⟩
  · rw [hlines]
    split
    · exact List.prefix_rfl
    · exact List.prefix_append ..
  · rw [List.flatMap_def] at hsplit
    rw [streamOf, Body.pieces_encode frames h]
    simp only [hsplit]
    exact yields_read service [.hang] hwhole

variable {ε : Type} (c : Client ε)

/-- Where the log of a service is asked for, and how. -/
def locate (service : String) (q : LogQuery) : Asking ε (String × LogsQuery) := do
  let container ← c.resolve service
  let started ← (do
    if q.previous then
      match (← c.inspect service).startedAt with
      | some t => pure (some t)
      | none => throw (.serviceNotStarted service)
    else pure none)
  pure (container, logsQuery q started)

/-- What comes of asking. -/
def listen (service container : String) (query : LogsQuery) : Asking ε (List StreamItem) := fun e =>
  match c.engine.logs e container query with
  | (.ok body, e) => (.ok (streamOf service body), e)
  | (.error refusal, e) => (.ok (broken service refusal.message), e)

/-- A log is opened by one question for it, put where the service was found. -/
theorem openLog_eq_listen (service : String) (q : LogQuery) : c.openLog service q =
    c.locate service q >>= fun asked => c.listen service asked.1 asked.2 := by
  simp only [openLog, locate, bind_assoc, pure_bind]
  rfl

/-- Asked for the log of a service, the engine sends an output, whole and in frames, and then ends
or falls silent. -/
def Sends (service : String) (q : LogQuery) (e answered : ε) (output : Bytes) (hangs : Bool) :
    Prop :=
  ∃ container query asked frames, c.locate service q e = (.ok (container, query), asked) ∧
    c.engine.logs asked container query = (.ok ⟨frames, hangs⟩, answered) ∧
    (∀ f ∈ frames, f.Fits) ∧ frames.flatMap Frame.content = output

variable {c}

/-- What is sent is what the stream is made of. -/
theorem Sends.openLog_eq {service : String} {q : LogQuery} {e answered : ε} {output : Bytes}
    {hangs : Bool} (h : c.Sends service q e answered output hangs) :
    ∃ frames, (∀ f ∈ frames, f.Fits) ∧ frames.flatMap Frame.content = output ∧
      c.openLog service q e = (.ok (streamOf service ⟨frames, hangs⟩), answered) := by
  obtain ⟨container, query, asked, frames, hlocate, hlogs, hfits, houtput⟩ := h
  refine ⟨frames, hfits, houtput, ?_⟩
  rw [openLog_eq_listen, Asking.bind_ok hlocate, listen, hlogs]

/-- **A log does not show how it was cut into frames.** For each output there are items that its
lines yield, and whoever asks an engine for a log gets those items, if the engine sends that output
and ends: in few frames or many, empty ones too, and wherever it was cut. -/
theorem openLog_framed (service : String) (output : Bytes) :
    ∃ items, Yields service [] (Body.lines output) items ∧
      ∀ {ε : Type} (c : Client ε) (q : LogQuery) (e answered : ε),
        c.Sends service q e answered output false →
          c.openLog service q e = (.ok items, answered) := by
  refine ⟨itemsOf service output, yields_itemsOf service output, ?_⟩
  intro ε c q e answered hsends
  obtain ⟨frames, hfits, houtput, hopen⟩ := hsends.openLog_eq
  rw [hopen, streamOf_eq_itemsOf service hfits, houtput]

/-- A client of an engine with one container, whose log comes in these frames. -/
def serving (started : String) (frames : List Frame) (hangs : Bool) : Client Unit where
  engine := {
    ping := fun e => (.ok (), e)
    list := fun e _ => (.ok [⟨some "c1", [], none, none⟩], e)
    inspect := fun e _ =>
      (.ok ⟨some "c1", some ⟨some .running, true, false, none, none, some started⟩⟩, e)
    logs := fun e _ _ => (.ok ⟨frames, hangs⟩, e) }
  project := none

theorem sends_serving {started : String} {t : Time.Instant} (ht : startTime? started = some t)
    {frames : List Frame} (hfits : ∀ f ∈ frames, f.Fits) (hangs : Bool) (service : String)
    (q : LogQuery) : (serving started frames hangs).Sends service q () ()
      (frames.flatMap Frame.content) hangs := by
  obtain ⟨follow, previous, stamped, since⟩ := q
  cases previous with
  | false => exact ⟨"c1", _, (), frames, rfl, rfl, hfits, rfl⟩
  | true =>
    refine ⟨"c1", logsQuery ⟨follow, true, stamped, since⟩ (some t), (), frames, ?_, rfl, hfits, rfl⟩
    have hresolve : (serving started frames hangs).resolve service () = (.ok "c1", ()) := rfl
    have hinspect : (serving started frames hangs).inspect service () =
        (.ok ⟨.running, some t, none, none⟩, ()) := by
      rw [← ht]
      rfl
    rw [locate, Asking.bind_ok hresolve]
    exact Asking.bind_ok ((Asking.bind_ok hinspect).trans rfl)

/-- An output in one frame. -/
def inOneFrame (output : Bytes) : List Frame := [⟨some 1, output⟩]

theorem fits_inOneFrame {output : Bytes} (h : output.length < 0x100000000) :
    ∀ f ∈ inOneFrame output, f.Fits := by
  simpa [inOneFrame, Frame.Fits] using h

/-- When that container was started. -/
def aMoment : String := "2024-03-01T10:00:00Z"

theorem startTime?_aMoment : ∃ t, startTime? aMoment = some t :=
  Option.isSome_iff_exists.1 (by decide +kernel)

/-- Two lines in one frame, and in four: cut between a carriage return and its newline, with an
empty frame, and cut within a character. -/
def framings : List (List Frame) := [
  inOneFrame (utf8 "a\r\né"),
  [⟨some 1, utf8 "a\r"⟩, ⟨some 2, []⟩, ⟨some 1, [10, 0xC3]⟩, ⟨some 1, [0xA9]⟩]]

/-- These framings do not show. -/
theorem openLog_framed_framings :
    ∃ items, Yields "web" [] [utf8 "a\r", utf8 "é"] items ∧ items = [.line "a", .line "é"] ∧
      ∀ frames ∈ framings,
        (serving aMoment frames false).openLog "web" (.all false false) () = (.ok items, ()) := by
  obtain ⟨t, ht⟩ := startTime?_aMoment
  obtain ⟨items, hyields, hopen⟩ := openLog_framed "web" (utf8 "a\r\né")
  have hlines : Body.lines (utf8 "a\r\né") = [utf8 "a\r", utf8 "é"] := by decide +kernel
  have houtput : ∀ frames ∈ framings, (∀ f ∈ frames, f.Fits) ∧
      frames.flatMap Frame.content = utf8 "a\r\né" := by
    decide +kernel
  have hserved : ∀ frames ∈ framings,
      (serving aMoment frames false).openLog "web" (.all false false) () = (.ok items, ()) := by
    intro frames hframes
    obtain ⟨hfits, hcontent⟩ := houtput frames hframes
    exact hopen _ _ _ _ (hcontent ▸ sends_serving ht hfits false "web" (.all false false))
  refine ⟨items, hlines ▸ hyields, ?_, hserved⟩
  have hfirst := hserved _ (List.mem_cons_self ..)
  exact (Except.ok.inj (congrArg Prod.fst hfirst)).symm

end Client

end LogWeave.Docker
