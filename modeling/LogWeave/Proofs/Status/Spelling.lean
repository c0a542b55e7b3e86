import LogWeave.Proofs.Json.RoundTrip
import LogWeave.Proofs.Time.Lenience
import LogWeave.Status.Document

/-! The status of a service, written and read back.

The reader of statuses knows many spellings and the writer one. Each member is read back from it: a
phase from its name, a start from its brief form, an exit code from its digits and a detail from its
escapes (`ServiceStatus.takes_document`). So a document says all that a status does, and writing
what has been read loses nothing. -/
namespace LogWeave

open Json.Reader

/-- One of the known names is read as what it stands for. -/
theorem Json.Reader.Takes.choice {α : Type} {known : List (String × α)} {name : String} {a : α}
    (h : known.find? (·.1 == name) = some (name, a)) :
    Takes (Json.Reader.choice known) (Json.Printer.text name) a := by
  intro bs rest hb hrest
  refine .peekSolid hb (Solid.cons rfl _) ?_
  show Reads (choice.named known) (Json.Printer.text name) a rest
  refine (Reads.body name rest).bind_nil ?_
  rw [h]
  exact .pure a rest

theorem Phase.takes_name (phase : Phase) : Takes reader (Json.Printer.text phase.name) phase := by
  cases phase <;> exact .choice (by decide)

namespace ServiceStatus

variable (l : Json.Printer.Layout) (depth : Nat)

theorem takes_time (t : Time.Instant) :
    Takes timeReader (Json.Printer.text (Time.Rfc3339.brief t)) t := by
  intro bs rest hb hrest
  refine ((Takes.text _ (Time.Rfc3339.brief t)) hb hrest).bind_nil ?_
  rw [Time.Lenient.read_brief]
  exact .pure t rest

theorem takes_code (code : Int64) :
    Takes Json.Scalar.signed64 (Json.Printer.number (.whole code.toInt)) code.toInt := by
  have hlow := code.le_toInt
  have hhigh := code.toInt_lt
  exact .integer ⟨by omega, by omega⟩ ⟨by omega, by omega⟩ "i64"

/-- What a status may leave out is read back, `null` as nothing. -/
theorem takes_startedAt (startedAt : Option Time.Instant) :
    Takes (Json.Scalar.optional timeReader) (Json.Printer.value l depth
      (.text? (startedAt.map Time.Rfc3339.brief))) startedAt := by
  cases startedAt with
  | none => exact .null timeReader
  | some t => exact (takes_time t).optional rfl (by decide)

theorem takes_exitCode (exitCode : Option Int64) :
    Takes (Json.Scalar.optional Json.Scalar.signed64) (Json.Printer.value l depth
      ((exitCode.map fun code => Json.Value.whole code.toInt).getD .null))
      (exitCode.map Int64.toInt) := by
  cases exitCode with
  | none => exact .null Json.Scalar.signed64
  | some code => exact (takes_code code).optional_number

theorem takes_detail (detail : Option String) :
    Takes (Json.Scalar.optional Json.Scalar.anyText)
      (Json.Printer.value l depth (.text? detail)) detail := by
  cases detail with
  | none => exact .null Json.Scalar.anyText
  | some text => exact (Takes.text "a string" text).optional rfl (by decide)

/-- The members of a written status, each with what is kept of it. -/
def members (s : ServiceStatus) : List (Json.Value × (ServiceStatus → ServiceStatus)) := [
  (.text s.phase.name, fun x => { x with phase := s.phase }),
  (.text? (s.startedAt.map Time.Rfc3339.brief), fun x => { x with startedAt := s.startedAt }),
  ((s.exitCode.map fun code => Json.Value.whole code.toInt).getD .null,
    fun x => { x with exitCode := s.exitCode }),
  (.text? s.detail, fun x => { x with detail := s.detail })]

/-- Each member is read where its field expects it. -/
theorem takes_members (s : ServiceStatus) :
    List.Forall₂ (fun (field : Json.Field ServiceStatus) m =>
      ∀ x, Takes (field.read x) (Json.Printer.value l depth m.1) (m.2 x))
      record.fields s.members := by
  have hcode : (s.exitCode.map Int64.toInt).map Int64.ofInt = s.exitCode := by
    cases s.exitCode <;> simp
  refine .cons (fun x => s.phase.takes_name.bind_pure _) <|
    .cons (fun x => (takes_startedAt l depth s.startedAt).bind_pure _) <|
    .cons (fun x => ?_) <|
    .cons (fun x => (takes_detail l depth s.detail).bind_pure _) .nil
  have hread := (takes_exitCode l depth s.exitCode).bind_pure fun code =>
    ({ x with exitCode := code.map Int64.ofInt } : ServiceStatus)
  rw [hcode] at hread
  exact hread

/-- **A status is read back as it was written.** -/
theorem takes_document {l : Json.Printer.Layout} (hl : l.Plain) (depth : Nat) (s : ServiceStatus) :
    Takes record.reader (Json.Printer.value l depth s.document) s :=
  Json.Record.takes_fields (r := record) s.members (by decide) hl (takes_members l _ s)

/-- **A document says all that a status does.** Whatever the phase, the start, the exit code and the
detail, a status is read back from its line as it was; and whatever text is read as a status, in
which spelling ever, the line of that status is read as the same. -/
theorem read_line :
    (∀ s : ServiceStatus, read s.line = .ok s) ∧
    ∀ (text : String) (s : ServiceStatus), read text = .ok s → read s.line = .ok s := by
  have hline (s : ServiceStatus) : read s.line = .ok s :=
    Json.mapError_eq_ok.2 (takes_document Json.Printer.compact_plain 0 s).whole
  exact ⟨hline, fun _ s _ => hline s⟩

/-- A leap second by the clocks of another zone, and a start after the year 9999. -/
theorem read_line_lenient :
    let leap : ServiceStatus := ⟨.running, some ⟨1483228799, 1500000000, by decide⟩, none, "a\nb"⟩
    let late : ServiceStatus :=
      ⟨.exited, some ⟨253402300800, 0, by decide⟩, Int64.minValue, none⟩
    (read ("\x7b\"message\": \"a\\u000ab\", \"phase\": \x7b\"Running\": null\x7d, " ++
        "\"started_at\": \" 2017-1-1 8:59:60.5 +0900\"\x7d") = .ok leap ∧
      leap.line = "\x7b\"phase\":\"Running\",\"started_at\":\"2016-12-31T23:59:60.500Z\"," ++
        "\"exit_code\":null,\"message\":\"a\\nb\"\x7d" ∧
      read leap.line = .ok leap) ∧
    late.line = "\x7b\"phase\":\"Exited\",\"started_at\":\"+10000-01-01T00:00:00Z\"," ++
      "\"exit_code\":-9223372036854775808,\"message\":null\x7d" ∧ read late.line = .ok late :=
  have hleap : read ("\x7b\"message\": \"a\\u000ab\", \"phase\": \x7b\"Running\": null\x7d, " ++
        "\"started_at\": \" 2017-1-1 8:59:60.5 +0900\"\x7d") =
      .ok ⟨.running, some ⟨1483228799, 1500000000, by decide⟩, none, "a\nb"⟩ := by decide +kernel
  ⟨⟨hleap, by decide +kernel, read_line.2 _ _ hleap⟩, by decide +kernel, read_line.1 _⟩

end ServiceStatus

end LogWeave
