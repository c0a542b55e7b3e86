import LogWeave.Failure
import LogWeave.Text.Quoted
import LogWeave.Time.Rfc3339

/-! The time stamp in front of a log line: everything up to the first space.

What stands after that space is the message, further spaces included. -/
namespace LogWeave.Stamp

/-- The time a text spells. -/
def read (text : String) : Except Failure Time.Instant :=
  match Time.Rfc3339.read text.toList with
  | .ok t => .ok t
  | .error fault =>
    .error (.malformedLine ("parse timestamp " ++ Text.quoted text ++ ": " ++ fault.message))

/-- The characters before the first space and those after it. -/
def split? (cs : List Char) : Option (List Char × List Char) :=
  match cs.dropWhile (· != ' ') with
  | [] => none
  | _ :: message => some (cs.takeWhile (· != ' '), message)

/-- The message of a line and the time in front of it. -/
def readLine (line : String) : Except Failure (String × Time.Instant) :=
  match split? line.toList with
  | none => .error (.malformedLine "missing timestamp separator")
  | some (stamp, message) => (read (String.ofList stamp)).map (String.ofList message, ·)

/-- The time in front of a line, if one can be read. -/
def of? (line : String) : Option Time.Instant :=
  (readLine line).toOption.map Prod.snd

/-- A stamp without spaces ends at the space that follows it. -/
theorem split?_append (stamp message : List Char) (h : ∀ c ∈ stamp, c ≠ ' ') :
    split? (stamp ++ ' ' :: message) = some (stamp, message) := by
  induction stamp with
  | nil => simp [split?]
  | cons c stamp ih =>
    have hc : c ≠ ' ' := h c (List.mem_cons_self ..)
    have ih := ih fun d hd => h d (List.mem_cons_of_mem c hd)
    simp only [split?] at ih ⊢
    rw [List.cons_append, List.dropWhile_cons_of_pos (by simpa using hc),
      List.takeWhile_cons_of_pos (by simpa using hc)]
    split at ih
    · simp at ih
    · rename_i heq
      simp only [Option.some.injEq, Prod.mk.injEq] at ih ⊢
      exact ⟨by rw [ih.1], ih.2⟩

end LogWeave.Stamp
