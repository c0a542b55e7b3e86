import LogWeave.Text.Bytes

/-! The body of a log as the engine sends it, and the lines in it.

Output of a container comes in frames: a header of eight bytes, which names the stream and tells
how long the rest is, then that many bytes. A container with a terminal sends bare bytes, which
are told by a first byte no header has. Frames do not show in the lines: `pieces_encode` gives the
contents of frames back, however the output was cut, and `lines` looks at the joined pieces
only. -/
namespace LogWeave.Docker

open Text (Bytes)

/-- A piece of a container's output: standard input, output or error, or neither. -/
structure Frame where
  stream : Option (Fin 3)
  content : Bytes
  deriving DecidableEq, Repr

namespace Frame

/-- A length in four bytes, the highest first. -/
def lengthBytes (n : Nat) : Bytes :=
  [UInt8.ofNat (n / 0x1000000), UInt8.ofNat (n / 0x10000), UInt8.ofNat (n / 0x100), UInt8.ofNat n]

def lengthOf (a b c d : UInt8) : Nat :=
  ((a.toNat * 256 + b.toNat) * 256 + c.toNat) * 256 + d.toNat

/-- The bytes that carry a frame. -/
def encode (f : Frame) : Bytes :=
  match f.stream with
  | some stream =>
    [UInt8.ofNat stream, 0, 0, 0] ++ lengthBytes f.content.length ++ f.content
  | none => f.content

theorem lengthOf_lengthBytes (n : Nat) (h : n < 0x100000000) :
    lengthOf (UInt8.ofNat (n / 0x1000000)) (UInt8.ofNat (n / 0x10000)) (UInt8.ofNat (n / 0x100))
      (UInt8.ofNat n) = n := by
  simp only [lengthOf, UInt8.toNat_ofNat']
  omega

end Frame

namespace Body

/-- A newline. -/
def newline : UInt8 := 10

/-- The first byte of a header names one of three streams. -/
def isHeader (b : UInt8) : Bool := b ≤ 2

/-- The bytes up to the first newline, which is one of them, and those behind it. -/
def splitLine? : Bytes → Option (Bytes × Bytes)
  | [] => none
  | b :: rest =>
    if b = newline then some ([b], rest)
    else (splitLine? rest).map fun (line, rest) => (b :: line, rest)

/-- The first piece of a body: the content of a frame, or bare bytes up to a newline. A header that
nothing follows has no content, whatever length it tells. -/
def splitPiece? : Bytes → Option (Bytes × Bytes)
  | [] => none
  | b :: rest =>
    if isHeader b then
      match rest with
      | _ :: _ :: _ :: l₁ :: l₂ :: l₃ :: l₄ :: rest =>
        let length := Frame.lengthOf l₁ l₂ l₃ l₄
        if length ≤ rest.length ∨ rest = [] then some (rest.take length, rest.drop length)
        else none
      | _ => none
    else splitLine? (b :: rest)

/-- The pieces of a body, and whether bytes are left over that make none. -/
def piecesFrom : (most : Nat) → Bytes → List Bytes × Bool
  | 0, _ => ([], false)
  | most + 1, bytes =>
    match splitPiece? bytes with
    | some (piece, rest) =>
      let (pieces, leftOver) := piecesFrom most rest
      (piece :: pieces, leftOver)
    | none => ([], !bytes.isEmpty)

def pieces (body : Bytes) : List Bytes × Bool := piecesFrom (body.length + 1) body

/-- Output cut at its newlines: the lines, each with its newline, and the rest after the last. -/
def splitLines : (most : Nat) → Bytes → List Bytes × Bytes
  | 0, bytes => ([], bytes)
  | most + 1, bytes =>
    match splitLine? bytes with
    | some (line, rest) =>
      let (lines, last) := splitLines most rest
      (line :: lines, last)
    | none => ([], bytes)

/-- A carriage return. -/
def carriageReturn : UInt8 := 13

/-- A line without its newline and one carriage return before that. -/
def withoutEnd (line : Bytes) : Bytes :=
  match line.reverse with
  | b :: rest =>
    if b = newline then (if rest.head? = some carriageReturn then rest.drop 1 else rest).reverse
    else line
  | [] => line

/-- The text of a line. The carriage returns left at its end are no part of it. -/
def lineText (line : Bytes) : Except Text.Utf8Fault String := do
  let text ← Text.decode (withoutEnd line)
  pure (String.ofList (text.toList.reverse.dropWhile (· == '\r')).reverse)

/-- A frame at the front of a body is its first piece. -/
theorem splitPiece?_encode (f : Frame) (rest : Bytes) (hs : f.stream.isSome)
    (hl : f.content.length < 0x100000000) :
    splitPiece? (f.encode ++ rest) = some (f.content, rest) := by
  obtain ⟨stream, content⟩ := f
  obtain ⟨stream, rfl⟩ := Option.isSome_iff_exists.1 hs
  have hstream : isHeader (UInt8.ofNat stream) = true := by
    match stream with
    | 0 | 1 | 2 => rfl
  have hlength := Frame.lengthOf_lengthBytes content.length hl
  have hfits : content.length ≤ (content ++ rest).length := by simp
  show splitPiece? (UInt8.ofNat stream :: 0 :: 0 :: 0 ::
    (Frame.lengthBytes content.length ++ content) ++ rest) = some (content, rest)
  simp only [Frame.lengthBytes, List.cons_append, List.nil_append, splitPiece?, hstream, if_true]
  rw [hlength, if_pos (.inl hfits), List.take_left, List.drop_left]

theorem piecesFrom_encode (frames : List Frame) (most : Nat) (hm : frames.length < most)
    (hf : ∀ f ∈ frames, f.stream.isSome ∧ f.content.length < 0x100000000) :
    piecesFrom most (frames.flatMap Frame.encode) = (frames.map Frame.content, false) := by
  induction frames generalizing most with
  | nil =>
    match most with
    | most + 1 => rfl
  | cons f rest ih =>
    match most with
    | most + 1 =>
      obtain ⟨hs, hl⟩ := hf f (List.mem_cons_self ..)
      have ih := ih most (by simpa using hm) fun g hg => hf g (List.mem_cons_of_mem f hg)
      simp [piecesFrom, splitPiece?_encode f _ hs hl, ih]

theorem length_le_encode (frames : List Frame) (hf : ∀ f ∈ frames, f.stream.isSome) :
    frames.length ≤ (frames.flatMap Frame.encode).length := by
  induction frames with
  | nil => simp
  | cons f rest ih =>
    have ih := ih fun g hg => hf g (List.mem_cons_of_mem f hg)
    obtain ⟨stream, h⟩ := Option.isSome_iff_exists.1 (hf f (List.mem_cons_self ..))
    have : 1 ≤ f.encode.length := by simp [Frame.encode, h]
    simp only [List.flatMap_cons, List.length_append, List.length_cons]
    omega

/-- The pieces of a body made of frames are what the frames hold. -/
theorem pieces_encode (frames : List Frame)
    (hf : ∀ f ∈ frames, f.stream.isSome ∧ f.content.length < 0x100000000) :
    pieces (frames.flatMap Frame.encode) = (frames.map Frame.content, false) :=
  piecesFrom_encode frames _
    (Nat.lt_succ_of_le (length_le_encode frames fun f h => (hf f h).1)) hf

end Body

end LogWeave.Docker
