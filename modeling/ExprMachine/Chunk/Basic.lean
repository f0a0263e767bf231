import ExprMachine.Opcode

/-!
Chunks: code, the line of every byte of it, and the constants it loads.

* `Chunk.validate`: code and lines have one length, and there are at most
  `maxConstants` constants.
* `Chunk.Builder`: a chunk being written, with the room that has been set aside
  for its code. The room starts empty, then is `8`, then doubles.
* `Chunk.Builder.ofChunk`: goes on with a chunk whose code fills its room.
-/

namespace ExprMachine

/-- Compiled code. -/
structure Chunk where
  /-- Instructions and their operands, byte by byte. -/
  code : Array UInt8
  /-- The source line of each byte. -/
  lines : Array Int64
  /-- The constants, loaded by index. -/
  constants : Array Value
  deriving DecidableEq, Inhabited

namespace Chunk

/-- The most constants that a chunk may hold: an index is one byte. -/
def maxConstants : Nat := 256

/-- Why a chunk is refused. -/
inductive Error where
  /-- Code and lines differ in length. -/
  | lineMismatch (code lines : Nat)
  /-- There are more constants than an index can name. -/
  | tooManyConstants (count : Nat)
  /-- One more constant finds no place. -/
  | poolFull
  deriving DecidableEq, Repr

/-- The wording of a refusal. -/
def Error.message : Error → String
  | lineMismatch code lines =>
      s!"code and line buffers differ in length: {code} code bytes, {lines} lines"
  | tooManyConstants count => s!"too many constants in one chunk: {count}"
  | poolFull => "too many constants in one chunk"

/-- The chunk without code. -/
def empty : Chunk := ⟨#[], #[], #[]⟩

/-- Checks that every byte has a line and every constant an index. -/
def validate (c : Chunk) : Except Error Unit :=
  if c.code.size ≠ c.lines.size then .error (.lineMismatch c.code.size c.lines.size)
  else if maxConstants < c.constants.size then .error (.tooManyConstants c.constants.size)
  else .ok ()

/-- A chunk from its parts, if they fit together. -/
def build (constants : Array Value) (code : Array UInt8) (lines : Array Int64) :
    Except Error Chunk :=
  let c : Chunk := ⟨code, lines, constants⟩
  c.validate.map fun _ => c

/-- The line of the byte at an offset, 0 outside the lines. -/
def lineAt (c : Chunk) (offset : Int) : Int64 :=
  if offset < 0 then 0 else c.lines[offset.toNat]?.getD 0

/-- A chunk being written. -/
structure Builder where
  /-- What has been written. -/
  chunk : Chunk
  /-- The number of code bytes there is room for. -/
  room : Nat
  deriving DecidableEq

namespace Builder

/-- A chunk with nothing written and no room set aside. -/
def new : Builder := ⟨Chunk.empty, 0⟩

/-- A chunk to go on with, whose code fills its room. -/
def ofChunk (c : Chunk) : Builder := ⟨c, c.code.size⟩

/-- The next size of the room. -/
def grow (room : Nat) : Nat :=
  if room < 8 then 8 else room * 2

/-- Whether some more bytes can be written. Code that has used up its room moves
to a larger one, and its lines move to a room of the same size. -/
def fits (code lines room : Nat) : Nat → Bool
  | 0 => true
  | n + 1 =>
      if code = room then
        lines ≤ grow room && fits (code + 1) (lines + 1) (grow room) n
      else fits (code + 1) (lines + 1) room n

/-- Whether there is room for some more bytes. A chunk that has been written from
the start always has room, one with too many lines may have none. -/
def hasRoom (b : Builder) (n : Nat) : Bool :=
  fits b.chunk.code.size b.chunk.lines.size b.room n

/-- Writes one byte of code with its line. -/
def write (b : Builder) (byte : UInt8) (line : Int64) : Builder :=
  let room := if b.chunk.code.size = b.room then grow b.room else b.room
  { chunk := { b.chunk with
      code := b.chunk.code.push byte
      lines := b.chunk.lines.push line }
    room }

/-- Writes the byte of an instruction; any byte is taken for one. -/
def writeOp (b : Builder) (op : UInt8) (line : Int64) : Builder :=
  b.write op line

/-- Puts a constant at the end of the pool and answers its index, unless the pool
is full. Equal constants are kept apart. The builder is the one that the call
leaves, also if it is refused. -/
def addConstant (b : Builder) (v : Value) : Except Error UInt8 × Builder :=
  if maxConstants ≤ b.chunk.constants.size then (.error .poolFull, b)
  else
    let b := { b with chunk := { b.chunk with constants := b.chunk.constants.push v } }
    (.ok (UInt8.ofNat (b.chunk.constants.size - 1)), b)

/-- Puts a constant at the end of the pool and writes the instruction that loads
it. The builder is the one that the call leaves, also if it is refused. -/
def emitConstant (b : Builder) (v : Value) (line : Int64) : Except Error Unit × Builder :=
  let (answer, b) := b.addConstant v
  match answer with
  | .error e => (.error e, b)
  | .ok index =>
      let b := b.writeOp Opcode.constant.byte line
      let b := b.write index line
      (.ok (), b)

end Builder

end Chunk

end ExprMachine
