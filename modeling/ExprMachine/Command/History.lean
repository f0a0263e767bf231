import ExprMachine.Text.Utf8

/-!
Lines of input, and the lines that were entered before.

Input is read through a window of fixed size: a line that does not end within
it is read in pieces.

* `Piece`: a line, or a part of one.
* `Piece.first`, `pieces`: the piece at the head of some input, and all pieces.
* `History`: the lines entered before, the oldest first.
* `History.read`, `History.write`: the lines of a file and back.
* `History.add`: one line more, unless it repeats the last one.
-/

namespace ExprMachine.Command

/-- The number of bytes that are looked at for the end of a line. -/
def window : Nat := 4096

/-- A line, or a part of one. -/
structure Piece where
  /-- Its bytes, without the end of the line. -/
  text : List UInt8
  /-- How many bytes of the input it takes. -/
  taken : Nat
  /-- Whether it is a line to its end. -/
  whole : Bool
  deriving DecidableEq, Repr

namespace Piece

/-- A line without the return before its newline. -/
def dropReturn (line : List UInt8) : List UInt8 :=
  if line.getLast? = some 13 then line.dropLast else line

/-- The piece at the head of some input. A return at the end of a window is left
for the next piece, since a newline may follow it. -/
def first (input : List UInt8) : Piece :=
  let seen := input.take window
  let line := seen.takeWhile (· ≠ 10)
  if line.length < seen.length then ⟨dropReturn line, line.length + 1, true⟩
  else if seen.length < window then ⟨seen, seen.length, true⟩
  else
    let text := dropReturn seen
    ⟨text, text.length, false⟩

end Piece

/-- All pieces of some input. -/
def pieces : List UInt8 → List Piece
  | [] => []
  | b :: bs =>
      let piece := Piece.first (b :: bs)
      piece :: pieces (bs.drop (piece.taken - 1))
termination_by bs => bs.length
decreasing_by simp only [List.length_drop, List.length_cons]; omega

/-- Lines entered before, the oldest first. -/
structure History where
  /-- The lines. -/
  lines : List (List UInt8)
  deriving DecidableEq, Repr

namespace History

/-- The most lines that are kept. -/
def limit : Nat := 1000

/-- The newest lines only, as many as are kept. -/
def trimmed (lines : List (List UInt8)) : History :=
  ⟨lines.drop (lines.length - limit)⟩

/-- The lines of a file, up to one that is too long or that is no clean text. -/
def read (bytes : List UInt8) : History :=
  let sound (p : Piece) : Bool := p.whole && (Utf8.decode? p.text).isSome
  trimmed (((pieces bytes).takeWhile sound).map Piece.text)

/-- One line more, unless it repeats the last one. -/
def add (h : History) (line : List UInt8) : History :=
  if h.lines.getLast? = some line then h else trimmed (h.lines ++ [line])

/-- The lines as a file. -/
def write (h : History) : List UInt8 :=
  h.lines.flatMap (· ++ [10])

end History

end ExprMachine.Command
