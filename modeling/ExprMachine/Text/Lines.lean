/-!
Lines of a text and positions in it.

A line ends with a newline character, which belongs to it; the text after the
last newline is a line too, even when it is empty.

* `starts`: the offset at which each line starts.
* `Position.ofOffset`: the line and the character within it of an offset.
* `lengthOf`: the number of characters of a line, without its newline.
* `split`: the lines themselves, without their newlines.
-/

namespace ExprMachine.Lines

/-- The offset at which each line starts, when the text read so far is `n`
characters long and has just started a line. -/
def startsAfter : Nat → List Char → List Nat
  | _, [] => []
  | n, c :: cs =>
      if c = '\n' then (n + 1) :: startsAfter (n + 1) cs
      else startsAfter (n + 1) cs

/-- The offset at which each line of a text starts. -/
def starts (text : List Char) : List Nat :=
  0 :: startsAfter 0 text

/-- The number of characters of line `line` (counted from 0), without its
newline, and 0 for a line that the text does not have. -/
def lengthOf (text : List Char) (starts : List Nat) (line : Nat) : Nat :=
  match starts[line]? with
  | none => 0
  | some start =>
      match starts[line + 1]? with
      | some next => next - 1 - start
      | none => text.length - start

/-- The lines of a text, without their newlines. -/
def split : List Char → List (List Char)
  | [] => [[]]
  | c :: cs =>
      if c = '\n' then [] :: split cs
      else
        match split cs with
        | [] => [[c]]
        | line :: lines => (c :: line) :: lines

end ExprMachine.Lines

namespace ExprMachine

/-- A place in a text as an editor counts it: line and character from 0, each
in 32 bits. -/
structure Position where
  /-- The line. -/
  line : UInt32
  /-- The character within the line. -/
  character : UInt32
  deriving DecidableEq, Repr, Inhabited

namespace Position

/-- The position of an offset: the last line that starts at or before it (the
first line for an offset before the text), and the distance from there. -/
def ofOffset (starts : List Nat) (offset : Int) : Position :=
  let line := (starts.takeWhile fun (s : Nat) => (s : Int) ≤ offset).length - 1
  let start := starts[line]?.getD 0
  ⟨UInt32.ofNat line, UInt32.ofInt (offset - start)⟩

end Position

/-- A stretch of a text between two positions. -/
structure Range where
  /-- Where the stretch starts. -/
  start : Position
  /-- Where it stops. -/
  stop : Position
  deriving DecidableEq, Repr, Inhabited

/-- The stretch between two offsets. -/
def Range.ofOffsets (starts : List Nat) (start stop : Int) : Range :=
  ⟨.ofOffset starts start, .ofOffset starts stop⟩

end ExprMachine
