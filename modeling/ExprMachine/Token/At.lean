import ExprMachine.Token.Scanner

/-!
The token under a place given by line and column.

* `lineOffsets`: the offset at which each line starts, as the token reader
  finds it: one past each newline.
* `tokenAt?`: the token that covers the character at a line and a column, both
  counted from 1. The place is turned into an offset in 64-bit arithmetic, and
  that offset alone decides.
-/

namespace ExprMachine

/-- The offset at which each line starts: the beginning, and the place after
each newline. -/
def lineOffsets (text : List Char) : List Nat :=
  0 :: text.zipIdx.filterMap fun (c, i) => if c = '\n' then some (i + 1) else none

/-- The token, other than the end token, that covers a given offset. -/
def tokenCovering? (text : List Char) (offset : Int64) : Option Token :=
  (tokenize text).find? fun t =>
    t.kind ≠ .eof ∧ Int64.ofNat t.start ≤ offset ∧ offset < Int64.ofNat t.stop

/-- The token that covers the character at a line and a column. -/
def tokenAt? (text : List Char) (line column : Int64) : Option Token :=
  if line < 1 then none
  else
    match (lineOffsets text)[(line - 1).toNatClampNeg]? with
    | none => none
    | some start => tokenCovering? text (Int64.ofNat start + column - 1)

end ExprMachine
