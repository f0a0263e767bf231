import ExprMachine.Chunk.Compile
import ExprMachine.Machine.Run
import ExprMachine.Text.Lines
import ExprMachine.Token.At

/-!
What an editor shows for the token under the cursor: what the token is, and the
value of the whole text if it has one.
-/

namespace ExprMachine.Editor

/-- A note shown at a token. -/
structure Hover where
  /-- The note, in marked-up text. -/
  contents : String
  /-- The token it is shown at. -/
  range : Range
  deriving DecidableEq, Repr

/-- What a token is, in marked-up text. -/
def describeToken (t : Token) : String :=
  if t.kind.isKeyword then "**keyword** `" ++ t.lexeme ++ "`"
  else if t.kind = .error then "**error** " ++ t.lexeme
  else "`" ++ t.text ++ "`"

/-- The value of a text, if it compiles and its run does not fail. -/
def valueOf? (text : List Char) : Option Value :=
  match compile text with
  | .error _ => none
  | .ok c => c.evaluate.toOption

/-- The note for the token under the cursor, if there is a token. -/
def hover? (text : List Char) (cursor : Position) : Option Hover :=
  let line := Int64.ofNat (cursor.line.toNat + 1)
  let column := Int64.ofNat (cursor.character.toNat + 1)
  (tokenAt? text line column).map fun t =>
    let value :=
      match valueOf? text with
      | some v => "\n\n---\n\nExpression evaluates to `" ++ v.text ++ "`"
      | none => ""
    ⟨describeToken t ++ value, .ofOffsets (Lines.starts text) t.start t.stop⟩

end ExprMachine.Editor
