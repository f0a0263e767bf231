import ExprMachine.Chunk.Compile
import ExprMachine.Machine.Run
import ExprMachine.Text.Lines

/-!
What an editor marks in a text.

A text that does not compile has a mark for each finding, over the offending
token. A text that compiles is run, and if the run fails there is one mark over
the whole line on which it fails.
-/

namespace ExprMachine.Editor

/-- How grave a mark is. -/
inductive Severity where
  | error
  | warning
  deriving DecidableEq, Repr

/-- The number of a severity, the gravest first. -/
def Severity.number : Severity → Nat
  | error => 1
  | warning => 2

/-- A marked stretch of a text. -/
structure Mark where
  /-- What is marked. -/
  range : Range
  /-- How grave it is. -/
  severity : Severity
  /-- What is wrong with it. -/
  message : String
  deriving DecidableEq, Repr

/-- The name under which marks are made. -/
def serverName : String := "glox-lsp"

/-- The wording of a finding without its line, which the mark shows. -/
def findingText (d : Diagnostic) : String :=
  if d.place.isEmpty then d.message
  else String.ofList (dropBlank d.place.toList) ++ ": " ++ d.message
where
  /-- A text without one leading blank. -/
  dropBlank : List Char → List Char
    | ' ' :: cs => cs
    | cs => cs

/-- The mark of a finding: over its token, or over one character if the token
has none. -/
def Mark.ofDiagnostic (starts : List Nat) (d : Diagnostic) : Mark :=
  let stop := if d.length = 0 then d.start + 1 else d.start + d.length
  ⟨.ofOffsets starts d.start stop, .error, findingText d⟩

/-- The mark of a failed run: over the line that it names. -/
def Mark.ofFailure (text : List Char) (starts : List Nat) (e : Machine.Error) : Mark :=
  let line := (e.line.toInt - 1).toNat
  let place (character : Nat) : Position := ⟨UInt32.ofNat line, UInt32.ofNat character⟩
  ⟨⟨place 0, place (Lines.lengthOf text starts line)⟩, .warning,
    e.kind.name ++ ": " ++ e.cause.message⟩

/-- The marks of a text. -/
def diagnose (text : List Char) : List Mark :=
  let starts := Lines.starts text
  match compile text with
  | .error ds => ds.map (.ofDiagnostic starts)
  | .ok c =>
      match c.evaluate with
      | .ok _ => []
      | .error e => [.ofFailure text starts e]

end ExprMachine.Editor
