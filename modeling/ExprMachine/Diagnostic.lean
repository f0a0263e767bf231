import ExprMachine.Token.Basic

/-!
What is wrong with a text that does not compile.

* `Diagnostic`: one finding, with the place of the token it is about.
* `Diagnostic.text`: its wording.
* `Report`: an error that a caller may meet: findings, one finding, a plain
  message, or one of these under a label.
-/

namespace ExprMachine

/-- One finding about a text. -/
structure Diagnostic where
  /-- The line of the offending token. -/
  line : Int
  /-- How the token is named in the wording: in quotes, as the end, or not at
  all when the token reader itself made the finding. -/
  place : String
  /-- What is wrong. -/
  message : String
  /-- The offset of the offending token. -/
  start : Nat
  /-- The number of its characters. -/
  length : Nat
  /-- Whether the token reader made the finding. -/
  lexical : Bool
  deriving DecidableEq, Repr, Inhabited

namespace Diagnostic

/-- The wording of a finding. -/
def text (d : Diagnostic) : String :=
  s!"[line {d.line}] Error{d.place}: {d.message}"

/-- The finding that an error token is. -/
def ofErrorToken (t : Token) : Diagnostic :=
  ⟨t.line, "", t.lexeme, t.start, t.length, true⟩

/-- The finding that a token is not what the grammar wants here. -/
def atToken (t : Token) (message : String) : Diagnostic :=
  let place := if t.kind = .eof then " at end" else " at '" ++ t.lexeme ++ "'"
  ⟨t.line, place, message, t.start, t.length, false⟩

/-- The wording of a list of findings, one a line. -/
def textOfList (ds : List Diagnostic) : String :=
  if ds.isEmpty then "no errors" else "\n".intercalate (ds.map text)

end Diagnostic

/-- An error that a caller may meet. -/
inductive Report where
  /-- All findings about a text. -/
  | findings (ds : List Diagnostic)
  /-- One finding. -/
  | finding (d : Diagnostic)
  /-- A message that is about no text. -/
  | plain (message : String)
  /-- An error under a label. -/
  | labelled (label : String) (inner : Report)
  deriving Repr

namespace Report

/-- The wording of an error. -/
def text : Report → String
  | findings ds => Diagnostic.textOfList ds
  | finding d => d.text
  | plain message => message
  | labelled label inner => label ++ ": " ++ inner.text

/-- The findings that an error holds, under whatever labels. -/
def diagnostics : Report → List Diagnostic
  | findings ds => ds
  | finding d => [d]
  | plain _ => []
  | labelled _ inner => inner.diagnostics

end Report

end ExprMachine
