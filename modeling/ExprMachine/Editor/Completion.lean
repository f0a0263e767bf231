import ExprMachine.Text.Lines
import ExprMachine.Text.Word
import ExprMachine.Token.Basic

/-!
How an editor completes the word before the cursor.

* `wordBefore`: the longest run of word characters that ends at the cursor.
* `completions`: the reserved words that it could become.
-/

namespace ExprMachine.Editor

/-- A word on offer. -/
structure Completion where
  /-- The word. -/
  word : Keyword
  deriving DecidableEq, Repr

namespace Completion

/-- The number by which editors know the kind of a word. -/
def kindNumber (c : Completion) : Nat :=
  if c.word.isLiteral then 21 else 14

/-- What kind of word it is. -/
def detail (c : Completion) : String :=
  if c.word.isLiteral then "literal" else "keyword"

end Completion

/-- The longest run of word characters at the end of a text. -/
def lastWord (cs : List Char) : List Char :=
  (cs.reverse.takeWhile Word.isWordPart).reverse

/-- The word that ends at the cursor, empty if there is none. A cursor past the
end of its line stands at the end of the line. -/
def wordBefore (text : List Char) (cursor : Position) : String :=
  match (Lines.split text)[cursor.line.toNat]? with
  | none => ""
  | some line => String.ofList (lastWord (line.take cursor.character.toNat))

/-- The reserved words that start with a text and go on after it. -/
def completions (start : String) : List Completion :=
  (Keyword.all.filter fun k =>
    start.toList.isPrefixOf k.word.toList ∧ k.word ≠ start).map Completion.mk

end ExprMachine.Editor
