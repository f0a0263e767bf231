import ExprMachine.Number.Literal

/-!
Instructions to a store, as they are given along with its path.

An instruction is a name, perhaps with the name of a schema before it, and
perhaps with a value after an equals sign or between parentheses.

* `Piece`, `pieces?`: the words, numbers and signs of a text.
* `Pragma.parse?`: the instruction of a text.
* `Pragma.isAccepted`: whether an instruction names a schema that is there.
* `Pragma.forbidsWriting`: whether nothing may be written after it.
-/

namespace ExprMachine.Store

open Number (isDigit)

/-- A part of an instruction. -/
inductive Piece where
  /-- A word; one between quotes is never reserved. -/
  | word (text : List Char) (quoted : Bool)
  /-- A number without a sign. -/
  | number (text : List Char)
  /-- Any other character. -/
  | sign (c : Char)
  deriving DecidableEq, Repr

/-- Blanks between the parts. -/
def isGap (c : Char) : Bool :=
  c == ' ' || c == '\t' || c == '\n' || c == '\r' || c == '\x0c'

/-- The characters that a word starts with. -/
def isWordStart (c : Char) : Bool :=
  c.isAlpha || c == '_' || 0x80 ≤ c.toNat

/-- The characters that a word goes on with. -/
def isWordMore (c : Char) : Bool :=
  isWordStart c || isDigit c || c == '$'

/-- The length of a text up to its closing quote and with it; a quote that is
doubled does not close it, if quotes can be doubled. -/
def quotedLength? (quote : Char) (doubles : Bool) : List Char → Option Nat
  | [] => none
  | [c] => if c = quote then some 1 else none
  | c :: d :: cs =>
      if c = quote then
        if doubles && d == quote then (quotedLength? quote doubles cs).map (· + 2)
        else some 1
      else (quotedLength? quote doubles (d :: cs)).map (· + 1)

/-- The characters that a number at the head of a text takes. -/
def numberText (cs : List Char) : List Char :=
  let whole := cs.takeWhile isDigit
  let rest := cs.drop whole.length
  let fraction :=
    match rest with
    | '.' :: more => '.' :: more.takeWhile isDigit
    | _ => []
  let rest := rest.drop fraction.length
  let exponent :=
    match rest with
    | mark :: more =>
        let sign := more.takeWhile fun c => c = '+' ∨ c = '-'
        let digits := (more.drop sign.length).takeWhile isDigit
        if (mark = 'e' ∨ mark = 'E') ∧ sign.length ≤ 1 ∧ !digits.isEmpty then
          mark :: sign ++ digits
        else []
    | [] => []
  whole ++ fraction ++ exponent

/-- The part at the head of a text, and the number of characters after the first
that it takes. -/
def piece? (c : Char) (cs : List Char) : Option (Piece × Nat) :=
  let word (close : Char) (doubles : Bool) : Option (Piece × Nat) :=
    (quotedLength? close doubles cs).map fun n => (.word (cs.take (n - 1)) true, n)
  if c = '"' ∨ c = '\'' ∨ c.toNat = 0x60 then word c true
  else if c = '[' then word ']' false
  else if isWordStart c then
    let more := cs.takeWhile isWordMore
    some (.word (c :: more) false, more.length)
  else if isDigit c ∨ (c = '.' ∧ cs.head?.any isDigit) then
    let text := numberText (c :: cs)
    if ((c :: cs).drop text.length).head?.any isWordMore then none
    else some (.number text, text.length - 1)
  else some (.sign c, 0)

/-- The parts of a text, unless one of them is malformed. -/
def pieces? : List Char → Option (List Piece)
  | [] => some []
  | c :: cs =>
      if isGap c then pieces? cs
      else do
        let (p, n) ← piece? c cs
        let ps ← pieces? (cs.drop n)
        return p :: ps
termination_by cs => cs.length
decreasing_by all_goals (simp only [List.length_drop, List.length_cons]; omega)

/-- An instruction. -/
structure Pragma where
  /-- The schema that it is for, if it says so. -/
  schema? : Option (List Char)
  /-- Its name. -/
  name : List Char
  /-- Its value, if it has one. -/
  value? : Option (List Char)
  deriving DecidableEq, Repr

namespace Pragma

/-- A text in small letters. -/
def lowered (cs : List Char) : List Char :=
  cs.map Char.toLower

/-- Words that cannot stand for a name unless they are quoted. -/
def reserved : List String :=
  ["add", "all", "alter", "and", "as", "autoincrement", "between", "case", "check", "collate",
   "commit", "constraint", "create", "default", "deferrable", "delete", "distinct", "drop",
   "else", "escape", "except", "exists", "foreign", "from", "group", "having", "in", "index",
   "insert", "intersect", "into", "is", "isnull", "join", "limit", "not", "nothing", "notnull",
   "null", "on", "or", "order", "primary", "references", "returning", "select", "set", "table",
   "then", "to", "transaction", "union", "unique", "update", "using", "values", "when", "where"]

/-- Reserved words that can still stand for a value. -/
def reservedValues : List String := ["on", "delete", "default"]

/-- The name that a part is. -/
def nameOf? : Piece → Option (List Char)
  | .word text quoted =>
      if !quoted && reserved.contains (String.ofList (lowered text)) then none else some text
  | _ => none

/-- The value that parts are. -/
def valueOf? : List Piece → Option (List Char)
  | [.sign c, .number text] => if c = '+' ∨ c = '-' then some (c :: text) else none
  | [.number text] => some text
  | [.word text quoted] =>
      if reservedValues.contains (String.ofList (lowered text)) then some text
      else nameOf? (.word text quoted)
  | _ => none

/-- The value that the parts after a name give, `none` inside if they give
none. -/
def given? : List Piece → Option (Option (List Char))
  | [] => some none
  | .sign '=' :: ps => (valueOf? ps).map some
  | .sign '(' :: ps =>
      if ps.getLast? = some (.sign ')') then (valueOf? ps.dropLast).map some else none
  | _ => none

/-- The instruction that parts are. -/
def ofPieces? : List Piece → Option Pragma
  | [] => none
  | first :: .sign '.' :: second :: ps => do
      return ⟨some (← nameOf? first), ← nameOf? second, ← given? ps⟩
  | first :: ps => do
      return ⟨none, ← nameOf? first, ← given? ps⟩

/-- The instruction of a text, which a semicolon may end. -/
def parse? (cs : List Char) : Option Pragma := do
  let ps ← pieces? cs
  ofPieces? (if ps.getLast? = some (.sign ';') then ps.dropLast else ps)

/-- Whether an instruction names a schema that is there, or none. -/
def isAccepted (p : Pragma) : Bool :=
  p.schema?.all fun s => ["main", "temp"].contains (String.ofList (lowered s))

/-- Whether a value says yes. -/
def isYes (value : List Char) : Bool :=
  if value.head?.any isDigit then Decimal.natOf (value.takeWhile isDigit) ≠ 0
  else ["on", "yes", "true"].contains (String.ofList (lowered value))

/-- Whether nothing may be written after an instruction. -/
def forbidsWriting (p : Pragma) : Bool :=
  lowered p.name == "query_only".toList && p.value?.any isYes

end Pragma

end ExprMachine.Store
