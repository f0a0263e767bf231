import ExprMachine.Text.Layout

/-!
Structured data as it is sent between programs.

* `Json.Value`: the data.
* `Json.Value.member?`: what a name stands for in an object.
* `Json.Value.ordered`: the data with the members of every object by their names.
* `Json.Value.render`: the data as text, without blanks.
-/

namespace ExprMachine.Json

/-- Structured data. -/
inductive Value where
  | null
  | boolean (b : Bool)
  /-- A number, as it is written. -/
  | number (text : String)
  | string (s : String)
  | array (items : List Value)
  /-- Names and what they stand for, in their order. -/
  | object (members : List (String × Value))

/-- The number that a natural number is. -/
def natural (n : Nat) : Value :=
  .number (toString n)

/-- Whether a character is written by its number in a string: those without a
shape of their own, and those that mean something to markup or end a line. -/
def isNumbered (c : Char) : Bool :=
  c.toNat < 0x20 || c == '<' || c == '>' || c == '&' || c.toNat == 0x2028 || c.toNat == 0x2029

/-- A character of a string. -/
def escapedChar (c : Char) : List Char :=
  if c = '"' ∨ c = '\\' then ['\\', c]
  else if c = '\x08' then ['\\', 'b']
  else if c = '\x0c' then ['\\', 'f']
  else if c = '\n' then ['\\', 'n']
  else if c = '\r' then ['\\', 'r']
  else if c = '\t' then ['\\', 't']
  else if isNumbered c then '\\' :: 'u' :: Layout.hexNat 4 c.toNat
  else [c]

/-- A string between quotes. -/
def renderString (s : String) : String :=
  "\"" ++ String.ofList (s.toList.flatMap escapedChar) ++ "\""

namespace Value

mutual

/-- Data as text, without blanks. -/
def render : Value → String
  | .null => "null"
  | .boolean b => if b then "true" else "false"
  | .number text => text
  | .string s => renderString s
  | .array items => "[" ++ ",".intercalate (renderItems items) ++ "]"
  | .object members => "\x7b" ++ ",".intercalate (renderMembers members) ++ "\x7d"

/-- The texts of the items of a list. -/
def renderItems : List Value → List String
  | [] => []
  | v :: vs => v.render :: renderItems vs

/-- The texts of the members of an object. -/
def renderMembers : List (String × Value) → List String
  | [] => []
  | (name, v) :: rest => (renderString name ++ ":" ++ v.render) :: renderMembers rest

end

/-- What a name stands for in an object; of several, the last counts. -/
def member? (v : Value) (name : String) : Option Value :=
  match v with
  | .object members => members.reverse.lookup name
  | _ => none

/-- Puts a member among members that are ordered by their names. It takes the
place of one with its name. -/
def putMember (name : String) (v : Value) : List (String × Value) → List (String × Value)
  | [] => [(name, v)]
  | m :: rest =>
      if name < m.1 then (name, v) :: m :: rest
      else if name = m.1 then (name, v) :: rest
      else m :: putMember name v rest

mutual

/-- Data with the members of every object ordered by their names; of several
with one name the last is kept. -/
def ordered : Value → Value
  | .array items => .array (orderedItems items)
  | .object members => .object (orderedMembers [] members)
  | v => v

/-- The items of a list, each of them ordered. -/
def orderedItems : List Value → List Value
  | [] => []
  | v :: vs => v.ordered :: orderedItems vs

/-- Members put in turn among those that are ordered already. -/
def orderedMembers (sofar : List (String × Value)) : List (String × Value) → List (String × Value)
  | [] => sofar
  | (name, v) :: rest => orderedMembers (putMember name v.ordered sofar) rest

end

/-- The text of a string, and no text for anything else. -/
def text : Value → String
  | .string s => s
  | _ => ""

end Value

end ExprMachine.Json
