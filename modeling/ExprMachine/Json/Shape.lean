import ExprMachine.Json.Basic
import ExprMachine.Number.Literal
import ExprMachine.Text.Caseless

/-!
What data are expected to be.

* `Shape`: texts, truth values, whole numbers within bounds, lists, and records
  whose names are matched whatever their case.
* `Shape.mismatch?`: the first thing in data that is not of the shape expected
  there. `null` is of every shape, and names that a record does not have are
  passed over.
* `Mismatch.message`: its wording.
* `Value.field?`, `Value.leaf?`: what stands under a name and under a path of
  names, whatever their case.
-/

namespace ExprMachine.Json

/-- What data are expected to be. -/
inductive Shape where
  /-- Anything, kept as it is written. -/
  | raw
  /-- Anything whose numbers are no larger than the largest number. -/
  | any
  /-- A truth value. -/
  | flag
  /-- A text. -/
  | text (type : String)
  /-- A whole number between two bounds. -/
  | whole (type : String) (least most : Int)
  /-- A whole number between two bounds, or else a text. -/
  | label (least most : Int)
  /-- A list of things of one shape. -/
  | list (item : Shape)
  /-- Things under names. -/
  | record (type : String) (fields : List (String × Shape))

/-- Something that is not of the shape expected where it stands. -/
structure Mismatch where
  /-- The names and places that lead to it from the outermost record; `none` if
  they are not told. -/
  path? : Option (List String)
  /-- What it is. -/
  found : String
  /-- The type that is expected. -/
  wanted : String
  deriving DecidableEq, Repr

namespace Mismatch

/-- A mismatch seen from the record or the list that it stands in. -/
def within (m : Mismatch) (name : String) : Mismatch :=
  { m with path? := m.path?.map (name :: ·) }

/-- The wording of a mismatch in a record of a type. -/
def message (m : Mismatch) (whole : String) : String :=
  let place :=
    match m.path? with
    | some (name :: names) => "struct field " ++ ".".intercalate (whole :: name :: names)
    | _ => "value"
  s!"json: cannot unmarshal {m.found} into Go {place} of type {m.wanted}"

end Mismatch

/-- Whether a number is written as a whole number between two bounds. Where
nothing below nought is expected, there is no sign. -/
def isWholeBetween (least most : Int) (text : String) : Bool :=
  match text.toList with
  | '-' :: digits => least < 0 && digits.all Number.isDigit && least ≤ -(Decimal.natOf digits : Int)
  | digits => digits.all Number.isDigit && (Decimal.natOf digits : Int) ≤ most

namespace Shape

/-- The name of the type of a shape. -/
def type : Shape → String
  | raw => "jsontext.Value"
  | any => "interface \x7b\x7d"
  | flag => "bool"
  | text type => type
  | whole type _ _ => type
  | label _ _ => "string"
  | list item => "[]" ++ item.type
  | record type _ => type

/-- The mismatch of data of a kind that a shape does not take. -/
def refusal (shape : Shape) (kind : String) : Mismatch :=
  match shape with
  | label _ _ => ⟨none, kind, shape.type⟩
  | _ => ⟨some [], kind, shape.type⟩

/-- The mismatch of a truth value. -/
def flagMismatch? (shape : Shape) : Option Mismatch :=
  match shape with
  | raw | any | flag => none
  | _ => some (shape.refusal "bool")

/-- The mismatch of a text. -/
def textMismatch? (shape : Shape) : Option Mismatch :=
  match shape with
  | raw | any | text _ | label _ _ => none
  | _ => some (shape.refusal "string")

/-- The mismatch of a number. -/
def numberMismatch? (shape : Shape) (number : String) : Option Mismatch :=
  match shape with
  | raw => none
  | any =>
      if Number.isDecimal number.toList then none
      else some ⟨some [], "number " ++ number, "float64"⟩
  | whole type least most =>
      if isWholeBetween least most number then none
      else some ⟨some [], "number " ++ number, type⟩
  | label least most =>
      if isWholeBetween least most number then none else some (shape.refusal "number")
  | _ => some (shape.refusal "number")

/-- The shape of the items of a list, if lists are taken. -/
def item? : Shape → Option Shape
  | raw => some raw
  | any => some any
  | list item => some item
  | _ => none

/-- The shape of what stands under a name, for shapes that take records. -/
def fields? : Shape → Option (String → Option Shape)
  | raw => some fun _ => some raw
  | any => some fun _ => some any
  | record _ fields =>
      some fun name => (fields.find? fun f => Caseless.same f.1 name).map (·.2)
  | _ => none

mutual

/-- The first thing in data that is not of the shape expected there. -/
def mismatch? (shape : Shape) : Value → Option Mismatch
  | .null => none
  | .boolean _ => shape.flagMismatch?
  | .number written => shape.numberMismatch? written
  | .string _ => shape.textMismatch?
  | .array items =>
      match shape.item? with
      | some item => itemsMismatch? item 0 items
      | none => some (shape.refusal "array")
  | .object members =>
      match shape.fields? with
      | some field? => membersMismatch? field? members
      | none => some (shape.refusal "object")

/-- The first mismatch among the items of a list, counted from a number. -/
def itemsMismatch? (item : Shape) (n : Nat) : List Value → Option Mismatch
  | [] => none
  | v :: vs =>
      match mismatch? item v with
      | some m => some (m.within (toString n))
      | none => itemsMismatch? item (n + 1) vs

/-- The first mismatch among the members of an object. -/
def membersMismatch? (field? : String → Option Shape) : List (String × Value) → Option Mismatch
  | [] => none
  | (name, v) :: rest =>
      match (field? name).bind fun shape => mismatch? shape v with
      | some m => some (m.within name)
      | none => membersMismatch? field? rest

end

end Shape

namespace Value

/-- What a name stands for in an object, whatever its case; of several, the last
counts. -/
def field? (v : Value) (name : String) : Option Value :=
  match v with
  | .object members => (members.reverse.find? fun m => Caseless.same name m.1).map (·.2)
  | _ => none

/-- What a path of names leads to, whatever their case; of several things the
last counts that is not `null`. -/
def leaf? : List String → Value → Option Value
  | _, .null => none
  | [], v => some v
  | name :: names, .object members =>
      members.reverse.findSome? fun m =>
        if Caseless.same name m.1 then leaf? names m.2 else none
  | _, _ => none

end Value

end ExprMachine.Json
