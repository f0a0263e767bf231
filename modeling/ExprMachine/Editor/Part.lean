import ExprMachine.Json.Shape
import ExprMachine.Text.Quoted

/-!
Records that an editor sends, put together from their parts.

* `Part`: a named part of a record, which may be left out or not.
* `record`, `unnamed`: the shape of a record with a name, and of one without; the
  type of the latter is told by its parts.
* `integer`, `natural`, `option`, `token`: shapes of parts.
-/

namespace ExprMachine.Editor

-- Powers are those of the core library, whatever else is imported.
attribute [local instance(high)] instPowNat

open Json (Shape)

/-- A part of a record. -/
structure Part where
  /-- Its name. -/
  name : String
  /-- What it is. -/
  shape : Shape
  /-- Whether it has to be there. -/
  needed : Bool

namespace Part

/-- A part that has to be there. -/
def must (name : String) (shape : Shape) : Part := ⟨name, shape, true⟩

/-- A part that may be left out. -/
def may (name : String) (shape : Shape) : Part := ⟨name, shape, false⟩

/-- A truth value that may be left out. -/
def flag (name : String) : Part := may name .flag

/-- A name that starts with a capital. -/
def title (name : String) : String :=
  match name.toList with
  | [] => ""
  | c :: cs => String.ofList (c.toUpper :: cs)

/-- How a part is declared in the type of a record without a name. -/
def declaration (p : Part) : String :=
  let mark :=
    match p.shape with
    | .list _ | .any => ""
    | _ => if p.needed then "" else "*"
  let tag := "json:\"" ++ p.name ++ (if p.needed then "" else ",omitempty") ++ "\""
  title p.name ++ " " ++ mark ++ p.shape.type ++ " " ++ quoted tag

end Part

/-- The type of a name. -/
def typeName (name : String) : String := "protocol." ++ name

/-- A record with a name. -/
def record (name : String) (parts : List Part) : Shape :=
  .record (typeName name) (parts.map fun p => (p.name, p.shape))

/-- A record without a name. -/
def unnamed (parts : List Part) : Shape :=
  .record ("struct \x7b " ++ "; ".intercalate (parts.map Part.declaration) ++ " \x7d")
    (parts.map fun p => (p.name, p.shape))

/-- A text without further meaning. -/
def plainText : Shape := .text "string"

/-- Integers of 32 bits, of a type. -/
def integerOf (type : String) : Shape := .whole type (-(2 ^ (31 : Nat))) (2 ^ (31 : Nat) - 1)

/-- Integers of 32 bits. -/
def integer : Shape := integerOf "int32"

/-- Natural numbers of 32 bits. -/
def natural : Shape := .whole "uint32" 0 (2 ^ (32 : Nat) - 1)

/-- A choice that is made by its number. -/
def option (name : String) : Shape := integerOf (typeName name)

/-- A choice that is made by its word. -/
def word (name : String) : Shape := .text (typeName name)

/-- The mark of some work that is under way. -/
def token : Shape := .label (-(2 ^ (31 : Nat))) (2 ^ (31 : Nat) - 1)

end ExprMachine.Editor
