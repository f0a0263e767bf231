/-!
Settings text: keys, values and statements.

A text is a list of statements. A statement gives a value to a key, or opens
the table that the following statements belong to. A key is a path of names.

* `Key`, `Value`, `Statement`: the parts of a text.
* `Key.text`: a key as it is shown, names that are not bare in quotes.
-/

namespace ExprMachine.Toml

/-- A path of names. -/
abbrev Key := List String

/-- A value as it is written. -/
inductive Value where
  /-- Text. -/
  | string (s : String)
  /-- An integer of 64 bits. -/
  | integer (n : Int)
  /-- A truth value. -/
  | boolean (b : Bool)
  /-- A number that is not written as an integer. -/
  | float (text : String)
  /-- A date, a time, or both. -/
  | moment (text : String)
  /-- Values in brackets. -/
  | array (items : List Value)
  /-- Keys and values in braces. -/
  | table (entries : List (Key × Value))

/-- A statement. -/
inductive Statement where
  /-- Gives a value to a key. -/
  | assign (key : Key) (value : Value)
  /-- Opens a table. -/
  | table (key : Key)
  /-- Adds a table to a list of tables and opens it. -/
  | element (key : Key)

/-- The characters of a name that needs no quotes. -/
def isBare (c : Char) : Bool :=
  c.isAlphanum || c == '_' || c == '-'

/-- A character of a name in quotes. -/
def nameChar (c : Char) : String :=
  match c with
  | '"' => "\\\""
  | '\\' => "\\\\"
  | '\x08' => "\\b"
  | '\t' => "\\t"
  | '\n' => "\\n"
  | '\x0c' => "\\f"
  | '\r' => "\\r"
  | c =>
      if c.toNat < 16 then "\\u000" ++ String.singleton (Nat.digitChar c.toNat)
      else if c.toNat < 32 then "\\u001" ++ String.singleton (Nat.digitChar (c.toNat - 16))
      else if c.toNat = 127 then "\\u007f"
      else String.singleton c

/-- A name as it is shown. -/
def nameText (name : String) : String :=
  if !name.isEmpty ∧ name.toList.all isBare then name
  else "\"" ++ String.join (name.toList.map nameChar) ++ "\""

/-- A key as it is shown: its names with points between them. -/
def Key.text (k : Key) : String :=
  ".".intercalate (k.map nameText)

end ExprMachine.Toml
