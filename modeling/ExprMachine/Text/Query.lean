import ExprMachine.Text.Layout
import ExprMachine.Text.Utf8

/-!
Names and values joined to one text: an equals sign stands between a name and
its value, an ampersand between two such pairs.

Inside names and values a plus sign stands for a blank, and a percent sign with
two hexadecimal digits for a byte.

* `unescape?`: the bytes that a name or a value stands for.
* `Query.parse?`: the pairs of a text. A semicolon, or a percent sign without
  its digits, makes the whole text bad.
* `Query.values`, `Query.value`: what a name stands for.
-/

namespace ExprMachine

/-- Names and values, in their order. -/
abbrev Query := List (List UInt8 × List UInt8)

namespace Query

/-- The bytes that a name or a value stands for. -/
def unescape? : List Char → Option (List UInt8)
  | [] => some []
  | '%' :: a :: b :: cs => do
      let high ← Layout.hexValue? a
      let low ← Layout.hexValue? b
      let bytes ← unescape? cs
      return UInt8.ofNat (16 * high + low) :: bytes
  | c :: cs =>
      if c = '%' then none
      else
        let shown := if c = '+' then ' ' else c
        (unescape? cs).map (Utf8.encode [shown] ++ ·)

/-- The pair of a part without ampersands. -/
def pair? (part : List Char) : Option (List UInt8 × List UInt8) :=
  if part.contains ';' then none
  else do
    let name := part.takeWhile (· ≠ '=')
    let key ← unescape? name
    let value ← unescape? (part.drop (name.length + 1))
    return (key, value)

/-- The pairs of a text. -/
def parse? (cs : List Char) : Option Query :=
  ((cs.splitOn '&').filter (!·.isEmpty)).mapM pair?

/-- What a name stands for, each time that it is given. -/
def values (q : Query) (name : String) : List (List UInt8) :=
  (q.filter (·.1 = Utf8.encode name.toList)).map (·.2)

/-- What a name stands for where it is given first; nothing if it is not. -/
def value (q : Query) (name : String) : List UInt8 :=
  (q.values name).headD []

end Query

end ExprMachine
