import ExprMachine.Text.Layout
import ExprMachine.Text.Printable

/-!
Text between double quotes in messages.

Printable characters stand for themselves, quotes and backslashes after a
backslash, and all others as escapes: a letter where there is one, otherwise
their code point in two, four or eight hexadecimal digits.
-/

namespace ExprMachine

/-- A character between double quotes. -/
def quotedChar (c : Char) : List Char :=
  let n := c.toNat
  if c = '"' ∨ c = '\\' then ['\\', c]
  else if Printable.isPrintable c then [c]
  else if n = 0x07 then ['\\', 'a']
  else if n = 0x08 then ['\\', 'b']
  else if n = 0x0C then ['\\', 'f']
  else if n = 0x0A then ['\\', 'n']
  else if n = 0x0D then ['\\', 'r']
  else if n = 0x09 then ['\\', 't']
  else if n = 0x0B then ['\\', 'v']
  else if n < 0x20 ∨ n = 0x7F then '\\' :: 'x' :: Layout.hexNat 2 n
  else if n < 0x10000 then '\\' :: 'u' :: Layout.hexNat 4 n
  else '\\' :: 'U' :: Layout.hexNat 8 n

/-- A text between double quotes. -/
def quoted (s : String) : String :=
  "\"" ++ String.ofList (s.toList.flatMap quotedChar) ++ "\""

end ExprMachine
