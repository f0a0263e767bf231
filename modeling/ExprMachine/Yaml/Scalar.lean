import ExprMachine.Number.Literal
import ExprMachine.Yaml.Timestamp

/-!
Text as a YAML scalar.

Text is written plain where that reads back as the same text. Text that would
read as something else (a truth value, null, a number, a date) is put between
double quotes; text with indicators that would end or change a plain scalar
between single quotes; text with characters that need escapes between double
quotes; and text of several lines as a literal block.

* `readsAsOther`: whether plain text would be taken for something else.
* `Shape.of`: what in a text forbids which style.
* `scalar`: the written form.
-/

namespace ExprMachine.Yaml

-- Powers are those of the core library, whatever else is imported.
attribute [local instance(high)] instPowNat

open Number (isDigit unsigned isNatural isDecimal)

/-! ### Text that reads as something else -/

/-- Plain words that stand for something other than themselves. -/
def reservedWords : List String :=
  ["", "~", "null", "Null", "NULL", "true", "True", "TRUE", "false", "False", "FALSE",
   ".nan", ".NaN", ".NAN", ".inf", ".Inf", ".INF", "+.inf", "+.Inf", "+.INF",
   "-.inf", "-.Inf", "-.INF",
   "y", "Y", "yes", "Yes", "YES", "on", "On", "ON",
   "n", "N", "no", "No", "NO", "off", "Off", "OFF"]

/-- Whether an unsigned text is an integer below a bound, with its base before
it: two, eight, sixteen or ten. -/
def isBased (bound : Nat) : List Char → Bool
  | '0' :: c :: cs =>
      if c = 'x' ∨ c = 'X' then isNatural 16 bound cs
      else if c = 'b' ∨ c = 'B' then isNatural 2 bound cs
      else if c = 'o' ∨ c = 'O' then isNatural 8 bound cs
      else isNatural 8 bound (c :: cs)
  | cs => isNatural 10 bound cs

/-- Whether a text is a sign and digits of a base that stand for an integer of
64 bits. -/
def isSigned (base : Nat) : List Char → Bool
  | '-' :: cs => isNatural base (2 ^ (63 : Nat) + 1) cs
  | '+' :: cs => isNatural base (2 ^ (63 : Nat)) cs
  | _ => false

/-- Whether a text is an integer of 64 bits. A sign may also stand between a
small letter for the base and the digits. -/
def isInteger (cs : List Char) : Bool :=
  match cs with
  | '-' :: rest => isBased (2 ^ (63 : Nat) + 1) rest
  | '+' :: rest => isBased (2 ^ (63 : Nat)) rest
  | '0' :: 'b' :: rest => isBased (2 ^ (64 : Nat)) cs || isSigned 2 rest
  | '0' :: 'o' :: rest => isBased (2 ^ (64 : Nat)) cs || isSigned 8 rest
  | _ => isBased (2 ^ (64 : Nat)) cs

/-- Whether every underscore of a text stands between two digits; `digitBefore`
says whether a digit came before the text. -/
def separatesDigits (digitBefore : Bool) : List Char → Bool
  | [] => true
  | '_' :: cs => digitBefore && cs.head?.any isDigit && separatesDigits false cs
  | c :: cs => separatesDigits (isDigit c) cs

/-- Whether a text is digits in groups of two after colons, as times are
written. -/
def isSexagesimal (cs : List Char) : Bool :=
  match (unsigned cs).splitOn ':' with
  | first :: second :: more =>
      let groups := second :: more
      let last := (groups.getLast?.getD []).takeWhile (· ≠ '.')
      let after := ((groups.getLast?.getD []).dropWhile (· ≠ '.')).drop 1
      let isGroup (g : List Char) : Bool :=
        match g with
        | [a] => isDigit a
        | [a, b] => '0' ≤ a ∧ a ≤ '5' ∧ isDigit b
        | _ => false
      (first.head?.any isDigit) && first.all (fun c => isDigit c || c == '_') &&
        groups.dropLast.all isGroup && isGroup last &&
        after.all (fun c => isDigit c || c == '_')
  | _ => false

/-- Whether plain text would be taken for something other than text. -/
def readsAsOther (s : String) : Bool :=
  let cs := s.toList
  let plain := cs.filter (· ≠ '_')
  reservedWords.contains s || isSexagesimal cs ||
    match cs.head? with
    | some '.' => separatesDigits false cs && isDecimal plain
    | some c =>
        (isDigit c || c == '+' || c == '-') &&
          (isTimestamp cs || isInteger plain || isDecimal plain)
    | none => false

/-! ### What forbids a style -/

/-- What a text holds that matters for its style. -/
structure Shape where
  /-- Something that would end or change a plain scalar. -/
  indicators : Bool
  /-- A line break. -/
  breaks : Bool
  /-- A character that must be escaped. -/
  special : Bool
  /-- A tab. -/
  tabs : Bool
  /-- A blank or a break at the start or at the end. -/
  openEnds : Bool
  /-- A blank at the end. -/
  trailingBlank : Bool
  /-- A break with a blank after it. -/
  breakBlank : Bool
  /-- A blank with a break after it. -/
  blankBreak : Bool

/-- The characters that may not open a plain scalar. -/
def openers : List Char :=
  ['#', ',', '[', ']', '\x7b', '\x7d', '&', '*', '!', '|', '>', '\'', '"', '%', '@', '\x60']

/-- The line breaks. -/
def isBreak (c : Char) : Bool :=
  c = '\n' ∨ c = '\r' ∨ c.toNat = 0x85 ∨ c.toNat = 0x2028 ∨ c.toNat = 0x2029

/-- The characters that are written as they are. -/
def isPrintable (c : Char) : Bool :=
  let n := c.toNat
  n = 0x0A ∨ (0x20 ≤ n ∧ n ≤ 0x7E) ∨
    (0xA0 ≤ n ∧ n ≤ 0xFFFF ∧ n ≠ 0xFEFF ∧ n ≠ 0xFFFE ∧ n ≠ 0xFFFF)

/-- The character at an offset, a blank past the end. -/
def charAt (cs : List Char) (i : Nat) : Char :=
  cs[i]?.getD ' '

/-- Whether the character at an offset would end or change a plain scalar. -/
def isIndicatorAt (cs : List Char) (i : Nat) : Bool :=
  let c := charAt cs i
  let blankAfter := charAt cs (i + 1) = ' ' ∨ charAt cs (i + 1) = '\t'
  if i = 0 then
    openers.contains c || ((c == '?' || c == ':' || c == '-') && blankAfter)
  else
    let before := charAt cs (i - 1)
    (c == ':' && blankAfter) ||
      (c == '#' && (before == ' ' || before == '\t' || isBreak before))

/-- What a text that is not empty holds. -/
def Shape.of (cs : List Char) : Shape :=
  let places := List.range cs.length
  let first := charAt cs 0
  let last := charAt cs (cs.length - 1)
  let pairs := cs.zip (cs.drop 1)
  let rule := cs.take 3 = ['-', '-', '-'] ∨ cs.take 3 = ['.', '.', '.']
  { indicators := rule || places.any (isIndicatorAt cs)
    breaks := cs.any isBreak
    special := cs.any fun c => c ≠ '\t' ∧ !isPrintable c
    tabs := cs.contains '\t'
    openEnds := first = ' ' || last = ' ' || isBreak first || isBreak last
    trailingBlank := last = ' '
    breakBlank := pairs.any fun (a, b) => isBreak a ∧ b = ' '
    blankBreak := pairs.any fun (a, b) => a = ' ' ∧ isBreak b }

/-- Whether a text may stand plain. -/
def Shape.allowsPlain (s : Shape) : Bool :=
  !(s.indicators || s.breaks || s.special || s.tabs || s.openEnds || s.breakBlank || s.blankBreak)

/-- Whether a text may stand between single quotes. -/
def Shape.allowsSingle (s : Shape) : Bool :=
  !(s.special || s.tabs || s.breakBlank || s.blankBreak)

/-- Whether a text may stand as a block. -/
def Shape.allowsBlock (s : Shape) : Bool :=
  !(s.trailingBlank || s.blankBreak || s.special)

/-! ### Styles -/

/-- A number in uppercase hexadecimal digits. -/
def upperHex (width n : Nat) : String :=
  String.ofList ((Layout.hexNat width n).map Char.toUpper)

/-- The escape of a character: a letter where there is one, otherwise its code
point in two, four or eight digits. -/
def escape (c : Char) : String :=
  let n := c.toNat
  if c = '"' then "\\\""
  else if c = '\\' then "\\\\"
  else if n = 0x00 then "\\0"
  else if n = 0x07 then "\\a"
  else if n = 0x08 then "\\b"
  else if n = 0x09 then "\\t"
  else if n = 0x0A then "\\n"
  else if n = 0x0B then "\\v"
  else if n = 0x0C then "\\f"
  else if n = 0x0D then "\\r"
  else if n = 0x1B then "\\e"
  else if n = 0x85 then "\\N"
  else if n = 0xA0 then "\\_"
  else if n = 0x2028 then "\\L"
  else if n = 0x2029 then "\\P"
  else if n ≤ 0xFF then "\\x" ++ upperHex 2 n
  else if n ≤ 0xFFFF then "\\u" ++ upperHex 4 n
  else "\\U" ++ upperHex 8 n

/-- Whether a character stands for itself between double quotes. -/
def isPlainInside (c : Char) : Bool :=
  isPrintable c && !isBreak c && c != '"' && c != '\\'

/-- The byte order mark. -/
def orderMark : Char := '\uFEFF'

/-- A text between double quotes. After a byte order mark at its head, every
character is escaped. -/
def doubleQuoted (cs : List Char) : String :=
  let marked := cs.head? == some orderMark
  let inside (c : Char) : String :=
    if isPlainInside c && !marked then String.singleton c else escape c
  "\"" ++ String.join (cs.map inside) ++ "\""

/-- A text with two blanks before the first character after each run of breaks;
`fresh` says that a break came before the text. -/
def indented (fresh : Bool) : List Char → List Char
  | [] => []
  | c :: cs =>
      if isBreak c then c :: indented true cs
      else if fresh then ' ' :: ' ' :: c :: indented false cs
      else c :: indented false cs

/-- A text between single quotes, which are doubled inside it. -/
def singleQuoted (cs : List Char) : String :=
  let doubled (c : Char) : List Char := if c = '\'' then ['\'', '\''] else [c]
  "'" ++ String.ofList ((indented false cs).flatMap doubled) ++ "'"

/-- A text of several lines as a block under a key: a mark for how it starts and
ends, then its lines two blanks to the right. A break at the start of the text
ends the line of the mark. -/
def block (cs : List Char) : String :=
  let last := charAt cs (cs.length - 1)
  let indent := if charAt cs 0 = ' ' ∨ isBreak (charAt cs 0) then "2" else ""
  let ending :=
    if !isBreak last then "-"
    else if cs.length = 1 ∨ isBreak (charAt cs (cs.length - 2)) then "+"
    else ""
  let first := if isBreak (charAt cs 0) then "" else "\n"
  "|" ++ indent ++ ending ++ first ++ String.ofList (indented true cs)

/-- A text as a scalar under a key. -/
def scalar (s : String) : String :=
  let cs := s.toList
  let shape := Shape.of cs
  if cs.contains '\n' then
    if shape.allowsBlock then block cs else doubleQuoted cs
  else if readsAsOther s then doubleQuoted cs
  else if shape.allowsPlain then s
  else if shape.allowsSingle then singleQuoted cs
  else doubleQuoted cs

/-- A key with its value on lines of their own. A value that ends with a break
has ended its line. -/
def line (key value : String) : String :=
  let ended := value.toList.getLast?.any isBreak
  key ++ ": " ++ value ++ if ended then "" else "\n"

end ExprMachine.Yaml
