import ExprMachine.Text.Layout

/-!
Text between quotes.

Between double quotes a backslash opens an escape; between single quotes all
characters stand for themselves. Three quotes open a text of several lines:
a newline right after them is dropped, one or two quotes more may stand before
the closing ones, and, between double quotes, a backslash at the end of a line
drops all blanks and newlines up to the next character.

Each reader is given what comes after the opening quotes and yields the text
with the number of characters read, closing quotes included.

* `escape?`: an escape without its backslash.
* `basic?`, `raw?`: text of one line.
* `blockBody?`: what stands before the closing quotes of several lines.
* `basicBlock?`, `rawBlock?`: text of several lines.
-/

namespace ExprMachine.Toml

/-- The character whose code point is written in exactly `width` hexadecimal
digits at the head of a text. -/
def codePoint? (width : Nat) (cs : List Char) : Option Char := do
  let digits ← (cs.take width).mapM Layout.hexValue?
  let code := digits.foldl (fun n d => 16 * n + d) 0
  if digits.length = width ∧ code.isValidChar then some (Char.ofNat code) else none

/-- The character that an escape stands for, and the length of the escape. -/
def escape? : List Char → Option (Char × Nat)
  | [] => none
  | c :: cs =>
      match c with
      | 'b' => some ('\x08', 1)
      | 't' => some ('\t', 1)
      | 'n' => some ('\n', 1)
      | 'f' => some ('\x0c', 1)
      | 'r' => some ('\r', 1)
      | 'e' => some ('\x1b', 1)
      | '"' => some ('"', 1)
      | '\\' => some ('\\', 1)
      | 'x' => (codePoint? 2 cs).map (·, 3)
      | 'u' => (codePoint? 4 cs).map (·, 5)
      | 'U' => (codePoint? 8 cs).map (·, 9)
      | _ => none

/-- Text up to a double quote. -/
def basic? : List Char → Option (List Char × Nat)
  | [] => none
  | c :: cs =>
      if c = '"' then some ([], 1)
      else if c = '\n' then none
      else if c = '\\' then do
        let (e, n) ← escape? cs
        let (text, m) ← basic? (cs.drop n)
        return (e :: text, 1 + n + m)
      else (basic? cs).map fun (text, n) => (c :: text, n + 1)
termination_by cs => cs.length
decreasing_by all_goals (simp only [List.length_drop, List.length_cons]; omega)

/-- Text up to a single quote. -/
def raw? : List Char → Option (List Char × Nat)
  | [] => none
  | c :: cs =>
      if c = '\'' then some ([], 1)
      else if c = '\n' then none
      else (raw? cs).map fun (text, n) => (c :: text, n + 1)

/-- Text up to a run of at least three and at most `most` quotes, the last three
of which close it, after `run` quotes that may belong to that run. With
`escapes`, a backslash takes the next character along; after a pair of
backslashes the closing run may be longer by one. -/
def blockBody? (quote : Char) (escapes : Bool) (run most : Nat) :
    List Char → Option (List Char × Nat)
  | [] => closing run most
  | c :: cs =>
      if c = quote then (blockBody? quote escapes (run + 1) most cs).map fun (t, n) => (t, n + 1)
      else if 3 ≤ run then closing run most
      else
        let before := List.replicate run quote
        if escapes ∧ c = '\\' then
          match cs with
          | [] => none
          | d :: rest =>
              (blockBody? quote escapes 0 (if d = '\\' then 6 else 5) rest).map fun (t, n) =>
                (before ++ c :: d :: t, n + 2)
        else (blockBody? quote escapes 0 5 cs).map fun (t, n) => (before ++ c :: t, n + 1)
where
  /-- The end of the text after a run of quotes. -/
  closing (run most : Nat) : Option (List Char × Nat) :=
    if 3 ≤ run ∧ run ≤ most then some (List.replicate (run - 3) quote, 0) else none

/-- A text without a newline at its head. -/
def dropNewline : List Char → List Char
  | '\n' :: cs => cs
  | '\r' :: '\n' :: cs => cs
  | cs => cs

/-- The characters that a backslash at the end of a line drops. -/
def isBlank (c : Char) : Bool :=
  c == ' ' || c == '\t' || c == '\r' || c == '\n'

/-- A text with its escapes resolved; `dropping` says that blanks at its head
are dropped. -/
def unescape? (dropping : Bool) : List Char → Option (List Char)
  | [] => some []
  | c :: cs =>
      if dropping && isBlank c then unescape? true cs
      else if c = '\\' then
        if cs.head?.any isBlank then
          if (cs.takeWhile isBlank).contains '\n' then unescape? true cs else none
        else do
          let (e, n) ← escape? cs
          let text ← unescape? false (cs.drop n)
          return e :: text
      else (unescape? false cs).map (c :: ·)
termination_by cs => cs.length
decreasing_by all_goals (simp only [List.length_drop, List.length_cons]; omega)

/-- Text of several lines up to three double quotes. -/
def basicBlock? (cs : List Char) : Option (List Char × Nat) := do
  let (body, n) ← blockBody? '"' true 0 5 cs
  let text ← unescape? false (dropNewline body)
  return (text, n)

/-- Text of several lines up to three single quotes. -/
def rawBlock? (cs : List Char) : Option (List Char × Nat) :=
  (blockBody? '\'' false 0 5 cs).map fun (body, n) => (dropNewline body, n)

end ExprMachine.Toml
