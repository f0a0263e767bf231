import ExprMachine.Token.Basic

/-!
Reading tokens off a text.

* `Token.lex`: the token that a character opens before the rest of the text,
  with the number of further characters it takes. Each class takes as many as
  it can; a character that opens nothing is an error token of its own.
* `Scanner`: what is left of a text, with the offset and the line reached.
* `Scanner.scan`: skip blanks, then read one token; at the end of the text this
  is the end token, as often as it is asked for.
* `Scanner.next?`: the same, but nothing once the end token has been read.
* `tokenize`: all tokens of a text, the end token last.

Main statement: reading a token that is not the end token leaves less text
(`Scanner.scan_rest_lt`), so a text has finitely many tokens.
-/

namespace ExprMachine

namespace Token

/-- Whether a character only separates tokens. -/
def isBlank (c : Char) : Bool :=
  c = ' ' ∨ c = '\r' ∨ c = '\t' ∨ c = '\n'

/-- The ten digits of number literals. -/
def isDigit (c : Char) : Bool :=
  '0' ≤ c ∧ c ≤ '9'

/-- The characters that may open a word. -/
def isAlpha (c : Char) : Bool :=
  ('a' ≤ c ∧ c ≤ 'z') ∨ ('A' ≤ c ∧ c ≤ 'Z') ∨ c = '_'

/-- The characters that may go on a word. -/
def isWordChar (c : Char) : Bool :=
  isAlpha c || isDigit c

/-- A token without its place. -/
structure Lexed where
  /-- What the token is. -/
  kind : Kind
  /-- Its text. -/
  lexeme : String
  /-- How many characters it takes after the one that opens it. -/
  further : Nat
  deriving DecidableEq, Repr

/-- How many characters of a number's fraction stand at the head of a text: a
point and the digits after it, or none if no digit follows the point. -/
def fractionLength : List Char → Nat
  | '.' :: cs =>
      let digits := (cs.takeWhile isDigit).length
      if digits = 0 then 0 else digits + 1
  | _ => 0

/-- A token that is shown as it is written. -/
def verbatim (kind : Kind) (c : Char) (cs : List Char) (further : Nat) : Lexed :=
  ⟨kind, String.ofList (c :: cs.take further), further⟩

/-- One of two operators, the longer one if an equals sign follows. -/
def withEqual (long short : Kind) (c : Char) (cs : List Char) : Lexed :=
  if cs.head? = some '=' then verbatim long c cs 1 else verbatim short c cs 0

/-- A number: digits, and a fraction if one follows. -/
def lexNumber (c : Char) (cs : List Char) : Lexed :=
  let whole := (cs.takeWhile isDigit).length
  verbatim .number c cs (whole + fractionLength (cs.dropWhile isDigit))

/-- A word: a reserved word if all of it is one, else an identifier. -/
def lexWord (c : Char) (cs : List Char) : Lexed :=
  let word := cs.takeWhile isWordChar
  let lexeme := String.ofList (c :: word)
  ⟨.ofWord lexeme, lexeme, word.length⟩

/-- A slash, or a comment up to the end of the line if another slash follows. -/
def lexSlash (c : Char) (cs : List Char) : Lexed :=
  if cs.head? = some '/' then
    let body := (cs.drop 1).takeWhile (· ≠ '\n')
    ⟨.comment, String.ofList body, body.length + 1⟩
  else verbatim .slash c cs 0

/-- A string up to the next quote, or an error up to the end of the text if
there is none. -/
def lexString (cs : List Char) : Lexed :=
  let body := cs.takeWhile (· ≠ '"')
  if body.length < cs.length then ⟨.string, String.ofList body, body.length + 1⟩
  else ⟨.error, "unterminated string", cs.length⟩

/-- The token of a character that is neither a digit nor a letter. -/
def lexSymbol (c : Char) (cs : List Char) : Lexed :=
  match c with
  | '(' => verbatim .leftParen c cs 0
  | ')' => verbatim .rightParen c cs 0
  | '\x7b' => verbatim .leftBrace c cs 0
  | '\x7d' => verbatim .rightBrace c cs 0
  | ';' => verbatim .semicolon c cs 0
  | ',' => verbatim .comma c cs 0
  | '.' => verbatim .dot c cs 0
  | '-' => verbatim .minus c cs 0
  | '+' => verbatim .plus c cs 0
  | '*' => verbatim .star c cs 0
  | '!' => withEqual .bangEqual .bang c cs
  | '=' => withEqual .equalEqual .equal c cs
  | '<' => withEqual .lessEqual .less c cs
  | '>' => withEqual .greaterEqual .greater c cs
  | '/' => lexSlash c cs
  | '"' => lexString cs
  | _ => ⟨.error, "unexpected character: '" ++ String.singleton c ++ "'", 0⟩

/-- The token that `c` opens before `cs`. -/
def lex (c : Char) (cs : List Char) : Lexed :=
  if isDigit c then lexNumber c cs
  else if isAlpha c then lexWord c cs
  else lexSymbol c cs

end Token

/-- A text being read. -/
structure Scanner where
  /-- What is left of it. -/
  rest : List Char
  /-- How many characters have been read. -/
  offset : Nat
  /-- The line reached, counted from 1. -/
  line : Nat
  /-- Whether the end token has been read. -/
  done : Bool
  deriving DecidableEq, Repr

namespace Scanner

/-- The start of a text. -/
def start (text : List Char) : Scanner :=
  ⟨text, 0, 1, false⟩

/-- The number of newlines in a text. -/
def newlines (cs : List Char) : Nat :=
  cs.count '\n'

/-- Skips the blanks at the head of the text. -/
def skipBlank (s : Scanner) : Scanner :=
  let blank := s.rest.takeWhile Token.isBlank
  { s with
    rest := s.rest.dropWhile Token.isBlank
    offset := s.offset + blank.length
    line := s.line + newlines blank }

/-- Reads one token. A token is on the line where it ends. -/
def scan (s : Scanner) : Token × Scanner :=
  let s := s.skipBlank
  match s.rest with
  | [] => (⟨.eof, "", s.offset, 0, s.line⟩, { s with done := true })
  | c :: cs =>
      let lexed := Token.lex c cs
      let line := s.line + newlines (c :: cs.take lexed.further)
      let length := lexed.further + 1
      (⟨lexed.kind, lexed.lexeme, s.offset, length, line⟩,
       ⟨cs.drop lexed.further, s.offset + length, line, s.done⟩)

/-- Reads one token unless the end token has been read. A refusal has nothing to return: no
character and no line is passed, and whoever asked goes on with the scanner that was there. -/
def next? (s : Scanner) : Option (Token × Scanner) :=
  if s.done then none else some s.scan

/-- A text has no more characters after a leading stretch is dropped. -/
theorem length_dropWhile_le (p : Char → Bool) (cs : List Char) :
    (cs.dropWhile p).length ≤ cs.length :=
  (List.dropWhile_sublist p).length_le

/-- Reading a token that is not the end token leaves less text. -/
theorem scan_rest_lt (s : Scanner) (h : s.scan.1.kind ≠ .eof) :
    s.scan.2.rest.length < s.rest.length := by
  have hle := length_dropWhile_le Token.isBlank s.rest
  unfold scan at h ⊢
  simp only [skipBlank] at h ⊢
  split at h
  · simp at h
  · rename_i c cs heq
    rw [heq] at hle
    simp only [List.length_cons, List.length_drop] at hle ⊢
    omega

/-- The tokens from here to the end of the text. -/
def tokens (s : Scanner) : List Token :=
  let step := s.scan
  if _h : step.1.kind = .eof then [step.1] else step.1 :: tokens step.2
termination_by s.rest.length
decreasing_by exact scan_rest_lt s ‹_›

end Scanner

/-- All tokens of a text; the last one is the end token. -/
def tokenize (text : List Char) : List Token :=
  (Scanner.start text).tokens

end ExprMachine
