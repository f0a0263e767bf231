/-!
Tokens: their kinds, their text and where they stand.

* `Keyword`: the reserved words, in alphabetical order.
* `Token.Kind`: every kind of token, numbered by its place in `Kind.all`.
* `Token`: a kind, a text, a place counted in characters and a line.
* `Token.Record`: a token as a client states it, with any number for its kind
  and any 64-bit place.
-/

namespace ExprMachine

/-- The reserved words. -/
inductive Keyword where
  | andWord
  | classWord
  | elseWord
  | falseWord
  | forWord
  | funWord
  | ifWord
  | nilWord
  | orWord
  | printWord
  | returnWord
  | superWord
  | thisWord
  | trueWord
  | varWord
  | whileWord
  deriving DecidableEq, Repr, Inhabited

namespace Keyword

/-- How a reserved word is spelled. -/
def word : Keyword → String
  | andWord => "and"
  | classWord => "class"
  | elseWord => "else"
  | falseWord => "false"
  | forWord => "for"
  | funWord => "fun"
  | ifWord => "if"
  | nilWord => "nil"
  | orWord => "or"
  | printWord => "print"
  | returnWord => "return"
  | superWord => "super"
  | thisWord => "this"
  | trueWord => "true"
  | varWord => "var"
  | whileWord => "while"

/-- All reserved words, in alphabetical order. -/
def all : List Keyword :=
  [andWord, classWord, elseWord, falseWord, forWord, funWord, ifWord, nilWord,
   orWord, printWord, returnWord, superWord, thisWord, trueWord, varWord, whileWord]

/-- The reserved word with a given spelling. -/
def ofWord? (s : String) : Option Keyword :=
  all.find? fun k => k.word = s

/-- Whether a reserved word stands for a value. -/
def isLiteral (k : Keyword) : Bool :=
  k = nilWord ∨ k = trueWord ∨ k = falseWord

end Keyword

namespace Token

/-- The kinds of tokens. -/
inductive Kind where
  | leftParen
  | rightParen
  | leftBrace
  | rightBrace
  | comma
  | dot
  | minus
  | plus
  | semicolon
  | slash
  | star
  | bang
  | bangEqual
  | equal
  | equalEqual
  | greater
  | greaterEqual
  | less
  | lessEqual
  | identifier
  | string
  | number
  | keyword (word : Keyword)
  | comment
  | error
  | eof
  deriving DecidableEq, Repr, Inhabited

namespace Kind

/-- All kinds, in the order that numbers them. -/
def all : List Kind :=
  [leftParen, rightParen, leftBrace, rightBrace, comma, dot, minus, plus, semicolon,
   slash, star, bang, bangEqual, equal, equalEqual, greater, greaterEqual, less,
   lessEqual, identifier, string, number]
  ++ Keyword.all.map keyword
  ++ [comment, error, eof]

/-- The number of a kind. -/
def index (k : Kind) : Nat :=
  all.idxOf k

/-- The kind with a given number. -/
def ofIndex? (n : Int) : Option Kind :=
  if n < 0 then none else all[n.toNat]?

/-- The name of a kind: punctuation and reserved words name themselves. -/
def name : Kind → String
  | leftParen => "("
  | rightParen => ")"
  | leftBrace => "\x7b"
  | rightBrace => "\x7d"
  | comma => ","
  | dot => "."
  | minus => "-"
  | plus => "+"
  | semicolon => ";"
  | slash => "/"
  | star => "*"
  | bang => "!"
  | bangEqual => "!="
  | equal => "="
  | equalEqual => "=="
  | greater => ">"
  | greaterEqual => ">="
  | less => "<"
  | lessEqual => "<="
  | identifier => "identifier"
  | string => "string"
  | number => "number"
  | keyword w => w.word
  | comment => "comment"
  | error => "error"
  | eof => "eof"

/-- Whether tokens of a kind are shown with their text. -/
def hasPayload : Kind → Bool
  | identifier | string | number | comment | error => true
  | _ => false

/-- Whether a kind is a reserved word. -/
def isKeyword : Kind → Bool
  | keyword _ => true
  | _ => false

/-- The kind of a word: the reserved word it spells, or an identifier. -/
def ofWord (s : String) : Kind :=
  match Keyword.ofWord? s with
  | some w => keyword w
  | none => identifier

end Kind

end Token

/-- A token. Its place is counted in characters and covers the whole token,
quotes and comment slashes included; its text is what stands between the quotes
of a string, what follows the slashes of a comment, and the message of an
error. -/
structure Token where
  /-- What the token is. -/
  kind : Token.Kind
  /-- The text of the token. -/
  lexeme : String
  /-- The offset of its first character. -/
  start : Nat
  /-- The number of its characters. -/
  length : Nat
  /-- The line, counted from 1, on which it ends. -/
  line : Nat
  deriving DecidableEq, Repr, Inhabited

namespace Token

/-- The offset just past a token. -/
def stop (t : Token) : Nat :=
  t.start + t.length

/-- A token as a client states it. -/
structure Record where
  /-- The number of its kind, listed or not. -/
  index : Int
  /-- Its text. -/
  lexeme : String
  /-- The offset of its first character. -/
  start : Int64
  /-- The number of its characters. -/
  length : Int64
  deriving DecidableEq, Repr

namespace Record

/-- The kind of a stated token, if its number is listed. -/
def kind? (r : Record) : Option Kind :=
  Kind.ofIndex? r.index

/-- The name of its kind. -/
def name (r : Record) : String :=
  match r.kind? with
  | some k => k.name
  | none => s!"TokenType({r.index})"

/-- How a stated token is shown: literals as kind and text, all else as the
name of the kind. -/
def text (r : Record) : String :=
  if r.kind?.any Kind.hasPayload then r.name ++ ": " ++ r.lexeme else r.name

/-- The offset just past a stated token. -/
def stop (r : Record) : Int64 :=
  r.start + r.length

end Record

/-- A token, stated. -/
def toRecord (t : Token) : Record :=
  ⟨t.kind.index, t.lexeme, Int64.ofNat t.start, Int64.ofNat t.length⟩

/-- How a token is shown: literals as kind and text, all else as the name of the
kind. -/
def text (t : Token) : String :=
  if t.kind.hasPayload then t.kind.name ++ ": " ++ t.lexeme else t.kind.name

/-- Whether a token takes part in the grammar: comments and errors do not, and
the end of the text is kept apart. -/
def isSignificant (t : Token) : Bool :=
  t.kind ≠ .comment ∧ t.kind ≠ .error ∧ t.kind ≠ .eof

end Token

end ExprMachine
