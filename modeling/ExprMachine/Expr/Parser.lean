import ExprMachine.Expr.Basic
import ExprMachine.Diagnostic
import ExprMachine.Token.Scanner

/-!
Reading an expression off the tokens of a text.

The parser sees the significant tokens of a text and the end token behind them.
It climbs by binding strength: an operand, then operators that bind at least as
tightly as the level asked for, each with a right operand that binds more
tightly than itself.

A parse that meets a fault goes on reading as before, since what it reads
decides which errors of the token reader are reported with it; only the first
fault counts.

* `Fault`: the offending token, the message, and the token that was next to be
  read when the fault was met.
* `Parsed`: an expression or its first fault, the number of literals read, and
  the tokens left over.
* `Expr.parse`, `Expr.climb`: the two halves of the recursion. What they leave over is
  never longer than what they were given, which is part of their type and makes
  the recursion well-founded.
* `Expr.parseText`: an expression, or all findings about a text.
-/

namespace ExprMachine

/-- The first thing that is wrong with the significant tokens of a text. -/
structure Fault where
  /-- The offending token. -/
  token : Token
  /-- What is wrong with it. -/
  message : String
  /-- The token that was next to be read. -/
  lookahead : Token
  deriving DecidableEq, Repr

/-- How far a parse has come. -/
structure Parsed where
  /-- The expression, or the first fault. -/
  result : Except Fault Expr
  /-- How many literals have been read from the start of the text. -/
  literals : Nat
  /-- The tokens left over. -/
  rest : List Token

namespace Parsed

/-- The most literals that a text may hold. -/
def maxLiterals : Nat := 256

/-- The first token of a list, the end token if there is none. -/
def current (eof : Token) (ts : List Token) : Token :=
  ts.head?.getD eof

/-- The value that a literal token stands for, or what is wrong with it; `none`
for a token that is no literal. -/
def literal? (t : Token) : Option (Except String Value) :=
  match t.kind with
  | .number =>
      match Number.ofLiteral? t.lexeme with
      | some x => some (.ok (.number x))
      | none => some (.error "invalid number literal")
  | .keyword .trueWord => some (.ok (.boolean true))
  | .keyword .falseWord => some (.ok (.boolean false))
  | .keyword .nilWord => some (.ok .nil)
  | _ => none

/-- A fault at a token that has just been read, before the tokens `ts`. -/
def faultBefore (eof t : Token) (message : String) (n : Nat) (ts : List Token) : Parsed :=
  ⟨.error ⟨t, message, current eof ts⟩, n, ts⟩

/-- The parse of a literal token before the tokens `ts`. -/
def ofLiteral (eof t : Token) (value : Except String Value) (n : Nat) (ts : List Token) :
    Parsed :=
  match value with
  | .error message => faultBefore eof t message n ts
  | .ok v =>
      if n < maxLiterals then ⟨.ok (.literal v t.line), n + 1, ts⟩
      else faultBefore eof t "too many constants in one chunk" n ts

/-- The parse of a parenthesised expression, once its inside has been read. -/
def closeParen (eof : Token) (inner : Parsed) : Parsed :=
  match inner.rest with
  | t :: ts =>
      if t.kind = .rightParen then { inner with rest := ts } else unclosed t
  | [] => unclosed eof
where
  /-- A token in the place of the closing parenthesis. -/
  unclosed (t : Token) : Parsed :=
    { inner with
      result := inner.result.bind fun _ => .error ⟨t, "expect ')' after expression", t⟩ }

/-- An operator put before a parsed operand. -/
def applyUnary (op : UnaryOp) (line : Nat) (operand : Parsed) : Parsed :=
  { operand with result := operand.result.map (.unary op line) }

/-- An operator put between two parsed operands. -/
def applyBinary (op : BinaryOp) (line : Nat) (left right : Parsed) : Parsed :=
  { right with
    result := left.result.bind fun a => right.result.map (.binary op line a) }

/-- A closing parenthesis is read at most, so what is left is no longer. -/
theorem length_rest_closeParen (eof : Token) (inner : Parsed) :
    (closeParen eof inner).rest.length ≤ inner.rest.length := by
  unfold closeParen
  split
  · rename_i t ts heq
    split
    · simp [heq]
    · simp [closeParen.unclosed]
  · simp [closeParen.unclosed]

/-- A literal reads nothing beyond its own token. -/
theorem rest_ofLiteral (eof t : Token) (v : Except String Value) (n : Nat) (ts : List Token) :
    (ofLiteral eof t v n ts).rest = ts := by
  unfold ofLiteral
  split
  · rfl
  · split <;> rfl

end Parsed

namespace Expr

open Parsed

mutual

/-- Reads an operand and the operators after it that bind at least as tightly
as `level`, when `n` literals have been read. A token that opens no operand is
read, and nothing after it. -/
def parse (eof : Token) (level n : Nat) (ts : List Token) :
    { p : Parsed // p.rest.length ≤ ts.length } :=
  match ts with
  | [] => ⟨faultBefore eof eof "expect expression" n [], Nat.le_refl _⟩
  | t :: ts =>
      if t.kind = .leftParen then
        let inner := parse eof 1 n ts
        have bound := Nat.le_trans (length_rest_closeParen eof inner.val) inner.property
        let whole := climb eof level (closeParen eof inner.val)
        ⟨whole.val, Nat.le_succ_of_le (Nat.le_trans whole.property bound)⟩
      else
        match UnaryOp.ofKind? t.kind with
        | some op =>
            let inner := parse eof 5 n ts
            let whole := climb eof level (applyUnary op t.line inner.val)
            ⟨whole.val, Nat.le_succ_of_le (Nat.le_trans whole.property inner.property)⟩
        | none =>
            match literal? t with
            | some v =>
                let whole := climb eof level (ofLiteral eof t v n ts)
                ⟨whole.val, Nat.le_succ_of_le (Nat.le_trans whole.property
                  (Nat.le_of_eq (congrArg List.length (rest_ofLiteral eof t v n ts))))⟩
            | none => ⟨faultBefore eof t "expect expression" n ts, Nat.le_succ _⟩
termination_by ts.length
decreasing_by
  · exact Nat.lt_succ_self _
  · exact Nat.lt_succ_of_le bound
  · exact Nat.lt_succ_self _
  · exact Nat.lt_succ_of_le inner.property
  · rw [rest_ofLiteral]; exact Nat.lt_succ_self _

/-- Reads the operators after an operand that bind at least as tightly as
`level`, each with its right operand. -/
def climb (eof : Token) (level : Nat) (left : Parsed) :
    { p : Parsed // p.rest.length ≤ left.rest.length } :=
  match h : left.rest with
  | [] => ⟨left, Nat.le_of_eq (congrArg List.length h)⟩
  | t :: ts =>
      match BinaryOp.ofKind? t.kind with
      | none => ⟨left, Nat.le_of_eq (congrArg List.length h)⟩
      | some op =>
          if level ≤ op.strength then
            let right := parse eof (op.strength + 1) left.literals ts
            let whole := climb eof level (applyBinary op t.line left right.val)
            ⟨whole.val,
             Nat.le_trans whole.property (Nat.le_succ_of_le right.property)⟩
          else ⟨left, Nat.le_of_eq (congrArg List.length h)⟩
termination_by left.rest.length
decreasing_by
  · exact Nat.lt_of_lt_of_eq (Nat.lt_succ_self _) (congrArg List.length h.symm)
  · exact Nat.lt_of_lt_of_eq (Nat.lt_succ_of_le right.property) (congrArg List.length h.symm)

end

/-- Reads a whole text's significant tokens: an expression and then the end. -/
def parseTokens (eof : Token) (ts : List Token) : Parsed :=
  let p := (parse eof 1 0 ts).val
  match p.rest with
  | [] => p
  | t :: _ =>
      { p with result := p.result.bind fun _ => .error ⟨t, "expect end of expression", t⟩ }

/-- The error tokens that stand before a token. -/
def lexicalErrors (tokens : List Token) (before : Token) : List Diagnostic :=
  (tokens.filter fun t => t.kind = .error ∧ t.start < before.start).map .ofErrorToken

/-- The end token of a tokenised text. -/
def endToken (tokens : List Token) : Token :=
  tokens.getLastD default

/-- The expression that tokens spell, or all findings about them. The errors of
the token reader are found as far as the parse has read. A fault is reported
before them, and only if it was met before the first of them. -/
def parseAll (tokens : List Token) : Except (List Diagnostic) Expr :=
  let eof := endToken tokens
  let p := parseTokens eof (tokens.filter Token.isSignificant)
  let lexical := lexicalErrors tokens (Parsed.current eof p.rest)
  match p.result with
  | .ok e => if lexical.isEmpty then .ok e else .error lexical
  | .error fault =>
      if (lexicalErrors tokens fault.lookahead).isEmpty then
        .error (.atToken fault.token fault.message :: lexical)
      else .error lexical

/-- The expression that a text spells, or all findings about it. -/
def parseText (text : List Char) : Except (List Diagnostic) Expr :=
  parseAll (tokenize text)

end Expr

end ExprMachine
