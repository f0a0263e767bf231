import ExprMachine.Expr.Parser
import ExprMachine.Proofs.Number.Range

/-!
The grammar of expressions, apart from any way to read them.

* `Level`: the levels of the grammar, from equality down to single operands.
* `Level.operators`, `Level.tighter?`: the operators that a level writes
  between its operands, and the level that those operands have.
* `Derives`: the sentences of a level, each with its tree. A chain of operators
  of one level leans to the left, signs before an operand lean to the right,
  and parentheses leave no node.
* `Level.rank`: the levels by number, as far as the binding strength of
  operators goes.
-/

namespace ExprMachine

/-- Whether a token is a literal: a number, `true`, `false` or `nil`. -/
def Token.isLiteral (t : Token) : Bool :=
  t.kind = .number ∨ t.kind = .keyword .trueWord ∨ t.kind = .keyword .falseWord ∨
    t.kind = .keyword .nilWord

/-- The levels of the grammar, the loosest first. -/
inductive Level where
  /-- Operands of `==` and `!=`. -/
  | equality
  /-- Operands of `<`, `<=`, `>` and `>=`. -/
  | comparison
  /-- Operands of `+` and `-`. -/
  | term
  /-- Operands of `*` and `/`. -/
  | factor
  /-- Operands behind any number of signs. -/
  | unary
  /-- Literals and what stands in parentheses. -/
  | primary
  deriving DecidableEq, Repr

namespace Level

/-- The operators between the operands of a level, each with its token. -/
def operators : Level → List (Token.Kind × BinaryOp)
  | equality => [(.equalEqual, .equal), (.bangEqual, .notEqual)]
  | comparison =>
      [(.less, .less), (.lessEqual, .lessEqual), (.greater, .greater),
        (.greaterEqual, .greaterEqual)]
  | term => [(.plus, .add), (.minus, .subtract)]
  | factor => [(.star, .multiply), (.slash, .divide)]
  | unary | primary => []

/-- The level of the operands of a level. -/
def tighter? : Level → Option Level
  | equality => some comparison
  | comparison => some term
  | term => some factor
  | factor => some unary
  | unary => some primary
  | primary => none

end Level

/-- The operators before an operand, each with its token. -/
def signs : List (Token.Kind × UnaryOp) :=
  [(.minus, .negate), (.bang, .not)]

/-- `Derives x ts e`: the tokens `ts` are a sentence of the level `x`, with the
tree `e`. Every operator has the line of its token. -/
inductive Derives : Level → List Token → Expr → Prop
  /-- A single operand of a level. -/
  | operand {x y : Level} {ts : List Token} {e : Expr}
      (hxy : x.tighter? = some y) (h : Derives y ts e) : Derives x ts e
  /-- One more operand of a level, behind an operator. -/
  | chain {x y : Level} {ts us : List Token} {t : Token} {op : BinaryOp} {a b : Expr}
      (hop : (t.kind, op) ∈ x.operators) (hxy : x.tighter? = some y)
      (left : Derives x ts a) (right : Derives y us b) :
      Derives x (ts ++ t :: us) (.binary op t.line a b)
  /-- An operand behind a sign. -/
  | sign {ts : List Token} {t : Token} {op : UnaryOp} {a : Expr}
      (hop : (t.kind, op) ∈ signs) (h : Derives .unary ts a) :
      Derives .unary (t :: ts) (.unary op t.line a)
  /-- An expression in parentheses. -/
  | group {ts : List Token} {l r : Token} {e : Expr}
      (hl : l.kind = .leftParen) (h : Derives .equality ts e) (hr : r.kind = .rightParen) :
      Derives .primary (l :: (ts ++ [r])) e
  /-- A number. -/
  | number {t : Token} (h : t.kind = .number) :
      Derives .primary [t] (.literal (.number (Number.nearest t.lexeme)) t.line)
  /-- A truth value. -/
  | truth {t : Token} (h : t.kind = .keyword .trueWord) :
      Derives .primary [t] (.literal (.boolean true) t.line)
  /-- The other truth value. -/
  | falsity {t : Token} (h : t.kind = .keyword .falseWord) :
      Derives .primary [t] (.literal (.boolean false) t.line)
  /-- The absence of a value. -/
  | nothing {t : Token} (h : t.kind = .keyword .nilWord) :
      Derives .primary [t] (.literal .nil t.line)

/-! ### Levels by number -/

namespace Level

/-- The number of a level. The operators of a level have it as their binding
strength. -/
def rank : Level → Nat
  | equality => 1
  | comparison => 2
  | term => 3
  | factor => 4
  | unary => 5
  | primary => 6

lemma rank_pos (x : Level) : 0 < x.rank := by
  cases x <;> decide

/-- The operands of a level are one level tighter. -/
lemma rank_of_tighter? {x y : Level} (h : x.tighter? = some y) : y.rank = x.rank + 1 := by
  cases x <;> cases h <;> rfl

/-- An operator of a level is the one that its token writes between operands,
with the level's number as its strength. -/
lemma ofKind?_of_mem_operators {x : Level} {k : Token.Kind} {op : BinaryOp}
    (h : (k, op) ∈ x.operators) : BinaryOp.ofKind? k = some op ∧ op.strength = x.rank := by
  have hall : ∀ p ∈ x.operators, BinaryOp.ofKind? p.1 = some p.2 ∧ p.2.strength = x.rank := by
    cases x <;> decide
  exact hall _ h

/-- Every operator between operands belongs to the level of its strength. -/
lemma exists_mem_operators {k : Token.Kind} {op : BinaryOp} (h : BinaryOp.ofKind? k = some op) :
    ∃ x y : Level, (k, op) ∈ x.operators ∧ x.tighter? = some y ∧ op.strength = x.rank := by
  simp only [BinaryOp.ofKind?] at h
  split at h <;> cases h
  · exact ⟨term, factor, by decide, rfl, rfl⟩
  · exact ⟨term, factor, by decide, rfl, rfl⟩
  · exact ⟨factor, unary, by decide, rfl, rfl⟩
  · exact ⟨factor, unary, by decide, rfl, rfl⟩
  · exact ⟨equality, comparison, by decide, rfl, rfl⟩
  · exact ⟨equality, comparison, by decide, rfl, rfl⟩
  all_goals exact ⟨comparison, term, by decide, rfl, rfl⟩

end Level

/-- The operators before an operand are those that their tokens write there. -/
lemma mem_signs_iff {k : Token.Kind} {op : UnaryOp} :
    (k, op) ∈ signs ↔ UnaryOp.ofKind? k = some op := by
  simp only [signs, List.mem_cons, Prod.mk.injEq, List.not_mem_nil, or_false]
  constructor
  · rintro (⟨rfl, rfl⟩ | ⟨rfl, rfl⟩) <;> rfl
  · intro h
    simp only [UnaryOp.ofKind?] at h
    split at h <;> cases h <;> simp

/-- A sentence of a tighter level is a sentence of a looser one. -/
lemma Derives.loosen {x y : Level} {ts : List Token} {e : Expr} (h : Derives y ts e)
    (hle : x.rank ≤ y.rank) : Derives x ts e := by
  obtain ⟨k, hk⟩ := Nat.exists_eq_add_of_le hle
  induction k generalizing x with
  | zero =>
      have hxy : x = y := by cases x <;> cases y <;> simp_all [Level.rank]
      rwa [hxy]
  | succ k ih =>
      obtain ⟨z, hz⟩ : ∃ z, x.tighter? = some z := by
        cases x <;> cases y <;> simp_all [Level.rank, Level.tighter?]
      have hrank := Level.rank_of_tighter? hz
      exact .operand hz (ih (by omega) (by omega))

end ExprMachine
