import ExprMachine.Proofs.Expr.Grammar

/-!
The operator whose application fails.

* `Blames`: in a sentence, the token of the first operator that is not defined for its
  operands. The rules follow the grammar: an operand that comes to a value is passed, the
  first that does not has the token in it, and if both come to values it is the operator
  between them.
* `Derives.exists_blames`, `Blames.eval`: the value of a sentence fails exactly if there
  is such a token, for the same reason and on the line of that token.
* `Blames.mem`, `Blames.ofKind?`: it is a token of the sentence, and an operator.
-/

namespace ExprMachine

open ExprMachine.Expr

/-- `Blames x ts e t m`: in the sentence `ts` of the level `x` with the tree `e`, the
operator of the token `t` is the first that is not defined for its operands, for the
reason `m`. -/
inductive Blames : Level → List Token → Expr → Token → Mismatch → Prop
  /-- In a single operand of a level. -/
  | operand {x y : Level} {ts : List Token} {e : Expr} {t : Token} {m : Mismatch}
      (hxy : x.tighter? = some y) (h : Blames y ts e t m) : Blames x ts e t m
  /-- In the left operand. -/
  | left {x y : Level} {ts us : List Token} {t u : Token} {op : BinaryOp} {a b : Expr}
      {m : Mismatch} (hop : (t.kind, op) ∈ x.operators) (hxy : x.tighter? = some y)
      (left : Blames x ts a u m) (right : Derives y us b) :
      Blames x (ts ++ t :: us) (.binary op t.line a b) u m
  /-- In the right operand, behind a left one that comes to a value. -/
  | right {x y : Level} {ts us : List Token} {t u : Token} {op : BinaryOp} {a b : Expr}
      {v : Value} {m : Mismatch} (hop : (t.kind, op) ∈ x.operators)
      (hxy : x.tighter? = some y) (left : Derives x ts a) (hv : a.eval = .ok v)
      (right : Blames y us b u m) : Blames x (ts ++ t :: us) (.binary op t.line a b) u m
  /-- Between operands that come to values. -/
  | between {x y : Level} {ts us : List Token} {t : Token} {op : BinaryOp} {a b : Expr}
      {v w : Value} {m : Mismatch} (hop : (t.kind, op) ∈ x.operators)
      (hxy : x.tighter? = some y) (left : Derives x ts a) (right : Derives y us b)
      (hv : a.eval = .ok v) (hw : b.eval = .ok w) (hm : op.apply v w = .error m) :
      Blames x (ts ++ t :: us) (.binary op t.line a b) t m
  /-- Behind a sign. -/
  | behind {ts : List Token} {t u : Token} {op : UnaryOp} {a : Expr} {m : Mismatch}
      (hop : (t.kind, op) ∈ signs) (h : Blames .unary ts a u m) :
      Blames .unary (t :: ts) (.unary op t.line a) u m
  /-- The sign before an operand that comes to a value. -/
  | sign {ts : List Token} {t : Token} {op : UnaryOp} {a : Expr} {v : Value} {m : Mismatch}
      (hop : (t.kind, op) ∈ signs) (h : Derives .unary ts a) (hv : a.eval = .ok v)
      (hm : op.apply v = .error m) : Blames .unary (t :: ts) (.unary op t.line a) t m
  /-- In parentheses. -/
  | group {ts : List Token} {l r t : Token} {e : Expr} {m : Mismatch}
      (hl : l.kind = .leftParen) (h : Blames .equality ts e t m) (hr : r.kind = .rightParen) :
      Blames .primary (l :: (ts ++ [r])) e t m

/-! ### Failures of operators -/

namespace Expr

variable {a b : Expr} {v w : Value}

lemma eval_unary_of_ok (op : UnaryOp) (line : ℕ) (hv : a.eval = .ok v) :
    (unary op line a).eval = located line (op.apply v) := by
  rw [eval, hv]
  rfl

lemma eval_binary_of_ok (op : BinaryOp) (line : ℕ) (hv : a.eval = .ok v) (hw : b.eval = .ok w) :
    (binary op line a b).eval = located line (op.apply v w) := by
  rw [eval, hv, hw]
  rfl

lemma located_eq_error {line : ℕ} {answer : Except Mismatch Value} {f : Failure}
    (h : located line answer = .error f) : answer = .error f.mismatch ∧ line = f.line := by
  cases answer with
  | ok v => cases h
  | error m =>
      obtain rfl := Except.error.inj h
      exact ⟨rfl, rfl⟩

end Expr

variable {x : Level} {ts : List Token} {e : Expr} {t : Token} {m : Mismatch}

/-- A sentence with such a token fails for its reason, on its line. -/
lemma Blames.eval (h : Blames x ts e t m) : e.eval = .error ⟨m, t.line⟩ := by
  induction h with
  | operand _ _ ih => exact ih
  | left _ _ _ _ ih =>
      rw [Expr.eval, ih]
      rfl
  | right _ _ _ hv _ ih =>
      rw [Expr.eval, hv, ih]
      rfl
  | between _ _ _ _ hv hw hm =>
      rw [eval_binary_of_ok _ _ hv hw, hm]
      rfl
  | behind _ _ ih =>
      rw [Expr.eval, ih]
      rfl
  | sign _ _ hv hm =>
      rw [eval_unary_of_ok _ _ hv, hm]
      rfl
  | group _ _ _ ih => exact ih

/-- A sentence that fails has such a token. -/
lemma Derives.exists_blames (h : Derives x ts e) {f : Failure} (hf : e.eval = .error f) :
    ∃ t, Blames x ts e t f.mismatch ∧ t.line = f.line := by
  induction h with
  | operand hxy _ ih =>
      obtain ⟨t, ht, hline⟩ := ih hf
      exact ⟨t, .operand hxy ht, hline⟩
  | @chain x y ts us t op a b hop hxy left right ihl ihr =>
      cases hv : a.eval with
      | error g =>
          rw [Expr.eval, hv] at hf
          obtain rfl : g = f := Except.error.inj hf
          obtain ⟨u, hu, hline⟩ := ihl hv
          exact ⟨u, .left hop hxy hu right, hline⟩
      | ok v =>
          cases hw : b.eval with
          | error g =>
              rw [Expr.eval, hv, hw] at hf
              obtain rfl : g = f := Except.error.inj hf
              obtain ⟨u, hu, hline⟩ := ihr hw
              exact ⟨u, .right hop hxy left hv hu, hline⟩
          | ok w =>
              rw [eval_binary_of_ok _ _ hv hw] at hf
              obtain ⟨hm, hline⟩ := located_eq_error hf
              exact ⟨t, .between hop hxy left right hv hw hm, hline⟩
  | @sign ts t op a hop h ih =>
      cases hv : a.eval with
      | error g =>
          rw [Expr.eval, hv] at hf
          obtain rfl : g = f := Except.error.inj hf
          obtain ⟨u, hu, hline⟩ := ih hv
          exact ⟨u, .behind hop hu, hline⟩
      | ok v =>
          rw [eval_unary_of_ok _ _ hv] at hf
          obtain ⟨hm, hline⟩ := located_eq_error hf
          exact ⟨t, .sign hop h hv hm, hline⟩
  | group hl _ hr ih =>
      obtain ⟨t, ht, hline⟩ := ih hf
      exact ⟨t, .group hl ht hr, hline⟩
  | number _ => cases hf
  | truth _ => cases hf
  | falsity _ => cases hf
  | nothing _ => cases hf

/-! ### The token that is blamed -/

/-- It is one of the sentence. -/
lemma Blames.mem (h : Blames x ts e t m) : t ∈ ts := by
  induction h with
  | operand _ _ ih => exact ih
  | left _ _ _ _ ih => exact List.mem_append_left _ ih
  | right _ _ _ _ _ ih => exact List.mem_append_right _ (List.mem_cons_of_mem _ ih)
  | between _ _ _ _ _ _ _ => exact List.mem_append_right _ List.mem_cons_self
  | behind _ _ ih => exact List.mem_cons_of_mem _ ih
  | sign _ _ _ _ => exact List.mem_cons_self
  | group _ _ _ ih => exact List.mem_cons_of_mem _ (List.mem_append_left _ ih)

/-- It is an operator. -/
lemma Blames.ofKind? (h : Blames x ts e t m) :
    (∃ op, BinaryOp.ofKind? t.kind = some op) ∨ ∃ op, UnaryOp.ofKind? t.kind = some op := by
  induction h with
  | operand _ _ ih => exact ih
  | left _ _ _ _ ih => exact ih
  | right _ _ _ _ _ ih => exact ih
  | between hop _ _ _ _ _ _ => exact .inl ⟨_, (Level.ofKind?_of_mem_operators hop).1⟩
  | behind _ _ ih => exact ih
  | sign hop _ _ _ => exact .inr ⟨_, mem_signs_iff.mp hop⟩
  | group _ _ _ ih => exact ih

end ExprMachine
