import ExprMachine.Proofs.Expr.Language
import ExprMachine.Proofs.Token.Contents

/-!
The parser does not see where tokens stand.

It looks at the kinds and the texts of tokens only, so it does the same before two
lists of tokens that agree in these: it reads one tree but for the lines, or meets
one fault at corresponding tokens, and leaves off at corresponding places. The two
lists may be related in any way that makes their tokens alike; which further
property of two tokens the relation carries is left to the user of these lemmas.

* `Expr.unplaced`: a tree without its lines, which the value of an expression does
  not depend on (`Expr.eval_unplaced`).
* `Parsed.Corresponds`: two parses that have come equally far. Each way to go on
  with a parse keeps it.
* `Expr.parse_climb_corresponds`: the parser keeps it, by the parser's own induction.
* `Expr.parseTokens_corresponds`: the same for whole texts.
* `Expr.parseTokens_alike`: a sentence is read wherever its tokens stand.
-/

namespace ExprMachine

namespace Expr

/-! ### Trees without lines -/

/-- An expression without the lines of its tokens. -/
def unplaced : Expr → Expr
  | literal v _ => literal v 0
  | unary op _ operand => unary op 0 operand.unplaced
  | binary op _ left right => binary op 0 left.unplaced right.unplaced

@[simp] lemma literals_unplaced (e : Expr) : e.unplaced.literals = e.literals := by
  induction e with
  | literal v line => rfl
  | unary op line a ih => exact ih
  | binary op line l r ihl ihr => rw [unplaced, literals, literals, ihl, ihr]

/-- An operator's answer does not depend on its line, but for the line of a failure. -/
lemma mapError_located (line line' : ℕ) (answer : Except Mismatch Value) :
    (located line answer).mapError Failure.mismatch =
      (located line' answer).mapError Failure.mismatch := by
  cases answer <;> rfl

/-- Nor does what is computed from two answers that agree. -/
lemma mapError_bind_congr {x y : Except Failure Value} {f g : Value → Except Failure Value}
    (hxy : x.mapError Failure.mismatch = y.mapError Failure.mismatch)
    (hfg : ∀ v, (f v).mapError Failure.mismatch = (g v).mapError Failure.mismatch) :
    (x >>= f).mapError Failure.mismatch = (y >>= g).mapError Failure.mismatch := by
  cases x with
  | error a =>
      cases y with
      | error b => exact congrArg Except.error (Except.error.inj hxy)
      | ok w => cases hxy
  | ok v =>
      cases y with
      | error b => cases hxy
      | ok w =>
          obtain rfl : v = w := Except.ok.inj hxy
          exact hfg v

/-- What an expression comes to does not depend on its lines, but for the line of a
failure. -/
lemma eval_unplaced (e : Expr) :
    e.unplaced.eval.mapError Failure.mismatch = e.eval.mapError Failure.mismatch := by
  induction e with
  | literal v line => rfl
  | unary op line a ih =>
      exact mapError_bind_congr ih fun v => mapError_located _ _ _
  | binary op line l r ihl ihr =>
      exact mapError_bind_congr ihl fun v => mapError_bind_congr ihr fun w =>
        mapError_located _ _ _

/-- Two trees that agree but for the lines come to one value, or to one mismatch. -/
lemma eval_of_unplaced_eq {e e' : Expr} (h : e.unplaced = e'.unplaced) :
    (∃ v, e.eval = .ok v ∧ e'.eval = .ok v) ∨
      ∃ m line line', e.eval = .error ⟨m, line⟩ ∧ e'.eval = .error ⟨m, line'⟩ := by
  have heval := e.eval_unplaced.symm
  rw [h, e'.eval_unplaced] at heval
  cases hv : e.eval with
  | ok v =>
      cases hv' : e'.eval with
      | ok v' =>
          rw [hv, hv'] at heval
          exact .inl ⟨v, rfl, congrArg Except.ok (Except.ok.inj heval).symm⟩
      | error f' =>
          rw [hv, hv'] at heval
          cases heval
  | error f =>
      cases hv' : e'.eval with
      | ok v' =>
          rw [hv, hv'] at heval
          cases heval
      | error f' =>
          obtain ⟨m, line⟩ := f
          obtain ⟨m', line'⟩ := f'
          rw [hv, hv'] at heval
          obtain rfl : m = m' := Except.error.inj heval
          exact .inr ⟨m, line, line', rfl, rfl⟩

end Expr

/-! ### Parses that have come equally far -/

namespace Parsed

variable {R : Token → Token → Prop}

/-- Two parses have read the same tree but for the lines, or have met the same fault
at related tokens. -/
inductive SameResult (R : Token → Token → Prop) : Except Fault Expr → Except Fault Expr → Prop
  | ok {e e' : Expr} (h : e.unplaced = e'.unplaced) : SameResult R (.ok e) (.ok e')
  | error {t t' a a' : Token} (message : String) (htoken : R t t') (hahead : R a a') :
      SameResult R (.error ⟨t, message, a⟩) (.error ⟨t', message, a'⟩)

/-- Two parses have come equally far. -/
structure Corresponds (R : Token → Token → Prop) (p p' : Parsed) : Prop where
  result : SameResult R p.result p'.result
  literals : p.literals = p'.literals
  rest : List.Forall₂ R p.rest p'.rest

variable {eof eof' t t' : Token} {n : ℕ} {ts ts' : List Token} {p p' q q' : Parsed}

/-- The next tokens are related. -/
lemma current_related (heof : R eof eof') (h : List.Forall₂ R ts ts') :
    R (current eof ts) (current eof' ts') := by
  cases h with
  | nil => exact heof
  | cons ht _ => exact ht

lemma corresponds_faultBefore (heof : R eof eof') (ht : R t t') (h : List.Forall₂ R ts ts')
    (message : String) :
    Corresponds R (faultBefore eof t message n ts) (faultBefore eof' t' message n ts') :=
  ⟨.error message ht (current_related heof h), rfl, h⟩

lemma corresponds_ofLiteral (heof : R eof eof') (ht : R t t') (h : List.Forall₂ R ts ts')
    (v : Except String Value) :
    Corresponds R (ofLiteral eof t v n ts) (ofLiteral eof' t' v n ts') := by
  cases v with
  | error message => exact corresponds_faultBefore heof ht h message
  | ok v =>
      rw [ofLiteral, ofLiteral]
      split_ifs
      · exact ⟨.ok rfl, rfl, h⟩
      · exact corresponds_faultBefore heof ht h _

/-- A fault that comes later does not count, where there is one already. -/
lemma SameResult.bind_error {a a' : Except Fault Expr} (h : SameResult R a a') (ht : R t t')
    (message : String) :
    SameResult R (a.bind fun _ => .error ⟨t, message, t⟩)
      (a'.bind fun _ => .error ⟨t', message, t'⟩) := by
  cases h with
  | ok _ => exact .error message ht ht
  | error message' htoken hahead => exact .error message' htoken hahead

variable (hR : ∀ t u, R t u → t.Alike u)
include hR

lemma Corresponds.closeParen (heof : R eof eof') (h : Corresponds R p p') :
    Corresponds R (closeParen eof p) (closeParen eof' p') := by
  obtain ⟨result, count, rest⟩ := p
  obtain ⟨result', count', rest'⟩ := p'
  obtain ⟨hresult, hcount, hrest⟩ := h
  cases hrest with
  | nil => exact ⟨hresult.bind_error heof _, hcount, .nil⟩
  | @cons t t' ts ts' ht hts =>
      simp only [Parsed.closeParen, ← (hR t t' ht).kind]
      split_ifs
      · exact ⟨hresult, hcount, hts⟩
      · exact ⟨hresult.bind_error ht _, hcount, .cons ht hts⟩

omit hR in
lemma Corresponds.applyUnary (op : UnaryOp) (line line' : ℕ) (h : Corresponds R p p') :
    Corresponds R (applyUnary op line p) (applyUnary op line' p') := by
  refine ⟨?_, h.literals, h.rest⟩
  obtain ⟨result, count, rest⟩ := p
  obtain ⟨result', count', rest'⟩ := p'
  cases h.result with
  | ok he => exact .ok (congrArg (Expr.unary op 0) he)
  | error message htoken hahead => exact .error message htoken hahead

omit hR in
lemma Corresponds.applyBinary (op : BinaryOp) (line line' : ℕ) (hl : Corresponds R p p')
    (hr : Corresponds R q q') :
    Corresponds R (applyBinary op line p q) (applyBinary op line' p' q') := by
  refine ⟨?_, hr.literals, hr.rest⟩
  obtain ⟨result, count, rest⟩ := p
  obtain ⟨result', count', rest'⟩ := p'
  cases hl.result with
  | error message htoken hahead => exact .error message htoken hahead
  | ok ha =>
      obtain ⟨result, count, rest⟩ := q
      obtain ⟨result', count', rest'⟩ := q'
      cases hr.result with
      | ok hb => exact .ok (congrArg₂ (Expr.binary op 0) ha hb)
      | error message htoken hahead => exact .error message htoken hahead

end Parsed

/-- The value of a literal token is told by its kind and its text. -/
lemma Token.Alike.literal?_eq {t u : Token} (h : t.Alike u) :
    Parsed.literal? t = Parsed.literal? u := by
  rw [Parsed.literal?, Parsed.literal?, h.kind, h.lexeme]

/-- Of related tokens, the same take part in the grammar. -/
lemma forall₂_filter_isSignificant {R : Token → Token → Prop} (hR : ∀ t u, R t u → t.Alike u)
    {ts us : List Token} (h : List.Forall₂ R ts us) :
    List.Forall₂ R (ts.filter Token.isSignificant) (us.filter Token.isSignificant) := by
  refine List.rel_filter (fun t u htu => ?_) h
  simp [Token.isSignificant, (hR t u htu).kind]

namespace Expr

open Parsed

variable {R : Token → Token → Prop} {eof eof' : Token} {level n : ℕ}

/-- Before related tokens, the loop stops at the same levels. -/
lemma stops_of_related (hR : ∀ t u, R t u → t.Alike u) {ts ts' : List Token}
    (h : List.Forall₂ R ts ts') (hstop : Stops level ts) : Stops level ts' := by
  cases h with
  | nil => exact hstop
  | cons ht _ =>
      rw [stops_cons_iff] at hstop ⊢
      rwa [← (hR _ _ ht).kind]

/-- The parser keeps two parses equally far, before related tokens. -/
lemma parse_climb_corresponds (hR : ∀ t u, R t u → t.Alike u) (heof : R eof eof') :
    (∀ level n ts, ∀ ts', List.Forall₂ R ts ts' →
        Corresponds R (parse eof level n ts).val (parse eof' level n ts').val) ∧
      ∀ level left, ∀ left', Corresponds R left left' →
        Corresponds R (climb eof level left).val (climb eof' level left').val := by
  refine parse_climb_induction eof
    (P := fun level n ts p => ∀ ts', List.Forall₂ R ts ts' →
      Corresponds R p (parse eof' level n ts').val)
    (C := fun level left p => ∀ left', Corresponds R left left' →
      Corresponds R p (climb eof' level left').val)
    ?_ ?_ ?_ ?_ ?_ ?_ ?_
  · -- no token is left
    intro level n ts' h
    obtain rfl := List.forall₂_nil_left_iff.mp h
    rw [parse]
    exact corresponds_faultBefore heof heof .nil _
  · -- an opening parenthesis
    intro level n t ts inner whole ht ih ihc ts' h
    obtain ⟨t', ts', hrel, hts, rfl⟩ := List.forall₂_cons_left_iff.mp h
    rw [parse_leftParen ((hR _ _ hrel).kind ▸ ht)]
    exact ihc _ ((ih ts' hts).closeParen hR heof)
  · -- a sign
    intro level n t ts op inner whole ht ih ihc ts' h
    obtain ⟨t', ts', hrel, hts, rfl⟩ := List.forall₂_cons_left_iff.mp h
    rw [parse_unary ((hR _ _ hrel).kind ▸ ht)]
    exact ihc _ ((ih ts' hts).applyUnary op _ _)
  · -- a literal
    intro level n t ts v whole hv ihc ts' h
    obtain ⟨t', ts', hrel, hts, rfl⟩ := List.forall₂_cons_left_iff.mp h
    rw [parse_literal ((hR _ _ hrel).literal?_eq ▸ hv)]
    exact ihc _ (corresponds_ofLiteral heof hrel hts v)
  · -- any other token
    intro level n t ts hp hu hl ts' h
    obtain ⟨t', ts', hrel, hts, rfl⟩ := List.forall₂_cons_left_iff.mp h
    have halike := hR _ _ hrel
    rw [parse_other (halike.kind ▸ hp) (halike.kind ▸ hu) (halike.literal?_eq ▸ hl)]
    exact corresponds_faultBefore heof hrel hts _
  · -- the loop stops
    intro level left hstop left' h
    rw [climb_of_stops (stops_of_related hR h.rest hstop)]
    exact h
  · -- the loop before an operator that is strong enough
    intro level result count t us op right whole hop hstrong ih ihc left' h
    obtain ⟨result', count', rest'⟩ := left'
    obtain ⟨t', us', hrel, hus, rfl⟩ := List.forall₂_cons_left_iff.mp h.rest
    obtain rfl : count = count' := h.literals
    rw [climb_of_le ((hR _ _ hrel).kind ▸ hop) hstrong]
    exact ihc _ (h.applyBinary op _ _ (ih us' hus))

/-- Two texts whose tokens are related are read equally far. -/
lemma parseTokens_corresponds (hR : ∀ t u, R t u → t.Alike u) (heof : R eof eof')
    {ts ts' : List Token} (h : List.Forall₂ R ts ts') :
    Corresponds R (parseTokens eof ts) (parseTokens eof' ts') := by
  have hparse := (parse_climb_corresponds hR heof).1 1 0 ts ts' h
  rw [parseTokens, parseTokens]
  generalize (parse eof 1 0 ts).val = p at hparse ⊢
  generalize (parse eof' 1 0 ts').val = p' at hparse ⊢
  obtain ⟨result, count, rest⟩ := p
  obtain ⟨result', count', rest'⟩ := p'
  obtain ⟨hresult, hcount, hrest⟩ := hparse
  cases hrest with
  | nil => exact ⟨hresult, hcount, .nil⟩
  | cons ht hts => exact ⟨hresult.bind_error ht _, hcount, .cons ht hts⟩

/-- A fault is found at one of the tokens that are read, or at the end token. -/
lemma token_of_parseTokens_error {S : Token → Prop} (heof : S eof) {ts : List Token}
    (hts : ∀ t ∈ ts, S t) {fault : Fault} (h : (parseTokens eof ts).result = .error fault) :
    S fault.token := by
  -- every token is related to itself only, and only if it is one of these
  have hself := parseTokens_corresponds (R := fun t u => t = u ∧ S t)
    (fun t u htu => ⟨htu.1 ▸ rfl, htu.1 ▸ rfl⟩) ⟨rfl, heof⟩
    (List.forall₂_same.mpr fun t ht => ⟨rfl, hts t ht⟩)
  have hresult := hself.result
  rw [h] at hresult
  cases hresult with
  | error message htoken _ => exact htoken.2

/-- A sentence within the bounds is one wherever its tokens stand, and its tree is the
same but for the lines. -/
lemma parseTokens_alike {ts ts' : List Token} {e : Expr} (h : List.Forall₂ Token.Alike ts ts')
    (hderives : Derives .equality ts e) (hcount : literalCount ts ≤ maxLiterals)
    (hrange : NumbersInRange ts) :
    ∃ e', Derives .equality ts' e' ∧ literalCount ts' ≤ maxLiterals ∧ NumbersInRange ts' ∧
      e.unplaced = e'.unplaced := by
  set eof : Token := default
  have heof : eof.Alike eof := ⟨rfl, rfl⟩
  have hresult := (parseTokens_corresponds (fun _ _ h => h) heof h).result
  rw [(parseTokens_eq_ok_iff eof).mpr ⟨hderives, hcount, hrange⟩] at hresult
  cases hok : (parseTokens eof ts').result with
  | error fault =>
      rw [hok] at hresult
      cases hresult
  | ok e' =>
      rw [hok] at hresult
      cases hresult with
      | ok he =>
          obtain ⟨hderives', hcount', hrange'⟩ := (parseTokens_eq_ok_iff eof).mp hok
          exact ⟨e', hderives', hcount', hrange', he⟩

end Expr

end ExprMachine
