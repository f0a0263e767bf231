import ExprMachine.Proofs.Expr.Grammar

/-!
Climbing by binding strength reads exactly the grammar.

The parser is given a strength and reads an operand and all operators at least
as strong. Two statements, each with a reading of the tokens that are left
over, tie it to the grammar.

* `Stops`: the next token is no operator of a given strength or more, which is
  how a parse of that strength ends.
* `Expr.parse_climb_induction`: what holds of the parser and of its loop, case by case.
* `Expr.parse_complete`: on a sentence of a level, the parser comes to the
  point where it has read the tree of the sentence and goes on behind it. The
  induction is on the derivation; what makes it go through is that the parser
  may have been asked for a looser level than that of the sentence.
* `Expr.parse_sound`: what the parser reads without a fault is a sentence of
  the level asked for. The induction is the parser's own; the invariant of its
  loop is that the operand read so far has a level no looser than the operator
  that follows it (`Expr.parse_climb_sound`).
-/

namespace ExprMachine

/-- The tokens do not begin with an operator of strength `level` or more. -/
def Stops (level : ℕ) (ts : List Token) : Prop :=
  ∀ t ∈ ts.head?, ∀ op, BinaryOp.ofKind? t.kind = some op → op.strength < level

/-- The strongest operators have the strength of factors. -/
lemma BinaryOp.strength_lt_five (op : BinaryOp) : op.strength < 5 := by
  cases op <;> decide

lemma stops_nil (level : ℕ) : Stops level [] := by
  simp [Stops]

lemma stops_cons_iff {level : ℕ} {t : Token} {ts : List Token} :
    Stops level (t :: ts) ↔ ∀ op, BinaryOp.ofKind? t.kind = some op → op.strength < level := by
  simp [Stops]

/-- A parse that stops before operators of some strength stops before all
stronger ones. -/
lemma Stops.mono {level level' : ℕ} {ts : List Token} (h : Stops level ts)
    (hle : level ≤ level') : Stops level' ts :=
  fun t ht op hop => (h t ht op hop).trans_le hle

/-- No operator is as strong as a sign. -/
lemma stops_of_five_le {level : ℕ} (h : 5 ≤ level) (ts : List Token) : Stops level ts :=
  fun _ _ op _ => op.strength_lt_five.trans_le h

namespace Expr

open Parsed

variable {eof : Token} {level n : ℕ}

/-! ### The two halves of the parser, step by step -/

/-- Before a token that stops it, the loop is over. -/
lemma climb_of_stops {left : Parsed} (h : Stops level left.rest) :
    (climb eof level left).val = left := by
  obtain ⟨result, count, rest⟩ := left
  cases rest with
  | nil => rw [climb]
  | cons t ts =>
      rw [stops_cons_iff] at h
      rw [climb]
      cases hop : BinaryOp.ofKind? t.kind with
      | none => simp only [hop]
      | some op =>
          have hlt := Nat.not_le.mpr (h op hop)
          simp only [hop, hlt, if_false]

/-- Before an operator that is strong enough, the loop reads its right operand
and goes on. -/
lemma climb_of_le {result : Except Fault Expr} {t : Token} {ts : List Token} {op : BinaryOp}
    (hop : BinaryOp.ofKind? t.kind = some op) (hle : level ≤ op.strength) :
    (climb eof level ⟨result, n, t :: ts⟩).val =
      (climb eof level (applyBinary op t.line ⟨result, n, t :: ts⟩
        (parse eof (op.strength + 1) n ts).val)).val := by
  conv_lhs => rw [climb]
  simp only [hop, hle, if_true]

lemma parse_leftParen {t : Token} {ts : List Token} (h : t.kind = .leftParen) :
    (parse eof level n (t :: ts)).val =
      (climb eof level (closeParen eof (parse eof 1 n ts).val)).val := by
  rw [parse, if_pos h]

lemma parse_unary {t : Token} {ts : List Token} {op : UnaryOp}
    (h : UnaryOp.ofKind? t.kind = some op) :
    (parse eof level n (t :: ts)).val =
      (climb eof level (applyUnary op t.line (parse eof 5 n ts).val)).val := by
  have hne : t.kind ≠ .leftParen := by
    intro hk
    rw [hk] at h
    cases h
  rw [parse, if_neg hne]
  split
  · rename_i op' hop'
    obtain rfl := Option.some.inj (h.symm.trans hop')
    rfl
  · rename_i hnone
    rw [h] at hnone
    cases hnone

lemma parse_literal {t : Token} {ts : List Token} {v : Except String Value}
    (h : literal? t = some v) :
    (parse eof level n (t :: ts)).val = (climb eof level (ofLiteral eof t v n ts)).val := by
  have hp : t.kind ≠ .leftParen := by
    intro hk
    simp [literal?, hk] at h
  have hu : UnaryOp.ofKind? t.kind = none := by
    simp only [UnaryOp.ofKind?]
    split <;> simp_all [literal?]
  rw [parse, if_neg hp]
  split
  · rename_i op hop
    rw [hu] at hop
    cases hop
  · split
    · rename_i v' hv
      obtain rfl := Option.some.inj (h.symm.trans hv)
      rfl
    · rename_i hnone
      rw [h] at hnone
      cases hnone

lemma parse_other {t : Token} {ts : List Token} (hp : t.kind ≠ .leftParen)
    (hu : UnaryOp.ofKind? t.kind = none) (hl : literal? t = none) :
    (parse eof level n (t :: ts)).val = faultBefore eof t "expect expression" n ts := by
  rw [parse, if_neg hp]
  split
  · rename_i op hop
    rw [hu] at hop
    cases hop
  · split
    · rename_i v hv
      rw [hl] at hv
      cases hv
    · rfl

lemma closeParen_rightParen {result : Except Fault Expr} {r : Token} {ts : List Token}
    (h : r.kind = .rightParen) : closeParen eof ⟨result, n, r :: ts⟩ = ⟨result, n, ts⟩ := by
  rw [closeParen]
  exact if_pos h

/-- Induction over a parse. A property of operands with the operators behind them, and one
of what the loop makes of the operand that it was given, hold of the parser if each way
to read on keeps them; the loop stops in one way only. -/
lemma parse_climb_induction (eof : Token) {P : ℕ → ℕ → List Token → Parsed → Prop}
    {C : ℕ → Parsed → Parsed → Prop}
    (atEnd : ∀ level n, P level n [] (faultBefore eof eof "expect expression" n []))
    (group : ∀ level n t ts inner whole, t.kind = .leftParen → P 1 n ts inner →
      C level (closeParen eof inner) whole → P level n (t :: ts) whole)
    (sign : ∀ level n t ts op inner whole, UnaryOp.ofKind? t.kind = some op → P 5 n ts inner →
      C level (applyUnary op t.line inner) whole → P level n (t :: ts) whole)
    (literal : ∀ level n t ts v whole, literal? t = some v →
      C level (ofLiteral eof t v n ts) whole → P level n (t :: ts) whole)
    (other : ∀ level n t ts, t.kind ≠ .leftParen → UnaryOp.ofKind? t.kind = none →
      literal? t = none → P level n (t :: ts) (faultBefore eof t "expect expression" n ts))
    (stop : ∀ level left, Stops level left.rest → C level left left)
    (operator : ∀ level result n t ts op right whole, BinaryOp.ofKind? t.kind = some op →
      level ≤ op.strength → P (op.strength + 1) n ts right →
      C level (applyBinary op t.line ⟨result, n, t :: ts⟩ right) whole →
      C level ⟨result, n, t :: ts⟩ whole) :
    (∀ level n ts, P level n ts (parse eof level n ts).val) ∧
      ∀ level left, C level left (climb eof level left).val := by
  have hstop : ∀ level (left : Parsed), Stops level left.rest →
      C level left (climb eof level left).val := by
    intro level left h
    rw [climb_of_stops h]
    exact stop level left h
  refine parse.mutual_induct eof (fun level n ts => P level n ts (parse eof level n ts).val)
    (fun level left => C level left (climb eof level left).val) ?_ ?_ ?_ ?_ ?_ ?_ ?_ ?_ ?_
  · -- no token is left
    intro level n
    rw [parse]
    exact atEnd level n
  · -- an opening parenthesis
    intro level n t ts ht _ _ ih _ ihc
    rw [parse_leftParen ht]
    exact group level n t ts _ _ ht ih ihc
  · -- a sign
    intro level n t ts _ op ht _ ih _ ihc
    rw [parse_unary ht]
    exact sign level n t ts op _ _ ht ih ihc
  · -- a literal
    intro level n t ts _ _ v hv ihc
    rw [parse_literal hv]
    exact literal level n t ts v _ hv ihc
  · -- any other token
    intro level n t ts hp hu hl
    rw [parse_other hp hu hl]
    exact other level n t ts hp hu hl
  · -- the loop at the end of the tokens
    intro level left hrest
    refine hstop level left ?_
    rw [hrest]
    exact stops_nil level
  · -- the loop before a token that is no operator
    intro level left t us hrest hop
    refine hstop level left ?_
    rw [hrest, stops_cons_iff]
    simp [hop]
  · -- the loop before an operator that is strong enough
    intro level left t us hrest op hop hstrong _ ih _ ihc
    obtain ⟨result, count, rest⟩ := left
    obtain rfl : rest = t :: us := hrest
    rw [climb_of_le hop hstrong]
    exact operator level result count t us op _ _ hop hstrong ih ihc
  · -- the loop before an operator that is too weak
    intro level left t us hrest op hop hweak
    refine hstop level left ?_
    rw [hrest, stops_cons_iff]
    intro op' hop'
    obtain rfl := Option.some.inj (hop.symm.trans hop')
    exact Nat.lt_of_not_le hweak

/-! ### Literals -/

/-- The number of literals among some tokens. -/
def literalCount (ts : List Token) : ℕ :=
  ts.countP Token.isLiteral

@[simp] lemma literalCount_nil : literalCount [] = 0 := rfl

@[simp] lemma literalCount_append (ts us : List Token) :
    literalCount (ts ++ us) = literalCount ts + literalCount us :=
  List.countP_append

/-- A token in front that is no literal does not count. -/
lemma literalCount_cons_of_not {t : Token} (h : t.isLiteral = false) (ts : List Token) :
    literalCount (t :: ts) = literalCount ts := by
  simp [literalCount, h]

lemma literalCount_singleton {t : Token} (h : t.isLiteral = true) : literalCount [t] = 1 := by
  simp [literalCount, h]

/-- An operator between operands is no literal. -/
lemma isLiteral_of_binary {t : Token} {op : BinaryOp} (h : BinaryOp.ofKind? t.kind = some op) :
    t.isLiteral = false := by
  simp only [BinaryOp.ofKind?] at h
  split at h <;> simp_all [Token.isLiteral]

/-- A sign is no literal. -/
lemma isLiteral_of_unary {t : Token} {op : UnaryOp} (h : UnaryOp.ofKind? t.kind = some op) :
    t.isLiteral = false := by
  simp only [UnaryOp.ofKind?] at h
  split at h <;> simp_all [Token.isLiteral]

/-- All numbers among some tokens are in range. -/
def NumbersInRange (ts : List Token) : Prop :=
  ∀ t ∈ ts, t.kind = .number → Number.InRange t.lexeme

lemma numbersInRange_append {ts us : List Token} :
    NumbersInRange (ts ++ us) ↔ NumbersInRange ts ∧ NumbersInRange us := by
  simp only [NumbersInRange, List.mem_append]
  constructor
  · exact fun h => ⟨fun t ht => h t (.inl ht), fun t ht => h t (.inr ht)⟩
  · rintro ⟨hl, hr⟩ t (ht | ht)
    · exact hl t ht
    · exact hr t ht

lemma numbersInRange_cons {t : Token} {ts : List Token} :
    NumbersInRange (t :: ts) ↔ (t.kind = .number → Number.InRange t.lexeme) ∧ NumbersInRange ts := by
  simp [NumbersInRange]

lemma numbersInRange_cons_of_ne {t : Token} {ts : List Token} (h : t.kind ≠ .number) :
    NumbersInRange (t :: ts) ↔ NumbersInRange ts := by
  simp [numbersInRange_cons, h]

/-- A number in range is read as the double nearest to it. -/
lemma literal?_number {t : Token} (h : t.kind = .number) (hrange : Number.InRange t.lexeme) :
    literal? t = some (.ok (.number (Number.nearest t.lexeme))) := by
  simp [literal?, h, Number.ofLiteral?_of_inRange hrange]

/-- A token that is read as a value is a literal with that value, and in range
if it is a number. -/
lemma derives_of_literal? {t : Token} {v : Value} (h : literal? t = some (.ok v)) :
    Derives .primary [t] (.literal v t.line) ∧ t.isLiteral = true ∧ NumbersInRange [t] := by
  rw [literal?] at h
  split at h
  · rename_i hk
    by_cases hrange : Number.InRange t.lexeme
    · rw [Number.ofLiteral?_of_inRange hrange] at h
      obtain rfl : Value.number (Number.nearest t.lexeme) = v := by simpa using h
      exact ⟨.number hk, by simp [Token.isLiteral, hk], by simp [NumbersInRange, hrange]⟩
    · rw [Number.ofLiteral?_of_not_inRange hrange] at h
      simp at h
  · rename_i hk
    obtain rfl : Value.boolean true = v := by simpa using h
    exact ⟨.truth hk, by simp [Token.isLiteral, hk], by simp [NumbersInRange, hk]⟩
  · rename_i hk
    obtain rfl : Value.boolean false = v := by simpa using h
    exact ⟨.falsity hk, by simp [Token.isLiteral, hk], by simp [NumbersInRange, hk]⟩
  · rename_i hk
    obtain rfl : Value.nil = v := by simpa using h
    exact ⟨.nothing hk, by simp [Token.isLiteral, hk], by simp [NumbersInRange, hk]⟩
  · simp at h

/-! ### Every sentence is read -/

/-- A literal that is not one too many is read as an operand. -/
lemma parse_literal_ok {t : Token} {rest : List Token} {v : Value}
    (h : literal? t = some (.ok v)) (hcount : n + literalCount [t] ≤ maxLiterals) :
    (parse eof level n ([t] ++ rest)).val =
      (climb eof level ⟨.ok (.literal v t.line), n + literalCount [t], rest⟩).val := by
  rw [literalCount_singleton (derives_of_literal? h).2.1] at hcount ⊢
  rw [List.singleton_append, parse_literal h, ofLiteral, if_pos (Nat.lt_of_succ_le hcount)]

/-- On a sentence of a level no looser than the one asked for, the parser comes
to the point where it has read the tree of the sentence and goes on behind it. -/
lemma parse_complete (eof : Token) {x : Level} {ts : List Token} {e : Expr} (h : Derives x ts e) :
    ∀ {level n : ℕ} {rest : List Token}, level ≤ x.rank → Stops (x.rank + 1) rest →
      NumbersInRange ts → n + literalCount ts ≤ maxLiterals →
      (parse eof level n (ts ++ rest)).val =
        (climb eof level ⟨.ok e, n + literalCount ts, rest⟩).val := by
  induction h with
  | operand hxy _ ih =>
      intro level n rest hle hstop hrange hcount
      have hrank := Level.rank_of_tighter? hxy
      exact ih (by omega) (hstop.mono (by omega)) hrange hcount
  | @chain x y ts us t op a b hop hxy _ _ ihl ihr =>
      intro level n rest hle hstop hrange hcount
      obtain ⟨hkind, hstrength⟩ := Level.ofKind?_of_mem_operators hop
      have hrank := Level.rank_of_tighter? hxy
      obtain ⟨hrangel, hranger⟩ := numbersInRange_append.mp hrange
      rw [literalCount_append, literalCount_cons_of_not (isLiteral_of_binary hkind)] at hcount ⊢
      -- the left operand is read first, since the operator is no stronger than its level
      have hstopl : Stops (x.rank + 1) (t :: us ++ rest) := by
        rw [List.cons_append, stops_cons_iff]
        intro op' hop'
        obtain rfl := Option.some.inj (hkind.symm.trans hop')
        omega
      have hleft := ihl hle hstopl hrangel (by omega : n + literalCount ts ≤ maxLiterals)
      -- then the right one, behind which its own loop stops
      have hright : (parse eof (op.strength + 1) (n + literalCount ts) (us ++ rest)).val =
          ⟨.ok b, n + literalCount ts + literalCount us, rest⟩ := by
        have hle' : op.strength + 1 ≤ y.rank := by omega
        rw [ihr hle' (hstop.mono (by omega)) (numbersInRange_cons.mp hranger).2 (by omega)]
        exact climb_of_stops (hstop.mono (by omega))
      rw [List.append_assoc, hleft, List.cons_append, climb_of_le hkind (by omega), hright,
        Nat.add_assoc]
      rfl
  | @sign ts t op a hop _ ih =>
      intro level n rest hle hstop hrange hcount
      have hkind := mem_signs_iff.mp hop
      rw [literalCount_cons_of_not (isLiteral_of_unary hkind)] at hcount ⊢
      have hinner : (parse eof 5 n (ts ++ rest)).val = ⟨.ok a, n + literalCount ts, rest⟩ :=
        (ih le_rfl hstop (numbersInRange_cons.mp hrange).2 hcount).trans
          (climb_of_stops (stops_of_five_le le_rfl _))
      rw [List.cons_append, parse_unary hkind, hinner]
      rfl
  | @group ts l r e hl _ hr ih =>
      intro level n rest hle hstop hrange hcount
      have hlitl : l.isLiteral = false := by simp [Token.isLiteral, hl]
      have hlitr : r.isLiteral = false := by simp [Token.isLiteral, hr]
      rw [literalCount_cons_of_not hlitl, literalCount_append,
        literalCount_cons_of_not hlitr, literalCount_nil, Nat.add_zero] at hcount ⊢
      -- the closing parenthesis is no operator, so the inside ends before it
      have hstopr : ∀ k, Stops k (r :: rest) := by
        intro k
        simp [stops_cons_iff, hr, BinaryOp.ofKind?]
      have hinner : (parse eof 1 n (ts ++ r :: rest)).val =
          ⟨.ok e, n + literalCount ts, r :: rest⟩ :=
        (ih le_rfl (hstopr _) (numbersInRange_append.mp (numbersInRange_cons.mp hrange).2).1
          hcount).trans (climb_of_stops (hstopr _))
      rw [List.cons_append, List.append_assoc, List.singleton_append, parse_leftParen hl, hinner,
        closeParen_rightParen hr]
  | number h =>
      intro level n rest _ _ hrange hcount
      exact parse_literal_ok
        (literal?_number h ((numbersInRange_cons.mp hrange).1 h)) hcount
  | truth h =>
      intro level n rest _ _ _ hcount
      exact parse_literal_ok (by simp [literal?, h]) hcount
  | falsity h =>
      intro level n rest _ _ _ hcount
      exact parse_literal_ok (by simp [literal?, h]) hcount
  | nothing h =>
      intro level n rest _ _ _ hcount
      exact parse_literal_ok (by simp [literal?, h]) hcount

/-! ### Only sentences are read -/

/-- `HasRead n ts p x e`: the parse `p`, begun before the tokens `ts` when `n`
literals had been read, has read a sentence of the level `x` with the tree `e`. -/
structure HasRead (n : ℕ) (ts : List Token) (p : Parsed) (x : Level) (e : Expr) : Prop where
  /-- No fault was met. -/
  result_eq : p.result = .ok e
  /-- What is not left over is the sentence. -/
  sentence : ∃ us, ts = us ++ p.rest ∧ Derives x us e ∧ p.literals = n + literalCount us ∧
    NumbersInRange us
  /-- There are not too many literals. -/
  bounded : p.literals ≤ maxLiterals

/-- A parse of some strength that ends without a fault has read a sentence of a
level at least as tight, and stopped before what is not part of it. -/
def ReadsLevel (level n : ℕ) (ts : List Token) (p : Parsed) : Prop :=
  ∀ e, p.result = .ok e → (∃ x : Level, level ≤ x.rank ∧ HasRead n ts p x e) ∧ Stops level p.rest

lemma hasRead_literal {t : Token} {ts : List Token} {v : Except String Value} {e : Expr}
    (hv : literal? t = some v) (h : (ofLiteral eof t v n ts).result = .ok e) :
    HasRead n (t :: ts) (ofLiteral eof t v n ts) .primary e := by
  cases v with
  | error message => simp [ofLiteral, faultBefore] at h
  | ok v =>
      obtain ⟨hderives, hlit, hrange⟩ := derives_of_literal? hv
      rw [ofLiteral] at h ⊢
      split_ifs at h ⊢ with hn
      · obtain rfl : Expr.literal v t.line = e := by simpa using h
        exact ⟨rfl, ⟨[t], rfl, hderives, by rw [literalCount_singleton hlit], hrange⟩, hn⟩
      · simp [faultBefore] at h

lemma hasRead_group {t : Token} {ts : List Token} {inner : Parsed} {e : Expr}
    (ht : t.kind = .leftParen) (hinner : ReadsLevel 1 n ts inner)
    (h : (closeParen eof inner).result = .ok e) :
    HasRead n (t :: ts) (closeParen eof inner) .primary e := by
  obtain ⟨result, count, rest⟩ := inner
  cases rest with
  | nil => cases result <;> simp [closeParen, closeParen.unclosed, Except.bind] at h
  | cons r rest =>
      by_cases hr : r.kind = .rightParen
      · rw [closeParen_rightParen hr] at h ⊢
        obtain ⟨⟨x, -, -, ⟨us, hts, hderives, hcount, hrange⟩, hbound⟩, -⟩ := hinner e h
        have hlitl : t.isLiteral = false := by simp [Token.isLiteral, ht]
        have hlitr : r.isLiteral = false := by simp [Token.isLiteral, hr]
        refine ⟨h, ⟨t :: (us ++ [r]), by simp [hts], ?_, ?_, ?_⟩, hbound⟩
        · exact .group ht (hderives.loosen x.rank_pos) hr
        · rw [literalCount_cons_of_not hlitl, literalCount_append, literalCount_cons_of_not hlitr,
            literalCount_nil, Nat.add_zero]
          exact hcount
        · rw [numbersInRange_cons_of_ne (by simp [ht]), numbersInRange_append,
            numbersInRange_cons_of_ne (by simp [hr])]
          exact ⟨hrange, by simp [NumbersInRange]⟩
      · cases result <;> simp [closeParen, closeParen.unclosed, Except.bind, hr] at h

lemma hasRead_sign {t : Token} {ts : List Token} {inner : Parsed} {op : UnaryOp} {e : Expr}
    (ht : UnaryOp.ofKind? t.kind = some op) (hinner : ReadsLevel 5 n ts inner)
    (h : (applyUnary op t.line inner).result = .ok e) :
    HasRead n (t :: ts) (applyUnary op t.line inner) .unary e := by
  obtain ⟨result, count, rest⟩ := inner
  cases result with
  | error fault => simp [applyUnary, Except.map] at h
  | ok a =>
      obtain rfl : Expr.unary op t.line a = e := by simpa [applyUnary, Except.map] using h
      obtain ⟨⟨x, hx, -, ⟨us, hts, hderives, hcount, hrange⟩, hbound⟩, -⟩ := hinner a rfl
      refine ⟨h, ⟨t :: us, by simp [hts, applyUnary], ?_, ?_, ?_⟩, hbound⟩
      · exact .sign (mem_signs_iff.mpr ht) (hderives.loosen hx)
      · rw [literalCount_cons_of_not (isLiteral_of_unary ht)]
        exact hcount
      · refine (numbersInRange_cons_of_ne fun hk => ?_).mpr hrange
        rw [hk] at ht
        cases ht

lemma HasRead.chain {t : Token} {ts us : List Token} {left right : Parsed} {op : BinaryOp}
    {x y z : Level} {a b : Expr} (hleft : HasRead n ts left x a) (hrest : left.rest = t :: us)
    (hop : (t.kind, op) ∈ y.operators) (hyz : y.tighter? = some z) (hx : y.rank ≤ x.rank)
    (hright : HasRead left.literals us right z b) :
    HasRead n ts (applyBinary op t.line left right) y (.binary op t.line a b) := by
  obtain ⟨hresult, ⟨vs, hts, hderives, hcount, hrange⟩, -⟩ := hleft
  obtain ⟨hresult', ⟨ws, hus, hderives', hcount', hrange'⟩, hbound⟩ := hright
  have hkind := (Level.ofKind?_of_mem_operators hop).1
  refine ⟨by simp [applyBinary, hresult, hresult', Except.bind, Except.map],
    ⟨vs ++ t :: ws, ?_, ?_, ?_, ?_⟩, hbound⟩
  · rw [hts, hrest, hus]
    simp [applyBinary]
  · exact .chain hop hyz (hderives.loosen hx) hderives'
  · rw [literalCount_append, literalCount_cons_of_not (isLiteral_of_binary hkind)]
    rw [hcount, Nat.add_assoc] at hcount'
    exact hcount'
  · refine numbersInRange_append.mpr ⟨hrange, (numbersInRange_cons_of_ne fun hk => ?_).mpr hrange'⟩
    rw [hk] at hkind
    cases hkind

/-- An operator between two operands that comes to no fault has found none in them. -/
lemma exists_ok_of_applyBinary_ok {op : BinaryOp} {line : ℕ} {left right : Parsed} {e : Expr}
    (h : (applyBinary op line left right).result = .ok e) :
    ∃ a b, left.result = .ok a ∧ right.result = .ok b := by
  cases hleft : left.result with
  | error fault => simp [applyBinary, hleft, Except.bind] at h
  | ok a =>
      cases hright : right.result with
      | error fault => simp [applyBinary, hleft, hright, Except.bind, Except.map] at h
      | ok b => exact ⟨a, b, rfl, rfl⟩

/-- Where the loop stops, the operand that it was given is what has been read. -/
lemma HasRead.stop {ts : List Token} {left : Parsed} {x : Level} {a : Expr}
    (h : HasRead n ts left x a) (hx : level ≤ x.rank) (hstop : Stops level left.rest) :
    ReadsLevel level n ts left := by
  intro e he
  obtain rfl : a = e := by simpa [h.result_eq] using he
  exact ⟨⟨x, hx, h⟩, hstop⟩

/-- The parse of an operand with the operators behind it, and the loop over these, which
keeps the first fault. -/
lemma parse_climb_sound (eof : Token) :
    (∀ level n ts, level ≤ 5 → ReadsLevel level n ts (parse eof level n ts).val) ∧
      ∀ level left,
        (∀ e, (climb eof level left).val.result = .ok e → ∃ a, left.result = .ok a) ∧
        (level ≤ 5 → ∀ n ts x a, HasRead n ts left x a → level ≤ x.rank →
          Stops (x.rank + 1) left.rest → ReadsLevel level n ts (climb eof level left).val) := by
  refine parse_climb_induction eof
    (P := fun level n ts p => level ≤ 5 → ReadsLevel level n ts p)
    (C := fun level left p => (∀ e, p.result = .ok e → ∃ a, left.result = .ok a) ∧
      (level ≤ 5 → ∀ n ts x a, HasRead n ts left x a → level ≤ x.rank →
        Stops (x.rank + 1) left.rest → ReadsLevel level n ts p)) ?_ ?_ ?_ ?_ ?_ ?_ ?_
  · -- no token is left
    intro level n _ e he
    cases he
  · -- an opening parenthesis
    rintro level n t ts inner whole ht ih ⟨hok, hwhole⟩ hle e he
    obtain ⟨a, ha⟩ := hok e he
    have hread := hasRead_group ht (ih (by decide)) ha
    exact hwhole hle n (t :: ts) .primary a hread (hle.trans (by decide))
      (stops_of_five_le (by decide) _) e he
  · -- a sign
    rintro level n t ts op inner whole ht ih ⟨hok, hwhole⟩ hle e he
    obtain ⟨a, ha⟩ := hok e he
    have hread := hasRead_sign ht (ih le_rfl) ha
    exact hwhole hle n (t :: ts) .unary a hread hle (stops_of_five_le (by decide) _) e he
  · -- a literal
    rintro level n t ts v whole hv ⟨hok, hwhole⟩ hle e he
    obtain ⟨a, ha⟩ := hok e he
    have hread := hasRead_literal hv ha
    exact hwhole hle n (t :: ts) .primary a hread (hle.trans (by decide))
      (stops_of_five_le (by decide) _) e he
  · -- any other token
    intro level n t ts _ _ _ _ e he
    cases he
  · -- the loop stops
    intro level left hstop
    exact ⟨fun e he => ⟨e, he⟩, fun _ n ts x a hread hx _ => hread.stop hx hstop⟩
  · -- the loop before an operator that is strong enough
    rintro level result count t us op right whole hop hstrong ih ⟨hok, hwhole⟩
    refine ⟨fun e he => ?_, fun hle n ts x a hread hx hstop e he => ?_⟩
    · obtain ⟨c, hc⟩ := hok e he
      obtain ⟨a, -, ha, -⟩ := exists_ok_of_applyBinary_ok hc
      exact ⟨a, ha⟩
    · obtain ⟨y, z, hmem, hyz, hstrength⟩ := Level.exists_mem_operators hop
      have hrank := Level.rank_of_tighter? hyz
      have hy : y.rank ≤ x.rank := by
        have := stops_cons_iff.mp hstop op hop
        omega
      -- neither operand has a fault, since the whole has none
      obtain ⟨c, hc⟩ := hok e he
      obtain ⟨-, b, -, hb⟩ := exists_ok_of_applyBinary_ok hc
      obtain ⟨⟨w, hw, hresult, ⟨vs, hvs, hderives, hcount⟩, hbound⟩, hstop'⟩ :=
        ih op.strength_lt_five b hb
      have hright : HasRead count us right z b :=
        ⟨hresult, ⟨vs, hvs, hderives.loosen (by omega), hcount⟩, hbound⟩
      refine hwhole hle n ts y _ (hread.chain rfl hmem hyz hy hright) (by omega) ?_ e he
      rw [← hstrength]
      exact hstop'

/-- What the parser reads without a fault is a sentence of the level asked for,
and it stops before what is not part of it. -/
lemma parse_sound (hle : level ≤ 5) (ts : List Token) :
    ReadsLevel level n ts (parse eof level n ts).val :=
  (parse_climb_sound eof).1 level n ts hle

end Expr

end ExprMachine
