import ExprMachine.Proofs.Expr.Language

/-!
How far a text is read that does not compile.

A parse that has met a fault goes on, and the errors of the token reader are
found only as far as it reads. Where it stops can be told from the kinds of the
tokens alone, by what is awaited and how many parentheses are open, without the
binding strength of operators.

* `Expr.Awaited`, `Expr.unread`: the tokens that are never read. A token that
  opens no operand is read in the place of an operand. If it stands first in
  its group, the group is over with it: the parse goes on outside the
  parentheses, whether they are closed there or not, and ends if there are
  none.
* `Expr.Resumes`, `Expr.parse_climb_resumes`: the parser reads as `unread` says. The
  induction is the parser's own; what carries it is that a parse of some
  strength leaves off where an operator is awaited, and that only a group given
  up leaves off before an operator.
* `Expr.rest_parseTokens_eq`: what the parse of a whole text leaves over.
* `Source.lexical_findings`: which errors of the token reader are reported.
-/

namespace ExprMachine

namespace Expr

open Parsed

/-- What a parse reads next. -/
inductive Awaited where
  /-- An operand, the first one of its group or not. -/
  | operand (first : Bool)
  /-- An operator or the end of the group. -/
  | operator
  deriving DecidableEq, Repr

/-- The tokens behind a closing parenthesis, all of them if there is none. -/
def afterClosing : List Token → List Token
  | [] => []
  | t :: ts => if t.kind = .rightParen then ts else t :: ts

lemma length_afterClosing_le (ts : List Token) : (afterClosing ts).length ≤ ts.length := by
  unfold afterClosing
  split
  · exact le_rfl
  · split_ifs <;> simp

/-- The tokens that are never read when so many parentheses are open. -/
def unread : Awaited → ℕ → List Token → List Token
  | _, _, [] => []
  | .operand first, depth, t :: ts =>
      if t.kind = .leftParen then unread (.operand true) (depth + 1) ts
      else if (UnaryOp.ofKind? t.kind).isSome then unread (.operand false) depth ts
      else if t.isLiteral ∨ first = false then unread .operator depth ts
      -- the group is given up
      else if depth = 0 then ts
      else unread .operator (depth - 1) (afterClosing ts)
  | .operator, depth, t :: ts =>
      if (BinaryOp.ofKind? t.kind).isSome then unread (.operand false) depth ts
      else if t.kind = .rightParen ∧ depth ≠ 0 then unread .operator (depth - 1) ts
      else t :: ts
termination_by _ _ ts => ts.length
decreasing_by
  all_goals simp only [List.length_cons]
  any_goals omega
  all_goals
    have hle := length_afterClosing_le ts
    omega

/-! ### Where the reading goes on -/

/-- Whether an operand can begin with a token. -/
def opensOperand (t : Token) : Bool :=
  t.kind = .leftParen ∨ (UnaryOp.ofKind? t.kind).isSome ∨ t.isLiteral

lemma unread_nil (awaited : Awaited) (depth : ℕ) : unread awaited depth [] = [] := by
  rw [unread]

/-- Only a token that opens no operand tells the first operand of a group from a
later one. -/
lemma unread_operand_of_opens {t : Token} (h : opensOperand t = true) (depth : ℕ)
    (ts : List Token) :
    unread (.operand true) depth (t :: ts) = unread (.operand false) depth (t :: ts) := by
  rw [unread, unread]
  by_cases hp : t.kind = .leftParen
  · rw [if_pos hp, if_pos hp]
  · by_cases hu : (UnaryOp.ofKind? t.kind).isSome = true
    · rw [if_neg hp, if_neg hp, if_pos hu, if_pos hu]
    · have hl : t.isLiteral = true := by simpa [opensOperand, hp, hu] using h
      simp [hp, hu, hl]

lemma unread_literal {t : Token} (h : t.isLiteral = true) (depth : ℕ) (ts : List Token) :
    unread (.operand false) depth (t :: ts) = unread .operator depth ts := by
  have hp : t.kind ≠ .leftParen := fun hk => by simp [Token.isLiteral, hk] at h
  have hu : ¬ (UnaryOp.ofKind? t.kind).isSome := by
    rw [Option.isSome_iff_exists]
    rintro ⟨op, hop⟩
    simp [isLiteral_of_unary hop] at h
  rw [unread, if_neg hp, if_neg hu, if_pos (.inl h)]

/-- A token that opens no operand is read in the place of one. -/
lemma unread_operand_of_not_opens {t : Token} (h : opensOperand t = false) (depth : ℕ)
    (ts : List Token) :
    unread (.operand false) depth (t :: ts) = unread .operator depth ts := by
  simp only [opensOperand, decide_eq_false_iff_not, not_or] at h
  rw [unread]
  simp [h]

/-- A group that begins with a token that opens no operand is over, and so is a
whole text. -/
lemma unread_first_of_not_opens {t : Token} (h : opensOperand t = false) (depth : ℕ)
    (ts : List Token) :
    unread (.operand true) depth (t :: ts) =
      if depth = 0 then ts else unread .operator (depth - 1) (afterClosing ts) := by
  simp only [opensOperand, decide_eq_false_iff_not, not_or] at h
  rw [unread]
  simp [h]

/-- Every operator has some strength. -/
lemma not_binary_of_stops {t : Token} {ts : List Token} (h : Stops 1 (t :: ts)) :
    BinaryOp.ofKind? t.kind = none := by
  cases hop : BinaryOp.ofKind? t.kind with
  | none => rfl
  | some op =>
      have hlt := stops_cons_iff.mp h op hop
      cases op <;> simp [BinaryOp.strength] at hlt

/-- Where no operator follows, a group is over, and so is a whole text. -/
lemma unread_operator_of_stops {ts : List Token} (h : Stops 1 ts) (depth : ℕ) :
    unread .operator depth ts =
      if depth = 0 then ts else unread .operator (depth - 1) (afterClosing ts) := by
  cases ts with
  | nil => simp [afterClosing, unread_nil]
  | cons t ts =>
      have hop := not_binary_of_stops h
      rw [unread, hop, afterClosing]
      by_cases hdepth : depth = 0
      · simp [hdepth]
      · by_cases hr : t.kind = .rightParen
        · simp [hdepth, hr]
        · rw [if_neg hr, unread, hop]
          simp [hdepth, hr]

/-! ### The parser -/

variable {eof : Token} {level n : ℕ}

lemma rest_closeParen (eof : Token) (inner : Parsed) :
    (closeParen eof inner).rest = afterClosing inner.rest := by
  obtain ⟨result, count, rest⟩ := inner
  cases rest with
  | nil => rfl
  | cons t ts =>
      rw [closeParen, afterClosing]
      dsimp only
      split_ifs <;> rfl

/-- The tokens that are read as literals are the literals. -/
lemma literal?_eq_none_iff {t : Token} : literal? t = none ↔ t.isLiteral = false := by
  rw [literal?, Token.isLiteral]
  split
  · rename_i hk
    cases Number.ofLiteral? t.lexeme <;> simp [hk]
  all_goals simp_all

lemma opensOperand_eq_false_iff {t : Token} : opensOperand t = false ↔
    t.kind ≠ .leftParen ∧ UnaryOp.ofKind? t.kind = none ∧ literal? t = none := by
  rw [literal?_eq_none_iff]
  simp [opensOperand]

/-- A parse begun before the tokens `ts` leaves off where an operator is awaited,
and before no operator that it could have read, unless it has been given up. -/
structure Resumes (level : ℕ) (ts : List Token) (p : Parsed) : Prop where
  /-- What is left over is read on as behind an operand. -/
  unread_eq : ∀ depth, unread (.operand false) depth ts = unread .operator depth p.rest
  /-- All operators have been read that can be. -/
  stops : ∀ t ∈ ts.head?, opensOperand t = true → Stops level p.rest
  /-- A token that opens no operand is all that is read. -/
  rest_eq : (∀ t ∈ ts.head?, opensOperand t = false) → p.rest = ts.tail

/-- The same of the loop over the operators behind an operand. -/
structure GoesOn (level : ℕ) (left p : Parsed) : Prop where
  unread_eq : ∀ depth, unread .operator depth left.rest = unread .operator depth p.rest
  stops : Stops level p.rest

/-- What is left over by the parse of a group, or of a whole text. -/
lemma Resumes.unread_first {ts : List Token} {p : Parsed} (h : Resumes 1 ts p) (depth : ℕ) :
    unread (.operand true) depth ts =
      if depth = 0 then p.rest else unread .operator (depth - 1) (afterClosing p.rest) := by
  cases ts with
  | nil =>
      have hrest : p.rest = [] := h.rest_eq (by simp)
      simp [hrest, afterClosing, unread_nil]
  | cons t ts =>
      cases ht : opensOperand t with
      | true =>
          rw [unread_operand_of_opens ht, h.unread_eq,
            unread_operator_of_stops (h.stops t rfl ht)]
      | false =>
          have hrest : p.rest = ts := h.rest_eq (by simp [ht])
          rw [unread_first_of_not_opens ht, hrest]

/-- An operand that has been read, and the loop behind it. -/
lemma GoesOn.resumes {t : Token} {ts : List Token} {left p : Parsed} (h : GoesOn level left p)
    (ht : opensOperand t = true)
    (hleft : ∀ depth, unread (.operand false) depth (t :: ts) = unread .operator depth left.rest) :
    Resumes level (t :: ts) p where
  unread_eq depth := (hleft depth).trans (h.unread_eq depth)
  stops _ _ _ := h.stops
  rest_eq hnone := by simp [ht] at hnone

lemma parse_climb_resumes (eof : Token) :
    (∀ level n ts, Resumes level ts (parse eof level n ts).val) ∧
      ∀ level left, GoesOn level left (climb eof level left).val := by
  refine parse_climb_induction eof (P := fun level _ ts p => Resumes level ts p) (C := GoesOn)
    ?_ ?_ ?_ ?_ ?_ ?_ ?_
  · -- no token is left
    intro level n
    exact ⟨fun depth => by simp [faultBefore, unread_nil], by simp, fun _ => rfl⟩
  · -- an opening parenthesis
    intro level n t ts inner whole ht hinner hwhole
    refine hwhole.resumes (by simp [opensOperand, ht]) fun depth => ?_
    rw [unread, if_pos ht, hinner.unread_first, rest_closeParen]
    simp
  · -- a sign
    intro level n t ts op inner whole ht hinner hwhole
    have hp : t.kind ≠ .leftParen := fun hk => by simp [hk, UnaryOp.ofKind?] at ht
    refine hwhole.resumes (by simp [opensOperand, ht]) fun depth => ?_
    rw [unread, if_neg hp, if_pos (by simp [ht]), hinner.unread_eq]
    rfl
  · -- a literal
    intro level n t ts v whole hv hwhole
    have hl : t.isLiteral = true := by
      rw [← Bool.not_eq_false, ← literal?_eq_none_iff, hv]
      simp
    refine hwhole.resumes (by simp [opensOperand, hl]) fun depth => ?_
    rw [unread_literal hl, rest_ofLiteral]
  · -- any other token
    intro level n t ts hp hu hl
    have ht := opensOperand_eq_false_iff.mpr ⟨hp, hu, hl⟩
    exact ⟨fun depth => unread_operand_of_not_opens ht depth ts, by simp [ht], fun _ => rfl⟩
  · -- the loop stops
    intro level left hstop
    exact ⟨fun _ => rfl, hstop⟩
  · -- the loop before an operator that is strong enough
    intro level result n t ts op right whole hop _ hright hwhole
    refine ⟨fun depth => ?_, hwhole.stops⟩
    rw [← hwhole.unread_eq, unread, if_pos (by simp [hop]), hright.unread_eq]
    rfl

/-- What the parse of a whole text leaves over. -/
lemma rest_parseTokens_eq (eof : Token) (ts : List Token) :
    (parseTokens eof ts).rest = unread (.operand true) 0 ts := by
  have hparse := ((parse_climb_resumes eof).1 1 0 ts).unread_first 0
  rw [if_pos rfl] at hparse
  rw [hparse, parseTokens]
  split <;> rfl

/-! ### Findings -/

/-- The first token of a stream that is never read, the end token if all are. -/
def firstUnread (tokens : List Token) : Token :=
  current (endToken tokens) (unread (.operand true) 0 (tokens.filter Token.isSignificant))

/-- The errors of the token reader among the findings about a stream are those
before the first token that is never read. -/
lemma filter_lexical_of_parseAll {tokens : List Token} {ds : List Diagnostic}
    (h : parseAll tokens = .error ds) :
    ds.filter (·.lexical) = lexicalErrors tokens (firstUnread tokens) := by
  have hall : ∀ before, (lexicalErrors tokens before).filter (·.lexical) =
      lexicalErrors tokens before := by
    intro before
    rw [List.filter_eq_self]
    intro d hd
    obtain ⟨t, -, rfl⟩ := List.mem_map.mp hd
    rfl
  rw [firstUnread, ← rest_parseTokens_eq]
  obtain ⟨e, -, -, rfl⟩ | ⟨fault, -, ⟨-, rfl⟩ | ⟨-, rfl⟩⟩ := parseAll_eq_error h
  · exact hall _
  · -- a fault is not an error of the token reader
    exact hall _
  · exact hall _

end Expr

open ExprMachine.Expr

/-- Compiling finds what parsing finds. -/
lemma compile_eq_error_iff {text : List Char} {ds : List Diagnostic} :
    compile text = .error ds ↔ parseAll (tokenize text) = .error ds := by
  rw [compile, compileBuilder]
  cases h : parseAll (tokenize text) <;> simp [Except.map]

lemma Source.compile_eq_error_iff {s : Source} {ds : List Diagnostic} :
    s.compile = .error ds ↔ parseAll (tokenize s.text) = .error ds :=
  ExprMachine.compile_eq_error_iff

/-- **Which errors of the token reader are reported**: of a source that does not
compile, those that stand before the first token that is never read, in their
order, each with the place, the line and the message of its token. None is
missing if and only if none stands behind that token. -/
theorem Source.lexical_findings (s : Source) (ds : List Diagnostic) (h : s.compile = .error ds) :
    ds.filter (·.lexical) =
        ((tokenize s.text).filter fun t => t.kind = .error ∧
          t.start < (firstUnread (tokenize s.text)).start).map .ofErrorToken ∧
      (ds.filter (·.lexical) =
          ((tokenize s.text).filter fun t => t.kind = .error).map .ofErrorToken ↔
        ∀ t ∈ tokenize s.text, t.kind = .error →
          t.start < (firstUnread (tokenize s.text)).start) := by
  have hfound := filter_lexical_of_parseAll (Source.compile_eq_error_iff.mp h)
  refine ⟨hfound, ?_⟩
  rw [hfound, lexicalErrors]
  constructor
  · -- as many errors are found before the token as there are at all
    intro hall t ht herr
    have hsub := List.monotone_filter_right (tokenize s.text)
      (p := fun t => decide (t.kind = .error ∧ t.start < (firstUnread (tokenize s.text)).start))
      (q := fun t => decide (t.kind = .error)) (by simp +contextual)
    have hlen := congrArg List.length hall
    rw [List.length_map, List.length_map] at hlen
    have hmem : t ∈ (tokenize s.text).filter fun t => decide (t.kind = .error) := by
      simp [ht, herr]
    rw [← hsub.eq_of_length hlen] at hmem
    simp only [List.mem_filter, decide_eq_true_eq] at hmem
    exact hmem.2.2
  · intro hbefore
    refine congrArg _ (List.filter_congr fun t ht => ?_)
    simp only [decide_eq_decide]
    exact ⟨fun h => h.1, fun h => ⟨h, hbefore t ht h⟩⟩

/-- A number behind a number ends the parse, so the error behind both is not
found. -/
theorem Source.lexical_findings_behind :
    (Source.ofString "1 2 @").compile =
        .error [⟨1, " at '2'", "expect end of expression", 2, 1, false⟩] ∧
      (tokenize (Source.ofString "1 2 @").text).filter (fun t => t.kind = .error) =
        [⟨.error, "unexpected character: '@'", 4, 1, 1⟩] ∧
      ¬ ∀ t ∈ tokenize (Source.ofString "1 2 @").text, t.kind = .error →
          t.start < (firstUnread (tokenize (Source.ofString "1 2 @").text)).start := by
  have hc : (Source.ofString "1 2 @").compile =
      .error [⟨1, " at '2'", "expect end of expression", 2, 1, false⟩] := by decide +kernel
  have ht : (tokenize (Source.ofString "1 2 @").text).filter (fun t => t.kind = .error) =
      [⟨.error, "unexpected character: '@'", 4, 1, 1⟩] := by decide +kernel
  refine ⟨hc, ht, fun hbefore => ?_⟩
  have hall := (Source.lexical_findings _ _ hc).2.mpr hbefore
  rw [ht] at hall
  cases hall

end ExprMachine
