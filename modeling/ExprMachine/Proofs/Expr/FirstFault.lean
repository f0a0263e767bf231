import ExprMachine.Proofs.Expr.Findings
import ExprMachine.Proofs.Expr.Recovery

/-!
The first token that is wrong.

Which tokens may stand next in an expression can be told without a grammar, from what
is awaited, how many parentheses are open and how many literals there have been. The
parser finds its fault at the first token that may not stand where it does, however
deep it is by then in its own recursion.

* `Progress`, `Progress.step`: how far a sentence has come, and what the next token
  makes of it, or what is wrong with the token.
* `Expr.firstFault`: the first token that is refused, as a fault.
* `Parsed.Finds`: a parse that has come as far as the tokens it has read allow. Each way
  to go on with a parse keeps it.
* `Expr.parse_climb_finds`: the parser keeps it. What makes the induction go through is
  that the number of parentheses open outside is left open.
* `Expr.firstFault_parseTokens`: what the parse of a whole text comes to.
* `Expr.Refused`: the tokens before that of a fault are passed, and the token is not.
* `Source.finding_at_first_refused`: the one finding about a text without error tokens.
* `Source.findings_shape`: the findings about any text.
-/

namespace ExprMachine

/-- Whether a token writes an operator between two operands. -/
def Token.joinsOperands (t : Token) : Bool :=
  t.kind ∈ [.equalEqual, .bangEqual, .less, .lessEqual, .greater, .greaterEqual, .plus, .minus,
    .star, .slash]

/-- How far a sentence has come: whether an operand or an operator is awaited, how many
parentheses are open, and how many literals there have been. -/
inductive Progress where
  /-- An operand is awaited. -/
  | operand (depth literals : ℕ)
  /-- An operator or the end of the group is awaited. -/
  | operator (depth literals : ℕ)
  deriving DecidableEq, Repr

namespace Progress

/-- Nothing has been read. -/
def start : Progress := .operand 0 0

/-- What the next token makes of a sentence, or what is wrong with the token. -/
def step : Progress → Token → Except String Progress
  | .operand depth literals, t =>
      if t.kind = .leftParen then .ok (.operand (depth + 1) literals)
      else if t.kind = .minus ∨ t.kind = .bang then .ok (.operand depth literals)
      else if t.isLiteral then
        if t.kind = .number ∧ ¬ Number.InRange t.lexeme then .error "invalid number literal"
        else if 256 ≤ literals then .error "too many constants in one chunk"
        else .ok (.operator depth (literals + 1))
      else .error "expect expression"
  | .operator (depth + 1) literals, t =>
      if t.joinsOperands then .ok (.operand (depth + 1) literals)
      else if t.kind = .rightParen then .ok (.operator depth literals)
      else .error "expect ')' after expression"
  | .operator 0 literals, t =>
      if t.joinsOperands then .ok (.operand 0 literals)
      else if t.kind = .eof then .ok (.operator 0 literals)
      else .error "expect end of expression"

end Progress

namespace Expr

open Parsed

/-- The first token that is refused, with the token that is next to be read by then: a
token is read before it is refused as an operand, but not as an operator. -/
def firstFault (eof : Token) : Progress → List Token → Option Fault
  | p, [] =>
      match p.step eof with
      | .ok _ => none
      | .error message => some ⟨eof, message, eof⟩
  | p, t :: ts =>
      match p.step t with
      | .ok q => firstFault eof q ts
      | .error message =>
          match p with
          | .operand _ _ => some ⟨t, message, current eof ts⟩
          | .operator _ _ => some ⟨t, message, t⟩

end Expr

/-! ### What the next token does -/

namespace Progress

open Parsed ExprMachine.Expr

variable {t : Token} {depth n : ℕ}

lemma joinsOperands_eq (t : Token) : t.joinsOperands = (BinaryOp.ofKind? t.kind).isSome := by
  rw [Token.joinsOperands]
  cases t.kind <;> rfl

lemma step_leftParen (h : t.kind = .leftParen) :
    (operand depth n).step t = .ok (.operand (depth + 1) n) := by
  simp [step, h]

lemma step_sign {op : UnaryOp} (h : UnaryOp.ofKind? t.kind = some op) :
    (operand depth n).step t = .ok (.operand depth n) := by
  have hkind := mem_signs_iff.mpr h
  simp only [signs, List.mem_cons, Prod.mk.injEq, List.not_mem_nil, or_false] at hkind
  rcases hkind with ⟨hk, -⟩ | ⟨hk, -⟩ <;> simp [step, hk]

/-- A literal is refused for its number, or because there have been too many. -/
lemma step_of_isLiteral (h : t.isLiteral = true) :
    (operand depth n).step t =
      if t.kind = .number ∧ ¬ Number.InRange t.lexeme then .error "invalid number literal"
      else if maxLiterals ≤ n then .error "too many constants in one chunk"
      else .ok (.operator depth (n + 1)) := by
  have hp : t.kind ≠ .leftParen := fun hk => by simp [Token.isLiteral, hk] at h
  have hsign : ¬ (t.kind = .minus ∨ t.kind = .bang) := by
    rintro (hk | hk) <;> simp [Token.isLiteral, hk] at h
  rw [step, if_neg hp, if_neg hsign, if_pos h]
  rfl

/-- A literal that has no value is a number out of range. -/
lemma kind_of_literal?_error {message : String} (h : literal? t = some (.error message)) :
    t.kind = .number ∧ ¬ Number.InRange t.lexeme ∧ message = "invalid number literal" := by
  rw [literal?] at h
  split at h
  · rename_i hk
    by_cases hrange : Number.InRange t.lexeme
    · simp [Number.ofLiteral?_of_inRange hrange] at h
    · rw [Number.ofLiteral?_of_not_inRange hrange] at h
      exact ⟨hk, hrange, by simpa using h.symm⟩
  all_goals simp at h

lemma step_error {message : String} (h : literal? t = some (.error message)) :
    (operand depth n).step t = .error message := by
  obtain ⟨hk, hrange, rfl⟩ := kind_of_literal?_error h
  rw [step_of_isLiteral (by simp [Token.isLiteral, hk]), if_pos ⟨hk, hrange⟩]

lemma step_ok {v : Value} (h : literal? t = some (.ok v)) :
    (operand depth n).step t =
      if n < maxLiterals then .ok (.operator depth (n + 1))
      else .error "too many constants in one chunk" := by
  obtain ⟨-, hlit, hrange⟩ := derives_of_literal? h
  have hvalue : ¬ (t.kind = .number ∧ ¬ Number.InRange t.lexeme) :=
    fun hnot => hnot.2 (hrange t List.mem_cons_self hnot.1)
  rw [step_of_isLiteral hlit, if_neg hvalue]
  by_cases hn : n < maxLiterals
  · rw [if_neg (Nat.not_le.mpr hn), if_pos hn]
  · rw [if_pos (Nat.not_lt.mp hn), if_neg hn]

lemma step_other (hp : t.kind ≠ .leftParen) (hu : UnaryOp.ofKind? t.kind = none)
    (hl : literal? t = none) : (operand depth n).step t = .error "expect expression" := by
  have hlit := literal?_eq_none_iff.mp hl
  have hsign : ¬ (t.kind = .minus ∨ t.kind = .bang) := by
    rintro (hk | hk) <;> simp [hk, UnaryOp.ofKind?] at hu
  simp [step, hp, hsign, hlit]

lemma step_binary {op : BinaryOp} (h : BinaryOp.ofKind? t.kind = some op) :
    (operator depth n).step t = .ok (.operand depth n) := by
  have hjoins : t.joinsOperands = true := by rw [joinsOperands_eq, h]; rfl
  cases depth <;> simp [step, hjoins]

/-- Where no operator stands, an open group is closed or the token is refused. -/
lemma step_operator_succ (h : BinaryOp.ofKind? t.kind = none) :
    (operator (depth + 1) n).step t =
      if t.kind = .rightParen then .ok (.operator depth n)
      else .error "expect ')' after expression" := by
  have hjoins : t.joinsOperands = false := by rw [joinsOperands_eq, h]; rfl
  simp [step, hjoins]

/-- Where no group is open, nothing but the end is left to come. -/
lemma step_operator_zero (h : BinaryOp.ofKind? t.kind = none) :
    (operator 0 n).step t =
      if t.kind = .eof then .ok (.operator 0 n) else .error "expect end of expression" := by
  have hjoins : t.joinsOperands = false := by rw [joinsOperands_eq, h]; rfl
  simp [step, hjoins]

end Progress

namespace Expr

open Parsed

variable {eof t : Token} {depth n : ℕ} {ts : List Token} {p q : Progress} {message : String}

lemma firstFault_of_ok (h : p.step t = .ok q) :
    firstFault eof p (t :: ts) = firstFault eof q ts := by
  rw [firstFault, h]

lemma firstFault_operand_of_error (h : (Progress.operand depth n).step t = .error message) :
    firstFault eof (.operand depth n) (t :: ts) = some ⟨t, message, current eof ts⟩ := by
  rw [firstFault, h]

lemma firstFault_operator_of_error (h : (Progress.operator depth n).step t = .error message) :
    firstFault eof (.operator depth n) (t :: ts) = some ⟨t, message, t⟩ := by
  rw [firstFault, h]

end Expr

/-! ### Parses that have come as far as their tokens allow -/

namespace Parsed

open ExprMachine.Expr Progress

variable {eof t : Token} {n : ℕ} {ts : List Token} {first : ℕ → Option Fault} {p inner : Parsed}

/-- A parse that has met the first fault there is, or has met none so far. The first
fault is told for any number of parentheses that are open outside. -/
def Finds (eof : Token) (first : ℕ → Option Fault) (p : Parsed) : Prop :=
  ∀ depth, first depth =
    match p.result with
    | .ok _ => firstFault eof (.operator depth p.literals) p.rest
    | .error fault => some fault

lemma Finds.congr {first' : ℕ → Option Fault} (h : Finds eof first p)
    (hfirst : ∀ depth, first' depth = first depth) : Finds eof first' p :=
  fun depth => (hfirst depth).trans (h depth)

/-- A parse that meets its fault at a token that opens no operand. -/
lemma finds_of_error {message : String}
    (h : ∀ depth, (operand depth n).step t = .error message) :
    Finds eof (fun depth => firstFault eof (.operand depth n) (t :: ts))
      (faultBefore eof t message n ts) :=
  fun depth => firstFault_operand_of_error (h depth)

lemma finds_ofLiteral {v : Except String Value} (h : literal? t = some v) :
    Finds eof (fun depth => firstFault eof (.operand depth n) (t :: ts))
      (ofLiteral eof t v n ts) := by
  cases v with
  | error message => exact finds_of_error fun depth => step_error h
  | ok v =>
      rw [ofLiteral]
      split_ifs with hn
      · exact fun depth => firstFault_of_ok (by rw [step_ok h, if_pos hn])
      · exact finds_of_error fun depth => by rw [step_ok h, if_neg hn]

/-- A fault inside a group is not lost at its end. -/
lemma result_closeParen_error (eof : Token) (fault : Fault) (n : ℕ) (ts : List Token) :
    (closeParen eof ⟨.error fault, n, ts⟩).result = .error fault := by
  rw [closeParen]
  cases ts with
  | nil => rfl
  | cons t ts =>
      dsimp only
      split_ifs <;> rfl

/-- A group is closed where no operator follows, or the token there is refused. -/
lemma Finds.closeParen (heof : eof.kind = .eof) (h : Finds eof first inner)
    (hstop : ∀ e, inner.result = .ok e → Stops 1 inner.rest) :
    Finds eof (fun depth => first (depth + 1)) (closeParen eof inner) := by
  obtain ⟨result, n, rest⟩ := inner
  intro depth
  have hfirst := h (depth + 1)
  cases result with
  | error fault =>
      rw [result_closeParen_error]
      exact hfirst
  | ok e =>
      dsimp only at hfirst
      cases rest with
      | nil =>
          have hop : BinaryOp.ofKind? eof.kind = none := by rw [heof]; rfl
          have hrefused : (operator (depth + 1) n).step eof =
              .error "expect ')' after expression" := by
            rw [step_operator_succ hop, heof, if_neg (by decide)]
          rw [firstFault, hrefused] at hfirst
          exact hfirst
      | cons t ts =>
          have hop := not_binary_of_stops (hstop e rfl)
          by_cases hr : t.kind = .rightParen
          · rw [closeParen_rightParen hr]
            exact hfirst.trans (firstFault_of_ok (by rw [step_operator_succ hop, if_pos hr]))
          · rw [Parsed.closeParen]
            dsimp only
            rw [if_neg hr]
            exact hfirst.trans
              (firstFault_operator_of_error (by rw [step_operator_succ hop, if_neg hr]))

lemma Finds.applyUnary (op : UnaryOp) (line : ℕ) (h : Finds eof first p) :
    Finds eof first (applyUnary op line p) := by
  obtain ⟨result, count, rest⟩ := p
  cases result <;> exact h

/-- An operator leads to its right operand, unless there is a fault already. -/
lemma Finds.applyBinary {op : BinaryOp} (line : ℕ) {result : Except Fault Expr} {right : Parsed}
    (hop : BinaryOp.ofKind? t.kind = some op) (h : Finds eof first ⟨result, n, t :: ts⟩)
    (hright : Finds eof (fun depth => firstFault eof (.operand depth n) ts) right) :
    Finds eof first (applyBinary op line ⟨result, n, t :: ts⟩ right) := by
  cases result with
  | error fault => exact h
  | ok a =>
      have hboth : Finds eof first right := by
        refine hright.congr fun depth => (h depth).trans ?_
        exact firstFault_of_ok (step_binary hop)
      obtain ⟨result, count, rest⟩ := right
      cases result <;> exact hboth

end Parsed

namespace Expr

open Parsed Progress

/-- The parser meets the first fault there is. -/
lemma parse_climb_finds {eof : Token} (heof : eof.kind = .eof) :
    (∀ level n ts,
      Finds eof (fun depth => firstFault eof (.operand depth n) ts) (parse eof level n ts).val ∧
        ∀ e, (parse eof level n ts).val.result = .ok e →
          Stops level (parse eof level n ts).val.rest) ∧
      ∀ level left first, Finds eof first left →
        Finds eof first (climb eof level left).val ∧ Stops level (climb eof level left).val.rest := by
  refine parse_climb_induction eof
    (P := fun level n ts p => Finds eof (fun depth => firstFault eof (.operand depth n) ts) p ∧
      ∀ e, p.result = .ok e → Stops level p.rest)
    (C := fun level left p => ∀ first, Finds eof first left →
      Finds eof first p ∧ Stops level p.rest) ?_ ?_ ?_ ?_ ?_ ?_ ?_
  · -- no token is left
    intro level n
    refine ⟨fun depth => ?_, fun e he => by cases he⟩
    have hrefused : (operand depth n).step eof = .error "expect expression" := by
      simp [Progress.step, heof, Token.isLiteral]
    show firstFault eof (.operand depth n) [] = _
    rw [firstFault, hrefused]
    rfl
  · -- an opening parenthesis
    rintro level n t ts inner whole ht ⟨hinner, hstop⟩ hwhole
    obtain ⟨hfinds, hstops⟩ := hwhole _ (hinner.closeParen heof hstop)
    exact ⟨hfinds.congr fun depth => firstFault_of_ok (step_leftParen ht), fun _ _ => hstops⟩
  · -- a sign
    rintro level n t ts op inner whole ht ⟨hinner, -⟩ hwhole
    obtain ⟨hfinds, hstops⟩ := hwhole _ (hinner.applyUnary op t.line)
    exact ⟨hfinds.congr fun depth => firstFault_of_ok (step_sign ht), fun _ _ => hstops⟩
  · -- a literal
    intro level n t ts v whole hv hwhole
    obtain ⟨hfinds, hstops⟩ := hwhole _ (finds_ofLiteral hv)
    exact ⟨hfinds, fun _ _ => hstops⟩
  · -- any other token
    intro level n t ts hp hu hl
    exact ⟨finds_of_error fun depth => step_other hp hu hl, fun e he => by cases he⟩
  · -- the loop stops
    intro level left hstop first hleft
    exact ⟨hleft, hstop⟩
  · -- the loop before an operator that is strong enough
    rintro level result n t ts op right whole hop - ⟨hright, -⟩ hwhole first hleft
    exact hwhole first (hleft.applyBinary t.line hop hright)

/-- What the parse of a whole text comes to: the first fault there is, or none. -/
lemma firstFault_parseTokens {eof : Token} (heof : eof.kind = .eof) {ts : List Token}
    (hts : ∀ t ∈ ts, t.kind ≠ .eof) :
    firstFault eof .start ts =
      match (parseTokens eof ts).result with
      | .ok _ => none
      | .error fault => some fault := by
  obtain ⟨hfinds, hstop⟩ := (parse_climb_finds heof).1 1 0 ts
  have hsuffix := ((parse_climb_readsOn eof).1 1 0 ts).rest_suffix
  have hfirst := hfinds 0
  rw [parseTokens]
  generalize (parse eof 1 0 ts).val = p at hstop hsuffix hfirst ⊢
  obtain ⟨result, n, rest⟩ := p
  cases result with
  | error fault => cases rest <;> exact hfirst
  | ok e =>
      dsimp only at hfirst
      cases rest with
      | nil =>
          have hend : (Progress.operator 0 n).step eof = .ok (.operator 0 n) := by
            rw [step_operator_zero (by rw [heof]; rfl), if_pos heof]
          rw [firstFault, hend] at hfirst
          exact hfirst
      | cons t us =>
          have hstep := step_operator_zero (n := n) (not_binary_of_stops (hstop e rfl))
          rw [if_neg (hts t (hsuffix.subset List.mem_cons_self))] at hstep
          exact hfirst.trans (firstFault_operator_of_error hstep)

/-! ### Where the first fault is -/

variable {eof t : Token} {ts tokens : List Token} {p q : Progress} {fault : Fault}

/-- `Refused p tokens fault`: behind what has come to `p`, all tokens before that of the
fault are passed, one after the other, and the token itself is refused. By then, no token
behind the next one has been read. -/
def Refused (p : Progress) (tokens : List Token) (fault : Fault) : Prop :=
  ∃ before behind q, tokens = before ++ fault.token :: behind ∧
    before.foldlM Progress.step p = .ok q ∧ q.step fault.token = .error fault.message ∧
    (fault.lookahead = fault.token ∨ fault.lookahead ∈ behind.head?)

lemma refused_head {message : String} {ahead : Token} (h : p.step t = .error message)
    (hahead : ahead = t ∨ ahead ∈ tokens.head?) :
    Refused p (t :: tokens) ⟨t, message, ahead⟩ :=
  ⟨[], tokens, p, rfl, rfl, h, hahead⟩

lemma Refused.cons (h : Refused q tokens fault) (hstep : p.step t = .ok q) :
    Refused p (t :: tokens) fault := by
  obtain ⟨before, behind, r, rfl, hpassed, hrefused⟩ := h
  refine ⟨t :: before, behind, r, rfl, ?_, hrefused⟩
  rw [List.foldlM_cons, hstep]
  exact hpassed

/-- The first fault is at the first token that is refused. -/
lemma refused_of_firstFault (h : firstFault eof p ts = some fault) :
    Refused p (ts ++ [eof]) fault := by
  induction ts generalizing p with
  | nil =>
      rw [firstFault] at h
      cases hstep : p.step eof with
      | ok q => simp [hstep] at h
      | error message =>
          simp only [hstep, Option.some.injEq] at h
          subst h
          exact refused_head hstep (.inl rfl)
  | cons t ts ih =>
      cases hstep : p.step t with
      | ok q =>
          rw [firstFault_of_ok hstep] at h
          exact (ih h).cons hstep
      | error message =>
          cases p with
          | operand depth n =>
              rw [firstFault_operand_of_error hstep, Option.some_inj] at h
              subst h
              refine refused_head hstep (.inr ?_)
              cases ts <;> simp [current]
          | operator depth n =>
              rw [firstFault_operator_of_error hstep, Option.some_inj] at h
              subst h
              exact refused_head hstep (.inl rfl)

/-- The fault of a whole text is at the first of its tokens that is refused. -/
lemma refused_of_parseTokens {text : List Char}
    (h : (parseTokens (endToken (tokenize text))
      ((tokenize text).filter Token.isSignificant)).result = .error fault) :
    Refused .start ((tokenize text).filter Token.isSignificant ++ [endToken (tokenize text)])
      fault := by
  obtain ⟨-, -, heof, -⟩ := exists_tokenize_eq text
  have hts : ∀ t ∈ (tokenize text).filter Token.isSignificant, t.kind ≠ .eof := by
    intro t ht
    have hsignificant := (List.mem_filter.mp ht).2
    simp only [Token.isSignificant, decide_eq_true_eq] at hsignificant
    exact hsignificant.2.2
  have hfirst := firstFault_parseTokens heof hts
  rw [h] at hfirst
  exact refused_of_firstFault hfirst

/-! ### Findings -/

/-- The finding about a text without error tokens that is not read. -/
lemma refused_of_clean {text : List Char} (hclean : ∀ t ∈ tokenize text, t.kind ≠ .error)
    {ds : List Diagnostic} (h : parseAll (tokenize text) = .error ds) :
    ∃ fault, Refused .start ((tokenize text).filter fun t => t.kind ≠ .comment) fault ∧
      ds = [.atToken fault.token fault.message] := by
  have hnone : ∀ before, lexicalErrors (tokenize text) before = [] := by
    intro before
    rw [lexicalErrors, List.map_eq_nil_iff, List.filter_eq_nil_iff]
    intro t ht
    simp [hclean t ht]
  obtain ⟨e, -, hne, -⟩ | ⟨fault, hresult, ⟨-, rfl⟩ | ⟨hne, -⟩⟩ := parseAll_eq_error h
  · exact absurd (hnone _) hne
  · refine ⟨fault, ?_, by rw [hnone]⟩
    rw [(isSentence_filter text hclean).filter_eq]
    exact refused_of_parseTokens hresult
  · exact absurd (hnone _) hne

/-- A fault is met no earlier than at its token. -/
lemma Refused.start_le (h : Refused p tokens fault)
    (hsorted : tokens.Pairwise fun t u => t.start < u.start) :
    fault.token ∈ tokens ∧ fault.lookahead ∈ tokens ∧
      fault.token.start ≤ fault.lookahead.start := by
  obtain ⟨before, behind, q, rfl, -, -, hahead⟩ := h
  have htoken : fault.token ∈ before ++ fault.token :: behind := by simp
  refine ⟨htoken, ?_⟩
  rcases hahead with hahead | hahead
  · rw [hahead]
    exact ⟨htoken, le_rfl⟩
  · have hbehind := List.mem_of_mem_head? hahead
    have hlt := (List.pairwise_cons.mp (List.pairwise_append.mp hsorted).2.1).1 _ hbehind
    exact ⟨by simp [hbehind], hlt.le⟩

/-- An error token is told from other tokens by its place. -/
lemma start_ne_of_error {text : List Char} {t u : Token} (ht : t ∈ tokenize text)
    (hu : u ∈ tokenize text) (htk : t.kind ≠ .error) (huk : u.kind = .error) :
    t.start ≠ u.start := by
  intro hstart
  have hnodup : ((tokenize text).map Token.start).Nodup :=
    (List.pairwise_map.mpr (Scanner.start text).pairwise_tokens).imp fun h => h.ne
  rw [List.inj_on_of_nodup_map hnodup ht hu hstart] at htk
  exact htk huk

/-- The errors of the token reader are found in their order. -/
lemma pairwise_lexicalErrors (text : List Char) (before : Token) :
    (lexicalErrors (tokenize text) before).Pairwise fun d d' => d.start < d'.start := by
  rw [lexicalErrors, List.pairwise_map]
  exact ((Scanner.start text).pairwise_tokens).filter _

/-- What the parser reads are tokens of the text, and no errors. -/
lemma of_mem_read {text : List Char}
    (ht : t ∈ (tokenize text).filter Token.isSignificant ++ [endToken (tokenize text)]) :
    t ∈ tokenize text ∧ t.kind ≠ .error := by
  refine ⟨(sublist_tokenize text).subset ht, fun herr => ?_⟩
  obtain ⟨-, -, heof, -⟩ := exists_tokenize_eq text
  rcases List.mem_append.mp ht with ht | ht
  · have hsignificant := (List.mem_filter.mp ht).2
    simp [Token.isSignificant, herr] at hsignificant
  · rw [List.mem_singleton.mp ht, heof] at herr
    cases herr

/-- Where a fault is reported, it is at a token of the text before all errors that are
found. -/
lemma fault_before_errors {text : List Char}
    (h : (parseTokens (endToken (tokenize text))
      ((tokenize text).filter Token.isSignificant)).result = .error fault)
    (hnone : lexicalErrors (tokenize text) fault.lookahead = []) :
    fault.token ∈ tokenize text ∧ fault.token.kind ≠ .error ∧
      ∀ before, ∀ d ∈ lexicalErrors (tokenize text) before, fault.token.start < d.start := by
  have hsorted := ((Scanner.start text).pairwise_tokens).sublist (sublist_tokenize text)
  obtain ⟨htoken, hahead, hle⟩ := (refused_of_parseTokens h).start_le hsorted
  obtain ⟨htoken, hkind⟩ := of_mem_read htoken
  obtain ⟨hahead, hkind'⟩ := of_mem_read hahead
  refine ⟨htoken, hkind, fun before d hd => ?_⟩
  obtain ⟨u, hu, rfl⟩ := List.mem_map.mp hd
  simp only [List.mem_filter, decide_eq_true_eq] at hu
  obtain ⟨hu, herr, -⟩ := hu
  -- the error does not stand before the token that was next to be read
  have hbehind : ¬ u.start < fault.lookahead.start := by
    rw [lexicalErrors, List.map_eq_nil_iff, List.filter_eq_nil_iff] at hnone
    simpa [herr] using hnone u hu
  have hne := start_ne_of_error hahead hu hkind' herr
  show fault.token.start < u.start
  omega

/-- Each error that is found is an error token of the text. -/
lemma exists_token_of_lexical {text : List Char} {before : Token} {d : Diagnostic}
    (hd : d ∈ lexicalErrors (tokenize text) before) :
    d.lexical = true ∧ ∃ t ∈ tokenize text, t.kind = .error ∧ d.line = t.line ∧
      d.start = t.start ∧ d.length = t.length := by
  obtain ⟨t, ht, rfl⟩ := List.mem_map.mp hd
  simp only [List.mem_filter, decide_eq_true_eq] at ht
  exact ⟨rfl, t, ht.1, ht.2.1, rfl, rfl, rfl⟩

/-- A text that is not read has errors of the token reader, one behind the other, or a
fault and then such errors. -/
lemma findings_cases {text : List Char} {ds : List Diagnostic}
    (h : parseAll (tokenize text) = .error ds) :
    ∃ before, ds = lexicalErrors (tokenize text) before ∨
      ∃ t ∈ tokenize text, ∃ message, t.kind ≠ .error ∧
        ds = .atToken t message :: lexicalErrors (tokenize text) before ∧
        ∀ d ∈ lexicalErrors (tokenize text) before, t.start < d.start := by
  obtain ⟨e, -, -, hds⟩ | ⟨fault, hresult, ⟨hnone, hds⟩ | ⟨-, hds⟩⟩ := parseAll_eq_error h
  · exact ⟨_, .inl hds⟩
  · obtain ⟨htoken, hkind, hbefore⟩ := fault_before_errors hresult hnone
    exact ⟨_, .inr ⟨fault.token, htoken, fault.message, hkind, hds, hbefore _⟩⟩
  · exact ⟨_, .inl hds⟩

end Expr

open ExprMachine.Expr

/-- **The first wrong token is found**: a source without error tokens that does not compile
has one finding. It is at the first token that is refused where it stands, or has no
value, or is a literal too many, as `Progress.step` tells of the tokens without comments;
it has the message for this and the place and the line of the token, and names the token by
its text, or as the end. -/
theorem Source.finding_at_first_refused (s : Source)
    (hclean : ∀ t ∈ tokenize s.text, t.kind ≠ .error) (ds : List Diagnostic)
    (h : s.compile = .error ds) :
    ∃ before t behind p message,
      (tokenize s.text).filter (fun t => t.kind ≠ .comment) = before ++ t :: behind ∧
      before.foldlM Progress.step .start = .ok p ∧ p.step t = .error message ∧
      ds = [⟨t.line, if t.kind = .eof then " at end" else " at '" ++ t.lexeme ++ "'", message,
        t.start, t.length, false⟩] := by
  obtain ⟨fault, ⟨before, behind, p, hsplit, hpassed, hrefused, -⟩, rfl⟩ :=
    refused_of_clean hclean (Source.compile_eq_error_iff.mp h)
  exact ⟨before, fault.token, behind, p, fault.message, hsplit, hpassed, hrefused, rfl⟩

/-- A closing parenthesis behind a sign, in the second group of two: it is refused, and
neither the group that stays open nor what follows is reported. -/
theorem Source.finding_at_first_refused_sign :
    (∀ t ∈ tokenize (Source.ofString "((1 < 2) == // a\n-) 3 )(").text, t.kind ≠ .error) ∧
    (Source.ofString "((1 < 2) == // a\n-) 3 )(").compile =
      .error [⟨2, " at ')'", "expect expression", 18, 1, false⟩] ∧
    ∃ before t behind p message,
      (tokenize (Source.ofString "((1 < 2) == // a\n-) 3 )(").text).filter
        (fun t => t.kind ≠ .comment) = before ++ t :: behind ∧
      before.foldlM Progress.step .start = .ok p ∧ p.step t = .error message ∧
      t.start = 18 ∧ message = "expect expression" := by
  have hclean : ∀ t ∈ tokenize (Source.ofString "((1 < 2) == // a\n-) 3 )(").text,
      t.kind ≠ .error := by decide +kernel
  have hc : (Source.ofString "((1 < 2) == // a\n-) 3 )(").compile =
      .error [⟨2, " at ')'", "expect expression", 18, 1, false⟩] := by decide +kernel
  refine ⟨hclean, hc, ?_⟩
  obtain ⟨before, t, behind, p, message, hsplit, hpassed, hrefused, hds⟩ :=
    Source.finding_at_first_refused _ hclean _ hc
  simp only [List.cons.injEq, Diagnostic.mk.injEq] at hds
  exact ⟨before, t, behind, p, message, hsplit, hpassed, hrefused, hds.1.2.2.2.1.symm,
    hds.1.2.2.1.symm⟩

/-- **The shape of the findings**: a source that does not compile has no code and at least
one finding. Each finding has the place and the line of a token of the source, an error
token exactly if the token reader made the finding. The findings stand one behind the
other, and all but the first were made by the token reader. -/
theorem Source.findings_shape (s : Source) (ds : List Diagnostic) (h : s.compile = .error ds) :
    ds ≠ [] ∧ (∀ c, s.compile ≠ .ok c) ∧
      (∀ d ∈ ds, ∃ t ∈ tokenize s.text, d.line = t.line ∧ d.start = t.start ∧
        d.length = t.length ∧ (t.kind = .error ↔ d.lexical = true)) ∧
      ds.Pairwise (fun d d' => d.start < d'.start) ∧
      ∀ d ∈ ds.tail, d.lexical = true := by
  have hparse := Source.compile_eq_error_iff.mp h
  obtain ⟨hne, -⟩ := parseAll_error_tokens hparse
  refine ⟨hne, fun c hc => by simp [h] at hc, ?_⟩
  have hlexical : ∀ before, ∀ d ∈ lexicalErrors (tokenize s.text) before,
      ∃ t ∈ tokenize s.text, d.line = t.line ∧ d.start = t.start ∧
        d.length = t.length ∧ (t.kind = .error ↔ d.lexical = true) := by
    intro before d hd
    obtain ⟨hflag, t, ht, hkind, hline, hstart, hlength⟩ := exists_token_of_lexical hd
    exact ⟨t, ht, hline, hstart, hlength, iff_of_true hkind hflag⟩
  obtain ⟨before, rfl | ⟨t, ht, message, hkind, rfl, hbefore⟩⟩ := findings_cases hparse
  · refine ⟨hlexical before, pairwise_lexicalErrors s.text before, fun d hd => ?_⟩
    exact (exists_token_of_lexical (List.mem_of_mem_tail hd)).1
  · refine ⟨fun d hd => ?_, ?_, fun d hd => (exists_token_of_lexical hd).1⟩
    · rcases List.mem_cons.mp hd with rfl | hd
      · exact ⟨t, ht, rfl, rfl, rfl, iff_of_false hkind (by simp [Diagnostic.atToken])⟩
      · exact hlexical before d hd
    · exact List.pairwise_cons.mpr ⟨hbefore, pairwise_lexicalErrors s.text before⟩

/-- A sum without its left operand, with two characters behind it that open no token: the
fault comes first, and both characters are found after it. -/
theorem Source.findings_shape_sum :
    ∃ ds, (Source.ofString "(+ - @ 1\n- # 2").compile = .error ds ∧
      ds.map (·.start) = [1, 5, 11] ∧ ds.Pairwise (fun d d' => d.start < d'.start) ∧
      ∀ d ∈ ds.tail, d.lexical = true := by
  have hc : (Source.ofString "(+ - @ 1\n- # 2").compile =
      .error [⟨1, " at '+'", "expect expression", 1, 1, false⟩,
        ⟨1, "", "unexpected character: '@'", 5, 1, true⟩,
        ⟨2, "", "unexpected character: '#'", 11, 1, true⟩] := by decide +kernel
  obtain ⟨-, -, -, hsorted, htail⟩ := Source.findings_shape _ _ hc
  exact ⟨_, hc, rfl, hsorted, htail⟩

end ExprMachine
