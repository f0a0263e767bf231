import ExprMachine.Proofs.Chunk.Building
import ExprMachine.Proofs.Chunk.Placement
import ExprMachine.Proofs.Expr.Findings
import ExprMachine.Proofs.Expr.Headway

/-!
The parser comes to an end.

* `Reading.Accounts`: what has been written about the errors that were passed over and the
  first fault.
* `Reading.Stands`: how far a reading of a text has come. The token reader finds the next
  token from there (`Reading.Stands.exists_read`).
* `Reading.Follows`: a reading that has come as far as a parse. Each way to go on with a
  parse is a way to go on with the reading.
* `Reading.readsAs_parse`: the machine reads what the recursive parser reads. The induction
  is that of the recursive parser.
* `Reading.exists_done`: so the run from the start of any text comes to an end, and to what
  compiling the text comes to.
* `Source.reading_ends`: what holds of the whole run.
-/

namespace ExprMachine

open ExprMachine.Expr Parsed

namespace Parsed

/-- The first fault of a parse, if it has met one. -/
def fault? (p : Parsed) : Option Fault :=
  match p.result with
  | .ok _ => none
  | .error fault => some fault

/-- A fault that is met later does not count. -/
lemma fault?_bind (p : Parsed) (fault : Fault) :
    ({ p with result := p.result.bind fun _ => .error fault } : Parsed).fault? =
      p.fault?.or (some fault) := by
  obtain ⟨result, n, rest⟩ := p
  cases result <;> rfl

lemma fault?_applyUnary (op : UnaryOp) (line : ℕ) (p : Parsed) :
    (applyUnary op line p).fault? = p.fault? := by
  obtain ⟨result, n, rest⟩ := p
  cases result <;> rfl

lemma fault?_applyBinary (op : BinaryOp) (line : ℕ) (left right : Parsed) :
    (applyBinary op line left right).fault? = left.fault?.or right.fault? := by
  obtain ⟨result, n, rest⟩ := left
  obtain ⟨result', n', rest'⟩ := right
  cases result <;> cases result' <;> rfl

end Parsed

namespace Reading

variable {r r' : Reading} {text : List Char} {ts : List Token} {fault earlier : Option Fault}
  {n : ℕ}

/-! ### Findings -/

/-- The errors among some tokens, as they are reported. -/
def errorsOf (tokens : List Token) : List Diagnostic :=
  (tokens.filter fun t => t.kind = .error).map .ofErrorToken

lemma errorsOf_append (ts us : List Token) : errorsOf (ts ++ us) = errorsOf ts ++ errorsOf us := by
  simp [errorsOf]

/-- What is reported of the first fault: nothing if an error was passed over before it. -/
def headline (tokens : List Token) : Option Fault → List Diagnostic
  | none => []
  | some fault =>
      if (lexicalErrors tokens fault.lookahead).isEmpty then [.atToken fault.token fault.message]
      else []

/-- `Accounts tokens errors fault o`: what has been written about the errors that were passed
over and about the first fault. -/
structure Accounts (tokens : List Token) (errors : List Diagnostic) (fault : Option Fault)
    (o : Output) : Prop where
  findings : o.findings = headline tokens fault ++ errors
  panicking : o.panicking = true ↔ fault.isSome ∨ errors ≠ []

/-- Only the first fault is reported, and only if no error was passed over before it. -/
lemma Accounts.report {tokens : List Token} {current : Token} {o : Output}
    (h : Accounts tokens (lexicalErrors tokens current) fault o) (t : Token) (message : String) :
    Accounts tokens (lexicalErrors tokens current) (fault.or (some ⟨t, message, current⟩))
      (o.report t message) := by
  cases fault with
  | some fault =>
      have hpanicking : o.panicking = true := h.panicking.mpr (.inl rfl)
      rw [Output.report, if_pos hpanicking]
      exact h
  | none =>
      have hfindings : o.findings = lexicalErrors tokens current := h.findings
      by_cases hnone : lexicalErrors tokens current = []
      · have hcalm : ¬ o.panicking = true := by simp [h.panicking, hnone]
        rw [Output.report, if_neg hcalm]
        exact ⟨by simp [headline, hfindings, hnone], by simp⟩
      · have hpanicking : o.panicking = true := h.panicking.mpr (.inr hnone)
        rw [Output.report, if_pos hpanicking]
        exact ⟨by simp [headline, hfindings, hnone], by simp [hpanicking]⟩

lemma builder_report (o : Output) (t : Token) (message : String) :
    (o.report t message).builder = o.builder := by
  rw [Output.report]
  split_ifs <;> rfl

/-! ### How far a reading has come -/

/-- `r.Stands text ts fault n`: the reading of a text has found the next token. Left are the
significant tokens `ts`; the first fault so far is `fault`, and `n` constants have been
written. -/
structure Stands (r : Reading) (text : List Char) (ts : List Token) (fault : Option Fault)
    (n : ℕ) : Prop extends r.Placed where
  seeking : r.seeking = false
  stream : ∃ seen, tokenize text = seen ++ r.upcoming
  left : r.left = ts
  accounts : Accounts (tokenize text) (lexicalErrors (tokenize text) r.current) fault r.output
  size : r.output.builder.chunk.constants.size = n

/-- What is still to be done does not matter for this. -/
lemma Stands.withTasks (h : r.Stands text ts fault n) (tasks : List Task) :
    ({ r with tasks } : Reading).Stands text ts fault n :=
  ⟨⟨h.atEnd, h.found⟩, h.seeking, h.stream, h.left, h.accounts, h.size⟩

/-- Only the findings and the number of constants matter of what has been written. -/
lemma Stands.withOutput (h : r.Stands text ts fault n) {o : Output} {fault' : Option Fault} {m : ℕ}
    (haccounts : Accounts (tokenize text) (lexicalErrors (tokenize text) r.current) fault' o)
    (hsize : o.builder.chunk.constants.size = m) :
    ({ r with output := o } : Reading).Stands text ts fault' m :=
  ⟨⟨h.atEnd, h.found⟩, h.seeking, h.stream, h.left, haccounts, hsize⟩

/-- The next token is the first of those that are not moved past. -/
lemma Placed.exists_upcoming_eq (h : r.Placed) (hseeking : r.seeking = false) :
    ∃ behind, r.upcoming = r.current :: behind := by
  by_cases heof : r.current.kind = .eof
  · exact ⟨[], h.upcoming_of_eof heof⟩
  · exact ⟨_, upcoming_of_ne hseeking heof⟩

/-- The next token is the first of those that are left, the end token if there is none. -/
lemma Stands.current_eq (h : r.Stands text ts fault n) :
    r.current = Parsed.current (endToken (tokenize text)) ts := by
  rw [← h.left, Reading.left]
  rcases h.found h.seeking with hsignificant | heof
  · rw [upcoming_of_ne h.seeking (kind_ne_eof_of_isSignificant hsignificant),
      List.filter_cons_of_pos hsignificant]
    rfl
  · obtain ⟨seen, hseen⟩ := h.stream
    rw [hseen, h.upcoming_of_eof heof]
    simp [Token.isSignificant, heof, Parsed.current, endToken]

/-- Before the end of the text, the next token is the first of those that are left. -/
lemma Stands.current_eq_head {t : Token} (h : r.Stands text (t :: ts) fault n) : r.current = t :=
  h.current_eq

/-- Where no token is left, the end token is next. -/
lemma Stands.current_kind (h : r.Stands text [] fault n) : r.current.kind = .eof := by
  obtain ⟨-, -, heof, -⟩ := exists_tokenize_eq text
  rw [h.current_eq]
  exact heof

/-- The errors before a token that stands in a text are those that were passed over. -/
lemma lexicalErrors_eq_errorsOf {seen behind : List Token} {t : Token}
    (h : tokenize text = seen ++ t :: behind) (hcomment : t.kind ≠ .comment) :
    lexicalErrors (tokenize text) t = errorsOf seen := by
  have huncommented :
      uncommented (tokenize text) = uncommented seen ++ t :: uncommented behind := by
    rw [h]
    simp [uncommented, hcomment]
  rw [lexicalErrors_of_eq huncommented, errorsOf, uncommented, List.filter_filter]
  congr 1
  refine List.filter_congr fun u _ => ?_
  by_cases herror : u.kind = .error <;> simp [herror]

lemma Placed.current_kind_ne (h : r.Placed) (hseeking : r.seeking = false) :
    r.current.kind ≠ .comment ∧ r.current.kind ≠ .error := by
  rcases h.found hseeking with hsignificant | heof
  · simp only [Token.isSignificant, decide_eq_true_eq] at hsignificant
    exact ⟨hsignificant.1, hsignificant.2.1⟩
  · simp [heof]

/-- Where the token reader has found a token, it has accounted for the errors before it. -/
lemma Finds.stands {seen : List Token} (h : r.Finds r') (hseeking : r.seeking = true)
    (hstream : tokenize text = seen ++ r.scanner.tokens)
    (haccounts : Accounts (tokenize text) (errorsOf seen) fault r.output)
    (hsize : r.output.builder.chunk.constants.size = n) : r'.Stands text r.left fault n := by
  obtain ⟨passed, hpassed, -, houtput⟩ := h.passes
  obtain ⟨behind, hbehind⟩ := h.toPlaced.exists_upcoming_eq h.seeking
  have hsplit : tokenize text = (seen ++ passed) ++ r'.current :: behind := by
    rw [hstream, hpassed, hbehind, List.append_assoc]
  have herrors := lexicalErrors_eq_errorsOf hsplit (h.toPlaced.current_kind_ne h.seeking).1
  refine { h.toPlaced with
    seeking := h.seeking
    stream := ⟨seen ++ passed, by rw [hsplit, hbehind]⟩
    left := h.left_eq hseeking
    accounts := ⟨?_, ?_⟩
    size := by rw [houtput]; exact hsize }
  · rw [herrors, houtput, errorsOf_append, haccounts.findings, List.append_assoc]
    rfl
  · rw [herrors, houtput, errorsOf_append]
    simp only [Bool.or_eq_true, haccounts.panicking]
    rw [or_assoc]
    refine or_congr_right ?_
    simp [errorsOf, imp_iff_not_or]

/-- A token that is read is no error, so none is added to those that were passed over. -/
lemma Stands.exists_seen (h : r.Stands text ts fault n) :
    ∃ seen, tokenize text = seen ++ r.advance.scanner.tokens ∧
      errorsOf seen = lexicalErrors (tokenize text) r.current ∧ r.advance.left = ts.tail := by
  obtain ⟨seen, hseen⟩ := h.stream
  obtain ⟨behind, hbehind⟩ := h.toPlaced.exists_upcoming_eq h.seeking
  have hkind := h.toPlaced.current_kind_ne h.seeking
  have herrors : errorsOf seen = lexicalErrors (tokenize text) r.current :=
    (lexicalErrors_eq_errorsOf (hseen.trans (by rw [hbehind])) hkind.1).symm
  rcases h.found h.seeking with hsignificant | heof
  · refine ⟨seen ++ [r.current], ?_, ?_, ?_⟩
    · rw [hseen, upcoming_of_ne h.seeking (kind_ne_eof_of_isSignificant hsignificant),
        List.append_assoc]
      rfl
    · rw [← herrors, errorsOf_append]
      simp [errorsOf, hkind.2]
    · have hts : ts = r.current :: r.advance.left :=
        h.left.symm.trans (left_advance h.seeking hsignificant)
      rw [hts, List.tail_cons]
  · refine ⟨seen, by rw [hseen, upcoming_of_eof heof]; rfl, herrors, ?_⟩
    have hnil : r.left = [] := by
      rw [Reading.left, h.upcoming_of_eof heof]
      simp [Token.isSignificant, heof]
    rw [left_advance_of_eof heof, ← h.left, hnil, List.tail_nil]

/-- Reading a token, from where the next one has been found to where the one behind it has. -/
lemma Stands.exists_read (h : r.Stands text ts fault n) (tasks : List Task) :
    ∃ r', ({ r with tasks } : Reading).advance.Reaches r' ∧ r'.Stands text ts.tail fault n ∧
      r'.tasks = tasks ∧ r'.previous = r.current ∧ r'.output.builder = r.output.builder := by
  obtain ⟨seen, hstream, herrors, hleft⟩ := (h.withTasks tasks).exists_seen
  obtain ⟨r', hreaches, hfinds⟩ := exists_finds (r := ({ r with tasks } : Reading).advance) rfl
  have haccounts : Accounts (tokenize text) (errorsOf seen) fault r.output := by
    rw [herrors]
    exact h.accounts
  have hstands := hfinds.stands rfl hstream haccounts h.size
  rw [hleft] at hstands
  exact ⟨r', hreaches, hstands, hfinds.tasks, hfinds.previous, hfinds.builder_eq⟩

lemma Stands.report (h : r.Stands text ts fault n) (t : Token) (message : String) :
    (r.report t message).Stands text ts (fault.or (some ⟨t, message, r.current⟩)) n :=
  h.withOutput (h.accounts.report t message) (by rw [builder_report]; exact h.size)

lemma Stands.emit (h : r.Stands text ts fault n) (op : Opcode) (line : ℕ) :
    (r.emit op line).Stands text ts fault n :=
  h.withOutput ⟨h.accounts.findings, h.accounts.panicking⟩ h.size

/-! ### Reading as the recursive parser does -/

/-- `r.Follows text earlier b p`: the reading has come as far as the parse `p`, before which
the first fault was `earlier` and the code was `b`. -/
structure Follows (r : Reading) (text : List Char) (earlier : Option Fault) (b : Chunk.Builder)
    (p : Parsed) : Prop extends r.Stands text p.rest (earlier.or p.fault?) p.literals where
  builder : ∀ e, p.result = .ok e → r.output.builder = e.emit b

variable {b : Chunk.Builder} {p inner left right : Parsed} {tasks : List Task}

lemma Follows.withTasks (h : r.Follows text earlier b p) (tasks : List Task) :
    ({ r with tasks } : Reading).Follows text earlier b p :=
  { h.toStands.withTasks tasks with builder := h.builder }

/-- A fault at a token that has been read. -/
lemma Stands.follows_report (h : r.Stands text ts earlier n) (t : Token) (message : String) :
    (r.report t message).Follows text earlier b
      (faultBefore (endToken (tokenize text)) t message n ts) where
  toStands := by
    have hreport := h.report t message
    rw [h.current_eq] at hreport
    exact hreport
  builder _ he := by cases he

/-- A literal that has been read. -/
lemma Stands.follows_load (h : r.Stands text ts earlier n) (v : Value) :
    (r.load v).Follows text earlier r.output.builder
      (ofLiteral (endToken (tokenize text)) r.previous (.ok v) n ts) := by
  rw [ofLiteral]
  split_ifs with hn
  · have hroom : r.output.builder.chunk.constants.size < Chunk.maxConstants := by
      rw [h.size]
      exact hn
    have hload : r.load v = { r with output := { r.output with
        builder := r.output.builder.load v (Int64.ofNat r.previous.line) } } := by
      rw [load, Output.load, Chunk.Builder.emitConstant_of_lt _ _ _ hroom]
      rfl
    rw [hload]
    have hsize : (r.output.builder.load v (Int64.ofNat r.previous.line)).chunk.constants.size =
        n + 1 := by
      rw [Chunk.Builder.constants_load, Array.size_push, h.size]
    have hnone : earlier.or (⟨.ok (.literal v r.previous.line), n + 1, ts⟩ : Parsed).fault? =
        earlier := Option.or_none
    refine { toStands := ?_, builder := fun e he => ?_ }
    · rw [hnone]
      exact h.withOutput ⟨h.accounts.findings, h.accounts.panicking⟩ hsize
    · obtain rfl := Except.ok.inj he
      rfl
  · have hfull : ¬ r.output.builder.chunk.constants.size < Chunk.maxConstants := by
      rw [h.size]
      exact hn
    have hload : r.load v = r.report r.previous "too many constants in one chunk" := by
      rw [load, Output.load, Chunk.Builder.emitConstant_of_not_lt _ _ _ hfull]
      rfl
    rw [hload]
    exact h.follows_report _ _

/-- A token of the kind that is to come is read. -/
lemma Follows.take {kind : Token.Kind} {message : String} (h : r.Follows text earlier b p)
    (htasks : r.tasks = .expect kind message :: tasks) (hkind : r.current.kind = kind) :
    ∃ r', r.Reaches r' ∧ r'.tasks = tasks ∧ r'.previous = r.current ∧
      r'.Follows text earlier b { p with rest := p.rest.tail } := by
  have hleads : r.Leads ({ r with tasks } : Reading).advance :=
    leads_of_perform h.seeking htasks (if_pos hkind)
  obtain ⟨r', hreaches, hstands, htasks', hprevious, hbuilder⟩ := h.toStands.exists_read tasks
  exact ⟨r', .head hleads hreaches, htasks', hprevious,
    { hstands with builder := fun e he => hbuilder.trans (h.builder e he) }⟩

/-- A token of another kind is a fault. -/
lemma Follows.miss {kind : Token.Kind} {message : String} (h : r.Follows text earlier b p)
    (htasks : r.tasks = .expect kind message :: tasks) (hkind : r.current.kind ≠ kind) :
    ∃ r', r.Reaches r' ∧ r'.tasks = tasks ∧ r'.Follows text earlier b
      { p with result := p.result.bind fun _ => .error ⟨r.current, message, r.current⟩ } := by
  have hleads : r.Leads (({ r with tasks } : Reading).report r.current message) :=
    leads_of_perform h.seeking htasks (if_neg hkind)
  refine ⟨_, .single hleads, rfl, { toStands := ?_, builder := fun e he => ?_ }⟩
  · rw [fault?_bind, ← Option.or_assoc]
    exact (h.toStands.withTasks tasks).report r.current message
  · cases hresult : p.result <;> simp [hresult, Except.bind] at he

/-- A group is closed, or it is not. -/
lemma Follows.closeParen (h : r.Follows text earlier b p)
    (htasks : r.tasks = .expect .rightParen "expect ')' after expression" :: tasks) :
    ∃ r', r.Reaches r' ∧ r'.tasks = tasks ∧
      r'.Follows text earlier b (closeParen (endToken (tokenize text)) p) := by
  obtain ⟨result, n, rest⟩ := p
  cases rest with
  | nil =>
      have heof := h.toStands.current_kind
      obtain ⟨r', hreaches, htasks', hfollows⟩ := h.miss htasks (by simp [heof])
      rw [h.toStands.current_eq] at hfollows
      exact ⟨r', hreaches, htasks', hfollows⟩
  | cons t ts =>
      have ht := h.toStands.current_eq_head
      rw [Parsed.closeParen]
      dsimp only
      split_ifs with hkind
      · obtain ⟨r', hreaches, htasks', -, hfollows⟩ := h.take htasks (by rw [ht, hkind])
        exact ⟨r', hreaches, htasks', hfollows⟩
      · obtain ⟨r', hreaches, htasks', hfollows⟩ := h.miss htasks (by rw [ht]; exact hkind)
        rw [ht] at hfollows
        exact ⟨r', hreaches, htasks', hfollows⟩

/-- The instruction of a sign is written. -/
lemma Follows.applyUnary {t : Token} {op : UnaryOp} (h : r.Follows text earlier b inner)
    (htasks : r.tasks = .sign t :: tasks) (hop : UnaryOp.ofKind? t.kind = some op) :
    ∃ r', r.Reaches r' ∧ r'.tasks = tasks ∧
      r'.Follows text earlier b (applyUnary op t.line inner) := by
  have hleads : r.Leads (({ r with tasks } : Reading).emit (.unary op) t.line) :=
    leads_of_perform h.seeking htasks (by simp [perform, hop])
  refine ⟨_, .single hleads, rfl, { toStands := ?_, builder := fun e he => ?_ }⟩
  · rw [fault?_applyUnary]
    exact (h.toStands.withTasks tasks).emit _ _
  · obtain ⟨result, n, rest⟩ := inner
    cases result with
    | error fault => cases he
    | ok a =>
        obtain rfl := Except.ok.inj he
        show r.output.builder.writeOp _ _ = _
        rw [h.builder a rfl]
        rfl

/-- The instruction of an operator is written behind those of its operands. -/
lemma Follows.applyBinary {t : Token} {op : BinaryOp}
    (hleft : ∀ a, left.result = .ok a → r.output.builder = a.emit b)
    (hright : r'.Follows text (earlier.or left.fault?) r.output.builder right)
    (htasks : r'.tasks = .operator t :: tasks) (hop : BinaryOp.ofKind? t.kind = some op) :
    ∃ r'', r'.Reaches r'' ∧ r''.tasks = tasks ∧
      r''.Follows text earlier b (applyBinary op t.line left right) := by
  have hopcode : t.kind.opcode? = some (.binary op) := by rw [Token.Kind.opcode?_eq, hop]; rfl
  have hleads : r'.Leads (({ r' with tasks } : Reading).emit (.binary op) t.line) :=
    leads_of_perform hright.seeking htasks (by simp [perform, hopcode])
  refine ⟨_, .single hleads, rfl, { toStands := ?_, builder := fun e he => ?_ }⟩
  · rw [fault?_applyBinary, ← Option.or_assoc]
    exact (hright.toStands.withTasks tasks).emit _ _
  · obtain ⟨a, c, ha, hc⟩ := exists_ok_of_applyBinary_ok he
    simp only [Parsed.applyBinary, ha, hc] at he
    obtain rfl := Except.ok.inj he
    show r'.output.builder.writeOp _ _ = _
    rw [hright.builder c hc, hleft a ha]
    rfl

/-- `SameLevel level rank`: the same operators bind tightly enough for a level of the
recursive parser and for a precedence. -/
structure SameLevel (level rank : ℕ) : Prop where
  pos : 0 < rank
  iff : ∀ op : BinaryOp, level ≤ op.strength ↔ rank ≤ op.strength + 3

lemma sameLevel_assignment : SameLevel 1 Precedence.assignment.rank where
  pos := Nat.one_pos
  iff op := by cases op <;> decide

lemma sameLevel_unary : SameLevel 5 Precedence.unary.rank where
  pos := Nat.succ_pos 7
  iff op := by cases op <;> decide

/-- The operands of an operator bind more tightly than the operator itself. -/
lemma sameLevel_operator {t : Token} {op : BinaryOp} (hop : BinaryOp.ofKind? t.kind = some op) :
    SameLevel (op.strength + 1) (t.kind.rule.precedence.rank + 1) where
  pos := Nat.succ_pos _
  iff op' := by
    have hrank : t.kind.rule.precedence.rank = op.strength + 3 := by
      rw [Token.Kind.rank_rule, hop]
      rfl
    omega

/-- A token stops the machine where it stops the recursive parser. -/
lemma SameLevel.not_le_rank {level rank : ℕ} (h : SameLevel level rank)
    (hstands : r.Stands text ts fault n) (hstop : Stops level ts) :
    ¬ rank ≤ r.current.kind.rule.precedence.rank := by
  cases ts with
  | nil => exact not_le_rank_of_eof hstands.current_kind h.pos
  | cons t ts =>
      rw [hstands.current_eq_head, Token.Kind.rank_rule]
      cases hop : BinaryOp.ofKind? t.kind with
      | none => exact Nat.not_le.mpr h.pos
      | some op =>
          have hlt := stops_cons_iff.mp hstop op hop
          exact fun hle => Nat.not_le.mpr hlt ((h.iff op).mpr hle)

/-- `ReadsAs text level n ts p`: called before the tokens `ts`, the machine comes to what the
parse `p` has come to. -/
def ReadsAs (text : List Char) (level n : ℕ) (ts : List Token) (p : Parsed) : Prop :=
  ∀ (r : Reading) rank tasks earlier, SameLevel level rank → r.tasks = .operand rank :: tasks →
    r.Stands text ts earlier n →
      ∃ r', r.Reaches r' ∧ r'.tasks = tasks ∧ r'.Follows text earlier r.output.builder p

/-- The same of the loop over the operators behind an operand. -/
def GoesOnAs (text : List Char) (level : ℕ) (left whole : Parsed) : Prop :=
  ∀ (r : Reading) rank tasks earlier b, SameLevel level rank →
    r.tasks = .operators rank :: tasks → r.Follows text earlier b left →
      ∃ r', r.Reaches r' ∧ r'.tasks = tasks ∧ r'.Follows text earlier b whole

/-- A call reads a token and then goes by what that token opens. -/
lemma Stands.exists_opening {rank : ℕ} (h : r.Stands text ts earlier n)
    (htasks : r.tasks = .operand rank :: tasks) :
    ∃ r', r.Reaches r' ∧ r'.Stands text ts.tail earlier n ∧
      r'.tasks = .opening rank :: tasks ∧ r'.previous = r.current ∧
      r'.output.builder = r.output.builder := by
  have hleads := leads_call h.seeking htasks
  obtain ⟨r', hreaches, hstands⟩ := h.exists_read (.opening rank :: tasks)
  exact ⟨r', .head hleads hreaches, hstands⟩

/-- A token that opens no operand is a fault. -/
lemma Stands.refuse {rank : ℕ} (h : r.Stands text ts earlier n)
    (htasks : r.tasks = .opening rank :: tasks) (hnone : r.previous.kind.rule.opener? = none) :
    ∃ r', r.Reaches r' ∧ r'.tasks = tasks ∧ r'.Follows text earlier b
      (faultBefore (endToken (tokenize text)) r.previous "expect expression" n ts) := by
  have hleads : r.Leads (({ r with tasks } : Reading).report r.previous "expect expression") :=
    leads_of_perform h.seeking htasks (by simp [perform, hnone])
  exact ⟨_, .single hleads, rfl, (h.withTasks tasks).follows_report _ _⟩

/-- A token that opens an operand does what it does there, and then the operators behind
the operand are read. -/
lemma leads_openWith (opener : Opener) {rank : ℕ} (hseeking : r.seeking = false)
    (htasks : r.tasks = .opening rank :: tasks)
    (hopener : r.previous.kind.rule.opener? = some opener) :
    r.Leads (({ r with tasks := .operators rank :: tasks } : Reading).openWith opener) :=
  leads_of_perform hseeking htasks (by simp [perform, hopener, push])

/-- An operator that has been read asks for the operand behind it. -/
lemma leads_join {t : Token} {op : BinaryOp} (hseeking : r.seeking = false)
    (htasks : r.tasks = .joining :: tasks) (hprevious : r.previous = t)
    (hop : BinaryOp.ofKind? t.kind = some op) :
    r.Leads { r with
      tasks := .operand (t.kind.rule.precedence.rank + 1) :: .operator t :: tasks } := by
  subst hprevious
  have hjoiner : r.previous.kind.rule.joiner? = some .operator := by
    rw [Token.Kind.joiner?_rule, hop]
    rfl
  exact leads_of_perform hseeking htasks (by rw [perform, hjoiner]; rfl)

/-- A literal opens an operand: its value is loaded, or there is something wrong with it. -/
lemma exists_openWith_eq {v : Except String Value} (hv : literal? r.previous = some v) :
    ∃ opener, r.previous.kind.rule.opener? = some opener ∧
      r.openWith opener =
        match v with
        | .ok v => r.load v
        | .error message => r.report r.previous message := by
  rw [literal?] at hv
  split at hv
  case h_1 hkind =>
    refine ⟨.number, by rw [hkind]; rfl, ?_⟩
    rw [openWith]
    cases hnumber : Number.ofLiteral? r.previous.lexeme with
    | some x | none =>
        simp only [hnumber, Option.some.injEq] at hv ⊢
        subst hv
        rfl
  case h_2 hkind | h_3 hkind | h_4 hkind =>
    obtain rfl := Option.some.inj hv
    exact ⟨.word, by rw [hkind]; rfl, by simp only [openWith, hkind]⟩
  case h_5 => cases hv

/-- What a literal does in the place of an operand. -/
lemma Stands.literal {rank : ℕ} {v : Except String Value} (h : r.Stands text ts earlier n)
    (htasks : r.tasks = .opening rank :: tasks) (hv : literal? r.previous = some v) :
    ∃ r', r.Reaches r' ∧ r'.tasks = .operators rank :: tasks ∧
      r'.Follows text earlier r.output.builder
        (ofLiteral (endToken (tokenize text)) r.previous v n ts) := by
  have hstands := h.withTasks (.operators rank :: tasks)
  obtain ⟨opener, hopener, hopen⟩ :=
    exists_openWith_eq (r := { r with tasks := .operators rank :: tasks }) hv
  have hleads := leads_openWith opener h.seeking htasks hopener
  rw [hopen] at hleads
  cases v with
  | ok v => exact ⟨_, .single hleads, rfl, hstands.follows_load v⟩
  | error message => exact ⟨_, .single hleads, rfl, hstands.follows_report _ message⟩

/-- A sign opens an operand. -/
lemma opener?_of_sign {t : Token} {op : UnaryOp} (hop : UnaryOp.ofKind? t.kind = some op) :
    t.kind.rule.opener? = some .sign := by
  have hkind := mem_signs_iff.mpr hop
  simp only [signs, List.mem_cons, Prod.mk.injEq, List.not_mem_nil, or_false] at hkind
  rcases hkind with ⟨hk, -⟩ | ⟨hk, -⟩ <;> rw [hk] <;> rfl

/-- A token that is neither a parenthesis, nor a sign, nor a literal opens no operand. -/
lemma opener?_of_other {t : Token} (hp : t.kind ≠ .leftParen) (hu : UnaryOp.ofKind? t.kind = none)
    (hl : literal? t = none) : t.kind.rule.opener? = none := by
  have hliteral := literal?_eq_none_iff.mp hl
  simp only [Token.isLiteral, decide_eq_false_iff_not, not_or] at hliteral
  generalize t.kind = k at hp hu hliteral
  cases k with
  | leftParen => exact absurd rfl hp
  | minus => cases hu
  | bang => cases hu
  | number => exact absurd rfl hliteral.1
  | keyword w =>
      cases w with
      | trueWord => exact absurd rfl hliteral.2.1
      | falseWord => exact absurd rfl hliteral.2.2.1
      | nilWord => exact absurd rfl hliteral.2.2.2
      | _ => rfl
  | _ => rfl

/-- **The machine reads what the recursive parser reads.** -/
lemma readsAs_parse (text : List Char) :
    (∀ level n ts, ReadsAs text level n ts (parse (endToken (tokenize text)) level n ts).val) ∧
      ∀ level left, GoesOnAs text level left (climb (endToken (tokenize text)) level left).val := by
  refine parse_climb_induction (endToken (tokenize text)) (P := ReadsAs text)
    (C := GoesOnAs text) ?_ ?_ ?_ ?_ ?_ ?_ ?_
  · -- no token is left
    intro level n r rank tasks earlier hlevel htasks hstands
    obtain ⟨r₁, hreaches₁, hstands₁, htasks₁, hprevious, -⟩ := hstands.exists_opening htasks
    have hnone : r₁.previous.kind.rule.opener? = none := by
      rw [hprevious, hstands.current_kind]
      rfl
    obtain ⟨r₂, hreaches₂, htasks₂, hfollows⟩ := hstands₁.refuse htasks₁ hnone
    rw [hprevious, hstands.current_eq] at hfollows
    exact ⟨r₂, hreaches₁.trans hreaches₂, htasks₂, hfollows⟩
  · -- an opening parenthesis
    intro level n t ts inner whole ht hinner hwhole r rank tasks earlier hlevel htasks hstands
    obtain ⟨r₁, hreaches₁, hstands₁, htasks₁, hprevious, hbuilder⟩ := hstands.exists_opening htasks
    have hkind : r₁.previous.kind = .leftParen := by
      rw [hprevious, hstands.current_eq_head, ht]
    have hleads := leads_openWith .group hstands₁.seeking htasks₁ (by rw [hkind]; rfl)
    obtain ⟨r₂, hreaches₂, htasks₂, hfollows₂⟩ :=
      hinner _ _ _ earlier sameLevel_assignment rfl (hstands₁.withTasks _)
    obtain ⟨r₃, hreaches₃, htasks₃, hfollows₃⟩ := hfollows₂.closeParen htasks₂
    obtain ⟨r₄, hreaches₄, htasks₄, hfollows₄⟩ := hwhole _ _ _ _ _ hlevel htasks₃ hfollows₃
    have hreaches : r₁.Reaches r₄ := .head hleads ((hreaches₂.trans hreaches₃).trans hreaches₄)
    exact ⟨r₄, hreaches₁.trans hreaches, htasks₄, hbuilder ▸ hfollows₄⟩
  · -- a sign
    intro level n t ts op inner whole hop hinner hwhole r rank tasks earlier hlevel htasks hstands
    obtain ⟨r₁, hreaches₁, hstands₁, htasks₁, hprevious, hbuilder⟩ := hstands.exists_opening htasks
    rw [hstands.current_eq_head] at hprevious
    have hopener : r₁.previous.kind.rule.opener? = some .sign := by
      rw [hprevious]
      exact opener?_of_sign hop
    have hleads := leads_openWith .sign hstands₁.seeking htasks₁ hopener
    obtain ⟨r₂, hreaches₂, htasks₂, hfollows₂⟩ :=
      hinner _ _ (.sign r₁.previous :: .operators rank :: tasks) earlier sameLevel_unary rfl
        (hstands₁.withTasks _)
    rw [hprevious] at htasks₂
    obtain ⟨r₃, hreaches₃, htasks₃, hfollows₃⟩ := hfollows₂.applyUnary htasks₂ hop
    obtain ⟨r₄, hreaches₄, htasks₄, hfollows₄⟩ := hwhole _ _ _ _ _ hlevel htasks₃ hfollows₃
    have hreaches : r₁.Reaches r₄ := .head hleads ((hreaches₂.trans hreaches₃).trans hreaches₄)
    exact ⟨r₄, hreaches₁.trans hreaches, htasks₄, hbuilder ▸ hfollows₄⟩
  · -- a literal
    intro level n t ts v whole hv hwhole r rank tasks earlier hlevel htasks hstands
    obtain ⟨r₁, hreaches₁, hstands₁, htasks₁, hprevious, hbuilder⟩ := hstands.exists_opening htasks
    rw [hstands.current_eq_head] at hprevious
    obtain ⟨r₂, hreaches₂, htasks₂, hfollows₂⟩ :=
      hstands₁.literal htasks₁ (by rw [hprevious]; exact hv)
    rw [hprevious, hbuilder] at hfollows₂
    obtain ⟨r₃, hreaches₃, htasks₃, hfollows₃⟩ := hwhole _ _ _ _ _ hlevel htasks₂ hfollows₂
    exact ⟨r₃, (hreaches₁.trans hreaches₂).trans hreaches₃, htasks₃, hfollows₃⟩
  · -- any other token
    intro level n t ts hp hu hl r rank tasks earlier hlevel htasks hstands
    obtain ⟨r₁, hreaches₁, hstands₁, htasks₁, hprevious, -⟩ := hstands.exists_opening htasks
    rw [hstands.current_eq_head] at hprevious
    obtain ⟨r₂, hreaches₂, htasks₂, hfollows₂⟩ :=
      hstands₁.refuse htasks₁ (by rw [hprevious]; exact opener?_of_other hp hu hl)
    rw [hprevious] at hfollows₂
    exact ⟨r₂, hreaches₁.trans hreaches₂, htasks₂, hfollows₂⟩
  · -- the loop stops
    intro level left hstop r rank tasks earlier b hlevel htasks hfollows
    have hleads : r.Leads ({ r with tasks } : Reading) :=
      leads_of_perform hfollows.seeking htasks
        (if_neg (hlevel.not_le_rank hfollows.toStands hstop))
    exact ⟨_, .single hleads, rfl, hfollows.withTasks tasks⟩
  · -- the loop before an operator that is strong enough
    intro level result n t ts op right whole hop hle hright hwhole r rank tasks earlier b hlevel
      htasks hfollows
    have hcurrent := hfollows.toStands.current_eq_head
    have hiterates : rank ≤ r.current.kind.rule.precedence.rank := by
      rw [hcurrent, Token.Kind.rank_rule, hop]
      exact (hlevel.iff op).mp hle
    have hleads := leads_iterate hfollows.seeking htasks hiterates
    obtain ⟨r₁, hreaches₁, hstands₁, htasks₁, hprevious, hbuilder⟩ :=
      hfollows.toStands.exists_read (.joining :: .operators rank :: tasks)
    rw [hcurrent] at hprevious
    have hleads₁ := leads_join hstands₁.seeking htasks₁ hprevious hop
    obtain ⟨r₂, hreaches₂, htasks₂, hfollows₂⟩ :=
      hright _ _ _ _ (sameLevel_operator hop) rfl (hstands₁.withTasks _)
    obtain ⟨r₃, hreaches₃, htasks₃, hfollows₃⟩ := Follows.applyBinary (r := r) (b := b)
      hfollows.builder (hbuilder ▸ hfollows₂) htasks₂ hop
    obtain ⟨r₄, hreaches₄, htasks₄, hfollows₄⟩ := hwhole _ _ _ _ _ hlevel htasks₃ hfollows₃
    have hreaches : r₁.Reaches r₄ := .head hleads₁ ((hreaches₂.trans hreaches₃).trans hreaches₄)
    exact ⟨r₄, (Relation.ReflTransGen.head hleads hreaches₁).trans hreaches, htasks₄, hfollows₄⟩

/-! ### The whole text -/

/-- The parse of a whole text. -/
def wholeParse (text : List Char) : Parsed :=
  parseTokens (endToken (tokenize text)) ((tokenize text).filter Token.isSignificant)

/-- All findings about a whole text. -/
def wholeFindings (text : List Char) : List Diagnostic :=
  headline (tokenize text) (wholeParse text).fault? ++
    lexicalErrors (tokenize text) (Parsed.current (endToken (tokenize text)) (wholeParse text).rest)

/-- A text is read if nothing is found, else there are its findings. -/
lemma parseAll_tokenize (text : List Char) :
    parseAll (tokenize text) =
      match (wholeParse text).result with
      | .ok e => if (wholeFindings text).isEmpty then .ok e else .error (wholeFindings text)
      | .error _ => .error (wholeFindings text) := by
  rw [parseAll, wholeFindings, fault?, ← wholeParse]
  cases (wholeParse text).result with
  | ok e =>
      simp only [headline, List.nil_append]
      rfl
  | error fault =>
      simp only [headline]
      split_ifs <;> rfl

/-- A text with a fault has findings. -/
lemma wholeFindings_ne_nil {fault : Fault} (h : (wholeParse text).result = .error fault) :
    wholeFindings text ≠ [] := by
  have hparse := parseAll_tokenize text
  rw [h] at hparse
  exact (parseAll_error_tokens hparse).1

/-- The last instruction makes the code of a text complete. -/
lemma Follows.outcome_emit (h : r.Follows text none .new (wholeParse text))
    (hprevious : ∀ e, (wholeParse text).result = .ok e → r.previous = endToken (tokenize text)) :
    (r.emit .ret r.previous.line).outcome = compileBuilder text := by
  have hfindings : (r.emit .ret r.previous.line).output.findings = wholeFindings text := by
    have hwritten := h.accounts.findings
    rw [h.toStands.current_eq, Option.none_or] at hwritten
    exact hwritten
  rw [outcome, hfindings, compileBuilder, parseAll_tokenize]
  cases hresult : (wholeParse text).result with
  | ok e =>
      have hassemble : e.assemble (endToken (tokenize text)).line =
          (r.emit .ret r.previous.line).output.builder := by
        rw [Expr.assemble, ← h.builder e hresult, ← hprevious e hresult]
        rfl
      dsimp only
      split_ifs
      · exact congrArg Except.ok hassemble.symm
      · rfl
  | error fault =>
      dsimp only
      rw [if_neg (by simpa using wholeFindings_ne_nil hresult)]
      rfl

/-- Behind the expression the text ends, or it does not. -/
lemma Follows.expectEnd (h : r.Follows text earlier b
      (parse (endToken (tokenize text)) 1 0 ((tokenize text).filter Token.isSignificant)).val)
    (htasks : r.tasks = .expect .eof "expect end of expression" :: tasks) :
    ∃ r', r.Reaches r' ∧ r'.tasks = tasks ∧ r'.Follows text earlier b (wholeParse text) ∧
      ∀ e, (wholeParse text).result = .ok e → r'.previous = endToken (tokenize text) := by
  rw [wholeParse, parseTokens]
  generalize (parse (endToken (tokenize text)) 1 0
    ((tokenize text).filter Token.isSignificant)).val = p at h
  obtain ⟨result, n, rest⟩ := p
  cases rest with
  | nil =>
      obtain ⟨r', hreaches, htasks', hprevious, hfollows⟩ :=
        h.take htasks h.toStands.current_kind
      exact ⟨r', hreaches, htasks', hfollows, fun _ _ => hprevious.trans h.toStands.current_eq⟩
  | cons t ts =>
      have ht := h.toStands.current_eq_head
      have hsignificant : t.isSignificant = true := by
        have hmem : t ∈ r.left := h.left ▸ List.mem_cons_self
        exact (List.mem_filter.mp hmem).2
      obtain ⟨r', hreaches, htasks', hfollows⟩ :=
        h.miss htasks (by rw [ht]; exact kind_ne_eof_of_isSignificant hsignificant)
      rw [ht] at hfollows
      refine ⟨r', hreaches, htasks', hfollows, fun e he => ?_⟩
      cases result <;> cases he

/-- **The run from the start of any text comes to an end**, and to what compiling the text
comes to. -/
lemma exists_done (text : List Char) :
    ∃ r, (start text).Reaches r ∧ r.IsDone ∧ r.outcome = compileBuilder text := by
  -- the first token is found
  obtain ⟨r₁, hreaches₁, hfinds⟩ := exists_finds (r := start text) rfl
  have haccounts : Accounts (tokenize text) (errorsOf []) none (start text).output :=
    ⟨rfl, by simp [start, errorsOf]⟩
  have hstream : tokenize text = [] ++ (start text).scanner.tokens := rfl
  have hstands := hfinds.stands rfl hstream haccounts rfl
  have hleft : (start text).left = (tokenize text).filter Token.isSignificant := rfl
  have hbuilder : r₁.output.builder = .new := hfinds.builder_eq
  rw [hleft] at hstands
  -- an expression, the end of the text, the last instruction
  obtain ⟨r₂, hreaches₂, htasks₂, hfollows₂⟩ :=
    (readsAs_parse text).1 1 0 _ r₁ _ _ none sameLevel_assignment hfinds.tasks hstands
  obtain ⟨r₃, hreaches₃, htasks₃, hfollows₃, hprevious₃⟩ := hfollows₂.expectEnd htasks₂
  have hfinish : r₃.Leads (({ r₃ with tasks := [] } : Reading).emit .ret r₃.previous.line) :=
    leads_of_perform hfollows₃.seeking htasks₃ rfl
  rw [hbuilder] at hfollows₃
  exact ⟨_, (hreaches₁.trans hreaches₂).trans (hreaches₃.tail hfinish), ⟨hfollows₃.seeking, rfl⟩,
    (hfollows₃.withTasks []).outcome_emit hprevious₃⟩

/-- Where a run comes to an end, there is no run without end: steps lead one way only. -/
lemma acc_of_reaches (hreaches : r.Reaches r') (hdone : r'.IsDone) :
    Acc (fun q q' => q'.Leads q) r := by
  induction hreaches using Relation.ReflTransGen.head_induction_on with
  | refl => exact .intro _ fun q hleads => absurd hleads hdone.not_leads
  | head hleads _ ih => exact .intro _ fun q hq => hq.unique hleads ▸ ih

end Reading

/-- **Reading any source comes to an end.** No bound on how deep operands may nest and no
count of steps is part of the machine that reads it, and still

* it comes to a point where nothing is left to be done, and by then to what compiling the
  source comes to;
* no run from the start goes on for ever;
* at every point of the run it gets on as it should: the token reader shortens the text or
  finds a token; a call or an iteration moves past a significant token, or is a call at the
  end, which fails at once; once the end is next, there are no more iterations; and what is
  looked up for an operator is always there. -/
theorem Source.reading_ends (s : Source) :
    (∃ r, (Reading.start s.text).Reaches r ∧ r.IsDone ∧ r.outcome = compileBuilder s.text) ∧
      Acc (fun r' r => Reading.Leads r r') (Reading.start s.text) ∧
      ∀ r, (Reading.start s.text).Reaches r → r.Proceeds := by
  obtain ⟨r, hreaches, hdone, houtcome⟩ := Reading.exists_done s.text
  exact ⟨⟨r, hreaches, hdone, houtcome⟩, Reading.acc_of_reaches hreaches hdone,
    fun r hr => ((Reading.sound_start s.text).reaches hr).proceeds⟩

end ExprMachine
