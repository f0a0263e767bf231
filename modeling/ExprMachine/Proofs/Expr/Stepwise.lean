import ExprMachine.Chunk.Compile
import ExprMachine.Proofs.Token.Calls
import Mathlib.Logic.Relation

/-!
Reading an expression step by step.

The parser as a machine: it asks the token reader for one token at a time, looks up in
tables what a token can do, keeps what is still to be done on a stack, and writes code and
findings as it goes. Nothing in it bounds how long it runs.

* `Token.Kind.rule`, `Token.Kind.opcode?`: the tables.
* `Reading`: where the machine stands. `Reading.step?` is one step, `none` once nothing is
  left to be done, or if a token is to join operands that has no rule for it.
* `Reading.Leads`, `Reading.Reaches`, `Reading.Later`: runs, as sequences of steps.
* `Reading.Calls`, `Reading.Iterates`, `Reading.Joins`: an operand is to be read, an
  operator behind an operand is to be read, and what that operator has to do is begun.
* `Reading.upcoming`, `Reading.left`: the tokens that have not been moved past, and the
  significant ones among them.
* `Reading.step_cases`: all that a step can do.
* `Token.Kind.rank_rule`, `Token.Kind.opcode?_eq`: the tables agree with each other and with
  the operators of the language.
-/

namespace ExprMachine

/-! ### What a token can do -/

/-- How tightly tokens bind, the loosest first. -/
inductive Precedence where
  | none
  | assignment
  | equality
  | comparison
  | term
  | factor
  | unary
  deriving DecidableEq, Repr

/-- Precedence as a number. Two numbers between assignment and equality are not in use. -/
def Precedence.rank : Precedence → ℕ
  | none => 0
  | assignment => 1
  | equality => 4
  | comparison => 5
  | term => 6
  | factor => 7
  | unary => 8

/-- What a token does in the place of an operand. -/
inductive Opener where
  /-- Opens a group. -/
  | group
  /-- Stands before an operand. -/
  | sign
  /-- Is a number. -/
  | number
  /-- Is a word for a value. -/
  | word
  deriving DecidableEq, Repr

/-- What a token does behind an operand. -/
inductive Joiner where
  /-- Stands between two operands. -/
  | operator
  deriving DecidableEq, Repr

/-- What a token can do in an expression. -/
structure Rule where
  /-- In the place of an operand. -/
  opener? : Option Opener
  /-- Behind an operand. -/
  joiner? : Option Joiner
  /-- How tightly it binds there. -/
  precedence : Precedence
  deriving DecidableEq, Repr

namespace Token.Kind

/-- The kinds of tokens that can do something. -/
def rules : List (Kind × Rule) :=
  [(leftParen, ⟨some .group, none, .none⟩),
   (minus, ⟨some .sign, some .operator, .term⟩),
   (plus, ⟨none, some .operator, .term⟩),
   (slash, ⟨none, some .operator, .factor⟩),
   (star, ⟨none, some .operator, .factor⟩),
   (bang, ⟨some .sign, none, .none⟩),
   (bangEqual, ⟨none, some .operator, .equality⟩),
   (equalEqual, ⟨none, some .operator, .equality⟩),
   (greater, ⟨none, some .operator, .comparison⟩),
   (greaterEqual, ⟨none, some .operator, .comparison⟩),
   (less, ⟨none, some .operator, .comparison⟩),
   (lessEqual, ⟨none, some .operator, .comparison⟩),
   (number, ⟨some .number, none, .none⟩),
   (keyword .falseWord, ⟨some .word, none, .none⟩),
   (keyword .trueWord, ⟨some .word, none, .none⟩),
   (keyword .nilWord, ⟨some .word, none, .none⟩)]

/-- What a kind of token can do, nothing if it is not listed. -/
def rule (k : Kind) : Rule :=
  (rules.lookup k).getD ⟨none, none, .none⟩

/-- The instructions of operators between operands. -/
def opcodes : List (Kind × Opcode) :=
  [(plus, .binary .add),
   (minus, .binary .subtract),
   (star, .binary .multiply),
   (slash, .binary .divide),
   (equalEqual, .binary .equal),
   (bangEqual, .binary .notEqual),
   (greater, .binary .greater),
   (greaterEqual, .binary .greaterEqual),
   (less, .binary .less),
   (lessEqual, .binary .lessEqual)]

/-- The instruction of a kind of token between operands. -/
def opcode? (k : Kind) : Option Opcode :=
  opcodes.lookup k

/-- A token binds as tightly as the operator that it writes between operands, and not at
all if it writes none. -/
lemma rank_rule (k : Kind) :
    k.rule.precedence.rank = ((BinaryOp.ofKind? k).map fun op => op.strength + 3).getD 0 := by
  cases k with
  | keyword w => cases w <;> rfl
  | _ => rfl

/-- The tokens with a rule for joining operands are the operators. -/
lemma joiner?_rule (k : Kind) :
    k.rule.joiner? = (BinaryOp.ofKind? k).map fun _ => Joiner.operator := by
  cases k with
  | keyword w => cases w <;> rfl
  | _ => rfl

/-- The tokens with an instruction are the operators. -/
lemma opcode?_eq (k : Kind) : k.opcode? = (BinaryOp.ofKind? k).map Opcode.binary := by
  cases k with
  | keyword w => cases w <;> rfl
  | _ => rfl

/-- A token that binds at all is an operator. -/
lemma isSome_of_rank_pos {k : Kind} (h : 0 < k.rule.precedence.rank) :
    (BinaryOp.ofKind? k).isSome := by
  rw [rank_rule] at h
  cases hop : BinaryOp.ofKind? k with
  | none => simp [hop] at h
  | some op => rfl

end Token.Kind

/-! ### The machine -/

namespace Reading

/-- Something that is still to be done. -/
inductive Task where
  /-- An operand and the operators behind it are to be read, as far as they bind at least as
  tightly as a level. -/
  | operand (level : ℕ)
  /-- The token that has just been read is to open such an operand. -/
  | opening (level : ℕ)
  /-- The operators behind an operand are to be read. -/
  | operators (level : ℕ)
  /-- The token that has just been read is to join the operands on its sides. -/
  | joining
  /-- A token of some kind is to come, or else there is a message. -/
  | expect (kind : Token.Kind) (message : String)
  /-- The instruction of a sign is to be written. -/
  | sign (t : Token)
  /-- The instruction of an operator is to be written. -/
  | operator (t : Token)
  /-- The last instruction is to be written. -/
  | finish
  deriving DecidableEq, Repr

/-- What has been written. -/
structure Output where
  /-- The findings, in their order. -/
  findings : List Diagnostic
  /-- Whether faults are kept back, since something has been found. -/
  panicking : Bool
  /-- The code. -/
  builder : Chunk.Builder

namespace Output

/-- Reports a fault, unless faults are kept back. -/
def report (o : Output) (t : Token) (message : String) : Output :=
  if o.panicking then o
  else { o with findings := o.findings ++ [.atToken t message], panicking := true }

/-- Reports an error of the token reader in any case. -/
def reportError (o : Output) (t : Token) : Output :=
  { o with findings := o.findings ++ [.ofErrorToken t], panicking := true }

/-- What is written about a token that is passed over. -/
def passOver (o : Output) (t : Token) : Output :=
  if t.kind = .error then o.reportError t else o

/-- Writes an instruction. -/
def emit (o : Output) (op : Opcode) (line : ℕ) : Output :=
  { o with builder := o.builder.writeOp op.byte (Int64.ofNat line) }

/-- Writes the instruction that loads the value of a token, if there is room for it. -/
def load (o : Output) (v : Value) (t : Token) : Output :=
  let (answer, b) := o.builder.emitConstant v (Int64.ofNat t.line)
  let o := { o with builder := b }
  match answer with
  | .ok () => o
  | .error e => o.report t e.message

end Output

end Reading

/-- An expression that is being read. -/
structure Reading where
  /-- What is left of the text. -/
  scanner : Scanner
  /-- The token that was read last. -/
  previous : Token
  /-- The token that is next to be read. -/
  current : Token
  /-- Whether the token that is next to be read has yet to be found. -/
  seeking : Bool
  /-- What has been written. -/
  output : Reading.Output
  /-- What is still to be done, the next task first. -/
  tasks : List Reading.Task

namespace Reading

/-- The start of a text. -/
def start (text : List Char) : Reading where
  scanner := .start text
  previous := default
  current := default
  seeking := true
  output := ⟨[], false, .new⟩
  tasks := [.operand Precedence.assignment.rank, .expect .eof "expect end of expression", .finish]

variable (r : Reading)

/-- Reads the next token: the one behind it is then to be found. -/
def advance : Reading :=
  { r with previous := r.current, seeking := true }

/-- Puts some tasks before all others. -/
def push (tasks : List Task) : Reading :=
  { r with tasks := tasks ++ r.tasks }

/-- Asks for one token. Comments are passed over, and so are errors, which are reported. -/
def seek : Reading :=
  let (t, s) := r.scanner.scan
  let r := { r with scanner := s, current := t }
  if t.kind = .comment then r
  else if t.kind = .error then { r with output := r.output.reportError t }
  else { r with seeking := false }

/-- Reports a fault. -/
def report (t : Token) (message : String) : Reading :=
  { r with output := r.output.report t message }

/-- Writes an instruction. -/
def emit (op : Opcode) (line : ℕ) : Reading :=
  { r with output := r.output.emit op line }

/-- Writes the instruction that loads the value of the token just read. -/
def load (v : Value) : Reading :=
  { r with output := r.output.load v r.previous }

/-- Does with the token just read what it does in the place of an operand. -/
def openWith : Opener → Reading
  | .group =>
      r.push [.operand Precedence.assignment.rank,
        .expect .rightParen "expect ')' after expression"]
  | .sign => r.push [.operand Precedence.unary.rank, .sign r.previous]
  | .number =>
      match Number.ofLiteral? r.previous.lexeme with
      | some x => r.load (.number x)
      | none => r.report r.previous "invalid number literal"
  | .word =>
      match r.previous.kind with
      | .keyword .trueWord => r.load (.boolean true)
      | .keyword .falseWord => r.load (.boolean false)
      | .keyword .nilWord => r.load .nil
      | _ => r

/-- Does a task that has been taken off the stack. -/
def perform : Task → Option Reading
  | .operand level => some (r.push [.opening level]).advance
  | .opening level =>
      match r.previous.kind.rule.opener? with
      | some opener => some ((r.push [.operators level]).openWith opener)
      | none => some (r.report r.previous "expect expression")
  | .operators level =>
      if level ≤ r.current.kind.rule.precedence.rank then
        some (r.push [.joining, .operators level]).advance
      else some r
  | .joining =>
      match r.previous.kind.rule.joiner? with
      | some .operator =>
          some (r.push [.operand (r.previous.kind.rule.precedence.rank + 1), .operator r.previous])
      | none => none
  | .expect kind message =>
      if r.current.kind = kind then some r.advance else some (r.report r.current message)
  | .sign t =>
      match UnaryOp.ofKind? t.kind with
      | some op => some (r.emit (.unary op) t.line)
      | none => some r
  -- an operator without an instruction writes the byte zero
  | .operator t => some (r.emit (t.kind.opcode?.getD .ret) t.line)
  | .finish => some (r.emit .ret r.previous.line)

/-- One step: a call of the token reader, or a task. -/
def step? : Option Reading :=
  if r.seeking then some r.seek
  else
    match r.tasks with
    | [] => none
    | task :: tasks => ({ r with tasks } : Reading).perform task

/-- Nothing is left to be done. -/
def IsDone : Prop :=
  r.seeking = false ∧ r.tasks = []

/-- What has come of it: code, or findings. -/
def outcome : Except (List Diagnostic) Chunk.Builder :=
  if r.output.findings.isEmpty then .ok r.output.builder else .error r.output.findings

/-! ### Runs -/

/-- One step leads from `r` to `r'`. -/
def Leads (r r' : Reading) : Prop :=
  r.step? = some r'

/-- Some steps lead from `r` to `r'`, or none. -/
def Reaches : Reading → Reading → Prop :=
  Relation.ReflTransGen Leads

/-- At least one step leads from `r` to `r'`. -/
def Later : Reading → Reading → Prop :=
  Relation.TransGen Leads

/-- An operand is to be read next. -/
def Calls : Prop :=
  r.seeking = false ∧ ∃ level tasks, r.tasks = .operand level :: tasks

/-- An operator behind an operand is to be read next, since it binds tightly enough. -/
def Iterates : Prop :=
  r.seeking = false ∧ ∃ level tasks, r.tasks = .operators level :: tasks ∧
    level ≤ r.current.kind.rule.precedence.rank

/-- An operand or an operator is to be read next. -/
def Begins : Prop :=
  r.Calls ∨ r.Iterates

/-- What the operator that has just been read has to do is begun next. -/
def Joins : Prop :=
  r.seeking = false ∧ ∃ tasks, r.tasks = .joining :: tasks

/-- The tokens of the text that have not been moved past. Nothing moves past the end token:
the token reader returns it again. -/
def upcoming : List Token :=
  if r.seeking = true ∨ r.current.kind = .eof then r.scanner.tokens
  else r.current :: r.scanner.tokens

/-- The significant ones among them. -/
def left : List Token :=
  r.upcoming.filter Token.isSignificant

/-! ### What a step can do -/

/-- `r.Performs task r'`: what a task that has been taken off the stack can lead to. What is
written on the way is left open. -/
inductive Performs (r : Reading) : Task → Reading → Prop
  | call {level : ℕ} : Performs r (.operand level) (r.push [.opening level]).advance
  /-- The token opens no operand. -/
  | refuse {level : ℕ} {o : Output} (h : r.previous.kind.rule.opener? = none) :
      Performs r (.opening level) { r with output := o }
  | group {level : ℕ} {message : String} (h : r.previous.kind.rule.opener?.isSome) :
      Performs r (.opening level) (r.push [.operand Precedence.assignment.rank,
        .expect .rightParen message, .operators level])
  | sign {level : ℕ} (h : r.previous.kind.rule.opener?.isSome) :
      Performs r (.opening level) (r.push [.operand Precedence.unary.rank, .sign r.previous,
        .operators level])
  | value {level : ℕ} {o : Output} (h : r.previous.kind.rule.opener?.isSome) :
      Performs r (.opening level) (({ r with output := o } : Reading).push [.operators level])
  | iterate {level : ℕ} (h : level ≤ r.current.kind.rule.precedence.rank) :
      Performs r (.operators level) (r.push [.joining, .operators level]).advance
  /-- No operator binds tightly enough. -/
  | leave {level : ℕ} (h : ¬ level ≤ r.current.kind.rule.precedence.rank) :
      Performs r (.operators level) r
  | join (h : r.previous.kind.rule.joiner? = some .operator) :
      Performs r .joining (r.push [.operand (r.previous.kind.rule.precedence.rank + 1),
        .operator r.previous])
  | take {kind : Token.Kind} {message : String} (h : r.current.kind = kind) :
      Performs r (.expect kind message) r.advance
  /-- Another token has come. -/
  | miss {kind : Token.Kind} {message : String} {o : Output} (h : r.current.kind ≠ kind) :
      Performs r (.expect kind message) { r with output := o }
  | writeSign {t : Token} {o : Output} : Performs r (.sign t) { r with output := o }
  | writeOperator {t : Token} {o : Output} : Performs r (.operator t) { r with output := o }
  | finish {o : Output} : Performs r .finish { r with output := o }

variable {r} {r' : Reading}

/-- What a token does in the place of an operand. -/
lemma performs_openWith {opener : Opener} {level : ℕ}
    (h : r.previous.kind.rule.opener? = some opener) :
    r.Performs (.opening level) ((r.push [.operators level]).openWith opener) := by
  have hsome : r.previous.kind.rule.opener?.isSome := by rw [h]; rfl
  cases opener with
  | group => exact .group hsome
  | sign => exact .sign hsome
  | number =>
      rw [openWith]
      split
      · exact .value hsome
      · exact .value hsome
  | word =>
      rw [openWith]
      split
      all_goals exact .value hsome

lemma performs_of_perform {task : Task} (h : r.perform task = some r') : r.Performs task r' := by
  cases task with
  | operand level =>
      obtain rfl := Option.some.inj h
      exact .call
  | opening level =>
      rw [perform] at h
      split at h
      · rename_i opener hopener
        obtain rfl := Option.some.inj h
        exact performs_openWith hopener
      · rename_i hnone
        obtain rfl := Option.some.inj h
        exact .refuse hnone
  | operators level =>
      rw [perform] at h
      split_ifs at h with hle
      · obtain rfl := Option.some.inj h
        exact .iterate hle
      · obtain rfl := Option.some.inj h
        exact .leave hle
  | joining =>
      rw [perform] at h
      split at h
      · rename_i hjoiner
        obtain rfl := Option.some.inj h
        exact .join hjoiner
      · cases h
  | expect kind message =>
      rw [perform] at h
      split_ifs at h with hkind
      · obtain rfl := Option.some.inj h
        exact .take hkind
      · obtain rfl := Option.some.inj h
        exact .miss hkind
  | sign t =>
      rw [perform] at h
      split at h
      all_goals
        obtain rfl := Option.some.inj h
        exact .writeSign
  | operator t =>
      obtain rfl := Option.some.inj h
      exact .writeOperator
  | finish =>
      obtain rfl := Option.some.inj h
      exact .finish

/-- **All that a step can do**: the token reader is called, or the next task is done. -/
lemma step_cases (h : r.Leads r') :
    (r.seeking = true ∧ r' = r.seek) ∨
      (r.seeking = false ∧ ∃ task tasks, r.tasks = task :: tasks ∧
        ({ r with tasks } : Reading).Performs task r') := by
  rw [Leads, step?] at h
  split_ifs at h with hseeking
  · exact .inl ⟨hseeking, (Option.some.inj h).symm⟩
  · refine .inr ⟨Bool.eq_false_iff.mpr hseeking, ?_⟩
    cases htasks : r.tasks with
    | nil => simp [htasks] at h
    | cons task tasks =>
        rw [htasks] at h
        exact ⟨task, tasks, rfl, performs_of_perform h⟩

/-- A step that calls the token reader. -/
lemma leads_seek (h : r.seeking = true) : r.Leads r.seek := by
  rw [Leads, step?, if_pos h]

/-- A step that does a task. -/
lemma leads_of_perform {task : Task} {tasks : List Task} (hseeking : r.seeking = false)
    (htasks : r.tasks = task :: tasks)
    (h : ({ r with tasks } : Reading).perform task = some r') : r.Leads r' := by
  rw [Leads, step?, if_neg (by simp [hseeking]), htasks]
  exact h

/-- There is at most one way to go on. -/
lemma Leads.unique {q : Reading} (h : r.Leads r') (hq : r.Leads q) : r' = q :=
  Option.some.inj (h.symm.trans hq)

/-- An operand begins with a token. -/
lemma leads_call {level : ℕ} {tasks : List Task} (hseeking : r.seeking = false)
    (htasks : r.tasks = .operand level :: tasks) :
    r.Leads ({ r with tasks := .opening level :: tasks } : Reading).advance :=
  leads_of_perform hseeking htasks rfl

/-- An operator behind an operand is a token. -/
lemma leads_iterate {level : ℕ} {tasks : List Task} (hseeking : r.seeking = false)
    (htasks : r.tasks = .operators level :: tasks)
    (hle : level ≤ r.current.kind.rule.precedence.rank) :
    r.Leads ({ r with tasks := .joining :: .operators level :: tasks } : Reading).advance :=
  leads_of_perform hseeking htasks (if_pos hle)

lemma Begins.seeking (h : r.Begins) : r.seeking = false :=
  h.elim And.left And.left

/-- To begin something is to read a token. -/
lemma Begins.exists_leads_advance (h : r.Begins) :
    ∃ tasks, r.Leads ({ r with tasks } : Reading).advance := by
  rcases h with ⟨hseeking, level, tasks, htasks⟩ | ⟨hseeking, level, tasks, htasks, hle⟩
  · exact ⟨_, leads_call hseeking htasks⟩
  · exact ⟨_, leads_iterate hseeking htasks hle⟩

/-- Where nothing is left to be done, there is no way to go on. -/
lemma IsDone.not_leads (h : r.IsDone) : ¬ r.Leads r' := by
  rw [Leads, step?, h.1, h.2]
  simp

/-! ### The token reader -/

/-- One call of the token reader passes over a comment or an error, or finds a token. -/
lemma seek_cases (r : Reading) :
    ((r.scanner.scan.1.kind = .comment ∨ r.scanner.scan.1.kind = .error) ∧
        r.seek = { r with
          scanner := r.scanner.scan.2
          current := r.scanner.scan.1
          output := r.output.passOver r.scanner.scan.1 }) ∨
      ((r.scanner.scan.1.isSignificant = true ∨ r.scanner.scan.1.kind = .eof) ∧
        r.seek = { r with
          scanner := r.scanner.scan.2
          current := r.scanner.scan.1
          seeking := false }) := by
  rw [seek]
  dsimp only
  split_ifs with hcomment herror
  · exact .inl ⟨.inl hcomment, by simp [Output.passOver, hcomment]⟩
  · exact .inl ⟨.inr herror, by simp [Output.passOver, herror]⟩
  · refine .inr ⟨?_, rfl⟩
    by_cases heof : r.scanner.scan.1.kind = .eof
    · exact .inr heof
    · exact .inl (by simp [Token.isSignificant, hcomment, herror, heof])

end Reading

end ExprMachine
