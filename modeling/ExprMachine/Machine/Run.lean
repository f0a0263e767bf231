import ExprMachine.Chunk.Instruction
import ExprMachine.Machine.Error

/-!
Running a chunk on a stack of values.

* `Machine.step`: one instruction. An operator takes its operands off the stack
  before it is known to be defined for them; an instruction that finds too few
  leaves the stack alone.
* `Machine.runFrom`, `Machine.run`: a run to the end, with a frame for every
  instruction fetched. A step that goes on has moved forward in the code
  (`step_ip_lt`), so every run ends.
* `Machine.evaluate`: a run as an observer sees it: what is printed, what is
  traced, and the stack that is left for the next run. It is told from the
  finished run; a machine that writes while it runs and keeps its offset comes to
  the same (`Machine.Registers.evaluate_eq`).
-/

namespace ExprMachine

namespace Machine

/-- Where a run stands. -/
structure State where
  /-- The offset of the next byte to fetch. -/
  ip : Nat
  /-- The values on the stack, the top first. -/
  stack : List Value
  deriving DecidableEq

/-- What one instruction leads to. -/
inductive Step where
  /-- The run goes on. -/
  | next (s : State)
  /-- The run yields a value, with this stack below it. -/
  | halt (v : Value) (stack : List Value)
  /-- The run fails, with this stack left. -/
  | fail (e : Error) (stack : List Value)

/-- Executes the instruction at the current offset. -/
def step (c : Chunk) (s : State) : Step :=
  match c.code[s.ip]? with
  | none => .fail ⟨.noReturn, c.lineAt ((c.code.size : Int) - 1)⟩ s.stack
  | some byte =>
      -- failures are reported on the line of the byte fetched last
      let line := c.lineAt s.ip
      match Opcode.ofByte? byte with
      | none => .fail ⟨.unknownOpcode byte, line⟩ s.stack
      | some .ret =>
          match s.stack with
          | [] => .halt .nil []
          | v :: below => .halt v below
      | some .constant =>
          match c.code[s.ip + 1]? with
          | none => .fail ⟨.missingOperand, line⟩ s.stack
          | some index =>
              match c.constants[index.toNat]? with
              | none => .fail ⟨.badConstant index, c.lineAt (s.ip + 1)⟩ s.stack
              | some v => .next ⟨s.ip + 2, v :: s.stack⟩
      | some (.unary op) =>
          match s.stack with
          | [] => .fail ⟨.stackUnderflow, line⟩ []
          | v :: below =>
              match op.apply v with
              | .ok r => .next ⟨s.ip + 1, r :: below⟩
              | .error m => .fail ⟨.mismatch m, line⟩ below
      | some (.binary op) =>
          match s.stack with
          | b :: a :: below =>
              match op.apply a b with
              | .ok r => .next ⟨s.ip + 1, r :: below⟩
              | .error m => .fail ⟨.mismatch m, line⟩ below
          | few => .fail ⟨.stackUnderflow, line⟩ few

/-- A step that goes on has fetched a byte of the code and moved past it. -/
theorem step_ip_lt {c : Chunk} {s t : State} (h : step c s = .next t) :
    s.ip < c.code.size ∧ s.ip < t.ip := by
  unfold step at h
  split at h
  · cases h
  · rename_i byte hbyte
    refine ⟨(Array.getElem?_eq_some_iff.1 hbyte).1, ?_⟩
    dsimp only at h
    repeat' split at h
    all_goals cases h <;> simp

/-- An instruction that was fetched, with the stack it found. -/
structure Frame where
  /-- The offset of the instruction. -/
  offset : Nat
  /-- The values on the stack, the top first. -/
  stack : List Value
  deriving DecidableEq

/-- A finished run. -/
structure Run where
  /-- The value it yields, or how it failed. -/
  result : Except Error Value
  /-- The stack that is left, the top first. -/
  stack : List Value
  /-- The instructions fetched, in order. -/
  frames : List Frame

/-- A run from a given state to its end. -/
def runFrom (c : Chunk) (s : State) : Run :=
  let frames := if s.ip < c.code.size then [⟨s.ip, s.stack⟩] else []
  match _h : step c s with
  | .next t =>
      let rest := runFrom c t
      { rest with frames := frames ++ rest.frames }
  | .halt v stack => ⟨.ok v, stack, frames⟩
  | .fail e stack => ⟨.error e, stack, frames⟩
termination_by c.code.size - s.ip
decreasing_by have := step_ip_lt _h; omega

/-- A run of a chunk from its start, on a machine whose stack holds `before`. A
chunk without code does not start, so the stack is left as it was. -/
def run (chunk? : Option Chunk) (before : List Value) : Run :=
  match chunk? with
  | none => ⟨.error ⟨.emptyChunk, 0⟩, before, []⟩
  | some c =>
      if c.code.size = 0 then ⟨.error ⟨.emptyChunk, 0⟩, before, []⟩
      else runFrom c ⟨0, []⟩

/-- A frame as the trace shows it: the stack from the bottom up, then the
instruction. -/
def Frame.text (c : Chunk) (f : Frame) : String :=
  let values := String.join (f.stack.reverse.map fun v => "[ " ++ v.text ++ " ]")
  "          " ++ values ++ "\n" ++ (c.decode f.offset).text ++ "\n"

/-- The trace of a run. -/
def Run.trace (r : Run) (chunk? : Option Chunk) : String :=
  match chunk? with
  | none => ""
  | some c => String.join (r.frames.map (·.text c))

/-- What a run prints: the value it yields, or nothing. -/
def Run.printed (r : Run) : String :=
  match r.result with
  | .ok v => v.text ++ "\n"
  | .error _ => ""

/-- Where a trace goes. -/
inductive Tracing where
  /-- There is none. -/
  | off
  /-- To a writer of its own. -/
  | separate
  /-- To where the value is printed. -/
  | withOutput
  deriving DecidableEq, Repr

/-- How a run is watched. -/
structure Observer where
  /-- Whether the value is printed. -/
  prints : Bool
  /-- Where the trace goes. -/
  tracing : Tracing
  deriving DecidableEq, Repr

/-- What an observer sees of a run. -/
structure Evaluation where
  /-- The value, or how the run failed. -/
  result : Except Error Value
  /-- What is printed. -/
  out : String
  /-- What is traced apart from it. -/
  trace : String

end Machine

/-- A machine: the chunk it runs and the stack that the last run left. -/
structure Machine where
  /-- The chunk, if there is one. -/
  chunk? : Option Chunk
  /-- The values on the stack, the top first. -/
  stack : List Value

namespace Machine

/-- A machine that has not run yet. -/
def new (chunk? : Option Chunk) : Machine := ⟨chunk?, []⟩

/-- Runs the chunk from its start before an observer. -/
def evaluate (m : Machine) (o : Observer) : Evaluation × Machine :=
  let r := run m.chunk? m.stack
  let trace := r.trace m.chunk?
  let inline := if o.tracing = .withOutput then trace else ""
  let out := if o.prints then inline ++ r.printed else ""
  let apart := if o.tracing = .separate then trace else ""
  (⟨r.result, out, apart⟩, { m with stack := r.stack })

end Machine

/-- The value of a chunk, or how its run failed. -/
def Chunk.evaluate (c : Chunk) : Except Machine.Error Value :=
  (Machine.run (some c) []).result

end ExprMachine
