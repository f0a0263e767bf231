import ExprMachine.Operator
import ExprMachine.Text.Layout

/-!
How a run can fail.

* `Machine.ErrorKind`: the classes of failures. Two of them blame whoever wrote
  the code rather than the program that is run.
* `Machine.Cause`: what went wrong.
* `Machine.Error`: a cause with the line it is reported on, and its wording.
-/

namespace ExprMachine.Machine

/-- The classes of failures. -/
inductive ErrorKind where
  /-- There is nothing to run. -/
  | interpret
  /-- The code is malformed. -/
  | compile
  /-- An instruction finds too few values on the stack. -/
  | stackUnderflow
  /-- An operator is not defined for its operands. -/
  | runtime
  deriving DecidableEq, Repr

namespace ErrorKind

/-- The words for a class. -/
def name : ErrorKind → String
  | interpret => "Interpret error"
  | compile => "Compile error"
  | stackUnderflow => "Stack underflow"
  | runtime => "Runtime error"

/-- Whether a class blames whoever wrote the code. -/
def blamesCode : ErrorKind → Bool
  | compile | stackUnderflow => true
  | interpret | runtime => false

/-- The class with a given number. -/
def ofByte? : UInt8 → Option ErrorKind
  | 0 => some interpret
  | 1 => some compile
  | 2 => some stackUnderflow
  | 3 => some runtime
  | _ => none

/-- The words for the class with a given number, listed or not. -/
def nameOfByte (b : UInt8) : String :=
  match ofByte? b with
  | some k => k.name
  | none => s!"ErrorKind({b.toNat})"

end ErrorKind

/-- What went wrong. -/
inductive Cause where
  /-- There is no code. -/
  | emptyChunk
  /-- The code ends before a return. -/
  | noReturn
  /-- A byte is no instruction. -/
  | unknownOpcode (byte : UInt8)
  /-- The code ends before an operand. -/
  | missingOperand
  /-- An operand names no constant. -/
  | badConstant (index : UInt8)
  /-- There are too few values on the stack. -/
  | stackUnderflow
  /-- An operator is not defined for its operands. -/
  | mismatch (m : Mismatch)
  deriving DecidableEq, Repr

namespace Cause

/-- The class of a cause. -/
def kind : Cause → ErrorKind
  | emptyChunk => .interpret
  | noReturn | unknownOpcode _ | missingOperand | badConstant _ => .compile
  | stackUnderflow => .stackUnderflow
  | mismatch _ => .runtime

/-- The wording of a cause. -/
def message : Cause → String
  | emptyChunk => "no instructions to execute"
  | noReturn => "reached end of chunk without a return"
  | unknownOpcode byte => "unknown opcode " ++ Layout.zeroPadded 4 byte.toNat
  | missingOperand => "missing constant operand"
  | badConstant index => s!"constant index {index.toNat} out of range"
  | stackUnderflow => "stack underflow"
  | mismatch m => m.message

end Cause

/-- A failed run: what went wrong, and on which line. -/
structure Error where
  /-- What went wrong. -/
  cause : Cause
  /-- The line it is reported on. -/
  line : Int64
  deriving DecidableEq, Repr

namespace Error

/-- The class of a failure. -/
def kind (e : Error) : ErrorKind :=
  e.cause.kind

/-- The wording of a failure. -/
def text (e : Error) : String :=
  s!"{e.kind.name}: {e.cause.message} on line {e.line.toInt}"

end Error

end ExprMachine.Machine
