import ExprMachine.Operator

/-!
The instruction set: one byte per instruction, and one more for the index that
the constant instruction carries.

`Opcode.info` states each instruction's name and its effect on the stack, which
is what the listing shows and what a walk over the code without running it
counts.
-/

namespace ExprMachine

/-- The instructions. -/
inductive Opcode where
  /-- Yield the value on top of the stack, or nothing if it is empty. -/
  | ret
  /-- Push the constant whose index the next byte gives. -/
  | constant
  /-- Replace the value on top of the stack. -/
  | unary (op : UnaryOp)
  /-- Replace the two values on top of the stack, the right operand on top. -/
  | binary (op : BinaryOp)
  deriving DecidableEq, Repr

namespace Opcode

/-- What is known of an instruction without running it. -/
structure Info where
  /-- The name in listings. -/
  name : String
  /-- How many values it takes from the stack. -/
  pops : Nat
  /-- How many values it puts on the stack. -/
  pushes : Nat
  /-- How many bytes follow the instruction's own. -/
  operands : Nat
  deriving DecidableEq, Repr

/-- All instructions, in the order of their bytes. -/
def all : List Opcode :=
  [.ret, .constant, .unary .negate, .binary .add, .binary .subtract, .binary .multiply,
   .binary .divide, .binary .equal, .binary .notEqual, .binary .greater,
   .binary .greaterEqual, .binary .less, .binary .lessEqual, .unary .not]

/-- The byte of an instruction. -/
def byte : Opcode → UInt8
  | .ret => 0
  | .constant => 1
  | .unary .negate => 2
  | .binary .add => 3
  | .binary .subtract => 4
  | .binary .multiply => 5
  | .binary .divide => 6
  | .binary .equal => 7
  | .binary .notEqual => 8
  | .binary .greater => 9
  | .binary .greaterEqual => 10
  | .binary .less => 11
  | .binary .lessEqual => 12
  | .unary .not => 13

/-- The instruction of a byte. -/
def ofByte? (b : UInt8) : Option Opcode :=
  all[b.toNat]?

/-- The name, the stack effect and the operands of an instruction. -/
def info : Opcode → Info
  | .ret => ⟨"OP_RETURN", 0, 0, 0⟩
  | .constant => ⟨"OP_CONSTANT", 0, 1, 1⟩
  | .unary .negate => ⟨"OP_NEGATE", 1, 1, 0⟩
  | .binary .add => ⟨"OP_ADD", 2, 1, 0⟩
  | .binary .subtract => ⟨"OP_SUBTRACT", 2, 1, 0⟩
  | .binary .multiply => ⟨"OP_MULTIPLY", 2, 1, 0⟩
  | .binary .divide => ⟨"OP_DIVIDE", 2, 1, 0⟩
  | .binary .equal => ⟨"OP_EQUAL", 2, 1, 0⟩
  | .binary .notEqual => ⟨"OP_NOTEQUAL", 2, 1, 0⟩
  | .binary .greater => ⟨"OP_GREATER", 2, 1, 0⟩
  | .binary .greaterEqual => ⟨"OP_GREATEREQUAL", 2, 1, 0⟩
  | .binary .less => ⟨"OP_LESSER", 2, 1, 0⟩
  | .binary .lessEqual => ⟨"OP_LESSEREQUAL", 2, 1, 0⟩
  | .unary .not => ⟨"OP_NOT", 1, 1, 0⟩

/-- What is known of a byte as an instruction: zeros if it is none. -/
def infoOfByte (b : UInt8) : Info :=
  match ofByte? b with
  | some op => op.info
  | none => ⟨"", 0, 0, 0⟩

/-- The name of a byte as an instruction. -/
def nameOfByte (b : UInt8) : String :=
  match ofByte? b with
  | some op => op.info.name
  | none => s!"UNKNOWN({b.toNat})"

/-- The number of bytes of an instruction, its operands included. -/
def length (op : Opcode) : Nat :=
  1 + op.info.operands

end Opcode

end ExprMachine
