import ExprMachine.Chunk.Basic
import ExprMachine.Text.Layout

/-!
Instructions read back off a chunk, and listings of them.

* `Chunk.decode`: the instruction at an offset. It is defined at every offset;
  what is wrong there is its `problem?`.
* `Chunk.listing`: all instructions from the start of the code. Every size is
  at least 1, so the walk ends.
* `Instruction.text`, `Chunk.disassemble`: the column layout.
-/

namespace ExprMachine

namespace Instruction

/-- What is wrong with the code at an offset. -/
inductive Problem where
  /-- There is no code there. -/
  | outside
  /-- The byte is no instruction. -/
  | unknownOpcode (byte : UInt8)
  /-- The code ends before the operand. -/
  | missingOperand
  /-- The operand names no constant. -/
  | badConstant (index : UInt8)
  deriving DecidableEq, Repr

/-- The wording of a problem. -/
def Problem.text : Problem → String
  | outside => "offset out of range"
  | unknownOpcode byte => s!"Unknown opcode {byte.toNat}"
  | missingOperand => "missing constant operand"
  | badConstant index => s!"constant index {index.toNat} out of range"

end Instruction

/-- One instruction of a chunk. -/
structure Instruction where
  /-- Where it starts. -/
  offset : Int
  /-- The line of its first byte. -/
  line : Int64
  /-- Whether the byte before it has the same line. -/
  sameLine : Bool
  /-- Its first byte. -/
  byte : UInt8
  /-- The name of that byte as an instruction, empty outside the code. -/
  name : String
  /-- The instruction that the byte is, if it is one. -/
  opcode? : Option Opcode
  /-- The operand, if it has one. -/
  operand? : Option UInt8
  /-- The constant that the operand names. -/
  constant? : Option Value
  /-- What is wrong with it. -/
  problem? : Option Instruction.Problem
  /-- The number of its bytes. -/
  size : Nat
  deriving DecidableEq

namespace Chunk

open Instruction

/-- The instruction at an offset. -/
def decode (c : Chunk) (offset : Int) : Instruction :=
  let here : Instruction := ⟨offset, 0, false, 0, "", none, none, none, none, 1⟩
  match if offset < 0 then none else c.code[offset.toNat]? with
  | none => { here with problem? := some .outside }
  | some byte =>
      let line := c.lineAt offset
      let here := { here with
        line
        sameLine := 0 < offset ∧ line = c.lineAt (offset - 1)
        byte
        name := Opcode.nameOfByte byte
        opcode? := Opcode.ofByte? byte }
      match here.opcode? with
      | none => { here with problem? := some (.unknownOpcode byte) }
      | some .constant =>
          match c.code[offset.toNat + 1]? with
          | none => { here with problem? := some .missingOperand }
          | some index =>
              let here := { here with operand? := some index, size := 2 }
              match c.constants[index.toNat]? with
              | some v => { here with constant? := some v }
              | none => { here with problem? := some (.badConstant index) }
      | some _ => here

/-- Every instruction has a first byte, so a walk over the code makes progress. -/
theorem decode_size_pos (c : Chunk) (offset : Int) : 0 < (c.decode offset).size := by
  unfold decode
  dsimp only
  repeat' split
  all_goals simp

/-- The instructions from an offset to the end of the code. -/
def listingFrom (c : Chunk) (offset : Nat) : List Instruction :=
  if offset < c.code.size then
    let i := c.decode offset
    i :: c.listingFrom (offset + i.size)
  else []
termination_by c.code.size - offset
decreasing_by have := c.decode_size_pos offset; omega

/-- All instructions of a chunk. -/
def listing (c : Chunk) : List Instruction :=
  c.listingFrom 0

end Chunk

namespace Instruction

/-- The constant an instruction loads, as shown. -/
def constantText (i : Instruction) : String :=
  (i.constant?.map Value.text).getD ""

/-- What is wrong with an instruction, in words. -/
def problemText (i : Instruction) : String :=
  (i.problem?.map Problem.text).getD ""

/-- An instruction in columns: offset, line or a bar for the line before, name,
operand and constant. -/
def text (i : Instruction) : String :=
  let offset := Layout.zeroPadded 4 i.offset ++ " "
  let line := if i.sameLine then "   | " else Layout.zeroPadded 4 i.line.toInt ++ " "
  let remark := if i.problem?.isSome then " ; " ++ i.problemText else ""
  let body :=
    if i.opcode?.isNone then i.problemText
    else
      let name := Layout.rightAligned 16 i.name
      match i.operand? with
      | some index =>
          name ++ " " ++ Layout.zeroPadded 4 index.toNat ++ " '" ++ i.constantText ++ "'" ++ remark
      | none => name ++ remark
  offset ++ line ++ body

/-- The offset of the instruction after this one, in 64 bits. -/
def next (i : Instruction) : Int64 :=
  Int64.ofInt i.offset + Int64.ofNat i.size

end Instruction

/-- A chunk as a text: a title, then one instruction a line. -/
def Chunk.disassemble (c : Chunk) (title : String) : String :=
  "== " ++ title ++ " ==\n" ++ String.join (c.listing.map fun i => i.text ++ "\n")

end ExprMachine
