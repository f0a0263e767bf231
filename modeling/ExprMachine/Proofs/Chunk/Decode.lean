import ExprMachine.Chunk.Instruction
import Mathlib.Tactic

/-!
Instructions decoded one by one.

* `Opcode.eq_byte_of_ofByte?`: a byte is read as one instruction only.
* `Chunk.decode_eq`: all that is decoded where the code holds a byte. What is told of the
  parts of an instruction below is read off this, so that the decoder is opened only once.
* `Chunk.lines_eq_lineAt`, `Chunk.lineAt_of_getElem?`: the line of a byte that has one.
* `Chunk.listingFrom_of_lt`, `Chunk.exists_of_mem_listingFrom`: the listing, one
  instruction at a time.
-/

namespace ExprMachine

/-- A byte is read as an instruction only if it is the byte of that
instruction. -/
lemma Opcode.eq_byte_of_ofByte? {b : UInt8} {op : Opcode} (h : ofByte? b = some op) :
    b = op.byte := by
  have hall : ∀ i : Fin all.length, all[i].byte.toNat = i := by decide
  obtain ⟨hlt, rfl⟩ := List.getElem?_eq_some_iff.mp h
  exact (UInt8.toNat_inj.mp (hall ⟨b.toNat, hlt⟩)).symm

namespace Chunk

variable {c : Chunk} {offset : ℕ} {b : UInt8}

/-! ### One instruction -/

/-- Decoding shows the offset it was asked for. -/
lemma decode_offset (c : Chunk) (offset : ℤ) : (c.decode offset).offset = offset := by
  unfold decode
  dsimp only
  repeat' split
  all_goals rfl

/-- What is decoded where the code holds a byte. The next byte is looked at only behind
the one instruction that has an operand. -/
lemma decode_eq (h : c.code[offset]? = some b) :
    let operand? := if Opcode.ofByte? b = some .constant then c.code[offset + 1]? else none
    c.decode offset =
      { offset
        line := c.lineAt offset
        sameLine := 0 < (offset : ℤ) ∧ c.lineAt offset = c.lineAt (offset - 1)
        byte := b
        name := Opcode.nameOfByte b
        opcode? := Opcode.ofByte? b
        operand?
        constant? := operand?.bind fun index => c.constants[index.toNat]?
        problem? :=
          match Opcode.ofByte? b with
          | none => some (.unknownOpcode b)
          | some .constant =>
              match c.code[offset + 1]? with
              | none => some .missingOperand
              | some index =>
                  match c.constants[index.toNat]? with
                  | none => some (.badConstant index)
                  | some _ => none
          | some _ => none
        size := if operand?.isSome then 2 else 1 } := by
  have hoffset : ¬ (offset : ℤ) < 0 := by omega
  simp only [decode, hoffset, if_false, Int.toNat_natCast, h]
  cases Opcode.ofByte? b with
  | none => rfl
  | some op =>
      cases op with
      | constant =>
          cases c.code[offset + 1]? with
          | none => rfl
          | some index => cases hv : c.constants[index.toNat]? <;> simp [hv]
      | _ => rfl

/-- Decoding keeps the byte it finds. -/
lemma decode_byte (h : c.code[offset]? = some b) : (c.decode offset).byte = b := by
  rw [decode_eq h]

/-- Decoding reads the byte as the instruction that it is. -/
lemma decode_opcode? (h : c.code[offset]? = some b) :
    (c.decode offset).opcode? = Opcode.ofByte? b := by
  rw [decode_eq h]

/-- The operand is the next byte, if the instruction has one. -/
lemma decode_operand? (h : c.code[offset]? = some b) :
    (c.decode offset).operand? =
      if Opcode.ofByte? b = some .constant then c.code[offset + 1]? else none := by
  rw [decode_eq h]

/-- Decoding gives an instruction two bytes if it finds an operand, and one
otherwise. -/
lemma decode_size (h : c.code[offset]? = some b) :
    (c.decode offset).size = if (c.decode offset).operand?.isSome then 2 else 1 := by
  rw [decode_eq h]

/-- What decoding finds wrong: the byte, or the operand of the one instruction
that has an operand. -/
lemma decode_problem? (h : c.code[offset]? = some b) :
    (c.decode offset).problem? =
      match Opcode.ofByte? b with
      | none => some (.unknownOpcode b)
      | some .constant =>
          match c.code[offset + 1]? with
          | none => some .missingOperand
          | some index =>
              match c.constants[index.toNat]? with
              | none => some (.badConstant index)
              | some _ => none
      | some _ => none := by
  rw [decode_eq h]

/-- Decoding shows the line of the byte it finds. -/
lemma decode_line (h : c.code[offset]? = some b) :
    (c.decode offset).line = c.lineAt offset := by
  rw [decode_eq h]

/-- The mark compares the line of the first byte with the line of the byte before. -/
lemma decode_sameLine (h : c.code[offset]? = some b) :
    (c.decode offset).sameLine =
      decide (0 < (offset : ℤ) ∧ c.lineAt offset = c.lineAt (offset - 1)) := by
  rw [decode_eq h]

/-! ### Lines of bytes -/

/-- Where there is a line, it is the line of the offset. -/
lemma lines_eq_lineAt (h : offset < c.lines.size) : c.lines[offset]? = some (c.lineAt offset) := by
  have hoffset : ¬ (offset : ℤ) < 0 := by omega
  rw [lineAt, if_neg hoffset, Int.toNat_natCast, Array.getElem?_eq_getElem h]
  rfl

lemma lineAt_of_getElem? {line : Int64} (h : c.lines[offset]? = some line) :
    c.lineAt offset = line := by
  have hsome := lines_eq_lineAt (Array.getElem?_eq_some_iff.mp h).1
  exact Option.some.inj (hsome.symm.trans h)

/-! ### Listings -/

/-- Within the code, a listing is an instruction and the listing from behind it. -/
lemma listingFrom_of_lt (h : offset < c.code.size) :
    c.listingFrom offset = c.decode offset :: c.listingFrom (offset + (c.decode offset).size) := by
  rw [listingFrom, if_pos h]

/-- Behind the code, nothing is listed. -/
lemma listingFrom_of_le (h : c.code.size ≤ offset) : c.listingFrom offset = [] := by
  rw [listingFrom, if_neg (Nat.not_lt.mpr h)]

/-- What is listed is decoded at an offset of the code. -/
lemma exists_of_mem_listingFrom {i : Instruction} (h : i ∈ c.listingFrom offset) :
    ∃ place, place < c.code.size ∧ i = c.decode place := by
  fun_induction c.listingFrom offset with
  | case1 offset hlt j ih =>
      rcases List.mem_cons.mp h with rfl | h
      · exact ⟨offset, hlt, rfl⟩
      · exact ih h
  | case2 offset hlt => cases h

end Chunk

end ExprMachine
