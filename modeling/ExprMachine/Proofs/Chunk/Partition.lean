import ExprMachine.Proofs.Chunk.Decode

/-!
The listing of a chunk as a partition of its code.

A listing loses nothing, whatever the bytes of the code are and however many lines and
constants come with them: the instructions lie end to end, and their bytes, put behind
each other, are the code.

* `Instruction.bytes`: the bytes that an instruction shows.
* `Chunk.Malformed`: what can be wrong with an instruction: its byte, or the operand of the
  one instruction that has an operand.
* `Chunk.drop_eq_bytes_append`: **the step of the walk**. An instruction shows the bytes
  between its offset and the next one.
* `Chunk.flatMap_bytes_listingFrom`, `Chunk.isChain_listingFrom`: from it, by the walk's own
  induction, what the whole listing shows.
* `Chunk.problem?_decode_ne_none_iff`, `Chunk.malformed_decode_iff`: decoding finds a
  problem exactly with the malformed instructions.
* `Chunk.partitions_listing`: all of this of the listing of a chunk.
-/

namespace ExprMachine

namespace Instruction

/-- The bytes that an instruction shows: its own, and then its operand if it has
one. -/
def bytes (i : Instruction) : List UInt8 :=
  i.byte :: i.operand?.toList

/-- A text that begins with words is not empty. -/
lemma append_ne_empty {s : String} (hs : s ≠ "") (t : String) : s ++ t ≠ "" := by
  intro h
  exact hs (String.append_eq_empty_iff.mp h).1

/-- Every problem is put into words. -/
lemma Problem.text_ne_empty (p : Problem) : p.text ≠ "" := by
  cases p with
  | outside => decide
  | unknownOpcode byte =>
      have htext : (unknownOpcode byte).text = "Unknown opcode " ++ toString byte.toNat := rfl
      rw [htext]
      exact append_ne_empty (by decide) _
  | missingOperand => decide
  | badConstant index =>
      have htext : (badConstant index).text =
          "constant index " ++ toString index.toNat ++ " out of range" := rfl
      rw [htext]
      exact append_ne_empty (append_ne_empty (by decide) _) _

lemma problemText_ne_empty_iff (i : Instruction) : i.problemText ≠ "" ↔ i.problem? ≠ none := by
  rw [problemText]
  cases i.problem? with
  | none => simp
  | some p => simpa using p.text_ne_empty

end Instruction

namespace Chunk

/-- `c.Malformed i`: the instruction `i` is not a whole instruction of the chunk `c`. -/
inductive Malformed (c : Chunk) (i : Instruction) : Prop
  /-- The byte is no instruction. -/
  | unknown (hop : Opcode.ofByte? i.byte = none)
  /-- It loads a constant, and the code ends before the operand. -/
  | cut (hop : Opcode.ofByte? i.byte = some .constant) (hlast : i.offset + 1 = c.code.size)
  /-- It loads a constant, and the operand names none. -/
  | beyond (hop : Opcode.ofByte? i.byte = some .constant) {index : UInt8}
      (hindex : i.operand? = some index) (hle : c.constants.size ≤ index.toNat)

/-- `c.Partitions is`: the instructions `is` are the code of the chunk `c`, cut into
pieces. -/
structure Partitions (c : Chunk) (is : List Instruction) : Prop where
  /-- There are no more instructions than bytes. -/
  length_le : is.length ≤ c.code.size
  /-- Each is what is decoded at its offset. -/
  decoded : ∀ i ∈ is, i = c.decode i.offset
  /-- The first one stands at the beginning. -/
  first : ∀ i ∈ is.head?, i.offset = 0
  /-- Each of the others stands where the one before it ends. -/
  next : is.IsChain fun i j => j.offset = i.offset + (i.size : ℤ)
  /-- They have one byte or two. -/
  size : ∀ i ∈ is, i.size = 1 ∨ i.size = 2
  /-- They have as many bytes as the code. -/
  total : (is.map Instruction.size).sum = c.code.size
  /-- The bytes that they show are the code. -/
  bytes : is.flatMap Instruction.bytes = c.code.toList
  /-- Just the malformed ones have a problem. -/
  problem : ∀ i ∈ is, i.problemText ≠ "" ↔ c.Malformed i

variable {c : Chunk} {offset : ℕ}

/-! ### One instruction -/

/-- The operand is the byte behind the instruction's own. -/
lemma getElem?_of_operand? (h : offset < c.code.size) {index : UInt8}
    (hindex : (c.decode offset).operand? = some index) : c.code[offset + 1]? = some index := by
  rw [decode_operand? (Array.getElem?_eq_getElem h)] at hindex
  split_ifs at hindex
  exact hindex

/-- An instruction shows as many bytes as it has, one or two. -/
lemma length_bytes_decode (h : offset < c.code.size) :
    (c.decode offset).bytes.length = (c.decode offset).size ∧
      ((c.decode offset).size = 1 ∨ (c.decode offset).size = 2) := by
  rw [decode_size (Array.getElem?_eq_getElem h), Instruction.bytes]
  cases (c.decode offset).operand? with
  | none => exact ⟨rfl, .inl rfl⟩
  | some index => exact ⟨rfl, .inr rfl⟩

/-- An instruction shows the bytes from its offset up to the next one. -/
lemma drop_eq_bytes_append (h : offset < c.code.size) :
    c.code.toList.drop offset =
      (c.decode offset).bytes ++ c.code.toList.drop (offset + (c.decode offset).size) := by
  have hb := Array.getElem?_eq_getElem h
  rw [decode_size hb, Instruction.bytes, decode_byte hb, List.drop_eq_getElem_cons h]
  cases hoperand : (c.decode offset).operand? with
  | none => rfl
  | some index =>
      obtain ⟨hlt, hget⟩ := Array.getElem?_eq_some_iff.mp (getElem?_of_operand? h hoperand)
      rw [List.drop_eq_getElem_cons hlt]
      simp only [Array.getElem_toList, hget]
      rfl

/-- Decoding finds something wrong with the byte, or with the operand of the one
instruction that has an operand. -/
lemma problem?_decode_ne_none_iff (h : offset < c.code.size) :
    (c.decode offset).problem? ≠ none ↔ Opcode.ofByte? c.code[offset] = none ∨
      Opcode.ofByte? c.code[offset] = some .constant ∧ (c.code.size ≤ offset + 1 ∨
        ∃ index, c.code[offset + 1]? = some index ∧ c.constants.size ≤ index.toNat) := by
  rw [decode_problem? (Array.getElem?_eq_getElem h)]
  cases Opcode.ofByte? c.code[offset] with
  | none => simp
  | some op =>
      cases op with
      | constant =>
          cases hindex : c.code[offset + 1]? with
          | none => simp [Array.getElem?_eq_none_iff.mp hindex]
          | some index =>
              have hlt := (Array.getElem?_eq_some_iff.mp hindex).1
              cases hv : c.constants[index.toNat]? with
              | none => simp [Array.getElem?_eq_none_iff.mp hv]
              | some v => simp [hlt, (Array.getElem?_eq_some_iff.mp hv).1]
      | _ => simp

/-- That is to say that the instruction is malformed. -/
lemma malformed_decode_iff (h : offset < c.code.size) :
    c.Malformed (c.decode offset) ↔ Opcode.ofByte? c.code[offset] = none ∨
      Opcode.ofByte? c.code[offset] = some .constant ∧ (c.code.size ≤ offset + 1 ∨
        ∃ index, c.code[offset + 1]? = some index ∧ c.constants.size ≤ index.toNat) := by
  have hb := Array.getElem?_eq_getElem h
  have hbyte := decode_byte hb
  constructor
  · intro hmalformed
    cases hmalformed with
    | unknown hop => exact .inl (hbyte ▸ hop)
    | cut hop hlast =>
        rw [decode_offset] at hlast
        exact .inr ⟨hbyte ▸ hop, .inl (by omega)⟩
    | beyond hop hindex hle =>
        exact .inr ⟨hbyte ▸ hop, .inr ⟨_, getElem?_of_operand? h hindex, hle⟩⟩
  · rintro (hop | ⟨hop, hend | ⟨index, hindex, hle⟩⟩)
    · exact .unknown (by rw [hbyte, hop])
    · refine .cut (by rw [hbyte, hop]) ?_
      rw [decode_offset]
      omega
    · refine .beyond (by rw [hbyte, hop]) ?_ hle
      rw [decode_operand? hb, if_pos hop, hindex]

/-! ### The whole walk -/

/-- What is listed from an offset shows the code from there on. -/
lemma flatMap_bytes_listingFrom (c : Chunk) (offset : ℕ) :
    (c.listingFrom offset).flatMap Instruction.bytes = c.code.toList.drop offset := by
  fun_induction c.listingFrom offset with
  | case1 offset hlt i ih => rw [List.flatMap_cons, ih, drop_eq_bytes_append hlt]
  | case2 offset hlt => exact (List.drop_eq_nil_iff.mpr (Nat.not_lt.mp hlt)).symm

/-- The first instruction that is listed from an offset stands there. -/
lemma offset_head_listingFrom (c : Chunk) (offset : ℕ) :
    ∀ i ∈ (c.listingFrom offset).head?, i.offset = offset := by
  intro i hi
  rcases Nat.lt_or_ge offset c.code.size with hlt | hle
  · rw [listingFrom_of_lt hlt, List.head?_cons, Option.mem_some_iff] at hi
    rw [← hi, decode_offset]
  · rw [listingFrom_of_le hle] at hi
    cases hi

/-- Every other instruction stands where the one before it ends. -/
lemma isChain_listingFrom (c : Chunk) (offset : ℕ) :
    (c.listingFrom offset).IsChain fun i j => j.offset = i.offset + (i.size : ℤ) := by
  fun_induction c.listingFrom offset with
  | case1 offset hlt i ih =>
      refine List.isChain_cons.mpr ⟨fun j hj => ?_, ih⟩
      rw [c.offset_head_listingFrom _ j hj, c.decode_offset offset, Nat.cast_add]
  | case2 offset hlt => exact .nil

/-- **A listing is a lossless partition of the code**, for any bytes, lines and
constants: it ends after at most as many instructions as there are bytes, they lie end to
end from the beginning of the code to its end, and their bytes are the code. Exactly the
malformed ones have a problem. -/
theorem partitions_listing (c : Chunk) : c.Partitions c.listing := by
  have hmem : ∀ i ∈ c.listing, ∃ place, place < c.code.size ∧ i = c.decode place :=
    fun i => exists_of_mem_listingFrom
  have hbytes : c.listing.flatMap Instruction.bytes = c.code.toList :=
    c.flatMap_bytes_listingFrom 0
  have hsize : ∀ i ∈ c.listing, i.bytes.length = i.size ∧ (i.size = 1 ∨ i.size = 2) := by
    intro i hi
    obtain ⟨place, hlt, rfl⟩ := hmem i hi
    exact length_bytes_decode hlt
  have htotal : (c.listing.map Instruction.size).sum = c.code.size := by
    have hlength := congrArg List.length hbytes
    rw [List.length_flatMap, List.map_congr_left fun i hi => (hsize i hi).1] at hlength
    exact hlength
  refine ⟨?_, ?_, c.offset_head_listingFrom 0, c.isChain_listingFrom 0,
    fun i hi => (hsize i hi).2, htotal, hbytes, ?_⟩
  · have hle := List.length_le_sum_of_one_le (c.listing.map Instruction.size) fun n hn => by
      obtain ⟨i, hi, rfl⟩ := List.mem_map.mp hn
      have hone := (hsize i hi).2
      omega
    rwa [htotal, List.length_map] at hle
  · intro i hi
    obtain ⟨place, -, rfl⟩ := hmem i hi
    rw [decode_offset]
  · intro i hi
    obtain ⟨place, hlt, rfl⟩ := hmem i hi
    rw [Instruction.problemText_ne_empty_iff, problem?_decode_ne_none_iff hlt,
      malformed_decode_iff hlt]

/-- An operand that looks like an instruction, a byte that is none, and a constant that is cut
off at the end; no lines come with them. -/
example :
    let listing := (Chunk.mk #[1, 1, 255, 1] #[] #[]).listing
    listing.map Instruction.offset = [0, 2, 3] ∧
      listing.map Instruction.bytes = [[1, 1], [255], [1]] ∧
      listing.map Instruction.problemText =
        ["constant index 1 out of range", "Unknown opcode 255", "missing constant operand"] := by
  decide +kernel

end Chunk

end ExprMachine
