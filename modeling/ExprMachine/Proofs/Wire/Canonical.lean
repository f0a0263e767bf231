import ExprMachine.Proofs.Wire.RoundTrip

/-!
The bytes of a chunk are canonical.

What is read from the bytes of a portable chunk need not be that portable chunk, for the
minus sign of a zero is lost. But it is written as the same bytes, so that a file that was
written as a chunk is not changed by reading it and writing it again.

* `Wire.toItem_carried`: a portable chunk is the same item after the trip as before.
* `Wire.encode_of_decode_encode`: what is read from its bytes has those bytes.
* `Chunk.encode_canonical`: **the bytes of any chunk are read, and written again the same**,
  whether or not the chunk is valid.
-/

namespace ExprMachine

namespace Wire

/-- A number that does not come back was not written in the first place. -/
lemma Constant.toItem_carried (k : Constant) : k.carried.toItem = k.toItem := by
  have hzero : ((0 : Float) == 0) = true := rfl
  rw [carried]
  split_ifs with hnum
  · simp only [toItem, hzero, hnum, if_true]
  · rfl

/-- A portable chunk is the same item after the trip as before. -/
lemma toItem_carried (w : Wire) : w.carried.toItem = w.toItem := by
  have hempty : (w.constants.map Constant.carried).isEmpty = w.constants.isEmpty := by
    simp only [Array.isEmpty, Array.size_map]
  simp only [toItem, carried, hempty, Array.toList_map, List.map_map, Function.comp_def,
    Constant.toItem_carried]

/-- What is read from the bytes of a portable chunk has those bytes. -/
lemma encode_of_decode_encode {w w' : Wire} (h : decode w.encode = .ok w') :
    w'.encode = w.encode := by
  obtain hread | hrefused := decode_encode_or w
  · rw [hread, Except.ok.injEq] at h
    rw [← h, encode, toItem_carried, encode]
  · rw [hrefused] at h
    cases h

end Wire

namespace Chunk

/-- **The bytes of a chunk are canonical.** The bytes of a chunk made from any source are
read as a portable chunk, and what is read is written as those bytes. The chunk may hold any
code, lines and constants, and need not be valid: its code has a length of at most eight
bytes, and its lines and its constants are not more than the entries that an array may have. -/
theorem encode_canonical (c : Chunk) (s : Source) (hcode : c.code.size < 2 ^ 64)
    (hlines : c.lines.size ≤ Cbor.maxEntries) (hconstants : c.constants.size ≤ Cbor.maxEntries) :
    ∃ w, Wire.decode (c.encode s) = .ok w ∧ w.encode = c.encode s := by
  have hread := decode_encode_of_within hcode hlines hconstants s
  exact ⟨_, hread, Wire.encode_of_decode_encode hread⟩

/-- A chunk with fewer lines than bytes and with the zero that has a minus sign, which is not
what is read back, beside an infinity and what is no number. -/
theorem encode_canonical_negativeZero :
    let c : Chunk := ⟨#[1, 0, 9], #[-1, 0],
      #[.number (Float.ofBits Number.negativeZeroBits), .number (0 / 0), .number (-1 / 0), .nil]⟩
    let s : Source := ⟨[0x2d, 0x30]⟩
    c.validate = .error (.lineMismatch 3 2) ∧ c.code.size < 2 ^ 64 ∧
      c.lines.size ≤ Cbor.maxEntries ∧ c.constants.size ≤ Cbor.maxEntries ∧
      ∃ w, (Wire.decode (c.encode s) = .ok w ∧ w.encode = c.encode s) ∧ w ≠ Wire.ofChunk c s := by
  intro c s
  have hcode : c.code.size < 2 ^ 64 := by decide
  have hlines : c.lines.size ≤ Cbor.maxEntries := by decide
  have hconstants : c.constants.size ≤ Cbor.maxEntries := by decide
  obtain ⟨w, hread, hwritten⟩ := encode_canonical c s hcode hlines hconstants
  refine ⟨rfl, hcode, hlines, hconstants, w, ⟨hread, hwritten⟩, ?_⟩
  rintro rfl
  -- what is read is the portable chunk without the sign
  rw [decode_encode_of_within hcode hlines hconstants, Except.ok.injEq] at hread
  exact absurd (congrArg Wire.constants hread) (by decide +kernel)

end Chunk

end ExprMachine
