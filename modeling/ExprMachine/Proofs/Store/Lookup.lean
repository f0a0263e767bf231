import ExprMachine.Proofs.Table
import ExprMachine.Proofs.Wire.Compiled
import ExprMachine.Store

/-!
What a store gives back of what was put in.

* `Layout.unhex?_hex`, `Store.digestOf_eq_of_keyOf_eq`: a key tells which digest
  it was made of.
* `Store.row?_insert`: one row for each key, the last one written.
* `Store.rowOf`, `Store.chunk?_examine_rowOf_eq`: the row of a source holds what its
  bytes stand for. That of a compiled source holds its chunk, unless the chunk is too
  long to be read or the digest is none (`Store.chunk?_examine_rowOf`).
* `Store.Hits`, `Store.chunk?_examine_eq_some_iff`: what is found, whatever the rows
  hold.
-/

namespace ExprMachine

/-! ### Keys -/

namespace Layout

lemma hexValue?_hexDigit {n : ℕ} (h : n < 16) : hexValue? (hexDigit n) = some n := by
  have hall : ∀ n ∈ List.range 16, hexValue? (hexDigit n) = some n := by decide
  exact hall n (List.mem_range.mpr h)

/-- The digits of bytes stand for these bytes. -/
lemma unhex?_hex (bytes : List UInt8) : unhex? (hex bytes).toList = some bytes := by
  rw [hex, String.toList_ofList]
  induction bytes with
  | nil => rfl
  | cons b bytes ih =>
      have hlt := b.toNat_lt
      have hhigh := hexValue?_hexDigit (show b.toNat / 16 < 16 by omega)
      have hlow := hexValue?_hexDigit (show b.toNat % 16 < 16 by omega)
      have hbyte : UInt8.ofNat (16 * (b.toNat / 16) + b.toNat % 16) = b := by
        rw [Nat.div_add_mod, UInt8.ofNat_toNat]
      simp only [List.flatMap_cons, List.cons_append, List.nil_append, unhex?, hhigh, hlow, ih,
        Option.bind_eq_bind, Option.bind_some, hbyte, Option.pure_def]

end Layout

/-- Digests with the same digits are the same. -/
lemma Digest.eq_of_hex_eq {d e : Digest} (h : d.hex = e.hex) : d = e := by
  have hbytes : some d.toList = some e.toList := by
    rw [← Layout.unhex?_hex, ← Layout.unhex?_hex]
    exact congrArg (fun key => Layout.unhex? key.toList) h
  exact Vector.toList_inj.mp (Option.some_inj.mp hbytes)

namespace Store

/-- A key has two digits for each byte of a digest. -/
lemma length_keyOf (s : Source) : (keyOf s).length = 64 := by
  simp [keyOf, Digest.hex, Layout.hex]

/-- Sources with one key have one digest. -/
lemma digestOf_eq_of_keyOf_eq {a b : Source} (h : keyOf a = keyOf b) :
    Wire.digestOf a = Wire.digestOf b := by
  rw [keyOf, keyOf] at h
  exact Digest.eq_of_hex_eq h

/-! ### Rows -/

/-- The row of a key after a row has been written. -/
lemma row?_insert (st : Store) (key other : String) (row : Row) :
    (st.insert key row).row? other = if other = key then some row else st.row? other :=
  Table.lookup_put st.rows key other row

/-- The row that is written for a source and its chunk. -/
def rowOf (s : Source) (c : Chunk) (now : ℤ) : Row :=
  ⟨Wire.currentVersion.toNat, c.encode s, now⟩

/-- What a row holds for its own source is what its bytes stand for, unless the source
is empty or has no digest. -/
lemma chunk?_examine_rowOf_eq (s : Source) (c : Chunk) (now : ℤ) :
    (examine s (some (rowOf s c now))).chunk? =
      if s.bytes = [] ∨ Wire.digestOf s = .zero then none
      else (Chunk.ofBytes (c.encode s)).toOption := by
  have hdigest : (Wire.ofChunk c s).carried.digest =
      if s.bytes.isEmpty then .zero else Wire.digestOf s := rfl
  rw [examine, rowOf, if_neg (by simp), Chunk.ofBytes, Chunk.encode]
  rcases Wire.decode_encode_or (Wire.ofChunk c s) with hdecode | hdecode
  · rw [hdecode]
    by_cases hbytes : s.bytes = []
    · simp [hbytes, Wire.verify, hdigest, Finding.chunk?]
    · by_cases hzero : Wire.digestOf s = .zero
      · simp [hzero, Wire.verify, hdigest, Finding.chunk?]
      · cases hchunk : (Wire.ofChunk c s).carried.toChunk with
        | error e =>
            simp [hbytes, hzero, Wire.verify, hdigest, hchunk, Finding.chunk?, bind, Except.bind,
              Except.toOption]
        | ok d =>
            simp [hbytes, hzero, Wire.verify, hdigest, hchunk, Finding.chunk?, bind, Except.bind,
              Except.toOption]
  · rw [hdecode]
    simp [Finding.chunk?, bind, Except.bind, Except.toOption]

/-- The row of a compiled source holds its chunk, unless the chunk has too many
bytes to be read back or the source has no digest. -/
lemma chunk?_examine_rowOf {s : Source} {c : Chunk} (hc : s.compile = .ok c) (now : ℤ) :
    (examine s (some (rowOf s c now))).chunk? =
      if c.code.size ≤ Cbor.maxEntries ∧ Wire.digestOf s ≠ .zero then some c else none := by
  rw [chunk?_examine_rowOf_eq, Chunk.ofBytes_encode (Source.validate_of_compile hc),
    Source.carried_of_compile hc]
  have hbytes := Source.bytes_ne_nil_of_compile hc
  by_cases hzero : Wire.digestOf s = .zero
  · simp [hzero]
  · by_cases hsize : c.code.size ≤ Cbor.maxEntries
    · simp [hbytes, hzero, hsize, Except.toOption]
    · simp [hbytes, hzero, hsize, Except.toOption]

/-! ### What is found -/

/-- Looking a source up yields a chunk. -/
def Hits (st : Store) (s : Source) (c : Chunk) : Prop :=
  ∃ log, st.lookup s = .ok (some c, log)

/-- An open store refuses no source. -/
lemma exists_lookup_eq {st : Store} (hopen : st.closed = false) (s : Source) :
    ∃ found log, st.lookup s = .ok (found, log) := by
  rw [lookup, if_neg (by simp [hopen])]
  exact ⟨_, _, rfl⟩

/-- What an open store yields is what the row of the source holds. -/
lemma hits_iff {st : Store} (hopen : st.closed = false) {s : Source} {c : Chunk} :
    st.Hits s c ↔ (examine s (st.row? (keyOf s))).chunk? = some c := by
  simp [Hits, lookup, hopen]

/-- A row holds a chunk for a source if the current version wrote it, its bytes are a
portable chunk with the digest of the source, and the parts of that make a chunk. -/
lemma chunk?_examine_eq_some_iff {s : Source} {found : Option Row} {c : Chunk} :
    (examine s found).chunk? = some c ↔
      ∃ row w, found = some row ∧ row.version = 1 ∧ Wire.decode row.data = .ok w ∧
        w.digest ≠ .zero ∧ w.digest = Wire.digestOf s ∧ w.toChunk = .ok c := by
  have hversion : ((Wire.currentVersion.toNat : ℕ) : ℤ) = 1 := rfl
  cases found with
  | none => simp [examine, Finding.chunk?]
  | some row =>
      simp only [examine, hversion, Option.some.injEq, exists_eq_left', exists_and_left]
      by_cases hrow : row.version = 1
      · cases hdecode : Wire.decode row.data with
        | error e => simp [hrow, Finding.chunk?]
        | ok w =>
            by_cases hzero : w.digest = .zero
            · simp [hrow, Wire.verify, hzero, Finding.chunk?]
            · by_cases hdigest : Wire.digestOf s = w.digest
              · cases hchunk : w.toChunk <;>
                  simp [hrow, Wire.verify, hzero, hdigest, hchunk, Finding.chunk?]
              · simp [hrow, Wire.verify, hzero, hdigest, Ne.symm hdigest, Finding.chunk?]
      · simp [hrow, Finding.chunk?]

end Store

end ExprMachine
