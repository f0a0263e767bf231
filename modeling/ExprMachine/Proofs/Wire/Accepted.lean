import ExprMachine.Proofs.Wire.RoundTrip

/-!
Which portable chunks make a chunk.

* `Wire.Constant.StandsFor`: the value that a portable constant stands for, by its
  kind.
* `Wire.valuesFrom_eq_ok_iff`: the values of a row of constants, each in its place.
* `Wire.toChunk_eq_ok_iff`: **what is taken for a chunk**, and the chunk that it is.
* `Chunk.ofBytes_eq_ok_iff`: the same for bytes.
-/

namespace ExprMachine

namespace Wire

/-- A portable constant has one of three kinds, which tells the value that it stands
for. -/
def Constant.StandsFor (k : Constant) (v : Value) : Prop :=
  (k.kind = 0 ∧ v = .nil) ∨ (k.kind = 1 ∧ v = .number k.num) ∨ (k.kind = 2 ∧ v = .boolean k.bool)

lemma Constant.toValue?_eq_some_iff {k : Constant} {v : Value} :
    k.toValue? = some v ↔ k.StandsFor v := by
  rw [toValue?, StandsFor]
  by_cases h0 : k.kind = 0
  · simp [h0, eq_comm]
  by_cases h1 : k.kind = 1
  · simp [h1, eq_comm]
  by_cases h2 : k.kind = 2
  · simp [h2, eq_comm]
  · simp [h0, h1, h2]

/-- Constants have values if each of them stands for one. -/
lemma valuesFrom_eq_ok_iff {i : ℕ} {ks : List Constant} {vs : List Value} :
    valuesFrom i ks = .ok vs ↔ List.Forall₂ Constant.StandsFor ks vs := by
  induction ks generalizing i vs with
  | nil => simp [valuesFrom, eq_comm]
  | cons k ks ih =>
      rw [valuesFrom]
      cases hk : k.toValue? with
      | none =>
          have hnone (v : Value) : ¬ k.StandsFor v := by
            rw [← Constant.toValue?_eq_some_iff, hk]
            simp
          cases vs <;> simp [hnone]
      | some first =>
          have hfirst (v : Value) : k.StandsFor v ↔ v = first := by
            rw [← Constant.toValue?_eq_some_iff, hk, Option.some_inj, eq_comm]
          cases hrest : valuesFrom (i + 1) ks with
          | error e =>
              have hnone (vs : List Value) : ¬ List.Forall₂ Constant.StandsFor ks vs := by
                rw [← ih (i := i + 1), hrest]
                simp
              cases vs <;> simp [Except.map, hnone]
          | ok rest =>
              have hrest' (vs : List Value) :
                  List.Forall₂ Constant.StandsFor ks vs ↔ rest = vs := by
                rw [← ih (i := i + 1), hrest, Except.ok.injEq]
              cases vs <;> simp [Except.map, hfirst, hrest', eq_comm]

/-- **What is taken for a chunk**: a portable chunk that no later version wrote, whose
constants all have a listed kind, and whose parts fit together. The chunk has its code,
its lines, and the values of its constants in their places. -/
lemma toChunk_eq_ok_iff {w : Wire} {c : Chunk} :
    w.toChunk = .ok c ↔
      w.version ≤ currentVersion ∧ c.code = w.code?.getD #[] ∧ c.lines = w.lines?.getD #[] ∧
        List.Forall₂ Constant.StandsFor w.constants.toList c.constants.toList ∧
        c.validate = .ok () := by
  rw [toChunk]
  by_cases hversion : currentVersion < w.version
  · rw [if_pos hversion]
    simp [UInt16.not_le.mpr hversion]
  rw [if_neg hversion, ← valuesFrom_eq_ok_iff (i := 0)]
  simp only [UInt16.not_lt.mp hversion, true_and]
  cases hvalues : valuesFrom 0 w.constants.toList with
  | error e => simp
  | ok values =>
      set made : Chunk := ⟨w.code?.getD #[], w.lines?.getD #[], values.toArray⟩ with hmade
      have hbuild : Chunk.build values.toArray (w.code?.getD #[]) (w.lines?.getD #[]) =
          made.validate.map fun _ => made := rfl
      have hparts : c = made ↔
          c.code = w.code?.getD #[] ∧ c.lines = w.lines?.getD #[] ∧ values = c.constants.toList := by
        obtain ⟨code, lines, constants⟩ := c
        rw [hmade, Chunk.mk.injEq, ← List.toArray_eq_iff, eq_comm (a := constants)]
      simp only [hbuild, Except.ok.injEq]
      cases hvalid : made.validate with
      | error e =>
          simp only [Except.map, Except.mapError, reduceCtorEq, false_iff, not_and]
          intro hcode hlines hconstants
          rw [hparts.mpr ⟨hcode, hlines, hconstants⟩, hvalid]
          simp
      | ok =>
          simp only [Except.map, Except.mapError, Except.ok.injEq]
          constructor
          · rintro rfl
            obtain ⟨hcode, hlines, hconstants⟩ := hparts.mp rfl
            exact ⟨hcode, hlines, hconstants, hvalid⟩
          · rintro ⟨hcode, hlines, hconstants, -⟩
            exact (hparts.mpr ⟨hcode, hlines, hconstants⟩).symm

end Wire

/-- The bytes of a chunk are those of a portable chunk that is taken for one. -/
lemma Chunk.ofBytes_eq_ok_iff {bytes : List UInt8} {c : Chunk} :
    Chunk.ofBytes bytes = .ok c ↔ ∃ w, Wire.decode bytes = .ok w ∧ w.toChunk = .ok c := by
  rw [Chunk.ofBytes]
  cases Wire.decode bytes with
  | error e => simp [bind, Except.bind]
  | ok w => simp [bind, Except.bind]

end ExprMachine
