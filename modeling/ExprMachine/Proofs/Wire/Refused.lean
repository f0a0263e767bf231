import ExprMachine.Proofs.Wire.Accepted

/-!
What a portable chunk is refused for.

A portable chunk can break several rules at once, and the refusal names the first of them in a
fixed order.

* `Wire.Valid`: the rules.
* `Wire.Refused`: what is said of a portable chunk that breaks some of them.
* `Wire.valuesFrom_eq_error_iff`: of a row of constants, the first with an unlisted kind is
  named.
* `Wire.renewed`, `Wire.ofChunk_of_toChunk`: what is left of a portable chunk once it has
  been taken for a chunk and written again.
* `Wire.toChunk_verdict`: all of it for every portable chunk.
-/

namespace ExprMachine

namespace Wire

/-! ### Constants -/

/-- Whether the kind of a portable constant is listed. -/
def Constant.Listed (k : Constant) : Prop :=
  k.kind = 0 ∨ k.kind = 1 ∨ k.kind = 2

/-- A portable constant without what its kind does not select. -/
def Constant.cleared (k : Constant) : Constant :=
  ⟨k.kind, if k.kind = 1 then k.num else 0, if k.kind = 2 then k.bool else false⟩

lemma Constant.listed_iff {k : Constant} : k.Listed ↔ ∃ v, k.StandsFor v := by
  simp only [Listed, StandsFor, exists_or, exists_and_left, exists_eq, and_true]

lemma Constant.toValue?_eq_none_iff {k : Constant} : k.toValue? = none ↔ ¬ k.Listed := by
  rw [listed_iff, Option.eq_none_iff_forall_ne_some, not_exists]
  exact forall_congr' fun v => not_congr toValue?_eq_some_iff

/-- Writing the value of a portable constant again clears the constant. -/
lemma Constant.StandsFor.ofValue_eq {k : Constant} {v : Value} (h : k.StandsFor v) :
    ofValue v = k.cleared := by
  obtain ⟨kind, num, bool⟩ := k
  obtain ⟨rfl, rfl⟩ | ⟨rfl, rfl⟩ | ⟨rfl, rfl⟩ := h <;> rfl

/-- Of a row of constants, the first with an unlisted kind is named. -/
lemma valuesFrom_eq_error_iff {i : ℕ} {ks : List Constant} {e : Error} :
    valuesFrom i ks = .error e ↔
      ∃ j k, ks[j]? = some k ∧ ¬ k.Listed ∧ (∀ k' ∈ ks.take j, k'.Listed) ∧
        e = .unknownKind (i + j) k.kind := by
  induction ks generalizing i with
  | nil => simp [valuesFrom]
  | cons first ks ih =>
      rw [valuesFrom, ← Nat.or_exists_add_one]
      cases hfirst : first.toValue? with
      | none =>
          have hunlisted := Constant.toValue?_eq_none_iff.mp hfirst
          simp [hunlisted, eq_comm]
      | some v =>
          have hlisted : first.Listed := by
            by_contra hnot
            rw [Constant.toValue?_eq_none_iff.mpr hnot] at hfirst
            cases hfirst
          have hrest : (valuesFrom (i + 1) ks).map (v :: ·) = .error e ↔
              valuesFrom (i + 1) ks = .error e := by
            cases valuesFrom (i + 1) ks <;> simp [Except.map]
          have hshift : ∀ j, i + 1 + j = i + (j + 1) := fun j => by omega
          simp [hrest, ih, hlisted, hshift]

/-! ### Portable chunks -/

variable {w : Wire} {c : Chunk} {e : Error}

/-- The code of a portable chunk, none if it is absent. -/
def code (w : Wire) : Array UInt8 :=
  w.code?.getD #[]

/-- The lines of a portable chunk, none if they are absent. -/
def lines (w : Wire) : Array Int64 :=
  w.lines?.getD #[]

/-- The rules for portable chunks. -/
structure Valid (w : Wire) : Prop where
  version : w.version ≤ currentVersion
  kinds : ∀ k ∈ w.constants, k.Listed
  lengths : w.code.size = w.lines.size
  count : w.constants.size ≤ Chunk.maxConstants

/-- `w.Refused e`: of the rules that the portable chunk `w` breaks, `e` names the first. What
is wrong with the parts is told by the refusal of the parts itself. -/
inductive Refused (w : Wire) : Error → Prop
  /-- A later version wrote it. -/
  | version (h : currentVersion < w.version) : Refused w (.newerVersion w.version)
  /-- A constant, the first such, has a kind that is not listed. -/
  | kind {i : ℕ} {k : Constant} (hversion : w.version ≤ currentVersion)
      (hk : w.constants[i]? = some k) (hunlisted : ¬ k.Listed)
      (hbefore : ∀ j < i, ∀ k', w.constants[j]? = some k' → k'.Listed) :
      Refused w (.unknownKind i k.kind)
  /-- Its code and its lines differ in length. -/
  | lengths (hversion : w.version ≤ currentVersion) (hkinds : ∀ k ∈ w.constants, k.Listed)
      (h : w.code.size ≠ w.lines.size) :
      Refused w (.invalid (.lineMismatch w.code.size w.lines.size))
  /-- It has too many constants. -/
  | count (hversion : w.version ≤ currentVersion) (hkinds : ∀ k ∈ w.constants, k.Listed)
      (hlengths : w.code.size = w.lines.size) (h : Chunk.maxConstants < w.constants.size) :
      Refused w (.invalid (.tooManyConstants w.constants.size))

/-- Constants have values if their kinds are all listed, and as many. -/
lemma exists_values (hkinds : ∀ k ∈ w.constants, k.Listed) :
    ∃ values, valuesFrom 0 w.constants.toList = .ok values ∧
      values.length = w.constants.size := by
  cases hvalues : valuesFrom 0 w.constants.toList with
  | error e =>
      obtain ⟨j, k, hk, hunlisted, -, -⟩ := valuesFrom_eq_error_iff.mp hvalues
      exact absurd (hkinds k (Array.mem_toList_iff.mp (List.mem_of_getElem? hk))) hunlisted
  | ok values =>
      refine ⟨values, rfl, ?_⟩
      rw [← (valuesFrom_eq_ok_iff.mp hvalues).length_eq, Array.length_toList]

/-- With a version and constants in order, the parts decide. -/
lemma toChunk_eq_build (hversion : w.version ≤ currentVersion)
    (hkinds : ∀ k ∈ w.constants, k.Listed) :
    ∃ values : List Value, values.length = w.constants.size ∧
      w.toChunk = (Chunk.build values.toArray w.code w.lines).mapError .invalid := by
  obtain ⟨values, hvalues, hlength⟩ := exists_values hkinds
  refine ⟨values, hlength, ?_⟩
  rw [toChunk, if_neg (UInt16.not_lt.mpr hversion), hvalues]
  rfl

lemma toChunk_of_refused (h : w.Refused e) : w.toChunk = .error e := by
  cases h with
  | version h => rw [toChunk, if_pos h]
  | @kind i k hversion hk hunlisted hbefore =>
      have hvalues : valuesFrom 0 w.constants.toList = .error (.unknownKind i k.kind) := by
        refine valuesFrom_eq_error_iff.mpr ⟨i, k, by simpa using hk, hunlisted, ?_, by simp⟩
        intro k' hk'
        obtain ⟨j, hj, hget⟩ := List.mem_take_iff_getElem.mp hk'
        exact hbefore j (by omega) k' (by simp [← hget])
      rw [toChunk, if_neg (UInt16.not_lt.mpr hversion), hvalues]
  | lengths hversion hkinds h =>
      obtain ⟨values, -, hbuild⟩ := toChunk_eq_build hversion hkinds
      rw [hbuild, Chunk.build, Chunk.validate, if_pos h]
      rfl
  | count hversion hkinds hlengths h =>
      obtain ⟨values, hlength, hbuild⟩ := toChunk_eq_build hversion hkinds
      have hsize : values.toArray.size = w.constants.size := hlength
      rw [hbuild, Chunk.build, Chunk.validate, if_neg (not_not.mpr hlengths)]
      dsimp only
      rw [hsize, if_pos h]
      rfl

/-- A portable chunk keeps all rules, or something is said of it. -/
lemma valid_or_refused (w : Wire) : w.Valid ∨ ∃ e, w.Refused e := by
  rcases UInt16.lt_or_le currentVersion w.version with hnewer | hversion
  · exact .inr ⟨_, .version hnewer⟩
  by_cases hkinds : ∀ k ∈ w.constants, k.Listed
  · by_cases hlengths : w.code.size = w.lines.size
    · rcases Nat.lt_or_ge Chunk.maxConstants w.constants.size with hmany | hcount
      · exact .inr ⟨_, .count hversion hkinds hlengths hmany⟩
      · exact .inl ⟨hversion, hkinds, hlengths, hcount⟩
    · exact .inr ⟨_, .lengths hversion hkinds hlengths⟩
  · simp only [not_forall] at hkinds
    obtain ⟨k, hmem, hunlisted⟩ := hkinds
    have hsome : ∃ (i : ℕ) (k : Constant), w.constants[i]? = some k ∧ ¬ k.Listed := by
      obtain ⟨i, hi⟩ := Array.getElem?_of_mem hmem
      exact ⟨i, k, hi, hunlisted⟩
    classical
    obtain ⟨first, hfirst, hfirst'⟩ := Nat.find_spec hsome
    refine .inr ⟨_, .kind hversion hfirst hfirst' fun j hj k' hk' => ?_⟩
    by_contra hnot
    exact Nat.find_min hsome hj ⟨k', hk', hnot⟩

/-- The rules are those that a portable chunk must keep to be taken for a chunk. -/
lemma exists_toChunk_iff (w : Wire) : (∃ c, w.toChunk = .ok c) ↔ w.Valid := by
  constructor
  · rintro ⟨c, hc⟩
    refine w.valid_or_refused.resolve_right ?_
    rintro ⟨e, he⟩
    rw [toChunk_of_refused he] at hc
    cases hc
  · rintro ⟨hversion, hkinds, hlengths, hcount⟩
    obtain ⟨values, hlength, hbuild⟩ := toChunk_eq_build hversion hkinds
    have hvalid : (Chunk.mk w.code w.lines values.toArray).validate = .ok () := by
      have hsize : values.toArray.size = w.constants.size := hlength
      exact (Chunk.validate_eq_ok_iff _).mpr ⟨hlengths, hsize.le.trans hcount⟩
    refine ⟨⟨w.code, w.lines, values.toArray⟩, ?_⟩
    rw [hbuild, Chunk.build, hvalid]
    rfl

/-- What is said of a portable chunk when it is refused. -/
lemma toChunk_eq_error_iff : w.toChunk = .error e ↔ w.Refused e := by
  refine ⟨fun h => ?_, toChunk_of_refused⟩
  obtain hvalid | ⟨e', he'⟩ := w.valid_or_refused
  · obtain ⟨c, hc⟩ := (exists_toChunk_iff w).mpr hvalid
    rw [hc] at h
    cases h
  · rw [toChunk_of_refused he', Except.error.injEq] at h
    exact h ▸ he'

/-! ### Taken for a chunk and written again -/

/-- A portable chunk with the version and the digest of a source, without what its constants
do not select, and with nothing for a buffer that is empty. -/
def renewed (w : Wire) (s : Source) : Wire where
  version := currentVersion
  digest := if s.bytes = [] then .zero else digestOf s
  code? := w.code?.filter (0 < ·.size)
  lines? := w.lines?.filter (0 < ·.size)
  constants := w.constants.map Constant.cleared

lemma present_getD {α : Type} (buffer? : Option (Array α)) :
    present (buffer?.getD #[]) = buffer?.filter (0 < ·.size) := by
  cases buffer? with
  | none => rfl
  | some buffer =>
      rw [Option.getD_some, present, Option.filter_some]
      by_cases hempty : buffer = #[]
      · simp [hempty]
      · simp [hempty, Array.size_pos_iff]

/-- What a portable chunk is written as once it has been taken for a chunk. -/
lemma ofChunk_of_toChunk (h : w.toChunk = .ok c) (s : Source) : ofChunk c s = w.renewed s := by
  obtain ⟨-, hcode, hlines, hconstants, -⟩ := toChunk_eq_ok_iff.mp h
  have hcleared : c.constants.map Constant.ofValue = w.constants.map Constant.cleared := by
    rw [← Array.toList_inj, Array.toList_map, Array.toList_map]
    refine List.forall₂_eq_eq_eq ▸ List.forall₂_map_left_iff.mpr (List.forall₂_map_right_iff.mpr ?_)
    exact hconstants.flip.imp fun v k h => Constant.StandsFor.ofValue_eq h
  rw [ofChunk, renewed, hcode, hlines, present_getD, present_getD, hcleared]
  simp

/-- **The verdict on a portable chunk.** It is taken for a chunk exactly if it keeps all rules.
The chunk has its code and its lines and, in their places, the values that its constants stand
for; written again for any source, it is the portable chunk renewed. If it is refused, the
refusal names the first rule that it breaks, in the order of version, kinds, lengths and
count. -/
theorem toChunk_verdict (w : Wire) :
    ((∃ c, w.toChunk = .ok c) ↔ w.Valid) ∧
      (∀ c, w.toChunk = .ok c →
        c.code = w.code ∧ c.lines = w.lines ∧
          List.Forall₂ Constant.StandsFor w.constants.toList c.constants.toList ∧
            ∀ s, ofChunk c s = w.renewed s) ∧
      ∀ e, w.toChunk = .error e ↔ w.Refused e := by
  refine ⟨exists_toChunk_iff w, fun c hc => ?_, fun e => toChunk_eq_error_iff⟩
  obtain ⟨-, hcode, hlines, hconstants, -⟩ := toChunk_eq_ok_iff.mp hc
  exact ⟨hcode, hlines, hconstants, ofChunk_of_toChunk hc⟩

/-- Two unlisted kinds and no lines: the first of the kinds is named. -/
example :
    toChunk ⟨0, .zero, some #[0], none, #[⟨2, 1, true⟩, ⟨9, 0, false⟩, ⟨3, 0, false⟩]⟩ =
      .error (.unknownKind 1 9) := rfl

end Wire

end ExprMachine
