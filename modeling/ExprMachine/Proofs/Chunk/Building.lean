import ExprMachine.Chunk.Basic
import Mathlib.Tactic
import Mathlib.Order.Bounds.Basic

/-!
What a chunk holds that was written call by call.

* `Chunk.Builder.Call`, `Chunk.Builder.perform`, `Chunk.Builder.after`: the calls
  that write a chunk, what one of them answers, and the chunk after some.
* `Chunk.Builder.offered`, `Chunk.Builder.written`: the values that calls offer to
  the pool and the bytes that they write, told from the calls alone.
* `Chunk.Builder.perform_eq_error_iff`, `Chunk.Builder.snd_perform_of_error`: when a call is
  refused, and that it changes nothing then.
* `Chunk.Builder.IsRoom`: the room for some bytes of code: none, or the least of
  8, 16, 32, ... that holds them.
* `Chunk.Builder.Records`: **the invariant**. The builder holds what the calls have
  written, and the first values that they have offered, as many as the pool holds.
* `Chunk.Builder.records_perform`: one call keeps it.
* `Chunk.Builder.records_after`: so it holds after all calls.
* `Chunk.Builder.after_calls`: what follows for the chunk and for the next call.
-/

namespace ExprMachine.Chunk.Builder

/-! ### Calls -/

/-- The calls that write a chunk. -/
inductive Call where
  /-- Writes a byte of code, which need not be an instruction. -/
  | write (byte : UInt8) (line : Int64)
  /-- Writes the byte of an instruction, which any byte is taken for. -/
  | writeOp (op : UInt8) (line : Int64)
  /-- Puts a constant into the pool. -/
  | addConstant (v : Value)
  /-- Puts a constant into the pool and writes the instruction that loads it. -/
  | emitConstant (v : Value) (line : Int64)
  deriving DecidableEq

/-- One call: what it answers, an index if it gives one, and the builder that it
leaves. -/
def perform (b : Builder) : Call → Except Error (Option UInt8) × Builder
  | .write byte line => (.ok none, b.write byte line)
  | .writeOp op line => (.ok none, b.writeOp op line)
  | .addConstant v =>
      let (answer, b) := b.addConstant v
      (answer.map some, b)
  | .emitConstant v line =>
      let (answer, b) := b.emitConstant v line
      (answer.map fun _ => none, b)

/-- The builder after some calls, from a chunk with nothing written. -/
def after (calls : List Call) : Builder :=
  calls.foldl (fun b call => (b.perform call).2) .new

/-- The value that a call offers to the pool, if it does. -/
def Call.offer : Call → List Value
  | .write _ _ | .writeOp _ _ => []
  | .addConstant v | .emitConstant v _ => [v]

/-- The values that calls offer to the pool, in order. -/
def offered (calls : List Call) : List Value :=
  calls.flatMap Call.offer

/-- The bytes that a call writes, each with its line, when `n` values have been
offered before it. A value that finds no place writes nothing. -/
def Call.bytes (n : ℕ) : Call → List (UInt8 × Int64)
  | .write byte line => [(byte, line)]
  | .writeOp op line => [(op, line)]
  | .addConstant _ => []
  | .emitConstant _ line =>
      if n < maxConstants then [(Opcode.constant.byte, line), (UInt8.ofNat n, line)] else []

/-- The bytes that calls write when `n` values have been offered before them. -/
def writtenFrom (n : ℕ) : List Call → List (UInt8 × Int64)
  | [] => []
  | call :: calls => call.bytes n ++ writtenFrom (n + call.offer.length) calls

/-- The bytes that calls write, each with its line, in order. -/
def written (calls : List Call) : List (UInt8 × Int64) :=
  writtenFrom 0 calls

lemma after_concat (calls : List Call) (call : Call) :
    after (calls ++ [call]) = ((after calls).perform call).2 := by
  simp [after]

lemma offered_concat (calls : List Call) (call : Call) :
    offered (calls ++ [call]) = offered calls ++ call.offer := by
  simp [offered]

lemma writtenFrom_concat (n : ℕ) (calls : List Call) (call : Call) :
    writtenFrom n (calls ++ [call]) =
      writtenFrom n calls ++ call.bytes (n + (offered calls).length) := by
  induction calls generalizing n with
  | nil => simp [writtenFrom, offered]
  | cons first calls ih =>
      simp only [List.cons_append, writtenFrom, ih, List.append_assoc]
      simp [offered, Nat.add_assoc]

lemma written_concat (calls : List Call) (call : Call) :
    written (calls ++ [call]) = written calls ++ call.bytes (offered calls).length := by
  rw [written, writtenFrom_concat, Nat.zero_add, written]

/-- Once the pool is full, it does not matter how many more values were offered. -/
lemma Call.bytes_min (call : Call) (n : ℕ) : call.bytes (min n maxConstants) = call.bytes n := by
  cases call with
  | emitConstant v line =>
      by_cases h : n < maxConstants
      · rw [Nat.min_eq_left h.le]
      · rw [Nat.min_eq_right (Nat.le_of_not_lt h)]
        simp [bytes, h]
  | _ => rfl

/-! ### One call -/

variable (b : Builder)

/-- A value is taken with the next index as long as the pool is not full. -/
lemma addConstant_of_lt (v : Value) (h : b.chunk.constants.size < maxConstants) :
    b.addConstant v = (.ok (UInt8.ofNat b.chunk.constants.size),
      { b with chunk := { b.chunk with constants := b.chunk.constants.push v } }) := by
  rw [addConstant, if_neg (Nat.not_le.mpr h)]
  dsimp only
  rw [Array.size_push, Nat.add_sub_cancel]

/-- A full pool is left as it is. -/
lemma addConstant_of_not_lt (v : Value) (h : ¬ b.chunk.constants.size < maxConstants) :
    b.addConstant v = (.error .poolFull, b) := by
  rw [addConstant, if_pos (Nat.not_lt.mp h)]

lemma emitConstant_of_lt (v : Value) (line : Int64)
    (h : b.chunk.constants.size < maxConstants) :
    b.emitConstant v line = (.ok (), ({ b with
      chunk := { b.chunk with constants := b.chunk.constants.push v } }.writeOp
        Opcode.constant.byte line).write (UInt8.ofNat b.chunk.constants.size) line) := by
  rw [emitConstant, addConstant_of_lt b v h]

/-- Nothing is written before it is known that the pool has room. -/
lemma emitConstant_of_not_lt (v : Value) (line : Int64)
    (h : ¬ b.chunk.constants.size < maxConstants) :
    b.emitConstant v line = (.error .poolFull, b) := by
  rw [emitConstant, addConstant_of_not_lt b v h]

/-- A call that offers a value to a full pool is refused and changes nothing. -/
lemma perform_of_full {call : Call} (hoffer : call.offer ≠ [])
    (h : ¬ b.chunk.constants.size < maxConstants) : b.perform call = (.error .poolFull, b) := by
  cases call with
  | addConstant v =>
      rw [perform, addConstant_of_not_lt b v h]
      rfl
  | emitConstant v line =>
      rw [perform, emitConstant_of_not_lt b v line h]
      rfl
  | _ => exact absurd rfl hoffer

/-- Every other call is accepted. -/
lemma exists_ok_of_perform {call : Call}
    (h : call.offer = [] ∨ b.chunk.constants.size < maxConstants) :
    ∃ index?, (b.perform call).1 = .ok index? := by
  cases call with
  | write byte line => exact ⟨none, rfl⟩
  | writeOp op line => exact ⟨none, rfl⟩
  | addConstant v =>
      rw [perform, addConstant_of_lt b v (h.resolve_left (List.cons_ne_nil v []))]
      exact ⟨_, rfl⟩
  | emitConstant v line =>
      rw [perform, emitConstant_of_lt b v line (h.resolve_left (List.cons_ne_nil v []))]
      exact ⟨_, rfl⟩

/-- A call is refused exactly if it offers a value to a full pool. -/
lemma perform_eq_error_iff (call : Call) :
    (∃ e, (b.perform call).1 = .error e) ↔
      call.offer ≠ [] ∧ ¬ b.chunk.constants.size < maxConstants := by
  constructor
  · rintro ⟨e, he⟩
    by_contra h
    have haccepted : call.offer = [] ∨ b.chunk.constants.size < maxConstants := by tauto
    obtain ⟨index?, hok⟩ := b.exists_ok_of_perform haccepted
    rw [hok] at he
    cases he
  · rintro ⟨hoffer, hfull⟩
    exact ⟨.poolFull, by rw [b.perform_of_full hoffer hfull]⟩

/-- A call that is refused leaves the builder as it was, whatever it would have written. -/
lemma snd_perform_of_error {call : Call} {e : Error} (h : (b.perform call).1 = .error e) :
    e = .poolFull ∧ (b.perform call).2 = b := by
  obtain ⟨hoffer, hfull⟩ := (b.perform_eq_error_iff call).mp ⟨e, h⟩
  rw [b.perform_of_full hoffer hfull] at h ⊢
  exact ⟨(Except.error.inj h).symm, rfl⟩

/-- A value that is added has as many values before it as its index says. -/
lemma exists_index_of_perform {v : Value} {index? : Option UInt8}
    (h : (b.perform (.addConstant v)).1 = .ok index?) :
    ∃ index, index? = some index ∧ index.toNat = b.chunk.constants.size := by
  by_cases hlt : b.chunk.constants.size < maxConstants
  · rw [perform, addConstant_of_lt b v hlt] at h
    exact ⟨_, (Except.ok.inj h).symm, UInt8.toNat_ofNat_of_lt' hlt⟩
  · rw [perform, addConstant_of_not_lt b v hlt] at h
    cases h

/-- What one call adds to the code, to the lines and to the pool. -/
lemma chunk_perform (call : Call) :
    (b.perform call).2.chunk.code.toList = b.chunk.code.toList ++
        (call.bytes b.chunk.constants.size).map Prod.fst ∧
      (b.perform call).2.chunk.lines.toList = b.chunk.lines.toList ++
        (call.bytes b.chunk.constants.size).map Prod.snd ∧
      (b.perform call).2.chunk.constants.toList = b.chunk.constants.toList ++
        call.offer.take (maxConstants - b.chunk.constants.size) := by
  by_cases h : b.chunk.constants.size < maxConstants
  · have htake (v : Value) : [v].take (maxConstants - b.chunk.constants.size) = [v] :=
      List.take_of_length_le (Nat.sub_pos_of_lt h)
    cases call with
    | addConstant v => simp [perform, addConstant_of_lt b v h, Call.bytes, Call.offer, htake]
    | emitConstant v line =>
        simp [perform, emitConstant_of_lt b v line h, Call.bytes, Call.offer, htake, h, writeOp,
          write]
    | _ => simp [perform, Call.bytes, Call.offer, writeOp, write]
  · have hzero : maxConstants - b.chunk.constants.size = 0 := by omega
    cases call with
    | addConstant v =>
        simp [perform, addConstant_of_not_lt b v h, Call.bytes, Call.offer, hzero]
    | emitConstant v line =>
        simp [perform, emitConstant_of_not_lt b v line h, Call.bytes, Call.offer, hzero, h]
    | _ => simp [perform, Call.bytes, Call.offer, writeOp, write]

/-! ### The room -/

/-- The room for `n` bytes of code: none for none, and otherwise the least of 8, 16,
32, ... that holds them. -/
def IsRoom (n room : ℕ) : Prop :=
  (n = 0 → room = 0) ∧ (n ≠ 0 → IsLeast {r | (∃ k, r = 8 * 2 ^ k) ∧ n ≤ r} room)

lemma IsRoom.le {n room : ℕ} (h : IsRoom n room) : n ≤ room := by
  rcases Nat.eq_zero_or_pos n with rfl | hn
  · exact Nat.zero_le _
  · exact (h.2 hn.ne').1.2

/-- A full room grows to the next size. -/
lemma IsRoom.grow {n : ℕ} (h : IsRoom n n) : IsRoom (n + 1) (grow n) := by
  refine ⟨fun hzero => absurd hzero (Nat.succ_ne_zero n), fun _ => ?_⟩
  rcases Nat.eq_zero_or_pos n with rfl | hn
  · refine ⟨⟨⟨0, rfl⟩, by decide⟩, ?_⟩
    rintro r ⟨⟨k, rfl⟩, -⟩
    exact Nat.le_mul_of_pos_right 8 (Nat.two_pow_pos k)
  · obtain ⟨⟨⟨k, rfl⟩, -⟩, -⟩ := h.2 hn.ne'
    have hpos := Nat.two_pow_pos k
    have hgrow : Builder.grow (8 * 2 ^ k) = 8 * 2 ^ (k + 1) := by
      rw [Builder.grow, if_neg (by omega), Nat.pow_succ, Nat.mul_assoc]
    rw [hgrow]
    refine ⟨⟨⟨k + 1, rfl⟩, by rw [Nat.pow_succ]; omega⟩, ?_⟩
    rintro r ⟨⟨j, rfl⟩, hj⟩
    -- a size above the full one is at least the next one
    have hlt : 2 ^ k < 2 ^ j := by omega
    have hkj : k + 1 ≤ j := (Nat.pow_lt_pow_iff_right (by norm_num)).mp hlt
    exact Nat.mul_le_mul_left 8 (Nat.pow_le_pow_right (by norm_num) hkj)

/-- A room that is not full stays. -/
lemma IsRoom.keep {n room : ℕ} (h : IsRoom n room) (hne : n ≠ room) : IsRoom (n + 1) room := by
  have hn : n ≠ 0 := by
    rintro rfl
    exact hne (h.1 rfl).symm
  obtain ⟨⟨hform, hle⟩, hleast⟩ := h.2 hn
  refine ⟨fun hzero => absurd hzero (Nat.succ_ne_zero n), fun _ => ⟨⟨hform, by omega⟩, ?_⟩⟩
  rintro r ⟨hr, hnr⟩
  exact hleast ⟨hr, by omega⟩

/-- Writing a byte keeps the room what it has to be. -/
lemma isRoom_write {b : Builder} (h : IsRoom b.chunk.code.size b.room) (byte : UInt8)
    (line : Int64) :
    IsRoom (b.write byte line).chunk.code.size (b.write byte line).room := by
  simp only [write, Array.size_push]
  split_ifs with hfull
  · rw [← hfull] at h ⊢
    exact h.grow
  · exact h.keep hfull

lemma isRoom_perform {b : Builder} (h : IsRoom b.chunk.code.size b.room) (call : Call) :
    IsRoom (b.perform call).2.chunk.code.size (b.perform call).2.room := by
  cases call with
  | write byte line => exact isRoom_write h byte line
  | writeOp op line => exact isRoom_write h op line
  | addConstant v =>
      by_cases hlt : b.chunk.constants.size < maxConstants
      · simpa [perform, addConstant_of_lt b v hlt] using h
      · simpa [perform, addConstant_of_not_lt b v hlt] using h
  | emitConstant v line =>
      by_cases hlt : b.chunk.constants.size < maxConstants
      · simp only [perform, emitConstant_of_lt b v line hlt]
        refine isRoom_write (isRoom_write ?_ _ _) _ _
        exact h
      · simpa [perform, emitConstant_of_not_lt b v line hlt] using h

/-- Code and lines of one length, within their room, have room for any number of
bytes more. -/
lemma fits_of_le {n room : ℕ} (h : n ≤ room) (more : ℕ) : fits n n room more = true := by
  induction more generalizing n room with
  | zero => rfl
  | succ more ih =>
      rw [fits]
      split_ifs with hfull
      · have hlt : n + 1 ≤ grow room := by
          unfold grow
          split_ifs <;> omega
        rw [ih hlt, Bool.and_true, decide_eq_true_eq]
        omega
      · exact ih (by omega)

/-! ### All calls -/

/-- What a builder holds after some calls. -/
structure Records (calls : List Call) (b : Builder) : Prop where
  code : b.chunk.code.toList = (written calls).map Prod.fst
  lines : b.chunk.lines.toList = (written calls).map Prod.snd
  constants : b.chunk.constants.toList = (offered calls).take maxConstants
  room : IsRoom b.chunk.code.size b.room

namespace Records

variable {calls : List Call} {b}

lemma size_constants (h : Records calls b) :
    b.chunk.constants.size = min (offered calls).length maxConstants := by
  rw [← Array.length_toList, h.constants, List.length_take, Nat.min_comm]

lemma size_code (h : Records calls b) : b.chunk.code.size = b.chunk.lines.size := by
  rw [← Array.length_toList, ← Array.length_toList, h.code, h.lines, List.length_map,
    List.length_map]

lemma hasRoom (h : Records calls b) (n : ℕ) : b.hasRoom n = true := by
  rw [Builder.hasRoom, ← h.size_code]
  exact fits_of_le h.room.le n

lemma validate (h : Records calls b) : b.chunk.validate = .ok () := by
  have hle : b.chunk.constants.size ≤ maxConstants := by
    rw [h.size_constants]
    exact Nat.min_le_right _ _
  rw [Chunk.validate, if_neg (not_not.mpr h.size_code), if_neg (Nat.not_lt.mpr hle)]

end Records

/-- One call more is recorded. -/
lemma records_perform {calls : List Call} {b : Builder} (h : Records calls b) (call : Call) :
    Records (calls ++ [call]) (b.perform call).2 := by
  obtain ⟨hcode, hlines, hconstants⟩ := b.chunk_perform call
  have hbytes : call.bytes b.chunk.constants.size = call.bytes (offered calls).length := by
    rw [h.size_constants, call.bytes_min]
  rw [hbytes] at hcode hlines
  refine ⟨?_, ?_, ?_, isRoom_perform h.room call⟩
  · rw [hcode, h.code, written_concat, List.map_append]
  · rw [hlines, h.lines, written_concat, List.map_append]
  · rw [hconstants, h.constants, h.size_constants, offered_concat, List.take_append]
    congr 2
    omega

/-- Calls are recorded one after the other. -/
lemma records_after (calls : List Call) : Records calls (after calls) := by
  induction calls using List.reverseRecOn with
  | nil => exact ⟨rfl, rfl, rfl, fun _ => rfl, fun h => absurd rfl h⟩
  | append_singleton calls call ih =>
      rw [after_concat]
      exact records_perform ih call

/-- **The builder's invariant**: after any calls, code and lines have one length and
are what the calls have written, the pool holds the first 256 values that they have
offered, the chunk is valid and every further write finds room, which is none at
first and then the least of 8, 16, 32, ... that holds the code. The next call is
refused exactly if it offers a value to a pool of 256, and changes nothing then; a
value that is added gets the number of values before it as its index. -/
theorem after_calls (calls : List Call) :
    let b := after calls
    (b.chunk.code.size = b.chunk.lines.size ∧
      b.chunk.code.toList = (written calls).map Prod.fst ∧
      b.chunk.lines.toList = (written calls).map Prod.snd) ∧
    (b.chunk.constants.toList = (offered calls).take 256 ∧ b.chunk.constants.size ≤ 256) ∧
    (∀ v index?, (b.perform (.addConstant v)).1 = .ok index? →
      ∃ index, index? = some index ∧ index.toNat = b.chunk.constants.size) ∧
    (∀ call, ((∃ e, (b.perform call).1 = .error e) ↔
        call.offer ≠ [] ∧ b.chunk.constants.size = 256) ∧
      ∀ e, (b.perform call).1 = .error e → e = .poolFull ∧ (b.perform call).2 = b) ∧
    b.chunk.validate = .ok () ∧ (∀ n, b.hasRoom n = true) ∧
    (written calls = [] → b.room = 0) ∧
    (written calls ≠ [] →
      IsLeast {r | (∃ k, r = 8 * 2 ^ k) ∧ b.chunk.code.size ≤ r} b.room) := by
  intro b
  have h : Records calls b := records_after calls
  have hle : b.chunk.constants.size ≤ 256 := by
    rw [h.size_constants]
    exact Nat.min_le_right _ _
  have hsize : b.chunk.code.size = (written calls).length := by
    rw [← Array.length_toList, h.code, List.length_map]
  have hfull : ¬ b.chunk.constants.size < maxConstants ↔ b.chunk.constants.size = 256 := by
    simp only [maxConstants]
    omega
  refine ⟨⟨h.size_code, h.code, h.lines⟩, ⟨h.constants, hle⟩,
    fun v index? hok => b.exists_index_of_perform hok,
    fun call => ⟨?_, fun e he => b.snd_perform_of_error he⟩,
    h.validate, h.hasRoom, fun hnone => ?_, fun hsome => ?_⟩
  · rw [b.perform_eq_error_iff call, hfull]
  · exact h.room.1 (by rw [hsize, hnone]; rfl)
  · exact h.room.2 (by rw [hsize, ne_eq, List.length_eq_zero_iff]; exact hsome)

end ExprMachine.Chunk.Builder
