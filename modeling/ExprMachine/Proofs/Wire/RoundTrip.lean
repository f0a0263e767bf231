import ExprMachine.Proofs.Cbor.RoundTrip
import ExprMachine.Wire.Codec

/-!
Portable chunks written and read back.

Of what is written, two things do not come back: the minus sign of a constant
zero, because a number that equals zero is left out, and a chunk with more lines
than the reader admits in an array.

* `Wire.Constant.carried`, `Value.carried`: a constant as it comes back.
* `Wire.view?_unsigned` and its like: what an item without tags is seen as.
* `Wire.fields?_numbered`: the fields of a map with numbers for its keys.
* `Wire.ofItem?_toItem`: the fields of a portable chunk are read back.
* `Wire.decode_encode`, `Wire.decode_encode_of_lt`: its bytes are, unless it has
  too many lines. No other portable chunk is read from them
  (`Wire.decode_encode_or`).
* `Chunk.ofBytes_encode`: **the round trip of chunks**.
* `Chunk.ofBytes_encode_eq_ok_iff`: the chunks that come back unchanged.
-/

namespace ExprMachine

namespace Wire

open Cbor

/-! ### Fields -/

/-- A constant as it comes back: a zero has no minus sign. -/
def Constant.carried (c : Constant) : Constant :=
  if c.num == 0 then { c with num := 0 } else c

/-- A portable chunk as it comes back. -/
def carried (w : Wire) : Wire :=
  { w with constants := w.constants.map Constant.carried }

/-- A list is read if every entry of it is. -/
lemma mapM_eq_some {β γ : Type} {read : β → Option γ} {back : β → γ}
    (h : ∀ b, read b = some (back b)) (bs : List β) : bs.mapM read = some (bs.map back) := by
  rw [show read = fun b => some (back b) from funext h]
  exact List.mapM_pure

/-- Reading undoes writing for a list if it does for every entry. -/
lemma mapM_map_eq_some {α β γ : Type} {read : β → Option γ} {write : α → β} {back : α → γ}
    (h : ∀ a, read (write a) = some (back a)) (as : List α) :
    (as.map write).mapM read = some (as.map back) := by
  rw [List.mapM_map]
  exact mapM_eq_some h as

@[simp] lemma view?_unsigned (n : ℕ) : view? (.unsigned n) = some (.int n) := rfl

@[simp] lemma view?_bytes (bs : List UInt8) : view? (.bytes bs) = some (.bytes bs) := rfl

@[simp] lemma view?_array (items : List Item) : view? (.array items) = some (.array items) := rfl

@[simp] lemma view?_map (entries : List (Item × Item)) :
    view? (.map entries) = some (.map entries) := rfl

@[simp] lemma view?_float (x : Float) : view? (.float x) = some (.float x) := rfl

@[simp] lemma view?_bool (b : Bool) : view? (Item.bool b) = some (.bool b) := by
  cases b <;> rfl

lemma view?_negative {n : ℕ} (h : n ≤ maxNegative) :
    view? (.negative n) = some (.int (-1 - n)) :=
  if_pos h

lemma natField?_unsigned {most before n : ℕ} (h : n ≤ most) :
    natField? most before (.unsigned n) = some n := by
  simp [natField?, View.int?, h]

lemma digestField?_bytes (d : Digest) : digestField? (.bytes d.toList) = some d := by
  simp [digestField?, Digest.ofBytes]

lemma codeField?_code (code? : Option (Array UInt8)) :
    codeField? ((code?.map fun code => Item.bytes code.toList).getD .null) = some code? := by
  cases code? with
  | none => rfl
  | some code => simp [codeField?]

lemma view?_int (n : Int64) : view? (Item.int n.toInt) = some (.int n.toInt) := by
  have hlow := n.le_toInt
  rw [Item.int]
  split_ifs with h
  · rw [view?_unsigned, Int.toNat_of_nonneg h]
  · have hcast : ((-1 - n.toInt).toNat : ℤ) = -1 - n.toInt := by omega
    rw [view?_negative (by rw [maxNegative]; omega), hcast]
    congr 2
    ring

lemma intField?_int (n : Int64) : intField? (Item.int n.toInt) = some n := by
  simp only [intField?, view?_int, Option.bind_eq_bind, Option.bind_some, View.int?,
    if_pos (And.intro n.le_toInt n.toInt_lt), Int64.ofInt_toInt]

lemma linesField?_lines (lines? : Option (Array Int64)) :
    linesField? ((lines?.map fun lines =>
      Item.array (lines.toList.map fun l => Item.int l.toInt)).getD .null) = some lines? := by
  cases lines? with
  | none => rfl
  | some lines =>
      have h : (lines.toList.map fun l => Item.int l.toInt).mapM intField? =
          some (lines.toList.map id) := mapM_map_eq_some intField?_int lines.toList
      rw [List.map_id] at h
      simp [linesField?, -List.mapM_map, h]

/-- An entry with a number for its key. -/
def numbered (e : ℕ × Item) : Item × Item :=
  (.unsigned e.1, e.2)

/-- Where the keys are numbers, a field is the first entry with its number. -/
lemma fields?_numbered (n : ℕ) (entries : List (ℕ × Item)) :
    fields? n (entries.map numbered) =
      some ((List.range n).map fun i => entries.lookup (i + 1)) := by
  have hfind (field : ℕ) : ((entries.map fun e => (decide (e.1 = field), e.2)).find?
      (·.1)).map (·.2) = entries.lookup field := by
    induction entries with
    | nil => rfl
    | cons e entries ih =>
        rw [List.map_cons, List.find?_cons, List.lookup_cons]
        by_cases h : e.1 = field
        · simp [h]
        · rw [decide_eq_false h, beq_eq_false_iff_ne.mpr (Ne.symm h)]
          exact ih
  rw [fields?]
  refine mapM_eq_some (fun i => ?_) (List.range n)
  -- the entries are marked if their keys name the field, and the first of these is taken
  rw [@mapM_map_eq_some _ _ _ _ numbered (fun e => (decide (e.1 = i + 1), e.2)) (fun e => ?_)
    entries]
  · exact congrArg some (hfind (i + 1))
  · rfl

/-- A constant is read back, but for the sign of a zero. -/
lemma Constant.ofItem?_toItem (c : Constant) : Constant.ofItem? c.toItem = some c.carried := by
  obtain ⟨kind, num, bool⟩ := c
  have hkind : kind.toNat ≤ 255 := Nat.le_of_lt_succ kind.toNat_lt
  have hitem : (Constant.mk kind num bool).toItem =
      .map (([(1, Item.unsigned kind.toNat)] ++ (if num == 0 then [] else [(2, Item.float num)]) ++
        (if bool then [(3, Item.bool true)] else [])).map numbered) := by
    rw [toItem]
    split_ifs <;> rfl
  rw [hitem, Constant.ofItem?, view?_map, Option.bind_eq_bind, Option.bind_some]
  simp only [fields?_numbered, Option.bind_eq_bind, Option.bind_some, carried]
  by_cases hnum : (num == 0) = true <;> cases bool <;>
    simp [hnum, List.range_succ, List.lookup_cons, field?, byteField?, natField?_unsigned hkind,
      floatField?, boolField?]

lemma constantsField?_constants (constants : Array Constant) :
    constantsField? (.array (constants.toList.map Constant.toItem)) =
      some (constants.map Constant.carried) := by
  have h := mapM_map_eq_some Constant.ofItem?_toItem constants.toList
  have hback : (constants.toList.map Constant.carried).toArray =
      constants.map Constant.carried := by
    rw [← Array.toList_map, Array.toArray_toList]
  simp [constantsField?, -List.mapM_map, h, hback]

/-- The code of a portable chunk as an item. -/
def codeItem (w : Wire) : Item :=
  (w.code?.map fun code => Item.bytes code.toList).getD .null

/-- The lines of a portable chunk as an item. -/
def linesItem (w : Wire) : Item :=
  (w.lines?.map fun lines => Item.array (lines.toList.map fun l => Item.int l.toInt)).getD .null

/-- The fields of a portable chunk are read back. -/
lemma ofItem?_toItem (w : Wire) : ofItem? w.toItem = some w.carried := by
  have hversion : w.version.toNat ≤ 65535 := Nat.le_of_lt_succ w.version.toNat_lt
  have hcode : codeField? w.codeItem = some w.code? := codeField?_code w.code?
  have hlines : linesField? w.linesItem = some w.lines? := linesField?_lines w.lines?
  have hitem : w.toItem = .map (([(1, Item.unsigned w.version.toNat),
      (2, Item.bytes w.digest.toList), (3, w.codeItem), (4, w.linesItem)] ++
      (if w.constants.isEmpty then []
        else [(5, Item.array (w.constants.toList.map Constant.toItem))])).map numbered) := by
    rw [toItem]
    split_ifs <;> rfl
  rw [hitem, ofItem?, view?_map, Option.bind_eq_bind, Option.bind_some]
  simp only [fields?_numbered, Option.bind_eq_bind, Option.bind_some, carried]
  by_cases hconstants : w.constants.isEmpty
  · have hempty : w.constants = #[] := by simpa using hconstants
    simp [hempty, List.range_succ, List.lookup_cons, field?, natField?_unsigned hversion,
      digestField?_bytes, hcode, hlines]
  · simp [hconstants, List.range_succ, List.lookup_cons, field?, natField?_unsigned hversion,
      digestField?_bytes, hcode, hlines, constantsField?_constants]

/-! ### Bytes -/

lemma readable_int (levels : ℕ) (n : Int64) : Readable levels (Item.int n.toInt) := by
  have hlow := n.le_toInt
  have hhigh := n.toInt_lt
  rw [Item.int]
  split_ifs with h
  · exact .unsigned (by omega)
  · exact .negative (by omega)

lemma readable_constant (levels : ℕ) (c : Constant) : Readable (levels + 1) c.toItem := by
  have hkind : c.kind.toNat < 2 ^ 64 := c.kind.toNat_lt.trans (by norm_num)
  rw [Constant.toItem]
  refine .map ?_ ?_
  · rw [maxEntries]
    split_ifs <;> simp
  · intro i hi
    have hcases : i = .unsigned 1 ∨ i = .unsigned c.kind.toNat ∨ i = .unsigned 2 ∨
        i = .float c.num ∨ i = .unsigned 3 ∨ i = .bool true := by
      simp only [itemsOf] at hi
      split_ifs at hi <;> simp at hi <;> tauto
    rcases hcases with rfl | rfl | rfl | rfl | rfl | rfl
    · exact .unsigned (by norm_num)
    · exact .unsigned hkind
    · exact .unsigned (by norm_num)
    · exact .float c.num
    · exact .unsigned (by norm_num)
    · exact .simple (by norm_num)

/-- The items before the lines of a portable chunk. -/
def opening (w : Wire) : List Item :=
  [.unsigned 1, .unsigned w.version.toNat, .unsigned 2, .bytes w.digest.toList, .unsigned 3]

/-- The items behind the lines of a portable chunk. -/
def closing (w : Wire) : List Item :=
  if w.constants.isEmpty then []
  else [.unsigned 5, .array (w.constants.toList.map Constant.toItem)]

/-- A portable chunk is a map of four or five entries. -/
lemma exists_toItem_eq (w : Wire) :
    ∃ entries : List (Item × Item), w.toItem = .map entries ∧ entries.length ≤ maxEntries ∧
      itemsOf entries =
        w.opening ++ w.codeItem :: .unsigned 4 :: w.linesItem :: w.closing := by
  refine ⟨_, rfl, ?_, ?_⟩
  · rw [maxEntries]
    split_ifs <;> simp
  · by_cases h : w.constants.isEmpty <;>
      simp [itemsOf, opening, codeItem, linesItem, closing, h]

lemma readable_opening (w : Wire) (levels : ℕ) : ∀ i ∈ w.opening, Readable levels i := by
  have hversion : w.version.toNat < 2 ^ 64 := w.version.toNat_lt.trans (by norm_num)
  intro i hi
  simp only [opening, List.mem_cons, List.not_mem_nil, or_false] at hi
  rcases hi with rfl | rfl | rfl | rfl | rfl
  · exact .unsigned (by norm_num)
  · exact .unsigned hversion
  · exact .unsigned (by norm_num)
  · exact .bytes (by simp)
  · exact .unsigned (by norm_num)

lemma readable_codeItem {w : Wire} (h : ∀ code ∈ w.code?, code.size < 2 ^ 64) (levels : ℕ) :
    Readable levels w.codeItem := by
  rw [codeItem]
  cases hcode : w.code? with
  | none => exact .simple (by norm_num)
  | some code => exact .bytes (h code hcode)

lemma readable_linesItem {w : Wire} (h : ∀ lines ∈ w.lines?, lines.size ≤ maxEntries)
    (levels : ℕ) : Readable (levels + 1) w.linesItem := by
  rw [linesItem]
  cases hlines : w.lines? with
  | none => exact .simple (by norm_num)
  | some lines =>
      refine .array (by simpa using h lines hlines) fun i hi => ?_
      obtain ⟨l, -, rfl⟩ := List.mem_map.mp hi
      exact readable_int levels l

lemma readable_closing {w : Wire} (h : w.constants.size ≤ maxEntries) (levels : ℕ) :
    ∀ i ∈ w.closing, Readable (levels + 2) i := by
  intro i hi
  rw [closing] at hi
  split_ifs at hi
  · exact absurd hi List.not_mem_nil
  · simp only [List.mem_cons, List.not_mem_nil, or_false] at hi
    rcases hi with rfl | rfl
    · exact .unsigned (by norm_num)
    · refine .array (by simpa using h) fun i hi => ?_
      obtain ⟨c, -, rfl⟩ := List.mem_map.mp hi
      exact readable_constant levels c

/-- **A portable chunk within the limits is read back from its bytes.** -/
lemma decode_encode {w : Wire} (hcode : ∀ code ∈ w.code?, code.size < 2 ^ 64)
    (hlines : ∀ lines ∈ w.lines?, lines.size ≤ maxEntries)
    (hconstants : w.constants.size ≤ maxEntries) : decode w.encode = .ok w.carried := by
  have hreadable : Readable maxLevels w.toItem := by
    obtain ⟨entries, hentries, hlength, hitems⟩ := exists_toItem_eq w
    have hinner : ∀ i ∈ itemsOf entries, Readable 31 i := by
      rw [hitems]
      simp only [List.forall_mem_append, List.forall_mem_cons]
      exact ⟨readable_opening w 31, readable_codeItem hcode 31, .unsigned (by norm_num),
        readable_linesItem hlines 30, readable_closing hconstants 29⟩
    rw [hentries]
    exact .map hlength hinner
  have hread := readItem?_encode hreadable []
  rw [List.append_nil] at hread
  simp only [decode, encode, Item.decode?, hread, Option.bind_some, ofItem?_toItem]

/-- A portable chunk is refused if one of its items is, and those before it are read. -/
lemma decode_encode_of_refused {w : Wire} {before after : List Item} {i : Item}
    (hitems : w.opening ++ w.codeItem :: .unsigned 4 :: w.linesItem :: w.closing =
      before ++ i :: after)
    (hbefore : ∀ j ∈ before, Readable 31 j)
    (hi : ∀ rest, readItem? 31 (i.encode ++ rest) = none) :
    decode w.encode = .error .unreadable := by
  obtain ⟨entries, hentries, hlength, hsplit⟩ := exists_toItem_eq w
  have hread := readItem?_map_eq_none (hsplit.trans hitems) hlength hbefore hi []
  rw [List.append_nil, ← hentries] at hread
  simp only [decode, encode, Item.decode?, maxLevels, hread, Option.bind_none]

/-- A portable chunk with more code than a byte string may have bytes is refused. -/
lemma decode_encode_of_le {w : Wire} {code : Array UInt8} (hcode : w.code? = some code)
    (h : 2 ^ 64 ≤ code.size) : decode w.encode = .error .unreadable := by
  refine decode_encode_of_refused rfl (readable_opening w 31) fun rest => ?_
  rw [codeItem, hcode]
  exact readItem?_bytes_of_le (by simpa using h) 31 rest

/-- A portable chunk with more lines than an array may have entries is refused. -/
lemma decode_encode_of_lt {w : Wire} {lines : Array Int64} (hlines : w.lines? = some lines)
    (h : maxEntries < lines.size) : decode w.encode = .error .unreadable := by
  by_cases hcode : ∀ code ∈ w.code?, code.size < 2 ^ 64
  · -- the lines are the first item that is refused
    have hsplit : w.opening ++ w.codeItem :: .unsigned 4 :: w.linesItem :: w.closing =
        (w.opening ++ [w.codeItem, .unsigned 4]) ++ w.linesItem :: w.closing := by simp
    refine decode_encode_of_refused hsplit ?_ fun rest => ?_
    · simp only [List.forall_mem_append, List.forall_mem_cons]
      exact ⟨readable_opening w 31, readable_codeItem hcode 31, .unsigned (by norm_num),
        by simp⟩
    · rw [linesItem, hlines]
      exact readItem?_array_of_lt (by simpa using h) 31 rest
  · -- the code is refused before them
    simp only [not_forall, not_lt] at hcode
    obtain ⟨code, hmem, hsize⟩ := hcode
    exact decode_encode_of_le (Option.mem_def.mp hmem) hsize

/-- Whatever a portable chunk holds, its bytes are refused if they do not stand for
it. -/
lemma decode_encode_or (w : Wire) :
    decode w.encode = .ok w.carried ∨ decode w.encode = .error .unreadable := by
  by_cases hlines : ∀ lines ∈ w.lines?, lines.size ≤ maxEntries
  · by_cases hcode : ∀ code ∈ w.code?, code.size < 2 ^ 64
    · by_cases hconstants : w.constants.size ≤ maxEntries
      · exact .inl (decode_encode hcode hlines hconstants)
      · -- the constants are the last item, and refused
        have hpos : w.constants.isEmpty = false := by
          rw [Array.isEmpty_eq_false_iff, ← Array.size_pos_iff]
          omega
        have hsplit : w.opening ++ w.codeItem :: .unsigned 4 :: w.linesItem :: w.closing =
            (w.opening ++ [w.codeItem, .unsigned 4, w.linesItem, .unsigned 5]) ++
              [.array (w.constants.toList.map Constant.toItem)] := by
          simp [closing, hpos]
        refine .inr (decode_encode_of_refused hsplit ?_ fun rest => ?_)
        · simp only [List.forall_mem_append, List.forall_mem_cons]
          exact ⟨readable_opening w 31, readable_codeItem hcode 31, .unsigned (by norm_num),
            readable_linesItem hlines 30, .unsigned (by norm_num), by simp⟩
        · exact readItem?_array_of_lt (by simpa using hconstants) 31 rest
    · simp only [not_forall, not_lt] at hcode
      obtain ⟨code, hmem, hsize⟩ := hcode
      exact .inr (decode_encode_of_le (Option.mem_def.mp hmem) hsize)
  · simp only [not_forall, not_le] at hlines
    obtain ⟨lines, hmem, hsize⟩ := hlines
    exact .inr (decode_encode_of_lt (Option.mem_def.mp hmem) hsize)

end Wire

/-! ### Values -/

/-- A value as it comes back: a zero has no minus sign. -/
def Value.carried : Value → Value
  | .number x => .number (if x == 0 then 0 else x)
  | v => v

/-- The values that come back unchanged: all but the zero with a minus sign. -/
lemma Value.carried_eq_self_iff (v : Value) :
    v.carried = v ↔ ∀ x, v = .number x → x.toBits ≠ Number.negativeZeroBits := by
  cases v with
  | nil => simp [carried]
  | boolean b => simp [carried]
  | number x =>
      have hzero : (0 : Float).toBits = 0 := rfl
      have hneg : Number.negativeZeroBits ≠ 0 := by decide
      simp only [carried, number.injEq, forall_eq']
      by_cases h : (x == 0) = true
      · rw [if_pos h]
        constructor
        · rintro rfl
          rw [hzero]
          exact hneg.symm
        · intro hx
          have hbits := ((Number.beq_zero_iff x).mp h).resolve_right hx
          exact Number.eq_of_toBits_eq (hzero.trans hbits.symm)
      · refine iff_of_true (if_neg h) fun hx => h ?_
        exact (Number.beq_zero_iff x).mpr (.inr hx)

/-- The portable form of a value stands for the value as it comes back. -/
lemma Wire.Constant.toValue?_carried (v : Value) :
    (Constant.ofValue v).carried.toValue? = some v.carried := by
  cases v with
  | nil => rfl
  | boolean b =>
      by_cases h : ((0 : Float) == 0) = true <;>
        simp [Constant.ofValue, Constant.carried, Constant.toValue?, Value.carried, h]
  | number x =>
      by_cases h : (x == 0) = true <;>
        simp [Constant.ofValue, Constant.carried, Constant.toValue?, Value.carried, h]

/-- Constants whose kinds are all listed have values. -/
lemma Wire.valuesFrom_map {write : Value → Constant} {back : Value → Value}
    (h : ∀ v, (write v).toValue? = some (back v)) (i : ℕ) (vs : List Value) :
    valuesFrom i (vs.map write) = .ok (vs.map back) := by
  induction vs generalizing i with
  | nil => rfl
  | cons v vs ih => simp [valuesFrom, h, ih, Except.map]

/-! ### Chunks -/

namespace Chunk

/-- A chunk is valid if every byte has a line and every constant an index. -/
lemma validate_eq_ok_iff (c : Chunk) :
    c.validate = .ok () ↔ c.code.size = c.lines.size ∧ c.constants.size ≤ maxConstants := by
  rw [validate]
  split_ifs with h1 h2
  · simpa using fun h => absurd h h1
  · simpa using fun _ => h2
  · simpa using ⟨not_not.mp h1, not_lt.mp h2⟩

/-- A chunk as it comes back. -/
def carried (c : Chunk) : Chunk :=
  { c with constants := c.constants.map Value.carried }

lemma getD_present {α : Type} (buffer : Array α) : (Wire.present buffer).getD #[] = buffer := by
  rw [Wire.present]
  split_ifs with h
  · simpa using h.symm
  · rfl

lemma present_eq_some_iff {α : Type} {buffer other : Array α} :
    Wire.present buffer = some other ↔ other = buffer ∧ 0 < buffer.size := by
  rw [Wire.present]
  split_ifs with h
  · have hempty : buffer.size = 0 := by simpa using h
    simp [hempty]
  · have hpos : 0 < buffer.size := by simpa [Nat.pos_iff_ne_zero] using h
    simp [hpos, eq_comm]

/-- The portable form of a chunk within the limits is read back from its bytes. -/
lemma decode_encode_of_within {c : Chunk} (hcode : c.code.size < 2 ^ 64)
    (hlines : c.lines.size ≤ Cbor.maxEntries) (hconstants : c.constants.size ≤ Cbor.maxEntries)
    (s : Source) : Wire.decode (c.encode s) = .ok (Wire.ofChunk c s).carried := by
  refine Wire.decode_encode (fun code hmem => ?_) (fun lines hmem => ?_) ?_
  · rw [(present_eq_some_iff.mp hmem).1]
    exact hcode
  · rw [(present_eq_some_iff.mp hmem).1]
    exact hlines
  · rw [Wire.ofChunk, Array.size_map]
    exact hconstants

/-- The portable form of a valid chunk is within the limits unless the chunk has
too many bytes. -/
lemma decode_encode {c : Chunk} (hvalid : c.validate = .ok ()) (s : Source) :
    Wire.decode (c.encode s) =
      if c.code.size ≤ Cbor.maxEntries then .ok (Wire.ofChunk c s).carried
      else .error .unreadable := by
  obtain ⟨hsize, hconstants⟩ := c.validate_eq_ok_iff.mp hvalid
  split_ifs with h
  · have hcode : c.code.size < 2 ^ 64 := h.trans_lt (by rw [Cbor.maxEntries]; norm_num)
    have hfew : c.constants.size ≤ Cbor.maxEntries :=
      hconstants.trans (by rw [maxConstants, Cbor.maxEntries]; norm_num)
    exact decode_encode_of_within hcode (hsize ▸ h) hfew s
  · have hlt : Cbor.maxEntries < c.lines.size := by omega
    exact Wire.decode_encode_of_lt (present_eq_some_iff.mpr ⟨rfl, by omega⟩) hlt

/-- The portable form of a valid chunk, as it comes back, is a chunk again. -/
lemma toChunk_carried {c : Chunk} (hvalid : c.validate = .ok ()) (s : Source) :
    (Wire.ofChunk c s).carried.toChunk = .ok c.carried := by
  have hvalid' : c.carried.validate = .ok () := by
    rw [validate_eq_ok_iff] at hvalid ⊢
    simpa [carried] using hvalid
  have hvalues : Wire.valuesFrom 0 (Wire.ofChunk c s).carried.constants.toList =
      .ok (c.constants.toList.map Value.carried) := by
    rw [Wire.carried, Wire.ofChunk, Array.toList_map, Array.toList_map, List.map_map]
    exact Wire.valuesFrom_map Wire.Constant.toValue?_carried 0 c.constants.toList
  have hconstants : (c.constants.toList.map Value.carried).toArray = c.carried.constants := by
    rw [carried, ← Array.toList_map, Array.toArray_toList]
  have hversion : ¬ Wire.currentVersion < (Wire.ofChunk c s).carried.version :=
    UInt16.lt_irrefl Wire.currentVersion
  rw [Wire.toChunk, if_neg hversion, hvalues]
  simp only [hconstants, Wire.carried, Wire.ofChunk, getD_present]
  change ((c.carried.validate.map fun _ => c.carried).mapError Wire.Error.invalid) = _
  rw [hvalid']
  rfl

/-- **The round trip of chunks**: a valid chunk comes back with its code and its
lines, and with its constants but for the minus sign of a zero, unless it has more
bytes than the reader admits entries in an array. -/
lemma ofBytes_encode {c : Chunk} (hvalid : c.validate = .ok ()) (s : Source) :
    Chunk.ofBytes (c.encode s) =
      if c.code.size ≤ Cbor.maxEntries then .ok c.carried else .error .unreadable := by
  rw [Chunk.ofBytes, decode_encode hvalid]
  split_ifs with h
  · exact toChunk_carried hvalid s
  · rfl

/-- A chunk comes back unchanged if none of its constants is the zero with a minus
sign. -/
lemma carried_eq_self_iff (c : Chunk) :
    c.carried = c ↔ ∀ x, .number x ∈ c.constants → x.toBits ≠ Number.negativeZeroBits := by
  have hparts : c.carried = c ↔ c.constants.map Value.carried = c.constants := by
    refine ⟨fun h => congrArg Chunk.constants h, fun h => ?_⟩
    rw [carried, h]
  have hall : c.constants.map Value.carried = c.constants ↔ ∀ v ∈ c.constants, v.carried = v := by
    rw [← Array.map_inj_left, Array.map_id']
  rw [hparts, hall]
  constructor
  · intro h x hx
    exact (Value.carried_eq_self_iff _).mp (h _ hx) x rfl
  · intro h v hv
    refine (Value.carried_eq_self_iff v).mpr fun x hx => ?_
    subst hx
    exact h x hv

/-- **The chunks that come back unchanged.** A valid chunk is always read back with
its code and its lines unless its code is too long for the reader, and then it is
refused. Its constants come back in their places with their kinds and, bit for bit,
their numbers, exactly if none of them is the zero with a minus sign. -/
theorem ofBytes_encode_eq_ok_iff {c : Chunk} (hvalid : c.validate = .ok ()) (s : Source) :
    (Chunk.ofBytes (c.encode s) = .ok c ↔
      c.code.size ≤ Cbor.maxEntries ∧
        ∀ x, .number x ∈ c.constants → x.toBits ≠ Number.negativeZeroBits) ∧
    Chunk.ofBytes (c.encode s) =
      if c.code.size ≤ Cbor.maxEntries then .ok c.carried else .error .unreadable := by
  refine ⟨?_, ofBytes_encode hvalid s⟩
  rw [ofBytes_encode hvalid, ← carried_eq_self_iff]
  split_ifs with h
  · simp [h]
  · simp [h]

/-- A constant that is the zero with a minus sign comes back as the zero without. -/
theorem ofBytes_encode_negativeZero :
    let c : Chunk := ⟨#[1, 0, 0], #[1, 1, 1], #[.number (Float.ofBits Number.negativeZeroBits)]⟩
    c.validate = .ok () ∧ Chunk.ofBytes (c.encode ⟨[]⟩) ≠ .ok c ∧
      Chunk.ofBytes (c.encode ⟨[]⟩) = .ok { c with constants := #[.number 0] } := by
  intro c
  have hvalid : c.validate = .ok () := rfl
  have hsize : c.code.size ≤ Cbor.maxEntries := by decide
  obtain ⟨hiff, heq⟩ := ofBytes_encode_eq_ok_iff hvalid ⟨[]⟩
  refine ⟨hvalid, fun h => ?_, ?_⟩
  · exact (hiff.mp h).2 (Float.ofBits Number.negativeZeroBits) (by simp [c]) (by decide)
  · rw [heq, if_pos hsize]
    decide +kernel

end Chunk

end ExprMachine
