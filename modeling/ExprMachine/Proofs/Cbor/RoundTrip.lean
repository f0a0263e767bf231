import ExprMachine.Cbor.Reader
import ExprMachine.Proofs.Number.Bits

/-!
Data items written and read back.

An item within the limits of the reader is read back from its written form,
whatever bytes come after it. An item beyond them is refused wherever it stands.

* `readHead?_head`, `readHead?_head_of_le`: heads, and the numbers that have
  none.
* `special_encodeFloat`: a number in the narrowest format that holds it.
* `Readable`: the items that the reader admits with a given number of levels.
* `readItem?_encode`: **the round trip**, by induction on `Readable`.
* `readItem?_array_of_lt`, `readItem?_bytes_of_le`, `readItem?_map_eq_none`: an
  item that is too long, and a map with such an item in it.
-/

namespace ExprMachine.Cbor

open Item

/-! ### Numbers as bytes -/

@[simp] lemma length_bigEndian (width n : ℕ) : (bigEndian width n).length = width := by
  induction width generalizing n with
  | zero => rfl
  | succ width ih => simp [bigEndian, ih]

/-- The number that bytes of a number stand for. -/
lemma natOfBytes_bigEndian {width n : ℕ} (h : n < 256 ^ width) :
    natOfBytes (bigEndian width n) = n := by
  induction width generalizing n with
  | zero =>
      have : n = 0 := by simpa using h
      simp [bigEndian, natOfBytes, this]
  | succ width ih =>
      have hdiv : n / 256 < 256 ^ width := by
        rw [Nat.div_lt_iff_lt_mul (by norm_num), ← pow_succ]
        exact h
      have hlast : (UInt8.ofNat (n % 256)).toNat = n % 256 := by
        rw [UInt8.toNat_ofNat']
        omega
      have ih := ih hdiv
      rw [natOfBytes] at ih
      rw [natOfBytes, bigEndian, List.foldl_append, ih, List.foldl_cons, List.foldl_nil, hlast]
      omega

/-- A byte string is split at the end of its first part. -/
lemma split?_append {bs rest : List UInt8} {n : ℕ} (h : bs.length = n) :
    split? n (bs ++ rest) = some (bs, rest) := by
  subst h
  simp [split?]

/-! ### Heads -/

/-- The first byte of a head, taken apart. -/
lemma toNat_first {major info : ℕ} (hmajor : major < 8) (hinfo : info < 32) :
    (UInt8.ofNat (32 * major + info)).toNat / 32 = major ∧
      (UInt8.ofNat (32 * major + info)).toNat % 32 = info := by
  rw [UInt8.toNat_ofNat']
  omega

/-- A small number is in the first byte of the head. -/
lemma readHead?_head_of_lt {major n : ℕ} (hmajor : major < 8) (hn : n < 24) (rest : List UInt8) :
    readHead? (head major n ++ rest) = some (⟨major, n, n⟩, rest) := by
  obtain ⟨hfirst, hinfo⟩ := toNat_first hmajor (show n < 32 by omega)
  simp only [head, if_pos hn, List.cons_append, List.nil_append, readHead?, hfirst, hinfo]

/-- A head with its number in some bytes after the first. -/
lemma readHead?_cons_bigEndian (major k : ℕ) {n : ℕ} (hmajor : major < 8) (hk : k < 4)
    (hn : n < 256 ^ 2 ^ k) (hspecial : major = 7 → 0 < k) (rest : List UInt8) :
    readHead? (UInt8.ofNat (32 * major + (24 + k)) :: bigEndian (2 ^ k) n ++ rest) =
      some (⟨major, 24 + k, n⟩, rest) := by
  obtain ⟨hfirst, hinfo⟩ := toNat_first hmajor (show 24 + k < 32 by omega)
  have hsplit : split? (2 ^ k) (bigEndian (2 ^ k) n ++ rest) = some (bigEndian (2 ^ k) n, rest) :=
    split?_append (length_bigEndian (2 ^ k) n)
  have hallowed : ¬ (major = 7 ∧ 24 + k = 24 ∧ n < 32) := by
    rintro ⟨h7, hk0, -⟩
    have := hspecial h7
    omega
  simp only [List.cons_append, readHead?, hfirst, hinfo, Nat.add_sub_cancel_left, hsplit,
    Option.bind_eq_bind, Option.bind_some, natOfBytes_bigEndian hn]
  rw [if_neg (by omega), if_pos (by omega), if_neg hallowed]

/-- A head is read back. -/
lemma readHead?_head {major n : ℕ} (hmajor : major < 7) (hn : n < 2 ^ 64) (rest : List UInt8) :
    ∃ info < 28, readHead? (head major n ++ rest) = some (⟨major, info, n⟩, rest) := by
  have h8 : major < 8 := by omega
  have h7 : ∀ k, major = 7 → 0 < k := by omega
  by_cases h0 : n < 24
  · exact ⟨n, by omega, readHead?_head_of_lt h8 h0 rest⟩
  by_cases h1 : n < 2 ^ 8
  · refine ⟨24, by omega, ?_⟩
    rw [head, if_neg h0, if_pos h1]
    exact readHead?_cons_bigEndian major 0 h8 (by omega) (by omega) (h7 _) rest
  by_cases h2 : n < 2 ^ 16
  · refine ⟨25, by omega, ?_⟩
    rw [head, if_neg h0, if_neg h1, if_pos h2]
    exact readHead?_cons_bigEndian major 1 h8 (by omega) (by omega) (h7 _) rest
  by_cases h3 : n < 2 ^ 32
  · refine ⟨26, by omega, ?_⟩
    rw [head, if_neg h0, if_neg h1, if_neg h2, if_pos h3]
    exact readHead?_cons_bigEndian major 2 h8 (by omega) (by omega) (h7 _) rest
  · refine ⟨27, by omega, ?_⟩
    rw [head, if_neg h0, if_neg h1, if_neg h2, if_neg h3, if_pos hn]
    exact readHead?_cons_bigEndian major 3 h8 (by omega) (by omega) (h7 _) rest

/-- The reserved head of a number of more than eight bytes is refused. -/
lemma readHead?_head_of_le {major n : ℕ} (hmajor : major < 8) (hn : 2 ^ 64 ≤ n)
    (rest : List UInt8) : readHead? (head major n ++ rest) = none := by
  obtain ⟨hfirst, hinfo⟩ := toNat_first hmajor (show 28 < 32 by omega)
  rw [head, if_neg (by omega), if_neg (by omega), if_neg (by omega), if_neg (by omega),
    if_neg (by omega)]
  simp only [List.cons_append, List.nil_append, readHead?, hinfo]
  simp

/-- The major type of a head can be told from its first byte. -/
lemma isTagged_head {major : ℕ} (hmajor : major < 8) (n : ℕ) (rest : List UInt8) :
    isTagged (head major n ++ rest) = decide (major = 6) := by
  have hfirst : ∀ info, info < 32 → (UInt8.ofNat (32 * major + info)).toNat / 32 = major :=
    fun info h => (toNat_first hmajor h).1
  rw [head]
  split_ifs <;> simp only [List.cons_append, isTagged] <;> rw [hfirst _ (by omega)]

/-! ### Numbers with a fraction or an exponent -/

/-- A number that a format has written is read back. -/
lemma floatOf_of_encode? {f : FloatFormat} (hfraction : 0 < f.fraction) (hexponent : 0 < f.exponent)
    {x : Float} {bits : ℕ}
    (h : f.encode? (FloatFormat.double.decode x.toBits.toNat) = some bits) :
    floatOf f bits = .float x := by
  have hwide : FloatFormat.double.encode? (f.decode bits) = some x.toBits.toNat := by
    rw [FloatFormat.double.encode?_congr (f.decode_same_of_encode? hfraction hexponent h)]
    exact Number.encode?_decode_toBits x
  simp only [floatOf, hwide, UInt64.ofNat_toNat, Number.ofBits_toBits]

/-- A number in the narrowest format that holds it is read back. -/
lemma special_encodeFloat (x : Float) (rest : List UInt8) :
    ∃ h : Head, h.major = 7 ∧ readHead? (encodeFloat x ++ rest) = some (h, rest) ∧
      special h = .float x := by
  rw [encodeFloat]
  split
  · next bits hbits =>
      have hlt := FloatFormat.half.encode?_lt (by decide) hbits
      refine ⟨⟨7, 25, bits⟩, rfl, ?_, ?_⟩
      · exact readHead?_cons_bigEndian 7 1 (by omega) (by omega) hlt (by omega) rest
      · simp only [special, if_true]
        exact floatOf_of_encode? (by decide) (by decide) hbits
  · split
    · next bits hbits =>
        have hlt := FloatFormat.single.encode?_lt (by decide) hbits
        refine ⟨⟨7, 26, bits⟩, rfl, ?_, ?_⟩
        · exact readHead?_cons_bigEndian 7 2 (by omega) (by omega) hlt (by omega) rest
        · simp only [special, Nat.reduceEqDiff, if_false, if_true]
          exact floatOf_of_encode? (by decide) (by decide) hbits
    · refine ⟨⟨7, 27, x.toBits.toNat⟩, rfl, ?_, ?_⟩
      · exact readHead?_cons_bigEndian 7 3 (by omega) (by omega) x.toBits.toNat_lt (by omega) rest
      · simp only [special, Nat.reduceEqDiff, if_false, if_true, UInt64.ofNat_toNat,
          Number.ofBits_toBits]

/-! ### Items in a row -/

/-- Items that are each read back are read back in a row. -/
lemma readMany?_encodeItems {item : Read Item} {items : List Item}
    (h : ∀ i ∈ items, ∀ rest, item (i.encode ++ rest) = some (i, rest)) (n : ℕ)
    (done : List Item) (rest : List UInt8) :
    readMany? item (items.length + n) done (encodeItems items ++ rest) =
      readMany? item n (items.reverse ++ done) rest := by
  induction items generalizing done with
  | nil => simp [encodeItems]
  | cons i items ih =>
      have hi := h i List.mem_cons_self (encodeItems items ++ rest)
      have ih := ih (fun j hj => h j (List.mem_cons_of_mem i hj)) (i :: done)
      rw [List.length_cons, Nat.add_right_comm, encodeItems, List.append_assoc, readMany?, hi]
      simp only [ih, List.reverse_cons, List.append_assoc, List.singleton_append]

/-- The keys and values of a map in a row. -/
def itemsOf (entries : List (Item × Item)) : List Item :=
  entries.flatMap fun e => [e.1, e.2]

lemma length_itemsOf (entries : List (Item × Item)) :
    (itemsOf entries).length = 2 * entries.length := by
  induction entries with
  | nil => rfl
  | cons e entries ih =>
      rw [itemsOf] at ih ⊢
      rw [List.flatMap_cons, List.length_append, ih, List.length_cons, List.length_cons,
        List.length_cons, List.length_nil]
      omega

lemma encodeEntries_eq (entries : List (Item × Item)) :
    encodeEntries entries = encodeItems (itemsOf entries) := by
  induction entries with
  | nil => rfl
  | cons e entries ih =>
      obtain ⟨key, value⟩ := e
      rw [itemsOf] at ih ⊢
      simp [encodeEntries, encodeItems, ih]

lemma pairUp?_itemsOf (entries : List (Item × Item)) :
    pairUp? (itemsOf entries) = some entries := by
  induction entries with
  | nil => rfl
  | cons e entries ih =>
      obtain ⟨key, value⟩ := e
      rw [itemsOf] at ih ⊢
      simp [pairUp?, ih]

/-! ### Items -/

/-- The items that the reader admits with a given number of levels left: no
number has more than eight bytes, and no array and no map too many entries. -/
inductive Readable : ℕ → Item → Prop
  | unsigned {levels n : ℕ} (h : n < 2 ^ 64) : Readable levels (.unsigned n)
  | negative {levels n : ℕ} (h : n < 2 ^ 64) : Readable levels (.negative n)
  | bytes {levels : ℕ} {bs : List UInt8} (h : bs.length < 2 ^ 64) : Readable levels (.bytes bs)
  | array {levels : ℕ} {items : List Item} (h : items.length ≤ maxEntries)
      (inner : ∀ i ∈ items, Readable levels i) : Readable (levels + 1) (.array items)
  | map {levels : ℕ} {entries : List (Item × Item)} (h : entries.length ≤ maxEntries)
      (inner : ∀ i ∈ itemsOf entries, Readable levels i) : Readable (levels + 1) (.map entries)
  | simple {levels n : ℕ} (h : n < 24) : Readable levels (.simple n)
  | float {levels : ℕ} (x : Float) : Readable levels (.float x)

/-- An item that begins with a head of another major type is not under a tag. -/
lemma readTagged?_head {major n : ℕ} (hmajor : major < 8) (h6 : major ≠ 6)
    (inner : Option (Read Item)) (rest : List UInt8) :
    readTagged? inner (head major n ++ rest) = readPlain? inner (head major n ++ rest) := by
  rw [readTagged?, isTagged_head hmajor, if_neg (by simpa using h6)]

/-- An item is read with a reader for one level down, if there is one. -/
lemma exists_readItem?_eq (levels : ℕ) : ∃ inner, readItem? levels = readTagged? inner := by
  cases levels with
  | zero => exact ⟨none, rfl⟩
  | succ levels => exact ⟨some (readItem? levels), rfl⟩

/-- **The round trip of items**: an item within the limits is read back from its
written form, whatever comes after it. -/
theorem readItem?_encode {levels : ℕ} {i : Item} (h : Readable levels i) (rest : List UInt8) :
    readItem? levels (i.encode ++ rest) = some (i, rest) := by
  induction h generalizing rest with
  | @unsigned levels n h =>
      obtain ⟨inner, hinner⟩ := exists_readItem?_eq levels
      obtain ⟨info, -, hhead⟩ := readHead?_head (show 0 < 7 by omega) h rest
      rw [hinner, encode, readTagged?_head (by omega) (by omega)]
      simp [readPlain?, hhead]
  | @negative levels n h =>
      obtain ⟨inner, hinner⟩ := exists_readItem?_eq levels
      obtain ⟨info, -, hhead⟩ := readHead?_head (show 1 < 7 by omega) h rest
      rw [hinner, encode, readTagged?_head (by omega) (by omega)]
      simp [readPlain?, hhead]
  | @bytes levels bs h =>
      obtain ⟨inner, hinner⟩ := exists_readItem?_eq levels
      obtain ⟨info, hinfo, hhead⟩ := readHead?_head (show 2 < 7 by omega) h (bs ++ rest)
      rw [hinner, encode, List.append_assoc, readTagged?_head (by omega) (by omega)]
      simp [readPlain?, hhead, readString?, split?_append, show info ≠ 31 by omega]
  | @array levels items h inner ih =>
      have h64 : items.length < 2 ^ 64 := by
        rw [maxEntries] at h
        omega
      obtain ⟨info, hinfo, hhead⟩ :=
        readHead?_head (show 4 < 7 by omega) h64 (encodeItems items ++ rest)
      have hmany := readMany?_encodeItems ih 0 [] rest
      rw [readItem?, encode, List.append_assoc, readTagged?_head (by omega) (by omega)]
      simp only [Nat.add_zero, List.append_nil, readMany?, List.reverse_reverse] at hmany
      simp [readPlain?, hhead, readInside?, hmany, show info ≠ 31 by omega, not_lt.mpr h]
  | @map levels entries h inner ih =>
      have h64 : entries.length < 2 ^ 64 := by
        rw [maxEntries] at h
        omega
      obtain ⟨info, hinfo, hhead⟩ :=
        readHead?_head (show 5 < 7 by omega) h64 (encodeItems (itemsOf entries) ++ rest)
      have hmany := readMany?_encodeItems ih 0 [] rest
      rw [readItem?, encode, encodeEntries_eq, List.append_assoc,
        readTagged?_head (by omega) (by omega)]
      simp only [Nat.add_zero, List.append_nil, readMany?, List.reverse_reverse,
        length_itemsOf] at hmany
      simp [readPlain?, hhead, readInside?, hmany, pairUp?_itemsOf, show info ≠ 31 by omega,
        not_lt.mpr h]
  | @simple levels n h =>
      obtain ⟨inner, hinner⟩ := exists_readItem?_eq levels
      have hhead := readHead?_head_of_lt (show 7 < 8 by omega) h rest
      rw [hinner, encode, readTagged?_head (by omega) (by omega)]
      simp [readPlain?, hhead, special, show n ≠ 25 by omega, show n ≠ 26 by omega,
        show n ≠ 27 by omega]
  | @float levels x =>
      obtain ⟨inner, hinner⟩ := exists_readItem?_eq levels
      obtain ⟨hd, hmajor, hhead, hspecial⟩ := special_encodeFloat x rest
      have htag : isTagged (encodeFloat x ++ rest) = false := by
        rw [encodeFloat]
        split
        · rfl
        · split <;> rfl
      rw [hinner, encode, readTagged?, if_neg (by simp [htag])]
      simp [readPlain?, hhead, hmajor, hspecial]

/-! ### Items that are too long -/

/-- An array with too many entries is refused. -/
lemma readItem?_array_of_lt {items : List Item} (h : maxEntries < items.length) (levels : ℕ)
    (rest : List UInt8) : readItem? levels ((Item.array items).encode ++ rest) = none := by
  obtain ⟨inner, hinner⟩ := exists_readItem?_eq levels
  rw [hinner, encode, List.append_assoc, readTagged?_head (by omega) (by omega)]
  by_cases h64 : items.length < 2 ^ 64
  · obtain ⟨info, -, hhead⟩ :=
      readHead?_head (show 4 < 7 by omega) h64 (encodeItems items ++ rest)
    simp [readPlain?, hhead, h]
  · have hhead := readHead?_head_of_le (show 4 < 8 by omega) (not_lt.mp h64)
      (encodeItems items ++ rest)
    simp [readPlain?, hhead]

/-- A byte string whose length has no head is refused. -/
lemma readItem?_bytes_of_le {bs : List UInt8} (h : 2 ^ 64 ≤ bs.length) (levels : ℕ)
    (rest : List UInt8) : readItem? levels ((Item.bytes bs).encode ++ rest) = none := by
  obtain ⟨inner, hinner⟩ := exists_readItem?_eq levels
  have hhead := readHead?_head_of_le (show 2 < 8 by omega) h (bs ++ rest)
  rw [hinner, encode, List.append_assoc, readTagged?_head (by omega) (by omega)]
  simp [readPlain?, hhead]

/-- A map is refused if one of its items is, and those before it are read. -/
lemma readItem?_map_eq_none {levels : ℕ} {entries : List (Item × Item)} {before after : List Item}
    {i : Item} (hentries : itemsOf entries = before ++ i :: after)
    (hlength : entries.length ≤ maxEntries) (hbefore : ∀ j ∈ before, Readable levels j)
    (hi : ∀ rest, readItem? levels (i.encode ++ rest) = none) (rest : List UInt8) :
    readItem? (levels + 1) ((Item.map entries).encode ++ rest) = none := by
  have h64 : entries.length < 2 ^ 64 := by
    rw [maxEntries] at hlength
    omega
  obtain ⟨info, hinfo, hhead⟩ :=
    readHead?_head (show 5 < 7 by omega) h64 (encodeItems (itemsOf entries) ++ rest)
  have hcount : 2 * entries.length = before.length + (after.length + 1) := by
    rw [← length_itemsOf, hentries, List.length_append, List.length_cons]
  have hsplit : encodeItems (itemsOf entries) =
      encodeItems before ++ (i.encode ++ encodeItems after) := by
    rw [hentries]
    clear hentries hcount hhead hbefore
    induction before with
    | nil => rfl
    | cons j before ih => simp [encodeItems, ih]
  have hmany : readMany? (readItem? levels) (2 * entries.length) []
      (encodeItems (itemsOf entries) ++ rest) = none := by
    rw [hcount, hsplit, List.append_assoc,
      readMany?_encodeItems fun j hj => readItem?_encode (hbefore j hj), readMany?,
      List.append_assoc, hi]
  rw [readItem?, encode, encodeEntries_eq, List.append_assoc,
    readTagged?_head (by omega) (by omega)]
  simp [readPlain?, hhead, readInside?, hmany, show info ≠ 31 by omega]

end ExprMachine.Cbor
