import ExprMachine.Wire.Basic
import ExprMachine.Cbor.Reader

/-!
Portable chunks as bytes.

A portable chunk is written as a map with the keys 1 to 5 in order. The
constants are left out when there are none, and of a constant the number when
it equals zero and the truth value when it is false.

Reading is liberal about how a field is written. A key is an integer or the
same number as text; the first entry of a field counts, later ones and unknown
keys are passed over. Integers fill integer fields that hold them, and number
fields by rounding; a null leaves a field as it was.

* `Wire.toItem`, `Wire.encode`: writing.
* `View`: an item with its tags resolved.
* `Wire.ofItem?`, `Wire.decode`: reading.
-/

namespace ExprMachine

-- Powers are those of the core library, whatever else is imported.
attribute [local instance(high)] instPowNat

namespace Wire

open Cbor

/-! ### Writing -/

/-- A constant as an item. -/
def Constant.toItem (c : Constant) : Item :=
  .map ([(.unsigned 1, .unsigned c.kind.toNat)]
    ++ (if c.num == 0 then [] else [(.unsigned 2, .float c.num)])
    ++ (if c.bool then [(.unsigned 3, .bool true)] else []))

/-- A portable chunk as an item. -/
def toItem (w : Wire) : Item :=
  .map ([(.unsigned 1, .unsigned w.version.toNat),
      (.unsigned 2, .bytes w.digest.toList),
      (.unsigned 3, (w.code?.map fun code => Item.bytes code.toList).getD .null),
      (.unsigned 4, (w.lines?.map fun lines =>
        Item.array (lines.toList.map fun l => Item.int l.toInt)).getD .null)]
    ++ (if w.constants.isEmpty then []
        else [(.unsigned 5, .array (w.constants.toList.map Constant.toItem))]))

/-- A portable chunk as bytes. -/
def encode (w : Wire) : List UInt8 :=
  w.toItem.encode

/-! ### Reading -/

/-- An item with its tags resolved. -/
inductive View where
  /-- The absence of a value. -/
  | null
  /-- A truth value. -/
  | bool (b : Bool)
  /-- An integer. -/
  | int (n : Int)
  /-- A number with a fraction or an exponent. -/
  | float (x : Float)
  /-- A byte string. -/
  | bytes (bs : List UInt8)
  /-- An integer written as the bytes of `n`, or of `-1 - n` if it is negative. -/
  | big (negative : Bool) (bs : List UInt8)
  /-- A text. -/
  | text
  /-- A list. -/
  | array (items : List Item)
  /-- Keys and values. -/
  | map (entries : List (Item × Item))

/-- The least negative number that fits 64 bits is `-1 - maxNegative`. -/
def maxNegative : Nat := 2 ^ (63 : Nat) - 1

/-- A text in clean pieces. -/
def cleanText? (pieces : List (List UInt8)) : Option (List Char) :=
  (pieces.mapM Utf8.decode?).map List.flatten

/-- An item with its tags resolved. Refused are a negative number that does not
fit 64 bits, and a date or integer tag over something else. -/
def view? : Item → Option View
  | .unsigned n => some (.int n)
  | .negative n => if n ≤ maxNegative then some (.int (-1 - n)) else none
  | .bytes bs => some (.bytes bs)
  | .text _ => some .text
  | .array items => some (.array items)
  | .map entries => some (.map entries)
  | .simple n =>
      if n = 20 then some (.bool false)
      else if n = 21 then some (.bool true)
      else if n = 22 ∨ n = 23 then some .null
      else some (.int n)
  | .float x => some (.float x)
  | .tag 0 content =>
      match content with
      | .text _ => view? content
      | _ => none
  | .tag 1 content =>
      match content with
      | .unsigned _ | .negative _ | .float _ => view? content
      | _ => none
  | .tag 2 content =>
      match content with
      | .bytes bs => some (.big false bs)
      | _ => none
  | .tag 3 content =>
      match content with
      | .bytes bs => some (.big true bs)
      | _ => none
  | .tag _ content => view? content

/-- The integer that a view is, if it fits 64 bits with or without a sign. -/
def View.int? : View → Option Int
  | .int n => some n
  | .big false bs =>
      let n := natOfBytes bs
      if n < 2 ^ (64 : Nat) then some n else none
  | .big true bs =>
      let n := natOfBytes bs
      if n ≤ maxNegative then some (-1 - n) else none
  | _ => none

/-- A natural number up to `most`, or `before` for a null. -/
def natField? (most before : Nat) (item : Item) : Option Nat := do
  let v ← view? item
  if let .null := v then return before
  let n ← v.int?
  if 0 ≤ n ∧ n ≤ most then some n.toNat else none

/-- An integer of 64 bits, or zero for a null. -/
def intField? (item : Item) : Option Int64 := do
  let v ← view? item
  if let .null := v then return 0
  let n ← v.int?
  if -2 ^ (63 : Nat) ≤ n ∧ n < 2 ^ (63 : Nat) then some (Int64.ofInt n) else none

/-- The number nearest to an integer. -/
def floatOfInt (n : Int) : Float :=
  let bits := FloatFormat.double.nearest n.natAbs 1
  Float.ofBits (UInt64.ofNat (if n < 0 then FloatFormat.double.signBit + bits else bits))

/-- A number, or zero for a null. -/
def floatField? (item : Item) : Option Float := do
  let v ← view? item
  match v with
  | .null => some 0
  | .float x => some x
  | _ => v.int?.map floatOfInt

/-- A truth value, or false for a null. -/
def boolField? (item : Item) : Option Bool := do
  let v ← view? item
  match v with
  | .null => some false
  | .bool b => some b
  | _ => none

/-- A byte. -/
def byteField? (item : Item) : Option UInt8 :=
  (natField? 255 0 item).map UInt8.ofNat

/-- Code: a byte string or a list of bytes. -/
def codeField? (item : Item) : Option (Option (Array UInt8)) := do
  let v ← view? item
  match v with
  | .null => some none
  | .bytes bs | .big _ bs => some (some bs.toArray)
  | .array items => (items.mapM byteField?).map fun bs => some bs.toArray
  | _ => none

/-- A digest: a byte string or a list of bytes, of which the first 32 count. -/
def digestField? (item : Item) : Option Digest := do
  let v ← view? item
  match v with
  | .null => some .zero
  | .bytes bs | .big _ bs => some (.ofBytes bs)
  | .array items => ((items.take 32).mapM byteField?).map Digest.ofBytes
  | _ => none

/-- Lines: a list of integers. -/
def linesField? (item : Item) : Option (Option (Array Int64)) := do
  let v ← view? item
  match v with
  | .null => some none
  | .array items => (items.mapM intField?).map fun ls => some ls.toArray
  | _ => none

/-- Whether a key names the field with a given number; `none` for a key that no
map of fields may have. -/
def keyMatches? (field : Nat) : Item → Option Bool
  | .unsigned n => some (n = field)
  | .negative n => if n ≤ maxNegative then some false else none
  | .text pieces => (cleanText? pieces).map fun cs => cs = (toString field).toList
  | _ => none

/-- The values of a map's fields: for each of the first `n` numbers from 1, the
value of its first entry. -/
def fields? (n : Nat) (entries : List (Item × Item)) : Option (List (Option Item)) :=
  (List.range n).mapM fun i => do
    let marks ← entries.mapM fun (key, value) => do
      let here ← keyMatches? (i + 1) key
      return (here, value)
    return (marks.find? (·.1)).map (·.2)

/-- A field read by `read`, or `before` if there is none. -/
def field? {α : Type} (read : Item → Option α) (before : α) : Option Item → Option α
  | none => some before
  | some item => read item

/-- A constant. -/
def Constant.ofItem? (item : Item) : Option Constant := do
  let v ← view? item
  match v with
  | .null => some default
  | .map entries =>
      let fields ← fields? 3 entries
      let at' (i : Nat) : Option Item := fields[i]?.join
      let kind ← field? byteField? 0 (at' 0)
      let num ← field? floatField? 0 (at' 1)
      let bool ← field? boolField? false (at' 2)
      return ⟨kind, num, bool⟩
  | _ => none

/-- Constants: a list of them. -/
def constantsField? (item : Item) : Option (Array Constant) := do
  let v ← view? item
  match v with
  | .null => some #[]
  | .array items => (items.mapM Constant.ofItem?).map List.toArray
  | _ => none

/-- A portable chunk. -/
def ofItem? (item : Item) : Option Wire := do
  let v ← view? item
  match v with
  | .null => some blank
  | .map entries =>
      let fields ← fields? 5 entries
      let at' (i : Nat) : Option Item := fields[i]?.join
      let version ← field? (natField? 65535 0) 0 (at' 0)
      let digest ← field? digestField? .zero (at' 1)
      let code? ← field? codeField? none (at' 2)
      let lines? ← field? linesField? none (at' 3)
      let constants ← field? constantsField? #[] (at' 4)
      return ⟨UInt16.ofNat version, digest, code?, lines?, constants⟩
  | _ => none

/-- The portable chunk that bytes stand for. -/
def decode (bytes : List UInt8) : Except Error Wire :=
  match (Item.decode? bytes).bind ofItem? with
  | some w => .ok w
  | none => .error .unreadable

end Wire

/-- A chunk made from a source, as bytes. -/
def Chunk.encode (c : Chunk) (s : Source) : List UInt8 :=
  (Wire.ofChunk c s).encode

/-- The chunk that bytes stand for. -/
def Chunk.ofBytes (bytes : List UInt8) : Except Wire.Error Chunk := do
  let w ← Wire.decode bytes
  w.toChunk

end ExprMachine
