import ExprMachine.Number.Format

/-!
Data items of the concise binary format, and their written form.

* `Item`: a data item, whatever way its lengths and numbers were written.
* `Item.encode`: the written form: every head as short as possible, definite
  lengths, and a number in the narrowest float format that holds it exactly.
-/

namespace ExprMachine.Cbor

-- Powers are those of the core library, whatever else is imported.
attribute [local instance(high)] instPowNat

/-- A data item. -/
inductive Item where
  /-- A natural number. -/
  | unsigned (n : Nat)
  /-- The number `-1 - n`. -/
  | negative (n : Nat)
  /-- A byte string. -/
  | bytes (bs : List UInt8)
  /-- A text, as the bytes of the pieces it is written in. -/
  | text (pieces : List (List UInt8))
  /-- A list of items. -/
  | array (items : List Item)
  /-- Keys and values, in order. -/
  | map (entries : List (Item × Item))
  /-- An item under a number that says how it is meant. -/
  | tag (n : Nat) (content : Item)
  /-- A value without content, such as a truth value or null. -/
  | simple (n : Nat)
  /-- A number with a fraction or an exponent. -/
  | float (x : Float)
  deriving Inhabited

namespace Item

/-- A truth value. -/
def bool (b : Bool) : Item := .simple (if b then 21 else 20)

/-- The absence of a value. -/
def null : Item := .simple 22

/-- An integer. -/
def int (n : Int) : Item :=
  if 0 ≤ n then .unsigned n.toNat else .negative (-1 - n).toNat

/-- A natural number as `width` bytes, the highest first. -/
def bigEndian : Nat → Nat → List UInt8
  | 0, _ => []
  | width + 1, n => bigEndian width (n / 256) ++ [UInt8.ofNat (n % 256)]

/-- The head of an item: its major type and a number, in as few bytes as the
number needs. A number of more than eight bytes has no head; it is given a
reserved one. -/
def head (major n : Nat) : List UInt8 :=
  let first (info : Nat) : UInt8 := UInt8.ofNat (32 * major + info)
  if n < 24 then [first n]
  else if n < 2 ^ (8 : Nat) then first 24 :: bigEndian 1 n
  else if n < 2 ^ (16 : Nat) then first 25 :: bigEndian 2 n
  else if n < 2 ^ (32 : Nat) then first 26 :: bigEndian 4 n
  else if n < 2 ^ (64 : Nat) then first 27 :: bigEndian 8 n
  else [first 28]

/-- A number in the narrowest float format that holds it exactly. -/
def encodeFloat (x : Float) : List UInt8 :=
  let datum := FloatFormat.double.decode x.toBits.toNat
  match FloatFormat.half.encode? datum with
  | some bits => 0xF9 :: bigEndian 2 bits
  | none =>
      match FloatFormat.single.encode? datum with
      | some bits => 0xFA :: bigEndian 4 bits
      | none => 0xFB :: bigEndian 8 x.toBits.toNat

mutual

/-- The written form of an item. -/
def encode : Item → List UInt8
  | .unsigned n => head 0 n
  | .negative n => head 1 n
  | .bytes bs => head 2 bs.length ++ bs
  | .text pieces => head 3 pieces.flatten.length ++ pieces.flatten
  | .array items => head 4 items.length ++ encodeItems items
  | .map entries => head 5 entries.length ++ encodeEntries entries
  | .tag n content => head 6 n ++ encode content
  | .simple n => head 7 n
  | .float x => encodeFloat x

/-- The written forms of items, one after the other. -/
def encodeItems : List Item → List UInt8
  | [] => []
  | item :: items => encode item ++ encodeItems items

/-- The written forms of keys and values, one after the other. -/
def encodeEntries : List (Item × Item) → List UInt8
  | [] => []
  | (key, value) :: entries => encode key ++ encode value ++ encodeEntries entries

end

end Item

end ExprMachine.Cbor
