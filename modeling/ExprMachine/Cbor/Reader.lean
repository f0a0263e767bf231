import ExprMachine.Cbor.Item

/-!
Reading data items.

A byte string is read as one item with nothing after it. Lengths may be left
open and closed by a break. Refused are: truncated data, heads with a reserved
length, a break outside an open item, a small simple value in two bytes, an
open string with a piece that is open or of another type, a map with a key and
no value, more than `maxEntries` entries in an array or a map, and more than
`maxLevels` levels of arrays, maps and tags under tags.

* `readHead?`: major type, additional information, number.
* `readItem?`: one item, by recursion on the levels that are left.
* `Item.decode?`: a whole byte string.
-/

namespace ExprMachine.Cbor

-- Powers are those of the core library, whatever else is imported.
attribute [local instance(high)] instPowNat

/-- The most entries of an array or a map. -/
def maxEntries : Nat := 131072

/-- The most levels of arrays, maps and tags under tags. -/
def maxLevels : Nat := 32

/-- The head of an item. -/
structure Head where
  /-- The major type. -/
  major : Nat
  /-- The additional information: it says how the number is written, and 31
  that the length is open. -/
  info : Nat
  /-- The number: a value or a length. -/
  number : Nat

/-- The number that bytes stand for, the highest first. -/
def natOfBytes (bs : List UInt8) : Nat :=
  bs.foldl (fun n b => 256 * n + b.toNat) 0

/-- The first `n` bytes and the rest, if there are that many. -/
def split? (n : Nat) (bs : List UInt8) : Option (List UInt8 × List UInt8) :=
  let front := bs.take n
  if front.length = n then some (front, bs.drop n) else none

/-- The head at the front of a byte string. -/
def readHead? : List UInt8 → Option (Head × List UInt8)
  | [] => none
  | b :: bs =>
      let major := b.toNat / 32
      let info := b.toNat % 32
      if info < 24 then some (⟨major, info, info⟩, bs)
      else if info < 28 then do
        let (digits, rest) ← split? (2 ^ (info - 24)) bs
        let number := natOfBytes digits
        if major = 7 ∧ info = 24 ∧ number < 32 then none
        else some (⟨major, info, number⟩, rest)
      else if info = 31 ∧ 2 ≤ major ∧ major ≤ 5 then some (⟨major, info, 0⟩, bs)
      else none

/-- Something read, and the bytes after it. -/
abbrev Read (α : Type) := List UInt8 → Option (α × List UInt8)

/-- `n` items in a row, behind those already read. -/
def readMany? (item : Read Item) : Nat → List Item → Read (List Item)
  | 0, done, bs => some (done.reverse, bs)
  | n + 1, done, bs =>
      match item bs with
      | none => none
      | some (i, rest) => readMany? item n (i :: done) rest

/-- Items up to a break, behind those already read. An item takes at least one
byte, so there are finitely many. -/
def readOpen? (item : Read Item) (done : List Item) (bs : List UInt8) :
    Option (List Item × List UInt8) :=
  match bs with
  | [] => none
  | b :: rest =>
      if b = 0xFF then some (done.reverse, rest)
      else
        match item (b :: rest) with
        | none => none
        | some (i, rest') =>
            if rest'.length ≤ rest.length then readOpen? item (i :: done) rest' else none
termination_by bs.length
decreasing_by simp only [List.length_cons]; omega

/-- The pieces of an open string up to its break, behind those already read. -/
def readPieces? (major : Nat) (done : List (List UInt8)) (bs : List UInt8) :
    Option (List (List UInt8) × List UInt8) :=
  match bs with
  | [] => none
  | b :: rest =>
      if b = 0xFF then some (done.reverse, rest)
      else
        match readHead? (b :: rest) with
        | none => none
        | some (h, rest') =>
            if h.major = major ∧ h.info ≠ 31 then
              match split? h.number rest' with
              | none => none
              | some (piece, rest'') =>
                  if rest''.length ≤ rest.length then readPieces? major (piece :: done) rest''
                  else none
            else none
termination_by bs.length
decreasing_by simp only [List.length_cons]; omega

/-- The pieces of a string: one of the length that its head gives, or those up
to a break. -/
def readString? (h : Head) (bs : List UInt8) : Option (List (List UInt8) × List UInt8) :=
  if h.info = 31 then readPieces? h.major [] bs
  else (split? h.number bs).map fun (piece, rest) => ([piece], rest)

/-- Keys and values from a row of items, if their number is even. -/
def pairUp? : List Item → Option (List (Item × Item))
  | [] => some []
  | [_] => none
  | key :: value :: rest => (pairUp? rest).map ((key, value) :: ·)

/-- A float of a given format. -/
def floatOf (f : FloatFormat) (bits : Nat) : Item :=
  match FloatFormat.double.encode? (f.decode bits) with
  | some wide => .float (Float.ofBits (UInt64.ofNat wide))
  | none => .float (Float.ofBits 0)

/-- The item of major type 7 that a head is. -/
def special (h : Head) : Item :=
  if h.info = 25 then floatOf .half h.number
  else if h.info = 26 then floatOf .single h.number
  else if h.info = 27 then .float (Float.ofBits (UInt64.ofNat h.number))
  else .simple h.number

/-- The items inside an array or a map, `n` of them or up to a break, where
`inner` reads an item one level down. -/
def readInside? (inner : Option (Read Item)) (h : Head) (n : Nat) : Read (List Item)
  | bs =>
      match inner with
      | none => none
      | some item => if h.info = 31 then readOpen? item [] bs else readMany? item n [] bs

/-- An item that is not under a tag, where `inner` reads an item one level down
if there is a level left. -/
def readPlain? (inner : Option (Read Item)) : Read Item
  | bs => do
      let (h, rest) ← readHead? bs
      match h.major with
      | 0 => some (.unsigned h.number, rest)
      | 1 => some (.negative h.number, rest)
      | 2 => (readString? h rest).map fun (pieces, rest) => (.bytes pieces.flatten, rest)
      | 3 => (readString? h rest).map fun (pieces, rest) => (.text pieces, rest)
      | 4 =>
          if maxEntries < h.number then none
          else
            let (items, rest) ← readInside? inner h h.number rest
            if maxEntries < items.length then none else some (.array items, rest)
      | 5 =>
          if maxEntries < h.number then none
          else
            let (items, rest) ← readInside? inner h (2 * h.number) rest
            let entries ← pairUp? items
            if maxEntries < entries.length then none else some (.map entries, rest)
      | 7 => some (special h, rest)
      | _ => none

/-- Whether the next item is under a tag. -/
def isTagged : List UInt8 → Bool
  | [] => false
  | b :: _ => b.toNat / 32 = 6

/-- An item, where `inner` reads an item one level down if there is a level
left. The content of a tag is on the tag's own level unless it is tagged
itself. -/
def readTagged? (inner : Option (Read Item)) : Read Item
  | bs =>
      if isTagged bs then do
        let (h, rest) ← readHead? bs
        let (content, rest) ←
          if isTagged rest then inner.bind fun item => item rest else readPlain? inner rest
        some (.tag h.number content, rest)
      else readPlain? inner bs

/-- An item with a given number of levels left. -/
def readItem? : Nat → Read Item
  | 0 => readTagged? none
  | levels + 1 => readTagged? (some (readItem? levels))

/-- The item that a whole byte string is. -/
def Item.decode? (bs : List UInt8) : Option Item :=
  match readItem? maxLevels bs with
  | some (item, []) => some item
  | _ => none

end ExprMachine.Cbor
