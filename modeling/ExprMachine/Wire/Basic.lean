import ExprMachine.Chunk.Basic
import ExprMachine.Digest
import ExprMachine.Text.Utf8

/-!
The portable form of a chunk.

It has a version, the digest of the source it was compiled from (all zero if
there was none), and the parts of the chunk. A buffer may be absent, which is
written differently from an empty one and means the same.

* `Wire.ofChunk`, `Wire.toChunk`: to the portable form and back. What comes
  back has been checked, with a fixed order of refusals: version, kinds of the
  constants, length of the lines, number of the constants.
* `Wire.verify`: whether the form was made from a given source.
-/

namespace ExprMachine

namespace Wire

/-- The version that is written; newer ones are refused. -/
def currentVersion : UInt16 := 1

/-- A constant in portable form: the field that its kind does not select is
ignored. -/
structure Constant where
  /-- The number of its kind. -/
  kind : UInt8
  /-- The number, for a number. -/
  num : Float
  /-- The truth value, for a truth value. -/
  bool : Bool
  deriving DecidableEq

instance : Inhabited Constant := ⟨⟨0, 0, false⟩⟩

/-- The portable form of a value. -/
def Constant.ofValue : Value → Constant
  | .nil => ⟨0, 0, false⟩
  | .number x => ⟨1, x, false⟩
  | .boolean b => ⟨2, 0, b⟩

/-- The value of a portable form, if its kind is listed. -/
def Constant.toValue? (c : Constant) : Option Value :=
  if c.kind = 0 then some .nil
  else if c.kind = 1 then some (.number c.num)
  else if c.kind = 2 then some (.boolean c.bool)
  else none

/-- Why a portable form is refused. -/
inductive Error where
  /-- The bytes are no portable form. -/
  | unreadable
  /-- It was written by a later version. -/
  | newerVersion (version : UInt16)
  /-- A constant has a kind that is not listed. -/
  | unknownKind (index : Nat) (kind : UInt8)
  /-- Its parts make no chunk. -/
  | invalid (e : Chunk.Error)
  /-- It does not say which source it was made from. -/
  | noDigest
  /-- It was made from another source. -/
  | otherDigest (declared computed : Digest)
  deriving DecidableEq

/-- The wording of a refusal. -/
def Error.message : Error → String
  | unreadable => "dist: unmarshal chunk: malformed data"
  | newerVersion v =>
      s!"dist: chunk version {v.toNat} is newer than supported version {currentVersion.toNat}"
  | unknownKind index kind => s!"dist: constant {index}: unknown constant kind {kind.toNat}"
  | invalid e => "dist: " ++ e.message
  | noDigest => "dist: chunk carries no source hash"
  | otherDigest declared computed =>
      s!"dist: hash mismatch: declared {declared.hex}, computed {computed.hex}"

end Wire

/-- The portable form of a chunk. -/
structure Wire where
  /-- The version it was written by. -/
  version : UInt16
  /-- The digest of its source, all zero if there is none. -/
  digest : Digest
  /-- The code. -/
  code? : Option (Array UInt8)
  /-- The line of each byte. -/
  lines? : Option (Array Int64)
  /-- The constants. -/
  constants : Array Wire.Constant
  deriving DecidableEq

namespace Wire

/-- A portable form in which nothing is set. -/
def blank : Wire := ⟨0, .zero, none, none, #[]⟩

/-- The digest of a source. -/
def digestOf (s : Source) : Digest :=
  Digest.ofMessage s.bytes

/-- A buffer, absent if it is empty. -/
def present {α : Type} (buffer : Array α) : Option (Array α) :=
  if buffer.isEmpty then none else some buffer

/-- The portable form of a chunk made from a source; the empty source leaves the
digest zero. -/
def ofChunk (c : Chunk) (s : Source) : Wire where
  version := currentVersion
  digest := if s.bytes.isEmpty then .zero else digestOf s
  code? := present c.code
  lines? := present c.lines
  constants := c.constants.map Constant.ofValue

/-- The values of constants, the first of which has the index `i`. -/
def valuesFrom : Nat → List Constant → Except Error (List Value)
  | _, [] => .ok []
  | i, c :: cs =>
      match c.toValue? with
      | none => .error (.unknownKind i c.kind)
      | some v => (valuesFrom (i + 1) cs).map (v :: ·)

/-- The chunk of a portable form, if it is one. -/
def toChunk (w : Wire) : Except Error Chunk :=
  if currentVersion < w.version then .error (.newerVersion w.version)
  else
    match valuesFrom 0 w.constants.toList with
    | .error e => .error e
    | .ok values =>
        (Chunk.build values.toArray (w.code?.getD #[]) (w.lines?.getD #[])).mapError .invalid

/-- Checks that a portable form was made from a given source. -/
def verify (w : Wire) (s : Source) : Except Error Unit :=
  if w.digest = .zero then .error .noDigest
  else if digestOf s = w.digest then .ok ()
  else .error (.otherDigest w.digest (digestOf s))

end Wire

end ExprMachine
