import ExprMachine.Store.Pragma
import ExprMachine.Text.Query

/-!
Where a store is kept, and with which options it is opened.

Both are given in one text. What stands before the first question mark is the
path of a file; what stands after it are options, as names and values. A path
ends before a character of code point nought.

* `Place`: memory, or a file.
* `Address`: a place with options.
* `Address.parse?`: the address of a text, unless its options are malformed or
  ask for a way of keeping files that there is none of.
* `Address.accepts`: whether the options have values that they can have.
* `Address.readOnly`: whether the options forbid writing.
-/

namespace ExprMachine.Store

/-- Where a store is kept. -/
inductive Place where
  /-- Nowhere but in memory. -/
  | memory
  /-- In the file at a path. -/
  | file (path : String)
  deriving DecidableEq, Repr

/-- Where a store is kept, and with which options it is opened. -/
structure Address where
  /-- Where it is kept. -/
  place : Place
  /-- The options. -/
  options : Query
  deriving DecidableEq, Repr

namespace Address

/-- The path that stands for memory. -/
def memory : String := ":memory:"

/-- The path of the file that a store is kept in, if it is kept in one. -/
def file? (a : Address) : Option String :=
  match a.place with
  | .memory => none
  | .file path => some path

/-- A text up to its first character of code point nought. -/
def upToNought (cs : List Char) : List Char :=
  cs.takeWhile (·.toNat ≠ 0)

/-- The ways of keeping files that there are. -/
def fileSystems : List String := ["unix", "unix-none", "unix-dotfile", "unix-excl"]

/-- The way of keeping files that keeps them in memory. -/
def memorySystem : String := "memdb"

/-- The place of a path, with the way of keeping files that the options ask for;
where they name one several times, it is the same each time. -/
def placeOf? (path : List Char) (options : Query) : Option Place :=
  let file : Place :=
    let path := String.ofList (upToNought path)
    if path = memory then .memory else .file path
  match (options.values "vfs").dropWhile (·.isEmpty) with
  | [] => some file
  | first :: more =>
      let system := String.ofList (upToNought (Utf8.decode first))
      if more.any (· ≠ first) then none
      else if system = memorySystem then some .memory
      else if fileSystems.contains system then some file
      else none

/-- The address of a text. A question mark at its head belongs to the path. -/
def parse? (text : String) : Option Address :=
  let cs := text.toList
  let path := cs.takeWhile (· ≠ '?')
  if path.isEmpty ∨ path.length = cs.length then
    (placeOf? cs []).map (⟨·, []⟩)
  else do
    let options ← Query.parse? (cs.drop (path.length + 1))
    return ⟨← placeOf? path options, options⟩

/-- The instructions among the options. -/
def pragmas (a : Address) : List (Option Pragma) :=
  (a.options.values "_pragma").map fun v => Pragma.parse? (upToNought (Utf8.decode v))

/-- A character in small letters; the dotted capital I counts as an I. -/
def lower (c : Char) : Char :=
  if c.toNat = 0x130 then 'i' else c.toLower

/-- Whether the options have values that they can have. If the format of times
is given, the kind of lock is not looked at. -/
def accepts (a : Address) : Bool :=
  let text (name : String) : String := String.ofList (Utf8.decode (a.options.value name))
  let lock := String.ofList ((text "_txlock").toList.map lower)
  a.pragmas.all (·.any (·.isAccepted)) &&
    if text "_time_format" ≠ "" then text "_time_format" = "sqlite"
    else lock.isEmpty || ["deferred", "immediate", "exclusive"].contains lock

/-- Whether the options forbid writing: the last instruction that says something
about it does. -/
def readOnly (a : Address) : Bool :=
  let said := (a.pragmas.filterMap id).filter fun p =>
    Pragma.lowered p.name == "query_only".toList && p.value?.isSome
  said.getLast?.any Pragma.forbidsWriting

end Address

end ExprMachine.Store
