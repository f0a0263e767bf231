import ExprMachine.Files.Path
import ExprMachine.Text.Utf8

/-!
A tree of files.

* `Node`, `FileTree`: what is at a place, and the files and directories below a
  root.
* `FileFault`, `FileError`: what the tree can refuse, and the refusal of one action
  on one path.
* `FileTree.resolve`: the place that a path leads to, step by step, so that a
  step through something that is missing or that is no directory fails.
* `FileTree.has`: whether something is at a place.
* `FileTree.read`, `FileTree.write`, `FileTree.makeDirectories`.
-/

namespace ExprMachine

/-- A place in a tree: the names that lead to it from the root. -/
abbrev Location := List String

/-- What is at a place. -/
inductive Node where
  | directory
  | file (content : List UInt8)
  /-- A file that holds rows: its content after the mark at its head. -/
  | database (content : List UInt8)
  deriving DecidableEq, Repr

/-- The mark at the head of a file that holds rows. -/
def Node.databaseMark : List UInt8 :=
  Utf8.encode ("SQLite format 3".toList ++ [Char.ofNat 0])

/-- The bytes of a file; a directory has none. -/
def Node.bytes? : Node → Option (List UInt8)
  | directory => none
  | file content => some content
  | database content => some (databaseMark ++ content)

/-- The file of some bytes. -/
def Node.ofBytes (bytes : List UInt8) : Node :=
  if databaseMark.isPrefixOf bytes then .database (bytes.drop databaseMark.length)
  else .file bytes

/-- Files and directories by their place. The root is a directory that is always
there. -/
structure FileTree where
  /-- What is at the places below the root. -/
  nodes : List (Location × Node)
  deriving DecidableEq, Repr

/-- Why a tree refuses something. -/
inductive FileFault where
  | missing
  | notDirectory
  | isDirectory
  | nameTooLong
  | invalidName
  deriving DecidableEq, Repr

/-- What was to be done with a path. -/
inductive FileAction where
  | openIt
  | readIt
  | makeDirectory
  deriving DecidableEq, Repr

/-- An action on a path that was refused. -/
structure FileError where
  /-- The action. -/
  action : FileAction
  /-- The path as it was given. -/
  path : String
  /-- Why it was refused. -/
  fault : FileFault
  deriving DecidableEq, Repr

/-- The wording of a fault. -/
def FileFault.message : FileFault → String
  | missing => "no such file or directory"
  | notDirectory => "not a directory"
  | isDirectory => "is a directory"
  | nameTooLong => "file name too long"
  | invalidName => "invalid argument"

/-- The word for an action. -/
def FileAction.word : FileAction → String
  | openIt => "open"
  | readIt => "read"
  | makeDirectory => "mkdir"

/-- The wording of a refusal. -/
def FileError.message (e : FileError) : String :=
  s!"{e.action.word} {e.path}: {e.fault.message}"

namespace FileTree

/-- A tree with nothing below its root. -/
def empty : FileTree := ⟨[]⟩

/-- What is at a place. -/
def node? (t : FileTree) (l : Location) : Option Node :=
  if l.isEmpty then some .directory else t.nodes.lookup l

/-- Puts something at a place. -/
def set (t : FileTree) (l : Location) (n : Node) : FileTree :=
  ⟨(l, n) :: t.nodes.filter fun m => m.1 ≠ l⟩

/-- The longest name that a tree takes, in bytes. -/
def longestName : Nat := 255

/-- The longest path that a tree takes, in bytes. -/
def longestPath : Nat := 4095

/-- The place that one part of a path leads to. -/
def step (t : FileTree) (l : Location) (part : String) : Except FileFault Location :=
  match t.node? l with
  | none => .error .missing
  | some (.file _) | some (.database _) => .error .notDirectory
  | some .directory =>
      if part = "" ∨ part = "." then .ok l
      else if part = ".." then .ok l.dropLast
      else if longestName < part.utf8ByteSize then .error .nameTooLong
      else .ok (l ++ [part])

/-- Where a path starts. -/
def base (cwd : Location) (path : String) : Location :=
  if Path.isAbsolute path then [] else cwd

/-- Why a path leads nowhere whatever the tree holds. -/
def unusable? (path : String) : Option FileFault :=
  if path.toList.contains (Char.ofNat 0) then some .invalidName
  else if path.isEmpty then some .missing
  else if longestPath < path.utf8ByteSize then some .nameTooLong
  else none

/-- The place that a path leads to, which need not hold anything. -/
def resolve (t : FileTree) (cwd : Location) (path : String) : Except FileFault Location :=
  match unusable? path with
  | some fault => .error fault
  | none => (Path.parts path).foldlM t.step (base cwd path)

/-- What a path leads to. -/
def find (t : FileTree) (cwd : Location) (path : String) : Except FileFault Node := do
  let l ← t.resolve cwd path
  match t.node? l with
  | some n => return n
  | none => throw .missing

/-- Whether something is at a place that a path can be given for. -/
def has (t : FileTree) (l : Location) : Bool :=
  (unusable? (Path.ofNames true l)).isNone && (t.node? l).isSome

/-- The content of a file. -/
def read (t : FileTree) (cwd : Location) (path : String) : Except FileError (List UInt8) :=
  match t.find cwd path with
  | .error fault => .error ⟨.openIt, path, fault⟩
  | .ok node =>
      match node.bytes? with
      | none => .error ⟨.readIt, path, .isDirectory⟩
      | some content => .ok content

/-- A path without the slashes at its end. -/
def dropSlashes (path : String) : String :=
  String.ofList (path.toList.reverse.dropWhile (· = '/')).reverse

/-- The place of a file that is to be written: it holds a file, or its directory
is there. -/
def target (t : FileTree) (cwd : Location) (path : String) : Except FileFault Location := do
  match unusable? path with
  | some fault => throw fault
  | none =>
      let trimmed := dropSlashes path
      let parts := Path.parts trimmed
      let last := parts.getLast?.getD ""
      let above ← (parts.dropLast ++ [""]).foldlM t.step (base cwd path)
      if trimmed ≠ path ∨ last = "" ∨ last = "." ∨ last = ".." then throw .isDirectory
      let l ← t.step above last
      if t.node? l = some .directory then throw .isDirectory
      return l

/-- Writes a file in place of what it held. -/
def write (t : FileTree) (cwd : Location) (path : String) (content : List UInt8) :
    Except FileError FileTree :=
  match t.target cwd path with
  | .error fault => .error ⟨.openIt, path, fault⟩
  | .ok l => .ok (t.set l (.file content))

/-- The paths that a path leads through, the shortest first, and itself. -/
def ancestry (path : String) : List String :=
  let parts := Path.parts path
  let paths := (List.range parts.length).map fun n => "/".intercalate (parts.take (n + 1))
  paths.filter (· ≠ "")

/-- Makes one directory if nothing is there. -/
def makeDirectory (t : FileTree) (cwd : Location) (path : String) : Except FileError FileTree :=
  let refused (fault : FileFault) : Except FileError FileTree :=
    .error ⟨.makeDirectory, path, fault⟩
  match t.resolve cwd path with
  | .error fault => refused fault
  | .ok l =>
      match t.node? l with
      | some .directory => .ok t
      | some (.file _) | some (.database _) => refused .notDirectory
      | none => .ok (t.set l .directory)

/-- Makes a directory and all directories that lead to it. -/
def makeDirectories (t : FileTree) (cwd : Location) (path : String) :
    Except FileError FileTree :=
  (ancestry path).foldlM (fun t p => t.makeDirectory cwd p) t

/-- Puts a file at a place, with the directories that lead to it. -/
def plant (t : FileTree) (l : Location) (n : Node) : FileTree :=
  let above := (List.range (l.length - 1)).map fun k => l.take (k + 1)
  let t := above.foldl (fun t p => if (t.node? p).isNone then t.set p .directory else t) t
  if l.isEmpty then t else t.set l n

end FileTree

end ExprMachine
