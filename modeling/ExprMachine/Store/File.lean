import ExprMachine.Files.Tree
import ExprMachine.Number.Literal
import ExprMachine.Store

/-!
Stores in files.

The content of a file has one line for each row: the key, the version, the time
and the data in hexadecimal digits. A file of at most one byte is a store
without rows.

* `Store.toContent`, `Store.ofContent?`: the rows of a store as the content of a
  file and back.
* `Store.touch`: opens the file of a store, and makes it if nothing is there.
* `Store.openAt`: opens the store at an address.
* `Store.flush`: writes the rows of a store to its file.
-/

namespace ExprMachine.Store

/-- The line of a row. -/
def rowLine (r : String × Row) : List Char :=
  s!"{r.1} {r.2.version} {r.2.created} {Layout.hex r.2.data}\n".toList

/-- The rows of a store as the content of a file. -/
def toContent (rows : List (String × Row)) : List UInt8 :=
  Utf8.encode (rows.flatMap rowLine)

/-- The row of a line without its newline. -/
def ofLine? (line : List Char) : Option (String × Row) :=
  match line.splitOn ' ' with
  | [key, version, created, data] => do
      let version ← (Number.integer? version).toOption
      let created ← (Number.integer? created).toOption
      let data ← Layout.unhex? data
      return (String.ofList key, ⟨version, data, created⟩)
  | _ => none

/-- The rows that the content of a file holds. -/
def ofContent? (content : List UInt8) : Option (List (String × Row)) :=
  let lines := (Utf8.decode content).splitOn '\n'
  (lines.filter (!·.isEmpty)).mapM ofLine?

/-- The rows of what is at a place. A file of at most one byte counts as
empty. -/
def ofNode? : Node → Option (List (String × Row))
  | .directory => none
  | .file bytes => if bytes.length ≤ 1 then some [] else none
  | .database content => ofContent? content

/-- Why a store cannot be opened. -/
inductive OpenError where
  /-- Its directory cannot be made. -/
  | directory (e : FileError)
  /-- Its address is malformed, or leads to no file. -/
  | unreachable (path : String)
  /-- Its file is not that of a store, or may not be written. -/
  | foreign (path : String)
  deriving DecidableEq, Repr

/-- The wording of an error. -/
def OpenError.message : OpenError → String
  | directory e => "creating cache directory: " ++ e.message
  | unreachable path => "setting busy timeout: unable to open " ++ path
  | foreign path => "creating table: not a chunk store: " ++ path

/-- The longest path of a file that can be opened, in bytes. -/
def longestPath : Nat := 504

/-- The length in bytes of the path to a place. -/
def pathLength (l : Location) : Nat :=
  l.foldl (fun n name => n + name.utf8ByteSize + 1) 0

/-- Opens the file at a path, and makes it if nothing is there. Yields its place,
what it holds and the files after it. -/
def touch (files : FileTree) (cwd : Location) (path : String) :
    Option (Location × Node × FileTree) := do
  let l ← (files.resolve cwd path).toOption
  if longestPath < pathLength l then none
  else
    match files.node? l with
    | some .directory => none
    | some node => some (l, node, files)
    | none => some (l, .file [], files.set l (.file []))

/-- Writes the rows of a store to its file. -/
def flush (st : Store) (files : FileTree) (cwd : Location) : FileTree :=
  match st.place with
  | .memory => files
  | .file path =>
      match files.resolve cwd path with
      | .ok l => files.set l (.database (toContent st.rows))
      | .error _ => files

/-- Opens the store at an address, once its directory is there. -/
def openReady (files : FileTree) (cwd : Location) (path : String) :
    FileTree × Except OpenError (Store × List Log.Entry) :=
  match Address.parse? path with
  | none => (files, .error (.unreachable path))
  | some address =>
      match address.place with
      | .memory =>
          if !address.accepts then (files, .error (.unreachable path))
          else if address.readOnly then (files, .error (.foreign path))
          else (files, .ok (opened path .memory []))
      | .file name =>
          match touch files cwd name with
          | none => (files, .error (.unreachable path))
          | some (_, node, files) =>
              if !address.accepts then (files, .error (.unreachable path))
              else
                match ofNode? node with
                | none => (files, .error (.foreign path))
                | some rows =>
                    if address.readOnly then (files, .error (.foreign path))
                    else
                      let (st, log) := opened path (.file name) rows
                      (st.flush files cwd, .ok (st, log))

/-- Opens the store at an address, and makes its file and the directory of that
if nothing is there. Yields the files after it, and the store with the log lines
unless it cannot be opened. -/
def openAt (files : FileTree) (cwd : Location) (path : String) :
    FileTree × Except OpenError (Store × List Log.Entry) :=
  if path = Address.memory then openReady files cwd path
  else
    match files.makeDirectories cwd (Path.parent path) with
    | .error e => (files, .error (.directory e))
    | .ok files => openReady files cwd path

end ExprMachine.Store
