import ExprMachine.Files.Tree
import ExprMachine.Text.Caseless
import ExprMachine.Toml.Document
import ExprMachine.Toml.Reader

/-!
Settings of a project, kept in a file at its top.

* `Manifest`: the settings, and the keys of the file that stand for none.
* `Setting`: the settings that a file can give, with their tables and names,
  which are matched whatever their case.
* `Manifest.ofDocument?`: the settings of a file that has been read.
* `Manifest.load`: the settings of a directory.
* `Manifest.find`: the settings of the nearest directory above that has some.
* `Manifest.cacheFile`, `Manifest.logTarget?`: where the cache and the log are
  kept; paths are relative to the directory of the file.
-/

namespace ExprMachine

/-- The settings of a project. -/
structure Manifest where
  /-- Whether runs are traced. -/
  trace : Bool
  /-- Whether chunks are listed before they are run. -/
  disassemble : Bool
  /-- Whether compiled chunks are kept. -/
  cacheEnabled : Bool
  /-- Where they are kept. -/
  cachePath : String
  /-- How much is logged. -/
  verbosity : Int
  /-- Where the log goes; empty if it goes nowhere else. -/
  logFile : String
  /-- The directory of the file, if there is a file. -/
  dir? : Option String
  /-- The keys of the file that stand for no setting, in their order. -/
  unknown : List Toml.Key
  deriving DecidableEq, Repr

namespace Manifest

/-- The name of the file. -/
def fileName : String := "glox.toml"

/-- Where compiled chunks are kept unless the file says otherwise. -/
def defaultCachePath : String := ".glox/cache.db"

/-- The settings of a project without a file. -/
def default : Manifest :=
  { trace := false, disassemble := false, cacheEnabled := false,
    cachePath := defaultCachePath, verbosity := 0, logFile := "", dir? := none,
    unknown := [] }

/-- Where compiled chunks are kept. -/
def cacheFile (m : Manifest) : String :=
  match m.dir? with
  | some dir => if Path.isAbsolute m.cachePath then m.cachePath else Path.join dir m.cachePath
  | none => m.cachePath

/-- Where the log goes, unless it goes where errors go. -/
def logTarget? (m : Manifest) : Option String :=
  if m.logFile.isEmpty then none
  else
    match m.dir? with
    | some dir =>
        some (if Path.isAbsolute m.logFile then m.logFile else Path.join dir m.logFile)
    | none => some m.logFile

/-! ### Settings in a file -/

/-- The settings that a file can give. -/
inductive Setting where
  | trace
  | disassemble
  | cacheEnabled
  | cachePath
  | verbosity
  | logFile
  deriving DecidableEq, Repr

namespace Setting

/-- All settings. -/
def all : List Setting :=
  [trace, disassemble, cacheEnabled, cachePath, verbosity, logFile]

/-- The table that a setting stands in. -/
def table : Setting → String
  | trace | disassemble => "run"
  | cacheEnabled | cachePath => "cache"
  | verbosity | logFile => "log"

/-- The name of a setting within its table. -/
def name : Setting → String
  | trace => "trace"
  | disassemble => "disassemble"
  | cacheEnabled => "enabled"
  | cachePath => "path"
  | verbosity => "verbosity"
  | logFile => "file"

end Setting

/-- Whether a name is that of a table of settings. -/
def isTable (written : String) : Bool :=
  Setting.all.any fun s => Caseless.same s.table written

/-- The setting of a name in a table. -/
def setting? (table written : String) : Option Setting :=
  Setting.all.find? fun s => Caseless.same s.table table && Caseless.same s.name written

/-- The settings with one of them as a value gives it, if the value is of its
kind. -/
def give (m : Manifest) : Setting → Toml.Value → Option Manifest
  | .trace, .boolean b => some { m with trace := b }
  | .disassemble, .boolean b => some { m with disassemble := b }
  | .cacheEnabled, .boolean b => some { m with cacheEnabled := b }
  | .cachePath, .string s => some { m with cachePath := s }
  | .verbosity, .integer n => some { m with verbosity := n }
  | .logFile, .string s => some { m with logFile := s }
  | _, _ => none

/-- The settings after one more entry of a file. -/
def accept (m : Manifest) (e : Toml.Key × Toml.Entry) : Option Manifest :=
  match e with
  | ([name], entry) =>
      match isTable name, entry with
      | false, _ => some m
      | true, .table => some m
      | true, _ => none
  | ([table, name], entry) =>
      match setting? table name, entry with
      | none, _ => some m
      | some s, .leaf v => m.give s v
      | some _, _ => none
  | _ => some m

/-- Whether a key of a file stands for a setting or a table of settings. -/
def isKnown : Toml.Key → Bool
  | [name] => isTable name
  | [table, name] => (setting? table name).isSome
  | _ => false

/-- The settings of a file, unless one of them has a value of the wrong kind. -/
def ofDocument? (d : Toml.Document) : Option Manifest := do
  let m ← d.entries.reverse.foldlM accept { default with cachePath := "" }
  let consumed (key : Toml.Key) : Bool := isKnown key && (d.entry? key).isSome
  return { m with unknown := d.mentions.reverse.filter fun k => !consumed k }

/-! ### Files -/

/-- Why there are no settings. -/
inductive Error where
  /-- The file cannot be read. -/
  | unreadable (path : String) (e : FileError)
  /-- It does not hold settings. -/
  | malformed (path : String)
  /-- It asks for a negative verbosity. -/
  | negativeVerbosity (path : String)
  deriving DecidableEq, Repr

/-- The wording of an error. -/
def Error.message : Error → String
  | unreadable path e => s!"cannot read {path}: {e.message}"
  | malformed path => s!"parse error in {path}: toml: malformed settings"
  | negativeVerbosity path => s!"{path}: log verbosity must not be negative"

/-- The settings that the bytes of a file give. -/
def ofBytes? (bytes : List UInt8) : Option Manifest := do
  let statements ← Toml.parse? bytes
  let document ← Toml.Document.ofStatements? statements
  ofDocument? document

/-- The settings of a directory. -/
def load (files : FileTree) (dir : String) : Except Error Manifest := do
  let path := Path.join dir fileName
  let bytes ←
    match files.read [] path with
    | .ok bytes => pure bytes
    | .error e => throw (.unreadable path e)
  match ofBytes? bytes with
  | none => throw (.malformed path)
  | some m =>
      if m.verbosity < 0 then throw (.negativeVerbosity path)
      let cachePath := if m.cachePath.isEmpty then defaultCachePath else m.cachePath
      return { m with cachePath, dir? := some (Path.absolute "/" dir) }

/-- A place and all places above it, the nearest first. -/
def upward (l : Location) : List Location :=
  (List.range (l.length + 1)).map fun n => l.take (l.length - n)

/-- The settings of the nearest directory at or above a place that has some. The search goes
from a directory to the one above, and ends at the one that has none above. -/
def find (files : FileTree) (dir : Location) : Except Error (Option Manifest) :=
  if files.has (dir ++ [fileName]) then (load files (Path.ofNames true dir)).map some
  else if dir.dropLast = dir then .ok none
  else find files dir.dropLast
termination_by dir.length
decreasing_by
  cases dir with
  | nil => contradiction
  | cons name dir => simp

end Manifest

end ExprMachine
