import ExprMachine.Command.Flags
import ExprMachine.Command.Repl
import ExprMachine.Editor.Connection
import ExprMachine.Manifest
import ExprMachine.Store.File
import ExprMachine.Yaml.Listing

/-!
What a command line does.

* `World`: what a command finds: its words, the files, where it stands in them,
  its input and the time.
* `Outcome`: what it leaves: its exit code, what it printed and logged, and the
  files after it.
* `readsInput`, `settingsPaths`, `paths`: what of the world a command touches.
* `run`: the outcome of a command. Options are read first, then the settings of
  the project; then the command serves an editor, holds a conversation, compiles
  a file or runs one.
-/

namespace ExprMachine.Command

/-- What a command finds. -/
structure World where
  /-- The words of the command line. -/
  args : List String
  /-- The files. -/
  files : FileTree
  /-- Where it stands in them. -/
  cwd : Location
  /-- Where the user's own files are. -/
  home? : Option String
  /-- Its input. -/
  input : List UInt8
  /-- The time, in seconds. -/
  now : Int

/-- How a command ends. -/
inductive Exit where
  | ok
  | badFlags
  | usage
  | badData
  | noInput
  | failed
  | ioError
  deriving DecidableEq, Repr

/-- The exit code of an end. -/
def Exit.code : Exit → Nat
  | ok => 0
  | badFlags => 2
  | usage => 64
  | badData => 65
  | noInput => 66
  | failed => 70
  | ioError => 74

/-- Where and how much is logged. -/
structure Logging where
  /-- How much is logged. -/
  verbosity : Int
  /-- The file that the log goes to, if any. -/
  file? : Option String
  deriving DecidableEq, Repr

/-- What a command leaves. -/
structure Outcome where
  /-- How it ended. -/
  exit : Exit
  /-- What it printed. -/
  out : String
  /-- What it printed about errors. -/
  err : String
  /-- What it logged. -/
  log : List Log.Entry
  /-- Where and how much was logged. -/
  logging : Logging
  /-- The files after it. -/
  files : FileTree

/-- The part of the program that a command's log lines come from. -/
def logger : String := "glox.cli"

/-- A log line of a command. -/
def entry (level : Log.Level) (message : String) : Log.Entry :=
  ⟨level, logger, message⟩

namespace Outcome

/-- An outcome that has changed no files and logged nothing. -/
def plain (files : FileTree) (logging : Logging) (exit : Exit) (out err : String) : Outcome :=
  ⟨exit, out, err, [], logging, files⟩

/-- The outcome with lines logged before all others. -/
def after (o : Outcome) (log : List Log.Entry) : Outcome :=
  { o with log := log ++ o.log }

end Outcome

/-! ### Errors that end a command -/

/-- Why a file is not run. -/
inductive Failure where
  /-- It cannot be read. -/
  | file (e : FileError)
  /-- Its source does not compile. -/
  | compile (ds : List Diagnostic)
  /-- It is no compiled chunk. -/
  | chunk (e : Wire.Error)
  /-- Its run failed. -/
  | session (e : Session.Error)

/-- The wording of a failure. -/
def Failure.message : Failure → String
  | file e => e.message
  | compile ds => Diagnostic.textOfList ds
  | chunk e => e.message
  | session e => e.message

/-- How a failure ends a command. -/
def Failure.exit : Failure → Exit
  | file e => if e.fault = .missing then .noInput else .badData
  | session (.run e) => if e.kind = .interpret then .badData else .failed
  | _ => .badData

/-- Whether a path is that of a compiled chunk. -/
def isCompiled (path : String) : Bool :=
  ".gloxc".toList.isSuffixOf path.toList

/-! ### What a command does with its settings -/

/-- Everything that is settled before a command does its work. -/
structure Setup where
  /-- What it found. -/
  world : World
  /-- Its options. -/
  options : Options
  /-- The settings of the project. -/
  manifest : Manifest

namespace Setup

/-- Where and how much is logged: the options and the settings both can ask for
more. -/
def logging (s : Setup) : Logging :=
  ⟨max s.options.verbosity s.manifest.verbosity, s.manifest.logTarget?⟩

/-- Whether chunks are listed before they are run. -/
def lists (s : Setup) : Bool :=
  s.options.disasm || s.manifest.disassemble

/-- Whether listings are written as structured text. -/
def listsYaml (s : Setup) : Bool :=
  s.lists && s.options.format == "yaml"

/-- A line for each key of the settings that stands for none. -/
def unknownKeys (s : Setup) : List Log.Entry :=
  s.manifest.unknown.map fun k => entry .warning s!"{Manifest.fileName}: unknown key {k.text}"

/-- The session that runs sources, with the files and the log lines after its
store has been opened. A store that cannot be opened is done without. -/
def session (s : Setup) : Session × FileTree × List Log.Entry :=
  let listing : Session.ListingTo :=
    if s.lists && s.options.format == "text" then .shown else .nowhere
  let bare : Session :=
    ⟨s.options.trace || s.manifest.trace, listing, none, "glox.interpreter", 0⟩
  if s.options.cache || s.manifest.cacheEnabled then
    match Store.openAt s.world.files s.world.cwd s.manifest.cacheFile with
    | (files, .error e) => (bare, files, [entry .warning ("cache disabled: " ++ e.message)])
    | (files, .ok (store, log)) => ({ bare with store? := some store }, files, log)
  else (bare, s.world.files, [])

/-- The files after a session has kept what it compiled. -/
def keep (s : Setup) (session : Session) (files : FileTree) : FileTree :=
  match session.store? with
  | some store => store.flush files s.world.cwd
  | none => files

/-- An outcome that has changed no files but these. -/
def ending (s : Setup) (files : FileTree) (exit : Exit) (out err : String) : Outcome :=
  .plain files s.logging exit out err

/-- The end of a command that failed after it had printed something. -/
def failing (s : Setup) (files : FileTree) (out : String) (f : Failure) : Outcome :=
  s.ending files f.exit out (f.message ++ "\n")

/-- Serves an editor. -/
def serve (s : Setup) : Outcome :=
  let (out, log) := Editor.Server.converse s.world.input
  { s.ending s.world.files .ok out "" with log }

/-- The path of the lines that were entered before. -/
def historyPath? (s : Setup) : Option String :=
  s.world.home?.map fun home => Path.join home ".glox_history"

/-- Holds a conversation. -/
def converse (s : Setup) (session : Session) (files : FileTree) : Outcome :=
  let cwd := s.world.cwd
  let history :=
    match s.historyPath?.map (files.read cwd) with
    | some (.ok bytes) => History.read bytes
    | _ => ⟨[]⟩
  let repl := Repl.run session history s.world.now s.world.input
  let files := s.keep repl.session files
  let files :=
    match s.historyPath?.map fun path => files.write cwd path repl.history.write with
    | some (.ok files) => files
    | _ => files
  { s.ending files .ok repl.out repl.err with log := repl.log }

/-- Compiles a file to another. -/
def compileTo (s : Setup) (files : FileTree) (path output : String) : Outcome :=
  let cwd := s.world.cwd
  match files.read cwd path with
  | .error e => s.failing files "" (.file e)
  | .ok bytes =>
      let source : Source := ⟨bytes⟩
      match source.compile with
      | .error ds => s.failing files "" (.compile ds)
      | .ok c =>
          match files.write cwd output (c.encode source) with
          | .error e => s.ending files .ioError "" s!"Error: {e.message}\n"
          | .ok files =>
              let line := entry .info s!"wrote {output} ({c.code.size} bytes of code)"
              { s.ending files .ok "" "" with log := [line] }

/-- The chunk of a file, compiled or read, with the log lines and the session
after it. -/
def load (s : Setup) (session : Session) (files : FileTree) (path : String) :
    Except Failure Chunk × List Log.Entry × Session :=
  match files.read s.world.cwd path with
  | .error e => (.error (.file e), [], session)
  | .ok bytes =>
      if isCompiled path then
        ((Chunk.ofBytes bytes).mapError .chunk, [], session)
      else
        let (r, log, session) := session.compile .none s.world.now ⟨bytes⟩
        (r.mapError .compile, log, session)

/-- Runs a file. -/
def runFile (s : Setup) (session : Session) (files : FileTree) (path : String) : Outcome :=
  let (loaded, log, session) := s.load session files path
  let files := s.keep session files
  match loaded with
  | .error f => (s.failing files "" f).after log
  | .ok c =>
      let listing := if s.listsYaml then Yaml.listing path c else ""
      let (r, shown) := session.runChunk (some c)
      let out := listing ++ shown.text
      let o :=
        match r with
        | .ok v => s.ending files .ok (out ++ s!"Result: {v.text}\n") ""
        | .error e => s.failing files out (.session e)
      o.after (log ++ shown.log)

/-- Does the work of a command on the words after its options. -/
def work (s : Setup) (words : List String) : Outcome :=
  if s.options.lsp then s.serve
  else
    match words with
    | _ :: _ :: _ => s.ending s.world.files .usage "" usage
    | [] =>
        let (session, files, log) := s.session
        (s.converse session files).after log
    | [path] =>
        let (session, files, log) := s.session
        let o :=
          if s.options.output.isEmpty then s.runFile session files path
          else s.compileTo files path s.options.output
        o.after log

end Setup

/-! ### Commands -/

/-- The settings of the project that a command stands in. -/
def settings (w : World) : Except Manifest.Error Manifest :=
  (Manifest.find w.files w.cwd).map (·.getD .default)

/-- Whether a command reads its input: it serves an editor or holds a
conversation. -/
def readsInput (w : World) : Bool :=
  match Options.default.parse w.args with
  | .ok (options, words) => options.lsp || words.isEmpty
  | .error _ => false

/-- The paths of the settings that a command looks for. -/
def settingsPaths (w : World) : List String :=
  (Manifest.upward w.cwd).map fun l => Path.ofNames true (l ++ [Manifest.fileName])

/-- The paths that a command can read or write, once its settings are among the
files. -/
def paths (w : World) : List String :=
  match Options.default.parse w.args, settings w with
  | .ok (options, words), .ok manifest =>
      let s : Setup := ⟨w, options, manifest⟩
      let cache := (Store.Address.parse? manifest.cacheFile).toList.filterMap Store.Address.file?
      (words ++ [options.output, manifest.cacheFile] ++ cache ++ s.historyPath?.toList).filter
        (· ≠ "")
  | _, _ => []

/-- The outcome of a command. -/
def run (w : World) : Outcome :=
  let quiet : Logging := ⟨0, none⟩
  let ending := Outcome.plain w.files quiet
  match Options.default.parse w.args with
  | .error .help => ending .ok "" usage
  | .error (.fault f) => ending .badFlags "" (f.message ++ "\n" ++ usage)
  | .ok (options, words) =>
      if options.format ≠ "text" ∧ options.format ≠ "yaml" then
        ending .usage "" s!"Error: unknown format {quoted options.format}\n"
      else
        match settings w with
        | .error e => ending .usage "" s!"Error: {e.message}\n"
        | .ok manifest =>
            let setup : Setup := ⟨w, options, manifest⟩
            let o := (setup.work words).after setup.unknownKeys
            { o with log := Log.visible o.logging.verbosity o.log }

end ExprMachine.Command
