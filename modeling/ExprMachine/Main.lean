import ExprMachine.Command.Run

/-!
The command line program: it gathers what a command finds, asks for the outcome,
and carries it out.
-/

namespace ExprMachine.Program

open ExprMachine Command

/-- What is at a path, if anything is. -/
def probe (path : String) : IO (Option Node) := do
  try
    let content ← IO.FS.readBinFile path
    return some (.ofBytes content.toList)
  catch e =>
    match e with
    | .noFileOrDirectory .. => return none
    | _ => return some .directory

/-- The files with what is at a path and at all paths that lead to it. -/
def gather (cwd : Location) (files : FileTree) (path : String) : IO FileTree := do
  let start := if Path.isAbsolute path then "/" else Path.ofNames true cwd
  let names := (Path.parts (Path.join start path)).filter (· ≠ "")
  let mut files := files
  for n in List.range names.length do
    let place := names.take (n + 1)
    match ← probe (Path.ofNames true place) with
    | none => return files
    | some node => files := files.set place node
  return files

/-- All of the input. -/
partial def readAll (stream : IO.FS.Stream) (sofar : ByteArray) : IO ByteArray := do
  let more ← stream.read 4096
  if more.isEmpty then return sofar else readAll stream (sofar ++ more)

/-- Makes the directories and writes the files that are new or changed, the
directories first. -/
def carryOut (before after : FileTree) : IO Unit := do
  let fresh := after.nodes.filter fun (l, n) => before.node? l ≠ some n
  let byDepth := fresh.mergeSort fun a b => a.1.length ≤ b.1.length
  for (place, node) in byDepth do
    let path := Path.ofNames true place
    match node.bytes? with
    | none => IO.FS.createDirAll path
    | some content => IO.FS.writeBinFile path ⟨content.toArray⟩

/-- A log line as it is printed. -/
def logLine (e : Log.Entry) : String :=
  s!"{e.level.name} [{e.logger}] {e.message}\n"

/-- Prints log lines where the settings say. -/
def printLog (o : Outcome) : IO Unit := do
  let text := String.join (o.log.map logLine)
  if text.isEmpty then return
  match o.logging.file? with
  | none => (← IO.getStderr).putStr text
  | some path =>
      let handle ← IO.FS.Handle.mk path .append
      handle.putStr text

/-- Gathers what a command finds. -/
def world (args : List String) : IO World := do
  let here := (← IO.currentDir).toString
  let cwd := (Path.parts here).filter (· ≠ "")
  let now : Int := (← IO.monoMsNow) / 1000
  let bare : World := ⟨args, .empty, cwd, ← IO.getEnv "HOME", [], now⟩
  let files ← (here :: settingsPaths bare).foldlM (gather cwd) .empty
  let files ← (paths { bare with files }).foldlM (gather cwd) files
  let input ← if readsInput bare then readAll (← IO.getStdin) .empty else pure .empty
  return { bare with files, input := input.toList }

end ExprMachine.Program

/-- Runs a command line. -/
def main (args : List String) : IO UInt32 := do
  let w ← ExprMachine.Program.world args
  let o := ExprMachine.Command.run w
  (← IO.getStdout).putStr o.out
  (← IO.getStderr).putStr o.err
  ExprMachine.Program.printLog o
  ExprMachine.Program.carryOut w.files o.files
  return UInt32.ofNat o.exit.code
