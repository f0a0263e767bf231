import ExprMachine.Chunk.Compile
import ExprMachine.Machine.Run
import ExprMachine.Store

/-!
Sessions: source text in, one value out.

A session compiles a source, or takes its chunk from a store, and runs the
chunk. Trouble with the store is logged and never keeps a source from being
compiled.

* `Session`: what is shown of a run, the store, and how many sources were
  compiled.
* `Outage`: the calls to the store that fail, whatever the store holds.
* `Session.compile`, `Session.runChunk`, `Session.interpret`.
-/

namespace ExprMachine

namespace Session

/-- What becomes of the listing of each chunk before it is run. -/
inductive ListingTo where
  /-- It is not made. -/
  | nowhere
  /-- It is shown. -/
  | shown
  /-- It cannot be written, for a reason. -/
  | failing (reason : String)
  deriving DecidableEq, Repr

/-- Reasons for which calls to the store fail. -/
structure Outage where
  /-- Why looking up fails. -/
  lookup? : Option String
  /-- Why saving fails. -/
  save? : Option String
  deriving DecidableEq, Repr

/-- No call fails. -/
def Outage.none : Outage := ⟨Option.none, Option.none⟩

/-- Why a session yields no value. -/
inductive Error where
  /-- The source does not compile. -/
  | compile (ds : List Diagnostic)
  /-- The run failed. -/
  | run (e : Machine.Error)
  /-- The listing could not be written. -/
  | listing (reason : String)
  deriving DecidableEq, Repr

/-- The wording of an error. -/
def Error.message : Error → String
  | compile ds => Diagnostic.textOfList ds
  | run e => e.text
  | listing reason => "writing disassembly: " ++ reason

end Session

/-- A session. -/
structure Session where
  /-- Whether runs are traced. -/
  traces : Bool
  /-- What becomes of listings. -/
  listing : Session.ListingTo
  /-- The store, if there is one. -/
  store? : Option Store
  /-- The part of the program that the session's log lines come from. -/
  logger : String
  /-- How many sources were compiled rather than found in the store. -/
  compiles : Nat

namespace Session

/-- What a call shows besides its result. -/
structure Shown where
  /-- The value that was printed. -/
  out : String
  /-- The trace. -/
  trace : String
  /-- The listing. -/
  listing : String
  /-- The log lines. -/
  log : List Log.Entry
  deriving DecidableEq, Repr

/-- Nothing is shown. -/
def Shown.nothing : Shown := ⟨"", "", "", []⟩

/-- All that is shown, in its order, when it goes to one place. -/
def Shown.text (s : Shown) : String :=
  s.listing ++ s.trace ++ s.out

/-- A log line of the session. -/
def entry (s : Session) (level : Log.Level) (message : String) : Log.Entry :=
  ⟨level, s.logger, message⟩

/-- Looks a source up in the store. -/
def lookup (s : Session) (o : Outage) (src : Source) : Option Chunk × List Log.Entry :=
  match s.store? with
  | none => (none, [])
  | some st =>
      let failed (reason : String) : Option Chunk × List Log.Entry :=
        (none, [s.entry .warning ("cache lookup failed: " ++ reason)])
      match o.lookup? with
      | some reason => failed reason
      | none =>
          match st.lookup src with
          | .error r => failed r.message
          | .ok (c?, log) => (c?, log)

/-- Saves the chunk of a source in the store. -/
def save (s : Session) (o : Outage) (now : Int) (src : Source) (c : Chunk) :
    Session × List Log.Entry :=
  match s.store? with
  | none => (s, [])
  | some st =>
      let failed (reason : String) : Session × List Log.Entry :=
        (s, [s.entry .warning ("cache store failed: " ++ reason)])
      match o.save? with
      | some reason => failed reason
      | none =>
          match st.save src c now with
          | .error r => failed r.message
          | .ok st => ({ s with store? := some st }, [])

/-- The chunk of a source, from the store if it is there. -/
def compile (s : Session) (o : Outage) (now : Int) (src : Source) :
    Except (List Diagnostic) Chunk × List Log.Entry × Session :=
  match s.lookup o src with
  | (some c, log) => (.ok c, log, s)
  | (none, log) =>
      match src.compile with
      | .error ds => (.error ds, log, s)
      | .ok c =>
          let (s', more) := { s with compiles := s.compiles + 1 }.save o now src c
          (.ok c, log ++ more, s')

/-- Runs a chunk: its listing, its trace and its value are shown as the session
says. A chunk that is not there has no listing. -/
def runChunk (s : Session) (c? : Option Chunk) : Except Error Value × Shown :=
  let listing : Except String String :=
    match c?, s.listing with
    | some c, .shown => .ok (c.disassemble "chunk")
    | some _, .failing reason => .error reason
    | _, _ => .ok ""
  match listing with
  | .error reason => (.error (.listing reason), .nothing)
  | .ok listing =>
      let observer : Machine.Observer := ⟨true, if s.traces then .separate else .off⟩
      let (e, _) := (Machine.new c?).evaluate observer
      match e.result with
      | .ok v => (.ok v, ⟨e.out, e.trace, listing, []⟩)
      | .error err =>
          let log :=
            if err.kind.blamesCode then [s.entry .error ("malformed chunk: " ++ err.text)] else []
          (.error (.run err), ⟨e.out, e.trace, listing, log⟩)

/-- Compiles a source and runs it. -/
def interpret (s : Session) (o : Outage) (now : Int) (src : Source) :
    Except Error Value × Shown × Session :=
  match s.compile o now src with
  | (.error ds, log, s) =>
      let failed := s.entry .debug ("compile failed: " ++ Diagnostic.textOfList ds)
      (.error (.compile ds), { Shown.nothing with log := log ++ [failed] }, s)
  | (.ok c, log, s) =>
      let (r, shown) := s.runChunk (some c)
      (r, { shown with log := log ++ shown.log }, s)

end Session

end ExprMachine
