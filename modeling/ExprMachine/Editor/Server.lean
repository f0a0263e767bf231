import ExprMachine.Editor.Completion
import ExprMachine.Editor.Diagnose
import ExprMachine.Editor.Hover
import ExprMachine.Log

/-!
A language server: it keeps the texts that an editor has open, publishes marks
when one changes, and answers what the editor asks about them.

* `Server`: whether the server has been initialised, and the open texts.
* `Request`: what an editor can ask or tell.
* `Failure`: why it gets no answer.
* `Server.handle`: the reply to a request and the server after it. Until it has
  been initialised, and again once it has been shut down, the server refuses
  everything but initialisation; the texts survive a shutdown.
-/

namespace ExprMachine.Editor

/-- One change to an open text. -/
inductive Change where
  /-- The whole text is replaced. -/
  | whole (text : String)
  /-- A part of the text is replaced; such changes are not taken. -/
  | ranged (text : String)
  deriving DecidableEq, Repr

/-- What an editor can ask or tell. -/
inductive Request where
  | connect
  | connected
  | shutdown
  | setTrace
  | didOpen (uri text : String)
  | didChange (uri : String) (changes : List Change)
  | didClose (uri : String)
  | hover (uri : String) (cursor : Position)
  | completion (uri : String) (cursor : Position)
  | unknown (method : String)
  deriving DecidableEq, Repr

/-- What a request is answered with. -/
inductive Answer where
  /-- Nothing. -/
  | none
  /-- What the server can do. -/
  | capabilities
  /-- A note for a token. -/
  | hover (h : Hover)
  /-- Words on offer, at least one. -/
  | completions (cs : List Completion)
  deriving DecidableEq, Repr

/-- Marks published for a text. -/
structure Publication where
  /-- The text that they are for. -/
  uri : String
  /-- The marks. -/
  marks : List Mark
  deriving DecidableEq, Repr

/-- Why a request gets no answer. -/
inductive Failure where
  /-- The server has not been initialised, or it has been shut down. -/
  | notReady
  /-- The server does not know the method. -/
  | unknownMethod (method : String)
  /-- The parameters are missing. -/
  | noParams
  /-- The parameters are not those of the method. -/
  | badParams (reason : String)
  deriving DecidableEq, Repr

/-- The number of a failure. -/
def Failure.code : Failure → Int
  | notReady => -32600
  | unknownMethod _ => -32601
  | noParams | badParams _ => -32602

/-- The wording of a failure. -/
def Failure.message : Failure → String
  | notReady => "server not initialized"
  | unknownMethod method => "method not supported: " ++ method
  | noParams => "unexpected end of JSON input"
  | badParams reason => reason

/-- The reply to a request. -/
structure Reply where
  /-- The answer, or why there is none. -/
  answer : Except Failure Answer
  /-- What is published along with it. -/
  publication? : Option Publication
  /-- What is logged. -/
  log : List Log.Entry

/-- A language server. -/
structure Server where
  /-- Whether it has been initialised and not been shut down since. -/
  ready : Bool
  /-- The open texts. -/
  documents : List (String × String)
  deriving DecidableEq, Repr

namespace Server

/-- A server that has not been initialised and has no open texts. -/
def new : Server := ⟨false, []⟩

/-- The version that the server reports. -/
def version : String := "0.1.0"

/-- The part of the program that the server's log lines come from. -/
def logger : String := "glox.server"

/-- An open text. -/
def document? (s : Server) (uri : String) : Option String :=
  s.documents.lookup uri

/-- Closes a text. -/
def erase (s : Server) (uri : String) : Server :=
  { s with documents := s.documents.filter fun d => d.1 ≠ uri }

/-- Opens a text, or replaces it. -/
def insert (s : Server) (uri text : String) : Server :=
  { s with documents := (uri, text) :: (s.erase uri).documents }

/-- A reply that only answers. -/
def answered (a : Answer) : Reply := ⟨.ok a, none, []⟩

/-- A reply that answers nothing. -/
def refused (f : Failure) : Reply := ⟨.error f, none, []⟩

/-- Takes a text in and publishes its marks. -/
def accept (s : Server) (uri text : String) : Reply × Server :=
  let marks := diagnose text.toList
  let line : Log.Entry := ⟨.debug, logger, s!"{uri}: {marks.length} diagnostics"⟩
  (⟨.ok .none, some ⟨uri, marks⟩, [line]⟩, s.insert uri text)

/-- What completes the word before the cursor in an open text. -/
def complete (s : Server) (uri : String) (cursor : Position) : Answer :=
  match s.document? uri with
  | none => .none
  | some text =>
      let word := wordBefore text.toList cursor
      if word.isEmpty then .none
      else
        match completions word with
        | [] => .none
        | cs => .completions cs

/-- The note for the token under the cursor in an open text. -/
def hover (s : Server) (uri : String) (cursor : Position) : Answer :=
  match (s.document? uri).bind fun text => hover? text.toList cursor with
  | none => .none
  | some h => .hover h

/-- The reply to a request, and the server after it. -/
def handle (s : Server) (r : Request) : Reply × Server :=
  if !s.ready ∧ r ≠ .connect then
    (refused .notReady, s)
  else
    match r with
    | .connect =>
        (⟨.ok .capabilities, none, [⟨.info, logger, "glox LSP initializing"⟩]⟩,
         { s with ready := true })
    | .connected | .setTrace => (answered .none, s)
    | .shutdown => (answered .none, { s with ready := false })
    | .didOpen uri text => s.accept uri text
    | .didChange uri changes =>
        -- the last change of a batch holds the text, if it holds a whole one
        match changes.getLast? with
        | some (.whole text) => s.accept uri text
        | _ => (answered .none, s)
    | .didClose uri => (⟨.ok .none, some ⟨uri, []⟩, []⟩, s.erase uri)
    | .hover uri cursor => (answered (s.hover uri cursor), s)
    | .completion uri cursor => (answered (s.complete uri cursor), s)
    | .unknown method => (refused (.unknownMethod method), s)

end Server

end ExprMachine.Editor
