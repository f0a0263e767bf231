import ExprMachine.Editor.ClientCapabilities
import ExprMachine.Editor.Server

/-!
What the methods of an editor are to be done with.

* `Method`: the methods that the server knows, with their names.
* `Method.failure?`: why data are not the parameters of a method.
* `Method.request`: the request that a method makes with its parameters.
* `Request.ofCall`: the request that is made by the name of a method and its
  parameters.
-/

namespace ExprMachine.Editor

open Json (Shape)

/-! ### Methods -/

/-- The methods that the server knows. -/
inductive Method where
  | connect
  | connected
  | shutdown
  | setTrace
  | didOpen
  | didChange
  | didClose
  | hover
  | completion
  deriving DecidableEq, Repr

namespace Method

/-- All methods. -/
def all : List Method :=
  [connect, connected, shutdown, setTrace, didOpen, didChange, didClose, hover, completion]

/-- The name of a method. -/
def name : Method → String
  | connect => "initialize"
  | connected => "initialized"
  | shutdown => "shutdown"
  | setTrace => "$/setTrace"
  | didOpen => "textDocument/didOpen"
  | didChange => "textDocument/didChange"
  | didClose => "textDocument/didClose"
  | hover => "textDocument/hover"
  | completion => "textDocument/completion"

/-- The method of a name. -/
def ofName? (name : String) : Option Method :=
  all.find? fun m => m.name = name

end Method

/-! ### Shapes of parameters -/

namespace Parameters

/-- A text that is named by its place. -/
def identifier : Part :=
  .must "textDocument" (record "TextDocumentIdentifier" [.must "uri" plainText])

/-- The place of a character in a text. -/
def position : Shape :=
  record "Position" [.must "line" natural, .must "character" natural]

/-- A stretch of a text. -/
def range : Shape :=
  record "Range" [.must "start" position, .must "end" position]

/-- A place in a text, asked about by work that is under way. -/
def place : List Part :=
  [identifier, .must "position" position, .may "workDoneToken" token]

/-- The parts with which an editor connects. -/
def connect : List Part := [
  .may "workDoneToken" token,
  .may "processId" integer,
  .may "clientInfo" (unnamed [.must "name" plainText, .may "version" plainText]),
  .may "locale" plainText,
  .may "rootPath" plainText,
  .may "rootUri" plainText,
  .may "initializationOptions" .any,
  .must "capabilities" ClientCapabilities.shape,
  .may "trace" (word "TraceValue"),
  .may "workspaceFolders" (.list (record "WorkspaceFolder"
    [.must "uri" plainText, .must "name" plainText]))]

/-- A text that is opened. -/
def opened : List Part := [
  .must "textDocument" (record "TextDocumentItem" [
    .must "uri" plainText, .must "languageId" plainText, .must "version" integer,
    .must "text" plainText])]

/-- What asks for completions. -/
def completion : List Part :=
  place ++ [
    .may "partialResultToken" token,
    .may "context" (record "CompletionContext" [
      .must "triggerKind" (option "CompletionTriggerKind"),
      .may "triggerCharacter" plainText])]

/-- A text that is changed, with changes that are looked at one by one. -/
def changed : Shape :=
  unnamed [
    .must "textDocument" (record "VersionedTextDocumentIdentifier"
      [.must "uri" plainText, .must "version" integer]),
    .must "contentChanges" (.list .raw)]

/-- A change of a text. -/
def change : Shape :=
  record "TextDocumentContentChangeEvent" [
    .may "range" range, .may "rangeLength" natural, .must "text" plainText]

end Parameters

/-- Why data are not of the shape of a whole that goes by a name. -/
def misshapen? (whole : String) (shape : Shape) (v : Json.Value) : Option Failure :=
  (shape.mismatch? v).map fun m => .badParams (m.message whole)

/-- The changes of a text. -/
def changesOf (params : Json.Value) : List Json.Value :=
  match params.field? "contentChanges" with
  | some (.array changes) => changes
  | _ => []

/-- Why data are not the parameters of a method. -/
def Method.failure? (m : Method) (params : Json.Value) : Option Failure :=
  let named (name : String) (parts : List Part) := misshapen? name (record name parts) params
  match m with
  | connect => named "InitializeParams" Parameters.connect
  | connected => named "InitializedParams" []
  | shutdown => none
  | setTrace => named "SetTraceParams" [.must "value" (word "TraceValue")]
  | didOpen => named "DidOpenTextDocumentParams" Parameters.opened
  | didChange =>
      match misshapen? "" Parameters.changed params with
      | some failure => some failure
      | none =>
          (changesOf params).findSome?
            (misshapen? "TextDocumentContentChangeEvent" Parameters.change)
  | didClose => named "DidCloseTextDocumentParams" [Parameters.identifier]
  | hover => named "HoverParams" Parameters.place
  | completion => named "CompletionParams" Parameters.completion

/-! ### Requests -/

/-- The text that a path of names leads to. -/
def textAt (v : Json.Value) (path : List String) : String :=
  ((v.leaf? path).getD .null).text

/-- The number that a path of names leads to, nought if there is none. -/
def numberAt (v : Json.Value) (path : List String) : UInt32 :=
  match v.leaf? path with
  | some (.number text) => UInt32.ofNat (Decimal.natOf text.toList)
  | _ => 0

/-- A change of a text. -/
def Change.ofJson (v : Json.Value) : Change :=
  match v.field? "range" with
  | some (.object _) => .ranged (textAt v ["text"])
  | _ => .whole (textAt v ["text"])

/-- The request that a method makes with its parameters. -/
def Method.request (m : Method) (params : Json.Value) : Request :=
  let uri := textAt params ["textDocument", "uri"]
  let cursor : Position :=
    ⟨numberAt params ["position", "line"], numberAt params ["position", "character"]⟩
  match m with
  | connect => .connect
  | connected => .connected
  | shutdown => .shutdown
  | setTrace => .setTrace
  | didOpen => .didOpen uri (textAt params ["textDocument", "text"])
  | didChange => .didChange uri ((changesOf params).map Change.ofJson)
  | didClose => .didClose uri
  | hover => .hover uri cursor
  | completion => .completion uri cursor

/-- The request that is made by the name of a method and its parameters, of which
only `shutdown` needs none. -/
def Request.ofCall (name : String) (params? : Option Json.Value) : Except Failure Request :=
  match Method.ofName? name, params? with
  | none, _ => .ok (.unknown name)
  | some .shutdown, _ => .ok .shutdown
  | some _, none => .error .noParams
  | some m, some params =>
      let params := params.ordered
      match m.failure? params with
      | some failure => .error failure
      | none => .ok (m.request params)

/-- The reply to a call, and the server after it. A server that refuses a method
does so whatever its parameters are. -/
def Server.receive (s : Server) (name : String) (params? : Option Json.Value) : Reply × Server :=
  match Request.ofCall name params? with
  | .ok r => s.handle r
  | .error failure =>
      let answersAnyway := s.ready || Method.ofName? name == some .connect
      (Server.refused (if answersAnyway then failure else .notReady), s)

end ExprMachine.Editor
