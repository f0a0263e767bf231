import ExprMachine.Editor.Parameters

/-!
Messages as structured data.

* `Answer.toJson`, `Publication.toJson`: what the server sends.
* `Message`: what an editor sends: the call of a method, or a reply.
* `Message.ofJson?`: the message that data make.
-/

namespace ExprMachine

-- Powers are those of the core library, whatever else is imported.
attribute [local instance(high)] instPowNat

/-- A position as data. -/
def Position.toJson (p : Position) : Json.Value :=
  .object [("line", Json.natural p.line.toNat), ("character", Json.natural p.character.toNat)]

/-- A stretch of a text as data. -/
def Range.toJson (r : Range) : Json.Value :=
  .object [("start", r.start.toJson), ("end", r.stop.toJson)]

namespace Editor

open Json (Shape)

/-! ### What the server sends -/

/-- A mark as data. -/
def Mark.toJson (m : Mark) : Json.Value :=
  .object [("range", m.range.toJson), ("severity", Json.natural m.severity.number),
    ("source", .string serverName), ("message", .string m.message)]

/-- A note as data. -/
def Hover.toJson (h : Hover) : Json.Value :=
  .object [("contents", .object [("kind", .string "markdown"), ("value", .string h.contents)]),
    ("range", h.range.toJson)]

/-- A word on offer as data. -/
def Completion.toJson (c : Completion) : Json.Value :=
  .object [("label", .string c.word.word), ("kind", Json.natural c.kindNumber),
    ("detail", .string c.detail), ("insertText", .string c.word.word)]

/-- What the server can do, as data. -/
def capabilities : Json.Value :=
  .object [
    ("capabilities", .object [
      ("textDocumentSync", .object [("openClose", .boolean true), ("change", Json.natural 1)]),
      ("completionProvider", .object []),
      ("hoverProvider", .boolean true)]),
    ("serverInfo", .object [
      ("name", .string serverName), ("version", .string Server.version)])]

/-- An answer as data. -/
def Answer.toJson : Answer → Json.Value
  | .none => .null
  | .capabilities => Editor.capabilities
  | .hover h => h.toJson
  | .completions cs => .array (cs.map Completion.toJson)

/-- Published marks as data. -/
def Publication.toJson (p : Publication) : Json.Value :=
  .object [("method", .string "textDocument/publishDiagnostics"),
    ("params", .object [
      ("uri", .string p.uri), ("diagnostics", .array (p.marks.map Mark.toJson))])]

/-! ### What an editor sends -/

/-- What an editor sends. -/
inductive Message where
  /-- A call of a method with what it is to be done with, and the mark to put on
  the reply if one is wanted. -/
  | call (id? : Option Json.Value) (method : String) (params? : Option Json.Value)
  /-- A reply to something that the server has not asked. -/
  | reply

namespace Message

/-- What calls and replies have in common. -/
def common : Shape :=
  .record "message" [
    ("id", .any), ("method", plainText), ("result", .any), ("error", .any)]

/-- What a reply is. -/
def replyShape : Shape :=
  .record "reply" [
    ("id", .label 0 (2 ^ (64 : Nat) - 1)),
    ("result", .raw),
    ("error", .record "error" [
      ("code", .whole "int64" (-(2 ^ (63 : Nat))) (2 ^ (63 : Nat) - 1)),
      ("message", plainText), ("data", .raw)]),
    ("meta", .raw)]

/-- The mark to put on a reply, if a reply is wanted: a text, or an integer of
64 bits, which comes back without its sign. -/
def id? (v : Json.Value) : Option (Option Json.Value) :=
  match v.member? "id" with
  | none | some .null => some none
  | some (.string s) => some (some (.string s))
  | some (.number text) =>
      if Json.isWholeBetween (-(2 ^ (63 : Nat))) (2 ^ (63 : Nat) - 1) text then
        let n := (Int64.ofInt (text.toInt?.getD 0)).toUInt64.toNat
        some (some (Json.natural n))
      else none
  | some _ => none

/-- Whether data hold something under a name. -/
def gives (v : Json.Value) (name : String) : Bool :=
  match v.field? name with
  | none | some .null => false
  | some _ => true

/-- The call that data make. -/
def call? (v : Json.Value) : Option Message :=
  match v.member? "method", id? v with
  | some (.string method), some id => some (.call id method (v.member? "params"))
  | _, _ => none

/-- The message that data make, if they make one: calls have a method, replies a
result or an error, and nothing has both. -/
def ofJson? (v : Json.Value) : Option Message :=
  let calls := gives v "method"
  let replies := (v.field? "result").isSome || gives v "error"
  if (common.mismatch? v).isSome || calls == replies then none
  else if calls then call? v
  else if (replyShape.mismatch? v).isSome then none
  else some .reply

end Message

end Editor

end ExprMachine
