import ExprMachine.Editor.Protocol
import ExprMachine.Json.Reader
import ExprMachine.Text.Blank

/-!
A server that is spoken to over a stream.

A message is sent as a head with its length, an empty line, and the message
itself. Every call that asks for a reply gets one, in turn; marks are published
along the way. The stream ends where it cannot be read any further, or with the
method `exit`.

* `Frame.split`, `Frame.wrap`: the messages of a stream, and a message as part
  of one.
* `Server.respond`: what the server sends for a call.
* `Server.converse`: what it sends for a stream.
-/

namespace ExprMachine.Editor

-- Powers are those of the core library, whatever else is imported.
attribute [local instance(high)] instPowNat

namespace Frame

/-- What is left of a stream after a part of it. -/
abbrev Remaining (bs : List UInt8) := { r : List UInt8 // r.length < bs.length }

/-- What a line of a head starts with when it gives the length. -/
def lengthMark : List Char := "Content-Length: ".toList

/-- The length that digits between blanks stand for, of 32 bits. -/
def length? (cs : List Char) : Option Nat :=
  let digits := Blank.trim cs
  if Number.isNatural 10 (2 ^ (32 : Nat)) digits then some (Decimal.natOf digits) else none

/-- The length after a line of a head, unless the line gives a malformed one. -/
def lengthAfter? (length : Nat) (line : List UInt8) : Option Nat :=
  let cs := Utf8.decode line
  if lengthMark.isPrefixOf cs then length? (cs.drop lengthMark.length) else some length

/-- The length that a head gives, and what comes after the head. -/
def head? (length : Nat) (bs : List UInt8) : Option (Nat × Remaining bs) :=
  let line := bs.takeWhile (· ≠ 13)
  match h : bs.drop line.length with
  | 13 :: 10 :: rest =>
      have hr : rest.length + 2 ≤ bs.length := by
        have := congrArg List.length h
        simp only [List.length_drop, List.length_cons] at this
        omega
      if line.isEmpty then some (length, ⟨rest, by omega⟩)
      else
        match lengthAfter? length line with
        | none => none
        | some length =>
            match head? length rest with
            | none => none
            | some (n, ⟨r, hr'⟩) => some (n, ⟨r, by omega⟩)
  | _ => none
termination_by bs.length

/-- The messages of a stream; the last one may be cut short by its end. -/
def split (bs : List UInt8) : List (List UInt8) :=
  match head? 0 bs with
  | none => []
  | some (n, ⟨rest, hr⟩) =>
      if n = 0 then []
      else
        have : (rest.drop n).length < bs.length := by
          simp only [List.length_drop]; omega
        rest.take n :: split (rest.drop n)
termination_by bs.length

/-- A message as part of a stream. -/
def wrap (v : Json.Value) : String :=
  let text := v.render
  s!"Content-Length: {text.utf8ByteSize}\r\n\r\n" ++ text

end Frame

/-- The version of the rules that messages keep to. -/
def version : String × Json.Value := ("jsonrpc", .string "2.0")

/-- Published marks as a message. -/
def Publication.toMessage (p : Publication) : Json.Value :=
  match p.toJson with
  | .object members => .object (version :: members)
  | v => v

/-- A failure as data. -/
def Failure.toJson (f : Failure) : Json.Value :=
  .object [("code", .number (toString f.code)), ("message", .string f.message)]

/-- A reply with the mark of its call. -/
def replyMessage (id : Json.Value) : Except Failure Answer → Json.Value
  | .ok a => .object [("id", id), ("result", a.toJson), version]
  | .error f => .object [("id", id), ("error", f.toJson), version]

namespace Server

/-- What the server sends for a call, what it logs, and the server after it. -/
def respond (s : Server) (id? : Option Json.Value) (method : String)
    (params? : Option Json.Value) : List Json.Value × List Log.Entry × Server :=
  let (reply, s) := s.receive method params?
  let published := reply.publication?.toList.map Publication.toMessage
  let replies := id?.toList.map (replyMessage · reply.answer)
  (published ++ replies, reply.log, s)

/-- The message at the head of a text. -/
def messageIn? (bytes : List UInt8) : Option Message :=
  (Json.value? (Utf8.decode bytes)).bind fun (v, _) => Message.ofJson? v

/-- What the server sends for the messages of a stream, and what it logs. -/
def respondAll (s : Server) : List (List UInt8) → List Json.Value × List Log.Entry
  | [] => ([], [])
  | bytes :: rest =>
      match messageIn? bytes with
      | none => ([], [])
      | some .reply => s.respondAll rest
      | some (.call id? method params?) =>
          if method = "exit" then ([], [])
          else
            let (sent, log, s) := s.respond id? method params?
            let (more, moreLog) := s.respondAll rest
            (sent ++ more, log ++ moreLog)

/-- What a new server sends for a stream, and what it logs. -/
def converse (input : List UInt8) : String × List Log.Entry :=
  let (sent, log) := new.respondAll (Frame.split input)
  (String.join (sent.map Frame.wrap), log)

end Server

end ExprMachine.Editor
