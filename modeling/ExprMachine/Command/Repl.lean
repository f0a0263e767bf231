import ExprMachine.Command.History
import ExprMachine.Session

/-!
A conversation: one expression for each line, until a line is empty or the input
ends.

* `Repl`: the session, the lines entered so far, and what has been shown.
* `Repl.enter`: what a line does.
* `Repl.run`: a conversation over all of the input.
-/

namespace ExprMachine.Command

/-- A conversation. -/
structure Repl where
  /-- The session that runs the expressions. -/
  session : Session
  /-- The lines entered so far. -/
  history : History
  /-- What has been printed. -/
  out : String
  /-- What has been printed about errors. -/
  err : String
  /-- What has been logged. -/
  log : List Log.Entry

namespace Repl

/-- What is printed before each line is read. -/
def prompt : String := "> "

/-- The conversation with more printed. -/
def print (r : Repl) (s : String) : Repl :=
  { r with out := r.out ++ s }

/-- Runs the expression of a line. -/
def enter (r : Repl) (now : Int) (line : List UInt8) : Repl :=
  let (result, shown, session) := r.session.interpret .none now ⟨line⟩
  let err :=
    match result with
    | .ok _ => ""
    | .error e => e.message ++ "\n"
  { session
    history := r.history.add line
    out := r.out ++ shown.text
    err := r.err ++ err
    log := r.log ++ shown.log }

/-- The conversation over lines, each read after a prompt. The end of the input
ends the line of the prompt. -/
def loop (r : Repl) (now : Int) : List (List UInt8) → Repl
  | [] => r.print (prompt ++ "\n")
  | line :: rest =>
      let r := r.print prompt
      if line.isEmpty then r else (r.enter now line).loop now rest

/-- A conversation over all of the input. -/
def run (session : Session) (history : History) (now : Int) (input : List UInt8) : Repl :=
  let start : Repl := ⟨session, history, "", "", []⟩
  (start.loop now ((pieces input).map Piece.text)).print "Result: nil\n"

end Repl

end ExprMachine.Command
