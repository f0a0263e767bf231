import ExprMachine.Number.Literal
import ExprMachine.Text.Quoted

/-!
The options of a command line.

Options stand before all else. An option is a name after one or two dashes; its
value follows after an equals sign or, unless the option is a switch, as the
next word. The first word that is no option ends the options, and so does `--`.

* `Flag`: the options that there are.
* `Options`: what they are set to.
* `Options.parse`: the options of a command line and the words after them.
* `usage`: what is said about them.
-/

namespace ExprMachine.Command

/-- What the options are set to. -/
structure Options where
  /-- Whether runs are traced. -/
  trace : Bool
  /-- Whether chunks are listed before they are run. -/
  disasm : Bool
  /-- How chunks are listed. -/
  format : String
  /-- Where a compiled chunk goes; empty if the source is to be run. -/
  output : String
  /-- Whether compiled chunks are kept. -/
  cache : Bool
  /-- Whether to serve an editor. -/
  lsp : Bool
  /-- How much is logged. -/
  verbosity : Int
  deriving DecidableEq, Repr

/-- What the options are set to unless they are given. -/
def Options.default : Options :=
  { trace := false, disasm := false, format := "text", output := "", cache := false,
    lsp := false, verbosity := 0 }

/-- The options that there are, by name. -/
inductive Flag where
  | cache
  | disasm
  | format
  | lsp
  | output
  | trace
  | verbosity
  deriving DecidableEq, Repr

namespace Flag

/-- All options. -/
def all : List Flag := [cache, disasm, format, lsp, output, trace, verbosity]

/-- The name of an option. -/
def name : Flag → String
  | cache => "cache"
  | disasm => "disasm"
  | format => "format"
  | lsp => "lsp"
  | output => "o"
  | trace => "trace"
  | verbosity => "v"

/-- The word for the values of an option, empty for a switch. -/
def valueWord : Flag → String
  | format | output => " string"
  | verbosity => " int"
  | _ => ""

/-- What an option is for. -/
def purpose : Flag → String
  | cache => "Cache compiled chunks (see [cache] in glox.toml)"
  | disasm => "Print the chunk listing before running"
  | format => "Listing format for -disasm: text or yaml (default \"text\")"
  | lsp => "Start the language server on stdio"
  | output => "Compile to a .gloxc file instead of running"
  | trace => "Print the stack and each instruction as it executes"
  | verbosity => "Log verbosity (0-3)"

/-- The option of a name. -/
def ofName? (name : String) : Option Flag :=
  all.find? fun f => f.name == name

/-- Whether an option takes no value of its own. -/
def isSwitch : Flag → Bool
  | cache | disasm | lsp | trace => true
  | _ => false

end Flag

/-- What is wrong with a command line. -/
inductive FlagFault where
  /-- A word starts with dashes but has no name after them. -/
  | badSyntax (word : String)
  /-- There is no such option. -/
  | unknown (name : String)
  /-- The value of an option is missing. -/
  | noValue (name : String)
  /-- The value of a switch is no truth value. -/
  | badSwitch (value name : String)
  /-- The value of an option is no integer. -/
  | badNumber (value name : String) (fault : Number.IntegerFault)
  deriving DecidableEq, Repr

/-- The wording of a fault. -/
def FlagFault.message : FlagFault → String
  | badSyntax word => "bad flag syntax: " ++ word
  | unknown name => "flag provided but not defined: -" ++ name
  | noValue name => "flag needs an argument: -" ++ name
  | badSwitch value name => s!"invalid boolean value {quoted value} for -{name}: parse error"
  | badNumber value name fault =>
      let reason :=
        match fault with
        | .malformed => "parse error"
        | .outOfRange => "value out of range"
      s!"invalid value {quoted value} for flag -{name}: {reason}"

/-- Why options are not read to their end. -/
inductive Stop where
  /-- Help is asked for. -/
  | help
  /-- Something is wrong. -/
  | fault (f : FlagFault)
  deriving DecidableEq, Repr

/-- What is said about the options. -/
def usage : String :=
  let line (f : Flag) : String := s!"  -{f.name}{f.valueWord}\n    \t{f.purpose}\n"
  "Usage: glox [options] [path]\n\n" ++
  "Runs a glox source file, or starts a REPL when no path is given.\n\n" ++
  "Options:\n" ++
  String.join (Flag.all.map line) ++
  "\nExamples:\n" ++
  "  glox                        # Start REPL (empty line exits)\n" ++
  "  glox expr.lox               # Run a file\n" ++
  "  glox -disasm -format yaml expr.lox\n" ++
  "  glox -o expr.gloxc expr.lox # Compile only\n" ++
  "  glox expr.gloxc             # Run a compiled chunk\n" ++
  "  glox -lsp                   # Language server\n"

/-! ### Words -/

/-- What a word of a command line is. -/
inductive Word where
  /-- No option. -/
  | plain
  /-- The end of the options. -/
  | finish
  /-- Dashes without a name. -/
  | bad
  /-- A name, and a value if there is an equals sign. -/
  | named (name : String) (value? : Option String)
  deriving DecidableEq, Repr

/-- A name with its value, if there is an equals sign after its first
character. -/
def Word.ofName : List Char → Word
  | [] => .bad
  | c :: cs =>
      if c = '-' ∨ c = '=' then .bad
      else
        let more := cs.takeWhile (· ≠ '=')
        let name := String.ofList (c :: more)
        match cs.drop more.length with
        | [] => .named name none
        | _ :: value => .named name (some (String.ofList value))

/-- What a word is. -/
def Word.of (word : String) : Word :=
  match word.toList with
  | ['-', '-'] => .finish
  | '-' :: '-' :: cs => .ofName cs
  | '-' :: c :: cs => .ofName (c :: cs)
  | _ => .plain

/-- The truth value that a word stands for. -/
def boolean? (word : String) : Option Bool :=
  if ["1", "t", "T", "TRUE", "true", "True"].contains word then some true
  else if ["0", "f", "F", "FALSE", "false", "False"].contains word then some false
  else none

/-! ### Options -/

namespace Options

/-- The options with a switch set. -/
def setSwitch (o : Options) (f : Flag) (b : Bool) : Options :=
  match f with
  | .cache => { o with cache := b }
  | .disasm => { o with disasm := b }
  | .lsp => { o with lsp := b }
  | .trace => { o with trace := b }
  | _ => o

/-- The options with one of them set to a value. -/
def give (o : Options) (f : Flag) (value : String) : Except FlagFault Options :=
  match f with
  | .format => .ok { o with format := value }
  | .output => .ok { o with output := value }
  | .verbosity =>
      match Number.integer? value.toList with
      | .ok n => .ok { o with verbosity := n }
      | .error fault => .error (.badNumber value f.name fault)
  | f =>
      match boolean? value with
      | some b => .ok (o.setSwitch f b)
      | none => .error (.badSwitch value f.name)

/-- The options of a command line, set one after the other, and the words after
them. -/
def parse (o : Options) : List String → Except Stop (Options × List String)
  | [] => .ok (o, [])
  | word :: rest =>
      match Word.of word with
      | .plain => .ok (o, word :: rest)
      | .finish => .ok (o, rest)
      | .bad => .error (.fault (.badSyntax word))
      | .named name value? =>
          match Flag.ofName? name with
          | none =>
              if name = "help" ∨ name = "h" then .error .help
              else .error (.fault (.unknown name))
          | some f =>
              match value?, rest with
              | some value, rest =>
                  match o.give f value with
                  | .ok o => o.parse rest
                  | .error fault => .error (.fault fault)
              | none, rest =>
                  if f.isSwitch then (o.setSwitch f true).parse rest
                  else
                    match rest with
                    | [] => .error (.fault (.noValue name))
                    | value :: rest =>
                        match o.give f value with
                        | .ok o => o.parse rest
                        | .error fault => .error (.fault fault)

end Options

end ExprMachine.Command
