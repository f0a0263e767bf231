import ExprMachine.Calendar
import ExprMachine.Cbor.Item
import ExprMachine.Cbor.Reader
import ExprMachine.Chunk.Basic
import ExprMachine.Chunk.Compile
import ExprMachine.Chunk.Instruction
import ExprMachine.Command.Flags
import ExprMachine.Command.History
import ExprMachine.Command.Repl
import ExprMachine.Command.Run
import ExprMachine.Diagnostic
import ExprMachine.Digest
import ExprMachine.Editor.ClientCapabilities
import ExprMachine.Editor.Completion
import ExprMachine.Editor.Connection
import ExprMachine.Editor.Diagnose
import ExprMachine.Editor.Hover
import ExprMachine.Editor.Parameters
import ExprMachine.Editor.Part
import ExprMachine.Editor.Protocol
import ExprMachine.Editor.Server
import ExprMachine.Expr.Basic
import ExprMachine.Expr.Parser
import ExprMachine.Files.Path
import ExprMachine.Files.Tree
import ExprMachine.Json.Basic
import ExprMachine.Json.Reader
import ExprMachine.Json.Shape
import ExprMachine.Log
import ExprMachine.Machine.Error
import ExprMachine.Machine.Run
import ExprMachine.Main
import ExprMachine.Manifest
import ExprMachine.Number.Decimal
import ExprMachine.Number.Format
import ExprMachine.Number.Literal
import ExprMachine.Opcode
import ExprMachine.Operator
import ExprMachine.Proofs.Cbor.RoundTrip
import ExprMachine.Proofs.Chunk.Simulation
import ExprMachine.Proofs.Expr.Climbing
import ExprMachine.Proofs.Expr.Grammar
import ExprMachine.Proofs.Expr.Language
import ExprMachine.Proofs.Machine.Steps
import ExprMachine.Proofs.Number.Bits
import ExprMachine.Proofs.Number.Format
import ExprMachine.Proofs.Number.Range
import ExprMachine.Proofs.Session.Transparency
import ExprMachine.Proofs.Store.Lookup
import ExprMachine.Proofs.Token.Stream
import ExprMachine.Proofs.Wire.Compiled
import ExprMachine.Proofs.Wire.RoundTrip
import ExprMachine.Session
import ExprMachine.Store
import ExprMachine.Store.Address
import ExprMachine.Store.File
import ExprMachine.Store.Pragma
import ExprMachine.Text.Blank
import ExprMachine.Text.Caseless
import ExprMachine.Text.Layout
import ExprMachine.Text.Lines
import ExprMachine.Text.Printable
import ExprMachine.Text.Query
import ExprMachine.Text.Quoted
import ExprMachine.Text.Utf8
import ExprMachine.Text.Word
import ExprMachine.Token.At
import ExprMachine.Token.Basic
import ExprMachine.Token.Scanner
import ExprMachine.Toml.Basic
import ExprMachine.Toml.Document
import ExprMachine.Toml.Literal
import ExprMachine.Toml.Reader
import ExprMachine.Toml.Text
import ExprMachine.Value
import ExprMachine.Wire.Basic
import ExprMachine.Wire.Codec
import ExprMachine.Yaml.Listing
import ExprMachine.Yaml.Scalar
import ExprMachine.Yaml.Timestamp
import ExprMachine.Proofs.Expr.Recovery
import ExprMachine.Proofs.Machine.StaticWalk
import ExprMachine.Proofs.Token.LongestMatch
import ExprMachine.Proofs.Token.Tiling
import ExprMachine.Proofs.Machine.FailureLine
import ExprMachine.Proofs.Machine.Observation
import ExprMachine.Proofs.Machine.Loop
import ExprMachine.Proofs.Chunk.Building
import ExprMachine.Proofs.Chunk.Listing
import ExprMachine.Proofs.Chunk.Decode
import ExprMachine.Proofs.Chunk.Partition
import ExprMachine.Proofs.Files.WriteRead
import ExprMachine.Proofs.Command.Output
import ExprMachine.Proofs.Command.CompileRun
import ExprMachine.Proofs.History
import ExprMachine.Proofs.Table
import ExprMachine.Proofs.Editor.Coherence
import ExprMachine.Proofs.Wire.Accepted
import ExprMachine.Proofs.Command.AnyBytes
import ExprMachine.Proofs.Session.Healing
import ExprMachine.Proofs.Store.Calls
import ExprMachine.Proofs.Expr.Alike
import ExprMachine.Proofs.Chunk.Code
import ExprMachine.Proofs.Chunk.Placement
import ExprMachine.Proofs.Text.Utf8
import ExprMachine.Proofs.Token.Newline
import ExprMachine.Proofs.Token.Contents
import ExprMachine.Proofs.Chunk.Composition
import ExprMachine.Proofs.Number.Text
import ExprMachine.Proofs.Chunk.ReadBack
import ExprMachine.Proofs.Text.Lines
import ExprMachine.Proofs.Token.Lines
import ExprMachine.Proofs.Token.Calls
import ExprMachine.Proofs.Expr.Blame
import ExprMachine.Proofs.Expr.Findings
import ExprMachine.Proofs.Expr.FirstFault
import ExprMachine.Proofs.Editor.Marks
import ExprMachine.Proofs.Token.At
import ExprMachine.Proofs.Editor.Hover
import ExprMachine.Proofs.Wire.Refused
import ExprMachine.Proofs.Wire.Canonical
import ExprMachine.Proofs.Text.Positions
import ExprMachine.Proofs.Editor.Completion
import ExprMachine.Proofs.Files.Path
import ExprMachine.Proofs.Files.Lookup
import ExprMachine.Proofs.Manifest.Nearest
import ExprMachine.Proofs.Command.Precedence
import ExprMachine.Proofs.Expr.Stepwise
import ExprMachine.Proofs.Expr.Headway
import ExprMachine.Proofs.Expr.Termination
