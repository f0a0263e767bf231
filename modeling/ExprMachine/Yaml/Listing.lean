import ExprMachine.Chunk.Instruction
import ExprMachine.Yaml.Scalar

/-!
A chunk as a YAML document: its name, its constants and its instructions.

An instruction has its fields in a fixed order; those that say nothing (no
shared line, no operand, no constant, no problem) are left out.
-/

namespace ExprMachine.Yaml

/-- A key with its value. -/
abbrev Field := String × String

/-- The fields of an instruction. -/
def fieldsOf (i : Instruction) : List Field :=
  let text (key value : String) : List Field :=
    if value.isEmpty then [] else [(key, scalar value)]
  [("offset", toString i.offset), ("line", toString i.line.toInt)]
    ++ (if i.sameLine then [("same_line", "true")] else [])
    ++ [("op", scalar i.name)]
    ++ (match i.operand? with
        | some index => [("operand", toString index.toNat)]
        | none => [])
    ++ text "constant" i.constantText
    ++ text "problem" i.problemText
    ++ [("size", toString i.size)]

/-- A list of blocks of lines under a key, each block with a dash before it. -/
def sequence (key : String) (blocks : List (List String)) : String :=
  if blocks.isEmpty then key ++ ": []\n"
  else
    let written (lines : List String) : String :=
      match lines with
      | [] => ""
      | first :: more =>
          "  - " ++ first ++ "\n" ++ String.join (more.map fun l => "    " ++ l ++ "\n")
    key ++ ":\n" ++ String.join (blocks.map written)

/-- A chunk under a name. -/
def listing (name : String) (c : Chunk) : String :=
  let instruction (i : Instruction) : List String :=
    (fieldsOf i).map fun (key, value) => key ++ ": " ++ value
  line "name" (scalar name)
    ++ sequence "constants" (c.constants.toList.map fun v => [scalar v.text])
    ++ sequence "instructions" (c.listing.map instruction)

end ExprMachine.Yaml
