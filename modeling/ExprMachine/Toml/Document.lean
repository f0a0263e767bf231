import ExprMachine.Toml.Basic

/-!
What a text's statements amount to: which keys stand for tables, lists of tables
or plain values, and which keys were mentioned in which order.

A table that is opened twice, or a key that is given two values, makes the whole
text bad, with two exceptions. A table that was only implied by a longer key may
be opened once. A longer key may lead through a key that stands for values in
brackets, and then a table takes their place; between braces it may not. In a
list of tables, a key leads into the last of them.

* `Member`: what a name between braces stands for.
* `Value.isCoherent`: whether no key between braces leads through a name that
  holds no names.
* `Entry`: what a key stands for.
* `Document`: the keys with what they stand for.
* `Document.put`: gives a key what it stands for.
* `Document.establish`: opens a table, or adds one to a list of tables.
* `Document.ofStatements?`: the document of a text.
-/

namespace ExprMachine.Toml

/-! ### Values between braces -/

/-- What a name between braces stands for. -/
inductive Member where
  /-- A value that holds no names. -/
  | leaf (v : Value)
  /-- Names, the newest first, and what they stand for. -/
  | table (names : List (String × Member))

/-- Gives a name below a path of names what it stands for, in place of what it
stood for. Names on the path that are new stand for tables; a name that holds no
names cannot be led through. -/
def Member.put (name : String) (new : Member) : Member → List String → Option Member
  | .leaf _, _ => none
  | .table names, [] => some (.table (fresh names name new))
  | .table names, step :: path => do
      let below ← put name new ((names.lookup step).getD (.table [])) path
      return .table (fresh names step below)
where
  /-- Names with what one of them newly stands for. -/
  fresh (names : List (String × Member)) (name : String) (m : Member) :=
    (name, m) :: names.filter fun n => n.1 ≠ name

mutual

/-- What a value between braces amounts to, unless a key in it leads through a
name that holds no names. -/
def Value.member? : Value → Option Member
  | .array items => (membersOk items).map fun _ => .leaf (.array items)
  | .table entries => gather? (.table []) entries
  | v => some (.leaf v)

/-- Whether all of some values amount to something. -/
def membersOk : List Value → Option Unit
  | [] => some ()
  | v :: vs => v.member?.bind fun _ => membersOk vs

/-- What names amount to with more keys and values. -/
def gather? (m : Member) : List (Key × Value) → Option Member
  | [] => some m
  | (key, v) :: rest => do
      let new ← v.member?
      let m ← Member.put (key.getLast?.getD "") new m key.dropLast
      gather? m rest

end

/-- Whether no key between the braces of a value leads through a name that holds
no names. -/
def Value.isCoherent (v : Value) : Bool :=
  v.member?.isSome

/-! ### Keys and what they stand for -/

/-- What a key stands for. -/
inductive Entry where
  /-- A value that holds no keys. -/
  | leaf (v : Value)
  /-- A table. -/
  | table
  /-- A list of tables, at least one. -/
  | tables

mutual

/-- A key with what it stands for, and all keys below it. -/
def Member.entries (key : Key) : Member → List (Key × Entry)
  | .leaf v => [(key, .leaf v)]
  | .table names => (key, .table) :: entriesBelow key names

/-- The keys of names in a table, and all keys below them. -/
def entriesBelow (key : Key) : List (String × Member) → List (Key × Entry)
  | [] => []
  | (name, m) :: rest => m.entries (key ++ [name]) ++ entriesBelow key rest

end

/-- Whether a value holds keys. -/
def Value.isTable : Value → Bool
  | .table _ => true
  | _ => false

/-- Whether a value is written in brackets. -/
def Value.isArray : Value → Bool
  | .array _ => true
  | _ => false

/-- The keys of a text and what they stand for. -/
structure Document where
  /-- What the keys stand for, the newest first. A key that leads through a list
  of tables is one of the last table. -/
  entries : List (Key × Entry)
  /-- The tables that are only implied so far. -/
  implied : List Key
  /-- The keys that were last given values in brackets. -/
  arrays : List Key
  /-- The keys in the order in which they were mentioned, the newest first. -/
  mentions : List Key

namespace Document

/-- The document of an empty text. -/
def empty : Document := ⟨[], [], [], []⟩

/-- What a key stands for. -/
def entry? (d : Document) (key : Key) : Option Entry :=
  d.entries.lookup key

/-- Gives a key what it stands for and removes what was below it. -/
def set (d : Document) (key : Key) (e : Entry) : Document :=
  { d with entries := (key, e) :: d.entries.filter fun (k, _) => !key.isPrefixOf k }

/-- Gives a key what it stands for between braces, in place of what it and the
keys below it stood for. -/
def restore (d : Document) (key : Key) (m : Member) : Document :=
  { d with entries := m.entries key ++ d.entries.filter fun (k, _) => !key.isPrefixOf k }

/-- Marks a table as implied. -/
def imply (d : Document) (key : Key) : Document :=
  { d with implied := key :: d.implied }

/-- Takes the mark off a table. -/
def define (d : Document) (key : Key) : Document :=
  { d with implied := d.implied.filter (· ≠ key) }

/-- Notes that a key was mentioned. -/
def mention (d : Document) (key : Key) : Document :=
  { d with mentions := key :: d.mentions }

/-- Notes whether a key was given values in brackets. -/
def setArray (d : Document) (key : Key) (isArray : Bool) : Document :=
  let others := d.arrays.filter (· ≠ key)
  { d with arrays := if isArray then key :: others else others }

/-- The key under which it is noted whether a name in a table stands for values
in brackets. An empty name shares the note of its table, if it is in one. -/
def noteKey (context : Key) (name : String) : Key :=
  if name.isEmpty ∧ !context.isEmpty then context else context ++ [name]

/-- The keys of the tables that a key leads through, the outermost first. -/
def parents (key : Key) : List Key :=
  (List.range (key.length - 1)).map fun n => key.take (n + 1)

/-- Whether all tables that a key leads through are there. -/
def hasParents (d : Document) (key : Key) : Bool :=
  (parents key).all fun p =>
    match d.entry? p with
    | some .table | some .tables => true
    | _ => false

/-- Gives a key what it stands for. A key that is there already must be implied:
values in brackets are then replaced, and a table stays as it is. -/
def put (d : Document) (key : Key) (e : Entry) : Option Document :=
  if !d.hasParents key then none
  else if (d.entry? key).isNone then some (d.set key e)
  else if !d.implied.contains key then none
  else if d.arrays.contains key then some ((d.define key).set key e)
  else some (d.define key)

/-- Opens a table that a longer key leads through. -/
def pass (d : Document) (key : Key) : Option Document :=
  match d.entry? key with
  | none => some ((d.imply key).set key .table)
  | some (.leaf _) => none
  | some _ => some d

/-- Opens the table of a key, or, for an `element`, adds a table to the list of
tables that the key stands for. -/
def establish (d : Document) (key : Key) (element : Bool) : Option Document := do
  let d ← (parents key).foldlM pass d
  if element then
    match d.entry? key with
    | none | some .tables => return d.set key .tables
    | some _ => none
  else d.put key .table

/-- Opens the tables that a dotted key leads through below a table. -/
def descend (d : Document) (context : Key) : List String → Option (Document × Key)
  | [] => some (d, context)
  | name :: names => do
      let key := context ++ [name]
      let d ← (d.imply key).establish key false
      d.descend key names

/-- Gives a name in a table its value, once what the value holds has been
entered. A value in braces is there already; if the name is noted for values in
brackets, it is put there anew, and its lists of tables become plain values. -/
def settle (d : Document) (context : Key) (name : String) (v : Value) : Option Document := do
  let key := context ++ [name]
  let d ←
    if v.isTable then
      if !d.implied.contains key then none
      else if d.arrays.contains key then v.member?.map ((d.define key).restore key)
      else some (d.define key)
    else d.put key (.leaf v)
  return d.setArray (noteKey context name) v.isArray

mutual

/-- Enters what a value holds, for a name in a table. -/
def enter (d : Document) (context : Key) (name : String) (inArray : Bool) :
    Value → Option Document
  | .array items => enterItems (d.setArray (noteKey context name) true) context name items
  | .table entries => do
      let key := context ++ [name]
      let d ← (d.imply key).establish key inArray
      enterEntries d key entries
  | _ => some d

/-- Enters what values in brackets hold. -/
def enterItems (d : Document) (context : Key) (name : String) : List Value → Option Document
  | [] => some d
  | v :: vs => do
      let d ← enter d context name true v
      enterItems d context name vs

/-- Enters keys and values below a table. -/
def enterEntries (d : Document) (table : Key) : List (Key × Value) → Option Document
  | [] => some d
  | (key, v) :: rest => do
      let (d, context) ← d.descend table key.dropLast
      let name := key.getLast?.getD ""
      let d ← enter (d.mention (context ++ [name])) context name false v
      let d ← d.settle context name v
      enterEntries d table rest

end

/-- The document after a statement, and the table that the next one belongs
to. -/
def advance? (state : Document × Key) (s : Statement) : Option (Document × Key) :=
  let (d, context) := state
  let opened (key : Key) (element : Bool) : Option (Document × Key) := do
    let d ← d.establish key element
    return ((d.setArray key false).mention key, key)
  match s with
  | .table key => opened key false
  | .element key => opened key true
  | .assign key v =>
      if v.isCoherent then (d.enterEntries context [(key, v)]).map (·, context) else none

/-- The document of a text, unless its statements contradict each other. -/
def ofStatements? (statements : List Statement) : Option Document :=
  (statements.foldlM advance? (empty, [])).map (·.1)

end Document

end ExprMachine.Toml
