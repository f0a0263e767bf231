import ExprMachine.Log
import ExprMachine.Store.Address
import ExprMachine.Wire.Codec

/-!
A store of compiled chunks, keyed by the digest of their source.

The store is a table with one row for each digest. A row that was written by
another version, that cannot be read, or that was made from another source is
passed over with a note in the log, as if it were not there.

* `Store.lookup`: the chunk of a source.
* `Store.save`: puts a chunk in, in place of the row of the same source.
* `Store.count`, `Store.purge`: how many rows there are; removing old ones.
* `Store.close`, `Store.reopen`: a closed store refuses everything; what was in
  a store with a file is there again when it is reopened.
-/

namespace ExprMachine

/-- A row of the store. -/
structure Row where
  /-- The version that wrote it. -/
  version : Int
  /-- The portable chunk, as bytes. -/
  data : List UInt8
  /-- When it was written, in seconds. -/
  created : Int
  deriving DecidableEq, Repr

/-- A store of compiled chunks. -/
structure Store where
  /-- The text that says where it is kept. -/
  path : String
  /-- Where it is kept. -/
  place : Store.Place
  /-- The rows by digest, in hexadecimal digits; a digest has at most one. -/
  rows : List (String × Row)
  /-- Whether it has been closed. -/
  closed : Bool
  deriving DecidableEq, Repr

namespace Store

/-- The part of the program that the store's log lines come from. -/
def logger : String := "glox.cache"

/-- What was asked of a closed store. -/
inductive Refusal where
  | lookup
  | save
  | count
  | purge
  deriving DecidableEq, Repr

/-- The wording of a refusal. -/
def Refusal.message (r : Refusal) : String :=
  let action :=
    match r with
    | lookup => "querying chunk"
    | save => "saving chunk"
    | count => "counting chunks"
    | purge => "purging chunks"
  action ++ ": sql: database is closed"

/-- The key of a source. -/
def keyOf (s : Source) : String :=
  (Wire.digestOf s).hex

/-- A log line of the store. -/
def entry (level : Log.Level) (message : String) : Log.Entry :=
  ⟨level, logger, message⟩

/-- A store that has just been opened with the rows that its file holds, and the
log line for it. -/
def opened (path : String) (place : Place) (rows : List (String × Row)) :
    Store × List Log.Entry :=
  (⟨path, place, rows, false⟩, [entry .debug ("opened cache " ++ path)])

/-- The row of a key. -/
def row? (st : Store) (key : String) : Option Row :=
  st.rows.lookup key

/-- Writes a row in place of the one with the same key. -/
def insert (st : Store) (key : String) (row : Row) : Store :=
  { st with rows := (key, row) :: st.rows.filter fun r => r.1 ≠ key }

/-- What became of a row that was looked up. -/
inductive Finding where
  /-- There is none. -/
  | miss
  /-- Another version wrote it. -/
  | stale (version : Int)
  /-- Its bytes are no portable chunk. -/
  | corrupt (e : Wire.Error)
  /-- It was made from another source, or from none. -/
  | foreign (e : Wire.Error)
  /-- Its parts make no chunk. -/
  | invalid (e : Wire.Error)
  /-- It holds this chunk. -/
  | hit (c : Chunk)
  deriving DecidableEq

/-- What a row, if there is one, holds for a source. -/
def examine (s : Source) : Option Row → Finding
  | none => .miss
  | some row =>
      if row.version ≠ Wire.currentVersion.toNat then .stale row.version
      else
        match Wire.decode row.data with
        | .error e => .corrupt e
        | .ok w =>
            match w.verify s with
            | .error e => .foreign e
            | .ok () =>
                match w.toChunk with
                | .error e => .invalid e
                | .ok c => .hit c

/-- The chunk of a finding. -/
def Finding.chunk? : Finding → Option Chunk
  | .hit c => some c
  | _ => none

/-- The log line of a finding, with the first digits of the key. -/
def Finding.log (key : String) (f : Finding) : Log.Entry :=
  let short := String.ofList (key.toList.take 12)
  match f with
  | .miss => entry .debug s!"miss {short}"
  | .stale version => entry .debug s!"stale {short}: version {version}"
  | .corrupt e => entry .warning s!"discarding corrupt entry {short}: {e.message}"
  | .foreign e => entry .warning s!"discarding entry {short}: {e.message}"
  | .invalid e => entry .warning s!"discarding invalid entry {short}: {e.message}"
  | .hit _ => entry .debug s!"hit {short}"

/-- The chunk of a source, if the store has it, with the log lines. -/
def lookup (st : Store) (s : Source) : Except Refusal (Option Chunk × List Log.Entry) :=
  if st.closed then .error .lookup
  else
    let key := keyOf s
    let found := examine s (st.row? key)
    .ok (found.chunk?, [found.log key])

/-- Puts in the chunk of a source. -/
def save (st : Store) (s : Source) (c : Chunk) (now : Int) : Except Refusal Store :=
  if st.closed then .error .save
  else .ok (st.insert (keyOf s) ⟨Wire.currentVersion.toNat, c.encode s, now⟩)

/-- The number of rows. -/
def count (st : Store) : Except Refusal Nat :=
  if st.closed then .error .count else .ok st.rows.length

/-- Removes the rows written before a time; gives their number, with the log
lines. -/
def purge (st : Store) (before : Int) : Except Refusal (Nat × List Log.Entry × Store) :=
  if st.closed then .error .purge
  else
    let kept := st.rows.filter fun r => before ≤ r.2.created
    let n := st.rows.length - kept.length
    let log := if 0 < n then [entry .info s!"purged {n} entries"] else []
    .ok (n, log, { st with rows := kept })

/-- Closes the store; closing it again changes nothing. -/
def close (st : Store) : Store :=
  { st with closed := true }

/-- Closes the store and opens it at the same place. What a file holds is left to the
database that keeps it: the rows are taken over as they were when the store was closed, so that
a database gives back what was written to its file is assumed here. A store in memory has no
file, and nothing is taken over from it. -/
def reopen (st : Store) : Store × List Log.Entry :=
  opened st.path st.place (if st.place = .memory then [] else st.rows)

end Store

end ExprMachine
