/-!
Paths: names with slashes between them.

* `isAbsolute`: whether a path starts at the root.
* `parts`: what stands between the slashes.
* `names`, `clean`: the names that lead to the same place, and the shortest path there, as
  far as names alone tell.
* `join`, `parent`: a path below another, and the path above one; both clean.
* `absolute`: the path from the root to the same place.
-/

namespace ExprMachine.Path

/-- Whether a path starts at the root. -/
def isAbsolute (p : String) : Bool :=
  p.toList.head? == some '/'

/-- What stands between the slashes of a path. -/
def parts (p : String) : List String :=
  (p.toList.splitOn '/').map String.ofList

/-- The names of a path, the last first, with one part more: `.` and an empty
part change nothing, `..` takes back a name, and at the root there is none to
take back. -/
def addPart (absolute : Bool) (names : List String) (part : String) : List String :=
  if part = "" ∨ part = "." then names
  else if part = ".." then
    match names with
    | [] => if absolute then [] else [".."]
    | last :: before => if last = ".." then ".." :: names else before
  else part :: names

/-- A path from its names. -/
def ofNames (absolute : Bool) (names : List String) : String :=
  if absolute then "/" ++ "/".intercalate names
  else if names.isEmpty then "."
  else "/".intercalate names

/-- The names that lead to the same place. -/
def names (p : String) : List String :=
  ((parts p).foldl (addPart (isAbsolute p)) []).reverse

/-- The shortest path to the same place. -/
def clean (p : String) : String :=
  ofNames (isAbsolute p) (names p)

/-- A path below another. -/
def join (p q : String) : String :=
  if p.isEmpty then (if q.isEmpty then "" else clean q)
  else if q.isEmpty then clean p
  else clean (p ++ "/" ++ q)

/-- The path above a path: all of it up to its last slash. -/
def parent (p : String) : String :=
  let above := (parts p).dropLast
  clean ("/".intercalate above ++ if above.isEmpty then "" else "/")

/-- The path from the root to the same place, for one who stands in a directory. -/
def absolute (cwd p : String) : String :=
  if isAbsolute p then clean p else join cwd p

end ExprMachine.Path
