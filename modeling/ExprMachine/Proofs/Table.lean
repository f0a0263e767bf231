import Mathlib.Tactic

/-!
Tables: lists of entries, each under a key.

Open texts, rows and files are kept in such lists. Looking up a key finds its first
entry.

* `Table.lookup_filter_ne`, `Table.lookup_put`: one key is left out, or gets a new
  entry.
* `Table.Keyed`: no key has two entries. Then looking up is membership
  (`Table.Keyed.lookup_eq_some_iff`).
-/

namespace ExprMachine.Table

variable {κ β : Type}

section Put

variable [DecidableEq κ] [BEq κ] [LawfulBEq κ]

/-- What is left out does not matter to other keys. -/
lemma lookup_filter_ne (entries : List (κ × β)) (key other : κ) :
    (entries.filter fun e => e.1 ≠ key).lookup other =
      if other = key then none else entries.lookup other := by
  induction entries with
  | nil => simp
  | cons e entries ih =>
      by_cases he : e.1 = key
      · rw [List.filter_cons_of_neg (by simpa using he), ih, List.lookup_cons, he]
        by_cases hother : other = key
        · simp [hother]
        · simp [hother, beq_eq_false_iff_ne.mpr hother]
      · rw [List.filter_cons_of_pos (by simpa using he), List.lookup_cons, List.lookup_cons, ih]
        by_cases hother : other = e.1
        · simp [hother, he]
        · simp [beq_eq_false_iff_ne.mpr hother]

/-- An entry takes the place of the one with its key. -/
lemma lookup_put (entries : List (κ × β)) (key other : κ) (value : β) :
    ((key, value) :: entries.filter fun e => e.1 ≠ key).lookup other =
      if other = key then some value else entries.lookup other := by
  rw [List.lookup_cons, lookup_filter_ne]
  by_cases h : other = key
  · simp [h]
  · simp [h, beq_eq_false_iff_ne.mpr h]

end Put

/-- No key has two entries. -/
def Keyed (entries : List (κ × β)) : Prop :=
  (entries.map Prod.fst).Nodup

namespace Keyed

variable {entries : List (κ × β)}

lemma filter (h : Keyed entries) (p : κ × β → Bool) : Keyed (entries.filter p) :=
  (List.filter_sublist.map Prod.fst).nodup h

lemma put [DecidableEq κ] (h : Keyed entries) (key : κ) (value : β) :
    Keyed ((key, value) :: entries.filter fun e => e.1 ≠ key) := by
  rw [Keyed, List.map_cons, List.nodup_cons]
  refine ⟨?_, h.filter _⟩
  simp

variable [BEq κ] [LawfulBEq κ]

/-- What is found under a key is its only entry. -/
lemma lookup_eq_some_iff (h : Keyed entries) {key : κ} {value : β} :
    entries.lookup key = some value ↔ (key, value) ∈ entries := by
  constructor
  · intro hlookup
    obtain ⟨front, back, rfl, -⟩ := List.lookup_eq_some_iff.mp hlookup
    simp
  · intro hmem
    obtain ⟨front, back, rfl⟩ := List.append_of_mem hmem
    refine List.lookup_eq_some_iff.mpr ⟨front, back, rfl, fun e he => ?_⟩
    rw [Keyed, List.map_append, List.nodup_append] at h
    have hne := h.2.2 e.1 (List.mem_map_of_mem he) key (by simp)
    exact bne_iff_ne.mpr hne.symm

end Keyed

end ExprMachine.Table
