import ExprMachine.Files.Tree
import ExprMachine.Proofs.Table
import Mathlib.Tactic
import Mathlib.Data.List.Basic

/-!
What was written to a file is read back.

* `FileTree.node?_set`: what is at a place after something was put at another.
* `FileTree.Keeps`: all directories of a tree are directories of another one. A path
  that leads somewhere in the first leads to the same place in the second
  (`Keeps.foldlM_step`).
* `FileTree.target_eq_ok`: where a file is written: under its own name, in a
  directory that is there, and not in the place of a directory.
* `FileTree.read_write`: a file that has been written is read at the same path.
* `FileTree.node?_write`: nothing has changed under another name.
* `Path.suffix_name`: the name of a file ends as the path does.
-/

namespace ExprMachine

/-! ### Names -/

namespace Path

/-- The part of a path behind its last slash. -/
def name (path : String) : String :=
  (parts path).getLast?.getD ""

lemma parts_ne_nil (path : String) : parts path ≠ [] := by
  simp [parts, List.splitOn_ne_nil]

/-- A path is its name behind the parts that lead to it. -/
lemma dropLast_append_name (path : String) : (parts path).dropLast ++ [name path] = parts path := by
  rw [name, List.getLast?_eq_some_getLast (parts_ne_nil path), Option.getD_some,
    List.dropLast_append_getLast]

/-- An ending without a separator is an ending of what stands behind the last
separator. -/
lemma exists_getLast?_splitOn {sep : Char} {ending : List Char} (hsep : sep ∉ ending)
    (before : List Char) :
    ∃ last, ((before ++ ending).splitOn sep).getLast? = some last ∧ ending <:+ last := by
  induction before with
  | nil => exact ⟨ending, by simp [List.splitOn_eq_singleton hsep], List.suffix_refl _⟩
  | cons c before ih =>
      obtain ⟨last, hlast, hsuffix⟩ := ih
      rw [List.cons_append, List.splitOn_cons_eq_if_modifyHead]
      split_ifs with hc
      · exact ⟨last, by rw [List.getLast?_cons, hlast]; rfl, hsuffix⟩
      · -- the last part grows only if it is also the first
        match hsplit : (before ++ ending).splitOn sep with
        | [] => exact absurd hsplit (List.splitOn_ne_nil _ _)
        | [part] =>
            rw [hsplit] at hlast
            obtain rfl : part = last := by simpa using hlast
            exact ⟨c :: part, rfl, hsuffix.trans (List.suffix_cons c part)⟩
        | part :: next :: more =>
            rw [hsplit] at hlast
            exact ⟨last, by simpa using hlast, hsuffix⟩

/-- The name of a file ends as its path does, as long as the ending has no slash. -/
lemma suffix_name {path : String} {ending : List Char} (hslash : '/' ∉ ending)
    (h : ending <:+ path.toList) : ending <:+ (name path).toList := by
  obtain ⟨before, hpath⟩ := h
  obtain ⟨last, hlast, hsuffix⟩ := exists_getLast?_splitOn hslash before
  rw [hpath] at hlast
  simpa [name, parts, List.getLast?_map, hlast] using hsuffix

end Path

namespace FileTree

variable {t u : FileTree} {cwd k l : Location} {path : String}

/-! ### Places -/

/-- What is at a place after something was put at another. -/
lemma node?_set (n : Node) (hl : l ≠ []) :
    (t.set l n).node? k = if k = l then some n else t.node? k := by
  by_cases hk : k = l
  · subst hk
    simp [node?, set, hl]
  · rw [if_neg hk]
    by_cases hroot : k = []
    · simp [node?, hroot]
    · have hput := Table.lookup_put t.nodes l k n
      rw [if_neg hk] at hput
      simp only [node?, List.isEmpty_iff, hroot, if_false, set, hput]

/-- All directories of `t` are directories of `u`. -/
def Keeps (t u : FileTree) : Prop :=
  ∀ k, t.node? k = some .directory → u.node? k = some .directory

/-- A file that takes no directory's place leaves all directories. -/
lemma keeps_set {content : List UInt8} (hl : l ≠ []) (hnode : t.node? l ≠ some .directory) :
    t.Keeps (t.set l (.file content)) := by
  intro k hk
  have hne : k ≠ l := by
    rintro rfl
    exact hnode hk
  rw [node?_set _ hl, if_neg hne]
  exact hk

/-! ### Steps of a path -/

/-- A step leads on from a directory only. -/
lemma node?_of_step {part : String} (h : t.step k part = .ok l) :
    t.node? k = some .directory := by
  unfold step at h
  split at h
  · cases h
  · cases h
  · cases h
  · assumption

lemma step_of_directory (h : t.node? k = some .directory) (part : String) :
    t.step k part =
      if part = "" ∨ part = "." then .ok k
      else if part = ".." then .ok k.dropLast
      else if longestName < part.utf8ByteSize then .error .nameTooLong
      else .ok (k ++ [part]) := by
  simp only [step, h]

lemma Keeps.step (h : t.Keeps u) {part : String} (hstep : t.step k part = .ok l) :
    u.step k part = .ok l := by
  have hk := node?_of_step hstep
  rw [step_of_directory hk] at hstep
  rw [step_of_directory (h k hk), hstep]

/-- Parts of a path that lead somewhere lead there wherever the directories are
kept. -/
lemma Keeps.foldlM_step (h : t.Keeps u) {parts : List String}
    (hparts : parts.foldlM t.step k = .ok l) : parts.foldlM u.step k = .ok l := by
  induction parts generalizing k with
  | nil => exact hparts
  | cons part parts ih =>
      rw [List.foldlM_cons] at hparts ⊢
      cases hstep : t.step k part with
      | error fault =>
          rw [hstep] at hparts
          cases hparts
      | ok next =>
          rw [hstep] at hparts
          rw [h.step hstep]
          exact ih hparts

/-! ### Writing and reading -/

/-- An empty part at the end of a path leads nowhere else. -/
lemma foldlM_step_empty {parts : List String} (h : (parts ++ [""]).foldlM t.step k = .ok l) :
    parts.foldlM t.step k = .ok l := by
  rw [List.foldlM_append] at h
  cases hparts : parts.foldlM t.step k with
  | error fault =>
      rw [hparts] at h
      cases h
  | ok m =>
      rw [hparts] at h
      have hstep : t.step m "" = .ok l := by
        cases hstep : t.step m "" with
        | error fault => simp [bind, Except.bind, hstep] at h
        | ok next => simpa [bind, Except.bind, pure, Except.pure, hstep] using h
      rw [step_of_directory (node?_of_step hstep)] at hstep
      simpa using hstep

/-- Where a file is written: its path can be used, its name leads on from a directory
that the parts before lead to, and no directory is in its place. -/
lemma target_eq_ok (h : t.target cwd path = .ok l) :
    unusable? path = none ∧
    ∃ above, (Path.parts path).dropLast.foldlM t.step (base cwd path) = .ok above ∧
      t.step above (Path.name path) = .ok l ∧ l = above ++ [Path.name path] ∧
      t.node? l ≠ some .directory := by
  unfold target at h
  cases hunusable : unusable? path with
  | some fault => simp [hunusable] at h
  | none =>
      refine ⟨rfl, ?_⟩
      simp only [hunusable] at h
      cases hfold : ((Path.parts (dropSlashes path)).dropLast ++ [""]).foldlM t.step
          (base cwd path) with
      | error fault =>
          rw [hfold] at h
          cases h
      | ok above =>
          rw [hfold] at h
          simp only [bind, Except.bind] at h
          split_ifs at h with hbad
          -- the path has no slash at its end, and its name is one
          have hname : (Path.parts path).getLast?.getD "" = Path.name path := rfl
          obtain ⟨htrim, hempty, hdot, hdots⟩ := by simpa only [not_or, not_not] using hbad
          rw [htrim, hname] at hempty hdot hdots h
          rw [htrim] at hfold
          cases hstep : t.step above (Path.name path) with
          | error fault =>
              rw [hstep] at h
              cases h
          | ok place =>
              rw [hstep] at h
              dsimp only at h
              split_ifs at h with hnode
              obtain rfl := Except.ok.inj h
              refine ⟨above, foldlM_step_empty hfold, hstep, ?_, hnode⟩
              rw [step_of_directory (node?_of_step hstep)] at hstep
              simp only [hempty, hdot, hdots, or_self, if_false] at hstep
              split_ifs at hstep with hlong
              exact (Except.ok.inj hstep).symm

/-- A file is written under its own name, and no directory has gone. -/
lemma exists_set_of_write {content : List UInt8} (h : t.write cwd path content = .ok u) :
    ∃ above, t.target cwd path = .ok (above ++ [Path.name path]) ∧
      u = t.set (above ++ [Path.name path]) (.file content) ∧ t.Keeps u := by
  rw [write] at h
  cases htarget : t.target cwd path with
  | error fault => simp [htarget] at h
  | ok place =>
      obtain ⟨-, above, -, -, rfl, hnode⟩ := target_eq_ok htarget
      simp only [htarget] at h
      obtain rfl := Except.ok.inj h
      exact ⟨above, rfl, rfl, keeps_set (by simp) hnode⟩

/-- **A file that has been written is read back** at the path it was written to. -/
lemma read_write {content : List UInt8} (h : t.write cwd path content = .ok u) :
    u.read cwd path = .ok content := by
  obtain ⟨above, htarget, rfl, hkeeps⟩ := exists_set_of_write h
  obtain ⟨hunusable, above', hfold, hstep, -, -⟩ := target_eq_ok htarget
  have hresolve : (t.set (above ++ [Path.name path]) (.file content)).resolve cwd path =
      .ok (above ++ [Path.name path]) := by
    simp only [resolve, hunusable]
    rw [← Path.dropLast_append_name path, List.foldlM_append, hkeeps.foldlM_step hfold]
    simp [bind, Except.bind, hkeeps.step hstep, pure, Except.pure]
  have hnode : (t.set (above ++ [Path.name path]) (.file content)).node?
      (above ++ [Path.name path]) = some (.file content) := by
    rw [node?_set _ (by simp), if_pos rfl]
  simp [read, find, hresolve, hnode, bind, Except.bind, pure, Except.pure, Node.bytes?]

/-- Writing a file changes nothing under another name. -/
lemma node?_write {content : List UInt8} (h : t.write cwd path content = .ok u) {other : String}
    (hne : other ≠ Path.name path) (k : Location) :
    u.node? (k ++ [other]) = t.node? (k ++ [other]) := by
  obtain ⟨above, -, rfl, -⟩ := exists_set_of_write h
  have hplace : k ++ [other] ≠ above ++ [Path.name path] := by
    intro heq
    exact hne (List.singleton_inj.mp (List.append_inj' heq rfl).2)
  rw [node?_set _ (by simp), if_neg hplace]

end FileTree

end ExprMachine
