import ExprMachine.Proofs.Expr.Stepwise

/-!
The parser makes headway.

* `Reading.Placed`: how the tokens of a reading stand to its text.
* `Reading.exists_finds`: the token reader finds the next token, whatever it has to pass
  over. The induction is the token reader's own.
* `Reading.Sound.left_suffix`: no step gives back a token that has been moved past.
* `Reading.Sound`: **the invariant**. Only the next task can be one that begins something;
  the tasks below it go on with something, and no operators are read at a level that the
  end token would do for. One step keeps it (`Reading.Sound.step`), so every run does
  (`Reading.Sound.reaches`).
* `Reading.Spent`: what has come of a call at the end of the text. Nothing is begun any more.
* `Reading.Proceeds`, `Reading.Sound.proceeds`: what follows for the calls, the iterations
  and the look-ups of a run.
-/

namespace ExprMachine

namespace Reading

variable {r r' : Reading}

/-! ### The text -/

/-- `r.Placed`: how the tokens of a reading stand to its text. -/
structure Placed (r : Reading) : Prop where
  /-- Behind the end token, the token reader stays where it is. -/
  atEnd : r.current.kind = .eof → r.scanner.scan = (r.current, r.scanner)
  /-- A token that has been found takes part in the grammar, or is the end token. -/
  found : r.seeking = false → r.current.isSignificant = true ∨ r.current.kind = .eof

/-- The end token takes no part in the grammar. -/
lemma kind_ne_eof_of_isSignificant {t : Token} (h : t.isSignificant = true) : t.kind ≠ .eof := by
  simp only [Token.isSignificant, decide_eq_true_eq] at h
  exact h.2.2

lemma placed_seek (h : r.seeking = true) : r.seek.Placed := by
  have hatEnd (heof : r.scanner.scan.1.kind = .eof) :
      r.scanner.scan.2.scan = (r.scanner.scan.1, r.scanner.scan.2) :=
    Scanner.scan_scan_of_eof heof
  obtain ⟨-, hseek⟩ | ⟨hfound, hseek⟩ := r.seek_cases
  · rw [hseek]
    exact ⟨hatEnd, by simp [h]⟩
  · rw [hseek]
    exact ⟨hatEnd, fun _ => hfound⟩

/-- At the end of the text, the end token is all that is left. -/
lemma Placed.tokens_of_eof (h : r.Placed) (heof : r.current.kind = .eof) :
    r.scanner.tokens = [r.current] := by
  have hscan := h.atEnd heof
  have hkind : r.scanner.scan.1.kind = .eof := by rw [hscan]; exact heof
  rw [Scanner.tokens_of_eof hkind, hscan]

lemma upcoming_of_seeking (h : r.seeking = true) : r.upcoming = r.scanner.tokens :=
  if_pos (.inl h)

lemma upcoming_of_eof (h : r.current.kind = .eof) : r.upcoming = r.scanner.tokens :=
  if_pos (.inr h)

lemma Placed.upcoming_of_eof (h : r.Placed) (heof : r.current.kind = .eof) :
    r.upcoming = [r.current] :=
  (Reading.upcoming_of_eof heof).trans (h.tokens_of_eof heof)

lemma upcoming_of_ne (hseeking : r.seeking = false) (h : r.current.kind ≠ .eof) :
    r.upcoming = r.current :: r.scanner.tokens :=
  if_neg (by simp [hseeking, h])

/-- `r.Finds r'`: from `r` on, the token reader has found the next token. The errors that it
has passed over have been reported. -/
structure Finds (r r' : Reading) : Prop extends r'.Placed where
  seeking : r'.seeking = false
  tasks : r'.tasks = r.tasks
  previous : r'.previous = r.previous
  passes : ∃ passed, r.scanner.tokens = passed ++ r'.upcoming ∧
    (∀ t ∈ passed, t.isSignificant = false) ∧
    r'.output = {
      findings := r.output.findings ++
        (passed.filter fun t => t.kind = .error).map .ofErrorToken
      panicking := r.output.panicking || passed.any fun t => t.kind = .error
      builder := r.output.builder }

/-- Nothing is written into the code on the way. -/
lemma Finds.builder_eq (h : r.Finds r') : r'.output.builder = r.output.builder := by
  obtain ⟨passed, -, -, houtput⟩ := h.passes
  rw [houtput]

/-- A token that has been passed over comes before the others. -/
lemma Finds.cons {t : Token} {s : Scanner}
    (h : ({ r with scanner := s, current := t, output := r.output.passOver t } : Reading).Finds r')
    (htokens : r.scanner.tokens = t :: s.tokens) (hk : t.kind = .comment ∨ t.kind = .error) :
    r.Finds r' := by
  obtain ⟨passed, hpassed, hnone, houtput⟩ := h.passes
  refine { h with passes := ⟨t :: passed, ?_, ?_, ?_⟩ }
  · rw [htokens, List.cons_append]
    exact congrArg _ hpassed
  · have ht : t.isSignificant = false := by
      rcases hk with hk | hk <;> simp [Token.isSignificant, hk]
    exact List.forall_mem_cons.mpr ⟨ht, hnone⟩
  · rcases hk with hk | hk <;>
      simpa [Output.passOver, Output.reportError, hk] using houtput

/-- A token that is found at once. -/
lemma finds_of_placed {t : Token} {s : Scanner}
    (h : ({ r with scanner := s, current := t, seeking := false } : Reading).Placed)
    (htokens : r.scanner.tokens =
      ({ r with scanner := s, current := t, seeking := false } : Reading).upcoming) :
    r.Finds { r with scanner := s, current := t, seeking := false } :=
  { h with
    seeking := rfl
    tasks := rfl
    previous := rfl
    passes := ⟨[], htokens, by simp, by simp⟩ }

/-- **The token reader finds the next token**, whatever it has to pass over. -/
lemma exists_finds (h : r.seeking = true) : ∃ r', r.Reaches r' ∧ r.Finds r' := by
  generalize hs : r.scanner = s
  induction s using Scanner.scan_induction generalizing r with
  | eof s heof =>
      subst hs
      have hplaced := placed_seek h
      have hleads := leads_seek h
      obtain ⟨hk, -⟩ | ⟨-, hseek⟩ := r.seek_cases
      · simp [heof] at hk
      · rw [hseek] at hplaced hleads
        refine ⟨_, .single hleads, finds_of_placed hplaced ?_⟩
        rw [upcoming_of_eof heof, Scanner.tokens_of_eof heof]
        exact (hplaced.tokens_of_eof heof).symm
  | token s hne ih =>
      subst hs
      have hplaced := placed_seek h
      have hleads := leads_seek h
      have htokens := Scanner.tokens_of_ne hne
      obtain ⟨hk, hseek⟩ | ⟨-, hseek⟩ := r.seek_cases
      · obtain ⟨r', hreaches, hfinds⟩ := ih (r := r.seek) (by rw [hseek]; exact h) (by rw [hseek])
        rw [hseek] at hfinds
        exact ⟨r', .head hleads hreaches, hfinds.cons htokens hk⟩
      · rw [hseek] at hplaced hleads
        refine ⟨_, .single hleads, finds_of_placed hplaced ?_⟩
        rw [htokens, upcoming_of_ne rfl hne]

/-! ### The tokens that are left -/

/-- Passing over comments and errors moves past no significant token. -/
lemma Finds.left_eq (h : r.Finds r') (hseeking : r.seeking = true) : r'.left = r.left := by
  obtain ⟨passed, hpassed, hnone, -⟩ := h.passes
  have hfilter : passed.filter Token.isSignificant = [] :=
    List.filter_eq_nil_iff.mpr fun t ht => by simp [hnone t ht]
  rw [left, left, upcoming_of_seeking hseeking, hpassed, List.filter_append, hfilter,
    List.nil_append]

/-- To read a token is to move past it. -/
lemma left_advance (hseeking : r.seeking = false) (h : r.current.isSignificant = true) :
    r.left = r.current :: r.advance.left := by
  rw [left, left, upcoming_of_ne hseeking (kind_ne_eof_of_isSignificant h),
    upcoming_of_seeking (r := r.advance) rfl, List.filter_cons_of_pos h]
  rfl

/-- The end token is there to stay. -/
lemma left_advance_of_eof (h : r.current.kind = .eof) : r.advance.left = r.left := by
  rw [left, left, upcoming_of_eof h, upcoming_of_seeking (r := r.advance) rfl]
  rfl

lemma Placed.left_advance_suffix (h : r.Placed) (hseeking : r.seeking = false) :
    r.advance.left <:+ r.left := by
  rcases h.found hseeking with hsignificant | heof
  · rw [left_advance hseeking hsignificant]
    exact List.suffix_cons _ _
  · rw [left_advance_of_eof heof]

/-- A call of the token reader moves past no significant token. -/
lemma left_seek (h : r.seeking = true) : r.seek.left = r.left := by
  have hplaced := placed_seek h
  have hleft : r.left = r.scanner.tokens.filter Token.isSignificant := by
    rw [left, upcoming_of_seeking h]
  by_cases heof : r.scanner.scan.1.kind = .eof
  · have hcurrent : r.seek.current = r.scanner.scan.1 := by
      obtain ⟨-, hseek⟩ | ⟨-, hseek⟩ := r.seek_cases <;> rw [hseek]
    have hkind : r.seek.current.kind = .eof := by rw [hcurrent, heof]
    rw [hleft, left, hplaced.upcoming_of_eof hkind, hcurrent, Scanner.tokens_of_eof heof]
  · rw [hleft, Scanner.tokens_of_ne heof]
    obtain ⟨hk, hseek⟩ | ⟨-, hseek⟩ := r.seek_cases
    · rw [hseek, left, upcoming_of_seeking]
      · rcases hk with hk | hk <;> simp [Token.isSignificant, hk]
      · exact h
    · rw [hseek, left, upcoming_of_ne rfl heof]

/-! ### What is still to be done -/

/-- A task that goes on with something that has been begun. -/
def Task.IsPending : Task → Prop
  | .operand _ | .opening _ | .joining => False
  | .operators level => 0 < level
  | .operator t => (BinaryOp.ofKind? t.kind).isSome = true
  | .expect _ _ | .sign _ | .finish => True

/-- A task that can come next, when a given token has been read last. -/
def Task.IsDue (previous : Token) : Task → Prop
  | .operand level | .opening level => 0 < level
  | .joining => (BinaryOp.ofKind? previous.kind).isSome = true
  | task => task.IsPending

/-- Only the next task can begin something. -/
def Stacked (previous : Token) : List Task → Prop
  | [] => True
  | task :: tasks => task.IsDue previous ∧ ∀ t ∈ tasks, t.IsPending

lemma Task.IsPending.isDue {task : Task} (h : task.IsPending) (previous : Token) :
    task.IsDue previous := by
  cases task with
  | operand level => exact h.elim
  | opening level => exact h.elim
  | joining => exact h.elim
  | _ => exact h

lemma stacked_of_pending {previous : Token} {tasks : List Task} (h : ∀ t ∈ tasks, t.IsPending) :
    Stacked previous tasks := by
  cases tasks with
  | nil => trivial
  | cons task tasks =>
      rw [List.forall_mem_cons] at h
      exact ⟨h.1.isDue previous, h.2⟩

lemma joining_notMem {tasks : List Task} (h : ∀ t ∈ tasks, t.IsPending) :
    Task.joining ∉ tasks :=
  fun hmem => h _ hmem

/-- **The invariant** of a run. -/
structure Sound (r : Reading) : Prop extends r.Placed where
  stacked : Stacked r.previous r.tasks
  /-- An operator that is being read is not the end token. -/
  joining : r.seeking = true → r.current.kind = .eof → .joining ∉ r.tasks

/-- The next task is due, and the tasks below it go on with something. -/
lemma Sound.due (h : r.Sound) {task : Task} {tasks : List Task} (htasks : r.tasks = task :: tasks) :
    task.IsDue r.previous ∧ ∀ t ∈ tasks, t.IsPending := by
  have hstacked := h.stacked
  rw [htasks] at hstacked
  exact hstacked

lemma sound_start (text : List Char) : (start text).Sound where
  atEnd h := by cases h
  found h := by cases h
  stacked := ⟨Nat.one_pos, by simp [Task.IsPending]⟩
  joining _ h := by cases h

/-- Going on with what is pending. -/
lemma Sound.of_pending (h : r.Placed) (htasks : ∀ t ∈ r.tasks, t.IsPending) : r.Sound :=
  { h with
    stacked := stacked_of_pending htasks
    joining := fun _ _ => joining_notMem htasks }

lemma Sound.seek (h : r.Sound) (hseeking : r.seeking = true) : r.seek.Sound := by
  have hplaced := placed_seek hseeking
  obtain ⟨hk, hseek⟩ | ⟨-, hseek⟩ := r.seek_cases
  · rw [hseek] at hplaced ⊢
    exact { hplaced with
      stacked := h.stacked
      joining := fun _ heof => by rcases hk with hk | hk <;> simp [hk] at heof }
  · rw [hseek] at hplaced ⊢
    exact { hplaced with
      stacked := h.stacked
      joining := fun hseeking => by cases hseeking }

/-- To read a token changes nothing about where the text ends. -/
lemma Placed.advance (h : r.Placed) : r.advance.Placed :=
  ⟨h.atEnd, fun hseeking => by cases hseeking⟩

/-- A task keeps the invariant. -/
lemma Placed.sound_of_performs (h : r.Placed) (hseeking : r.seeking = false) {task : Task}
    (hdue : task.IsDue r.previous) (hpending : ∀ t ∈ r.tasks, t.IsPending)
    (hperforms : r.Performs task r') : r'.Sound := by
  cases hperforms with
  | @call level =>
      exact { h.advance with
        stacked := ⟨hdue, hpending⟩
        joining := fun _ _ => by simpa [push, Reading.advance] using joining_notMem hpending }
  | refuse _ => exact .of_pending ⟨h.atEnd, h.found⟩ hpending
  | @group level message _ =>
      refine { h with stacked := ⟨Nat.one_pos, ?_⟩, joining := fun h' => ?_ }
      · simpa [Task.IsPending] using ⟨hdue, hpending⟩
      · simp [push, hseeking] at h'
  | @sign level _ =>
      refine { h with stacked := ⟨Nat.succ_pos 7, ?_⟩, joining := fun h' => ?_ }
      · simpa [Task.IsPending] using ⟨hdue, hpending⟩
      · simp [push, hseeking] at h'
  | @value level o _ =>
      refine .of_pending ⟨h.atEnd, h.found⟩ ?_
      simpa [push, Task.IsPending] using ⟨hdue, hpending⟩
  | @iterate level hle =>
      -- the token that is read binds at all, so it is an operator
      have hop := Token.Kind.isSome_of_rank_pos (lt_of_lt_of_le hdue hle)
      refine { h.advance with stacked := ⟨hop, ?_⟩, joining := fun _ heof => ?_ }
      · simpa [Task.IsPending] using ⟨hdue, hpending⟩
      · simp [show r.current.kind = .eof from heof, BinaryOp.ofKind?] at hop
  | leave _ => exact .of_pending h hpending
  | join _ =>
      refine { h with stacked := ⟨Nat.succ_pos _, ?_⟩, joining := fun h' => ?_ }
      · simpa [Task.IsPending] using ⟨hdue, hpending⟩
      · simp [push, hseeking] at h'
  | take _ => exact .of_pending h.advance hpending
  | miss _ => exact .of_pending ⟨h.atEnd, h.found⟩ hpending
  | writeSign => exact .of_pending ⟨h.atEnd, h.found⟩ hpending
  | writeOperator => exact .of_pending ⟨h.atEnd, h.found⟩ hpending
  | finish => exact .of_pending ⟨h.atEnd, h.found⟩ hpending

/-- One step keeps the invariant. -/
lemma Sound.step (h : r.Sound) (hleads : r.Leads r') : r'.Sound := by
  obtain ⟨hseeking, rfl⟩ | ⟨hseeking, task, tasks, htasks, hperforms⟩ := step_cases hleads
  · exact h.seek hseeking
  · obtain ⟨hdue, hpending⟩ := h.due htasks
    have hplaced : ({ r with tasks } : Reading).Placed := ⟨h.atEnd, h.found⟩
    exact hplaced.sound_of_performs hseeking hdue hpending hperforms

lemma Sound.reaches (h : r.Sound) (hreaches : r.Reaches r') : r'.Sound := by
  induction hreaches with
  | refl => exact h
  | tail _ hleads ih => exact ih.step hleads

/-! ### Headway -/

/-- A task gives back no token that has been moved past. -/
lemma Placed.left_suffix_of_performs (h : r.Placed) (hseeking : r.seeking = false) {task : Task}
    (hperforms : r.Performs task r') : r'.left <:+ r.left := by
  cases hperforms with
  | call => exact h.left_advance_suffix hseeking
  | iterate _ => exact h.left_advance_suffix hseeking
  | take _ => exact h.left_advance_suffix hseeking
  | _ => exact List.suffix_rfl

/-- No step gives back a token that has been moved past. -/
lemma Sound.left_suffix (h : r.Sound) (hleads : r.Leads r') : r'.left <:+ r.left := by
  obtain ⟨hseeking, rfl⟩ | ⟨hseeking, task, tasks, -, hperforms⟩ := step_cases hleads
  · rw [left_seek hseeking]
  · have hplaced : ({ r with tasks } : Reading).Placed := ⟨h.atEnd, h.found⟩
    exact hplaced.left_suffix_of_performs hseeking hperforms

lemma Sound.left_suffix_of_reaches (h : r.Sound) (hreaches : r.Reaches r') :
    r'.left <:+ r.left := by
  induction hreaches with
  | refl => exact List.suffix_rfl
  | tail hreaches hleads ih => exact ((h.reaches hreaches).left_suffix hleads).trans ih

/-! ### The end of the text -/

/-- The end token does not bind, so operators are never read at it. -/
lemma not_le_rank_of_eof {t : Token} {level : ℕ} (heof : t.kind = .eof) (h : 0 < level) :
    ¬ level ≤ t.kind.rule.precedence.rank := by
  rw [heof]
  exact Nat.not_le.mpr h

lemma Sound.not_iterates (h : r.Sound) (heof : r.current.kind = .eof) : ¬ r.Iterates := by
  rintro ⟨-, level, tasks, htasks, hle⟩
  exact not_le_rank_of_eof heof (h.due htasks).1 hle

/-- Behind the end token, the token reader finds the same token once more. -/
lemma Placed.seek_of_eof (h : r.Placed) (heof : r.current.kind = .eof) :
    r.seek = { r with seeking := false } := by
  rw [seek, h.atEnd heof]
  simp [heof]

/-- A step behind the end token stays there, and reads no operator. -/
lemma Sound.step_of_eof (h : r.Sound) (heof : r.current.kind = .eof) (hleads : r.Leads r') :
    r'.current.kind = .eof ∧ .joining ∉ r'.tasks := by
  obtain ⟨hseeking, rfl⟩ | ⟨hseeking, task, tasks, htasks, hperforms⟩ := step_cases hleads
  · rw [h.toPlaced.seek_of_eof heof]
    exact ⟨heof, h.joining hseeking heof⟩
  · obtain ⟨hdue, hpending⟩ := h.due htasks
    have hnone := joining_notMem hpending
    cases hperforms with
    | iterate hle => exact absurd hle (not_le_rank_of_eof heof hdue)
    | _ => exact ⟨heof, by simpa [push, Reading.advance] using hnone⟩

/-- Behind the end token, no more operators are read. -/
lemma Sound.of_eof (h : r.Sound) (heof : r.current.kind = .eof) (hlater : r.Later r') :
    r'.current.kind = .eof ∧ .joining ∉ r'.tasks := by
  induction hlater with
  | single hleads => exact h.step_of_eof heof hleads
  | tail hlater hleads ih =>
      exact (h.reaches hlater.to_reflTransGen).step_of_eof ih.1 hleads

/-- `r.Spent`: at the end of the text, nothing is begun any more. -/
structure Spent (r : Reading) : Prop where
  eof : r.current.kind = .eof
  /-- All that is left are tasks that go on with something, behind a call that fails. -/
  tasks : (∀ t ∈ r.tasks, t.IsPending) ∨
    (r.previous.kind = .eof ∧ ∃ level tasks, r.tasks = .opening level :: tasks ∧
      ∀ t ∈ tasks, t.IsPending)

lemma Spent.not_begins (h : r.Spent) : ¬ r.Begins := by
  rintro (⟨-, level, tasks, htasks⟩ | ⟨-, level, tasks, htasks, hle⟩)
  · rcases h.tasks with hpending | ⟨-, level', tasks', htasks', -⟩
    · exact hpending _ (htasks ▸ List.mem_cons_self)
    · simp [htasks] at htasks'
  · rcases h.tasks with hpending | ⟨-, level', tasks', htasks', -⟩
    · exact not_le_rank_of_eof h.eof (hpending _ (htasks ▸ List.mem_cons_self)) hle
    · simp [htasks] at htasks'

/-- One step keeps that nothing is begun. -/
lemma Spent.step (h : r.Spent) (hplaced : r.Placed) (hleads : r.Leads r') : r'.Spent := by
  obtain ⟨hseeking, rfl⟩ | ⟨hseeking, task, tasks, htasks, hperforms⟩ := step_cases hleads
  · rw [hplaced.seek_of_eof h.eof]
    exact ⟨h.eof, h.tasks⟩
  · rcases h.tasks with hpending | ⟨heof, level, tasks', htasks', hpending⟩
    · rw [htasks, List.forall_mem_cons] at hpending
      obtain ⟨hnext, hrest⟩ := hpending
      cases hperforms with
      | call | refuse _ | group _ | sign _ | value _ | join _ => exact hnext.elim
      | iterate hle => exact absurd hle (not_le_rank_of_eof h.eof hnext)
      | _ => exact ⟨h.eof, .inl hrest⟩
    · obtain ⟨rfl, rfl⟩ := List.cons_eq_cons.mp (htasks.symm.trans htasks')
      -- the end token opens no operand
      have hnone : r.previous.kind.rule.opener? = none := by rw [heof]; rfl
      cases hperforms with
      | refuse _ => exact ⟨h.eof, .inl hpending⟩
      | group hsome | sign hsome | value hsome =>
          simp only [hnone] at hsome
          cases hsome

lemma Spent.reaches (h : r.Spent) (hsound : r.Sound) (hreaches : r.Reaches r') : r'.Spent := by
  induction hreaches with
  | refl => exact h
  | tail hreaches hleads ih => exact ih.step (hsound.reaches hreaches).toPlaced hleads

/-- A call at the end of the text. -/
lemma Sound.spent_of_calls (h : r.Sound) (heof : r.current.kind = .eof) (hcalls : r.Calls)
    (hleads : r.Leads r') : r'.Spent := by
  obtain ⟨hseeking, level, tasks, htasks⟩ := hcalls
  obtain rfl := hleads.unique (leads_call hseeking htasks)
  exact ⟨heof, .inr ⟨heof, level, tasks, rfl, (h.due htasks).2⟩⟩

/-- **Each call and each iteration finds fewer tokens left** than those before it. -/
lemma Sound.length_left_lt (h : r.Sound) (hbegins : r.Begins) (hlater : r.Later r')
    (hbegins' : r'.Begins) : r'.left.length < r.left.length := by
  have hseeking := hbegins.seeking
  obtain ⟨tasks, hleads⟩ := hbegins.exists_leads_advance
  obtain ⟨a, ha, hreaches⟩ := Relation.TransGen.head'_iff.mp hlater
  obtain rfl := ha.unique hleads
  rcases h.found hseeking with hsignificant | heof
  · have hleft := left_advance (r := { r with tasks }) hseeking hsignificant
    have hsuffix := (h.step hleads).left_suffix_of_reaches hreaches
    calc r'.left.length ≤ ({ r with tasks } : Reading).advance.left.length := hsuffix.length_le
      _ < ({ r with tasks } : Reading).left.length := by
          rw [hleft, List.length_cons]
          exact Nat.lt_succ_self _
  · -- at the end of the text, this is the last call
    have hcalls := hbegins.resolve_right (h.not_iterates heof)
    have hspent := (h.spent_of_calls heof hcalls hleads).reaches (h.step hleads) hreaches
    exact absurd hbegins' hspent.not_begins

/-- A call at the end of the text is over after three steps: it reads the end token, finds it
once more, and reports it. -/
lemma Placed.returns (h : r.Placed) {level : ℕ} {tasks : List Task} (hseeking : r.seeking = false)
    (htasks : r.tasks = .operand level :: tasks) (heof : r.current.kind = .eof) :
    ∃ a b, r.Leads a ∧ a.Leads b ∧ ¬ a.Begins ∧ ¬ b.Begins ∧
      b.Leads (({ r with previous := r.current, tasks } : Reading).report r.current
        "expect expression") := by
  set a := ({ r with tasks := .opening level :: tasks } : Reading).advance with ha
  have hcall : r.Leads a := leads_call hseeking htasks
  have hseek : a.Leads { a with seeking := false } := by
    have hplaced : a.Placed := ⟨h.atEnd, fun hnot => by cases hnot⟩
    rw [← hplaced.seek_of_eof heof]
    exact leads_seek rfl
  refine ⟨a, { a with seeking := false }, hcall, hseek, ?_, ?_, ?_⟩
  · rintro (⟨hnot, -⟩ | ⟨hnot, -⟩) <;> cases hnot
  · rintro (⟨-, level', tasks', hnot⟩ | ⟨-, level', tasks', hnot, -⟩) <;>
      simp [ha, Reading.advance] at hnot
  · have hnone : r.current.kind.rule.opener? = none := by rw [heof]; rfl
    have hnext : ({ a with seeking := false } : Reading).tasks = .opening level :: tasks := rfl
    refine leads_of_perform rfl hnext ?_
    simp [perform, ha, Reading.advance, hnone, report, hseeking]

/-! ### Tables -/

/-- What an operator does is found in the tables. -/
lemma Sound.of_joins (h : r.Sound) (hjoins : r.Joins) :
    r.previous.kind.rule.joiner? = some .operator ∧ r.previous.kind.opcode?.isSome := by
  obtain ⟨-, tasks, htasks⟩ := hjoins
  obtain ⟨op, hop⟩ := Option.isSome_iff_exists.mp (h.due htasks).1
  rw [Token.Kind.joiner?_rule, Token.Kind.opcode?_eq, hop]
  exact ⟨rfl, rfl⟩

/-- What an operator writes is found in the table. -/
lemma Sound.of_operator (h : r.Sound) {t : Token} {tasks : List Task}
    (htasks : r.tasks = .operator t :: tasks) : t.kind.opcode?.isSome := by
  rw [Token.Kind.opcode?_eq, Option.isSome_map]
  exact (h.due htasks).1

/-- As long as something is left to be done, there is a way to go on. -/
lemma Sound.isDone_or_exists_leads (h : r.Sound) : r.IsDone ∨ ∃ r', r.Leads r' := by
  cases hseeking : r.seeking with
  | true => exact .inr ⟨_, leads_seek hseeking⟩
  | false =>
      cases htasks : r.tasks with
      | nil => exact .inl ⟨hseeking, htasks⟩
      | cons task tasks =>
          suffices hperform : ∃ r', ({ r with tasks } : Reading).perform task = some r' by
            obtain ⟨r', hr'⟩ := hperform
            exact .inr ⟨r', leads_of_perform hseeking htasks hr'⟩
          cases task with
          | joining =>
              have hjoiner := (h.of_joins ⟨hseeking, tasks, htasks⟩).1
              rw [perform, hjoiner]
              exact ⟨_, rfl⟩
          | opening level => rw [perform]; split <;> exact ⟨_, rfl⟩
          | operators level => rw [perform]; split_ifs <;> exact ⟨_, rfl⟩
          | expect kind message => rw [perform]; split_ifs <;> exact ⟨_, rfl⟩
          | sign t => rw [perform]; split <;> exact ⟨_, rfl⟩
          | _ => exact ⟨_, rfl⟩

/-! ### What holds at every point of a run -/

/-- `r.Proceeds`: how the parser gets on from the point `r` of a run. -/
structure Proceeds (r : Reading) : Prop where
  /-- The parser goes on until nothing is left to be done. -/
  goes : r.IsDone ∨ ∃ r', r.Leads r'
  /-- When it asks for a token, it finds one, or the text gets shorter. -/
  seeks : r.seeking = true → ∀ r', r.Leads r' →
    r'.seeking = false ∨ r'.scanner.rest.length < r.scanner.rest.length
  /-- A call or an iteration before the end moves past the token that it begins with. -/
  reads : r.Begins → r.current.kind ≠ .eof → ∃ r', r.Later r' ∧ r'.seeking = false ∧
    r'.previous = r.current ∧ r.left = r.current :: r'.left
  /-- A call at the end returns at once, and nothing else has begun by then. -/
  returns : ∀ level tasks, r.seeking = false → r.tasks = .operand level :: tasks →
    r.current.kind = .eof → ∃ a b, r.Leads a ∧ a.Leads b ∧ ¬ a.Begins ∧ ¬ b.Begins ∧
      b.Leads (({ r with previous := r.current, tasks } : Reading).report r.current
        "expect expression")
  /-- All later calls and iterations find fewer tokens left. -/
  fewer : r.Begins → ∀ r', r.Later r' → r'.Begins → r'.left.length < r.left.length
  /-- At the end there is no iteration, now or later, and later on no operator begins what it
  has to do. Only one whose iteration has just read up to the end may begin it here. -/
  ends : r.current.kind = .eof → ¬ r.Iterates ∧ ∀ r', r.Later r' → ¬ r'.Iterates ∧ ¬ r'.Joins
  /-- An iteration comes to what its operator has to do. -/
  iterates : r.Iterates → ∃ r', r.Later r' ∧ r'.Joins ∧ r'.previous = r.current
  /-- That is found in both tables. -/
  joins : r.Joins →
    r.previous.kind.rule.joiner? = some .operator ∧ r.previous.kind.opcode?.isSome
  /-- So is the one whose instruction is written. -/
  writes : ∀ t tasks, r.tasks = .operator t :: tasks → t.kind.opcode?.isSome

/-- A call of the token reader that finds no token takes something off the text. -/
lemma length_rest_seek_lt (r : Reading) :
    r.seek.seeking = false ∨ r.seek.scanner.rest.length < r.scanner.rest.length := by
  obtain ⟨hk, hseek⟩ | ⟨-, hseek⟩ := r.seek_cases
  · rw [hseek]
    exact .inr (r.scanner.scan_rest_lt (by rcases hk with hk | hk <;> simp [hk]))
  · rw [hseek]
    exact .inl rfl

/-- A call or an iteration before the end of the text moves past a significant token. -/
lemma Sound.exists_read (h : r.Sound) (hbegins : r.Begins) (hne : r.current.kind ≠ .eof) :
    ∃ r', r.Later r' ∧ r'.seeking = false ∧ r'.previous = r.current ∧
      r.left = r.current :: r'.left := by
  have hseeking := hbegins.seeking
  obtain ⟨tasks, hleads⟩ := hbegins.exists_leads_advance
  obtain ⟨r', hreaches, hfinds⟩ := exists_finds (r := ({ r with tasks } : Reading).advance) rfl
  refine ⟨r', .head' hleads hreaches, hfinds.seeking, hfinds.previous, ?_⟩
  rw [hfinds.left_eq rfl]
  exact left_advance (r := { r with tasks }) hseeking ((h.found hseeking).resolve_right hne)

/-- An iteration comes to what its operator has to do. -/
lemma Iterates.exists_joins (h : r.Iterates) :
    ∃ r', r.Later r' ∧ r'.Joins ∧ r'.previous = r.current := by
  obtain ⟨hseeking, level, tasks, htasks, hle⟩ := h
  have hleads := leads_iterate hseeking htasks hle
  obtain ⟨r', hreaches, hfinds⟩ := exists_finds
    (r := ({ r with tasks := .joining :: .operators level :: tasks } : Reading).advance) rfl
  exact ⟨r', .head' hleads hreaches, ⟨hfinds.seeking, _, hfinds.tasks⟩, hfinds.previous⟩

lemma Sound.proceeds (h : r.Sound) : r.Proceeds where
  goes := h.isDone_or_exists_leads
  seeks hseeking r' hleads := by
    obtain rfl := hleads.unique (leads_seek hseeking)
    exact r.length_rest_seek_lt
  reads := h.exists_read
  returns _ _ := h.toPlaced.returns
  fewer hbegins _ hlater := h.length_left_lt hbegins hlater
  ends heof := by
    refine ⟨h.not_iterates heof, fun r' hlater => ?_⟩
    obtain ⟨heof', hnone⟩ := h.of_eof heof hlater
    refine ⟨(h.reaches hlater.to_reflTransGen).not_iterates heof', ?_⟩
    rintro ⟨-, tasks, htasks⟩
    exact hnone (htasks ▸ List.mem_cons_self)
  iterates := Iterates.exists_joins
  joins := h.of_joins
  writes _ _ := h.of_operator

end Reading

end ExprMachine
