import ExprMachine.Proofs.History
import ExprMachine.Proofs.Session.Transparency

/-!
What a store holds is told by the calls that were made of it.

A store is driven by calls, some of which it refuses because it has been closed. Which
chunks it holds can be told from the calls alone: for each source the one that was last
put in, unless it was removed for its age since, or the store forgot it.

* `Store.Call`, `Store.perform`, `Store.after`: calls, what is seen of them, and the
  store after them.
* `Store.Open`, `Store.Kept`: what the calls tell: whether the store is open, and what
  was put in last for a source and kept.
* `Store.Reflects`: **the invariant**. The rows are those of what was kept, one for
  each source.
* `Store.Reflects.perform`, `Store.Reflects.after`: one call keeps it, so it holds
  after all calls.
* `Store.perform_after`: what is seen of the next call.
-/

namespace ExprMachine.Store

/-! ### Calls -/

/-- A call of a store. -/
inductive Call where
  /-- Puts in the chunk of a source at some time. -/
  | put (src : Source) (c : Chunk) (now : ℤ)
  /-- Asks for the chunk of a source. -/
  | get (src : Source)
  /-- Asks for the number of rows. -/
  | count
  /-- Removes the rows written before a time. -/
  | purge (before : ℤ)
  /-- Closes the store. -/
  | close
  /-- Opens it again at its place. -/
  | reopen
  deriving DecidableEq

/-- What is seen of a call, the log apart. -/
inductive Reply where
  /-- It has been done. -/
  | done
  /-- The chunk of a source, if there is one. -/
  | found (chunk? : Option Chunk)
  /-- A number of rows. -/
  | number (n : ℕ)
  /-- It was refused. -/
  | refused (r : Refusal)
  deriving DecidableEq

/-- One call. -/
def perform (st : Store) : Call → Reply × Store
  | .put src c now =>
      match st.save src c now with
      | .ok st' => (.done, st')
      | .error r => (.refused r, st)
  | .get src =>
      match st.lookup src with
      | .ok (chunk?, _) => (.found chunk?, st)
      | .error r => (.refused r, st)
  | .count =>
      match st.count with
      | .ok n => (.number n, st)
      | .error r => (.refused r, st)
  | .purge before =>
      match st.purge before with
      | .ok (n, _, st') => (.number n, st')
      | .error r => (.refused r, st)
  | .close => (.done, st.close)
  | .reopen => (.done, st.reopen.1)

/-- The store after some calls. -/
def after (st : Store) (calls : List Call) : Store :=
  calls.foldl (fun st call => (st.perform call).2) st

lemma after_concat (st : Store) (calls : List Call) (call : Call) :
    st.after (calls ++ [call]) = ((st.after calls).perform call).2 := by
  simp [after]

/-! ### What the calls tell -/

/-- The store has not been closed, or has been opened again since. -/
def Open (calls : List Call) : Prop :=
  ¬ Since (fun _ call => call = .close) (fun _ call => call = .reopen) calls

/-- A call that ends what was put in for a source at some time: the source is put in
again, or what is as old is removed, while the store is open; or a store that is kept
nowhere is opened again. -/
def Call.Ends (call : Call) (place : Place) (src : Source) (now : ℤ) (earlier : List Call) :
    Prop :=
  (Open earlier ∧ ((∃ c later, call = .put src c later) ∨
    ∃ before, call = .purge before ∧ now < before)) ∨ (place = .memory ∧ call = .reopen)

/-- A chunk was put in for a source while the store was open, and nothing since has
ended that. -/
def Kept (place : Place) (src : Source) (c : Chunk) (now : ℤ) (calls : List Call) : Prop :=
  Since (fun earlier call => Open earlier ∧ call = .put src c now)
    (fun earlier call => call.Ends place src now earlier) calls

/-- All that is put in is put in for some sources. -/
def Among (sources : List Source) (calls : List Call) : Prop :=
  ∀ src c now, .put src c now ∈ calls → src ∈ sources

section Histories

variable {place : Place} {src other : Source} {c d : Chunk} {now later before : ℤ}
  {calls : List Call} {call : Call}

lemma open_nil : Open [] :=
  not_since_nil

lemma open_concat : Open (calls ++ [call]) ↔ call = .reopen ∨ (Open calls ∧ call ≠ .close) := by
  rw [Open, Open, since_concat]
  cases call <;> simp

lemma kept_concat : Kept place src c now (calls ++ [call]) ↔
    (Open calls ∧ call = .put src c now) ∨
      (Kept place src c now calls ∧ ¬ call.Ends place src now calls) :=
  since_concat

lemma ends_put_iff : (Call.put other d later).Ends place src now calls ↔
    Open calls ∧ other = src := by
  simp [Call.Ends]

lemma ends_purge_iff : (Call.purge before).Ends place src now calls ↔
    Open calls ∧ now < before := by
  simp [Call.Ends]

lemma ends_reopen_iff : Call.reopen.Ends place src now calls ↔ place = .memory := by
  simp [Call.Ends]

/-- What is kept was put in. -/
lemma Kept.mem_put (h : Kept place src c now calls) : .put src c now ∈ calls := by
  obtain ⟨earlier, call, later, rfl, ⟨-, rfl⟩, -⟩ := h
  simp

/-- One chunk at most is kept for a source: the one put in last. -/
lemma Kept.unique (h : Kept place src c now calls) (h' : Kept place src d later calls) :
    d = c ∧ later = now := by
  induction calls using List.reverseRecOn with
  | nil => exact absurd h not_since_nil
  | append_singleton calls call ih =>
      rcases kept_concat.mp h with ⟨hopen, rfl⟩ | ⟨hbefore, hends⟩ <;>
        rcases kept_concat.mp h' with ⟨hopen', heq⟩ | ⟨hbefore', hends'⟩
      · obtain ⟨-, rfl, rfl⟩ := Call.put.inj heq
        exact ⟨rfl, rfl⟩
      · exact absurd (ends_put_iff.mpr ⟨hopen, rfl⟩) hends'
      · rw [heq, ends_put_iff] at hends
        exact absurd ⟨hopen', rfl⟩ hends
      · exact ih hbefore hbefore'

lemma Among.of_concat {sources : List Source} (h : Among sources (calls ++ [call])) :
    Among sources calls :=
  fun src c now hput => h src c now (List.mem_append_left _ hput)

end Histories

/-! ### What one call does -/

section Perform

variable {st : Store}

lemma perform_put (hopen : st.closed = false) (src : Source) (c : Chunk) (now : ℤ) :
    st.perform (.put src c now) = (.done, st.insert (keyOf src) (rowOf src c now)) := by
  simp [perform, save, hopen, rowOf]

lemma perform_get (hopen : st.closed = false) (src : Source) :
    st.perform (.get src) = (.found (examine src (st.row? (keyOf src))).chunk?, st) := by
  simp [perform, lookup, hopen]

lemma perform_count (hopen : st.closed = false) :
    st.perform .count = (.number st.rows.length, st) := by
  simp [perform, count, hopen]

/-- The rows that are removed are counted. -/
lemma perform_purge (hopen : st.closed = false) (before : ℤ) :
    st.perform (.purge before) =
      (.number (st.rows.filter fun r => r.2.created < before).length,
        { st with rows := st.rows.filter fun r => before ≤ r.2.created }) := by
  have hsplit := List.length_eq_length_filter_add (l := st.rows) fun r => before ≤ r.2.created
  have hrest : (st.rows.filter fun r => !decide (before ≤ r.2.created)) =
      st.rows.filter fun r => r.2.created < before := by
    simp only [← decide_not, not_le]
  rw [hrest] at hsplit
  simp [perform, purge, hopen, hsplit]

/-- A closed store refuses everything but to be closed or opened again. -/
lemma exists_perform_of_closed (hclosed : st.closed = true) {call : Call} (hclose : call ≠ .close)
    (hreopen : call ≠ .reopen) : ∃ r, st.perform call = (.refused r, st) := by
  cases call with
  | put src c now => exact ⟨.save, by simp [perform, save, hclosed]⟩
  | get src => exact ⟨.lookup, by simp [perform, lookup, hclosed]⟩
  | count => exact ⟨.count, by simp [perform, count, hclosed]⟩
  | purge before => exact ⟨.purge, by simp [perform, purge, hclosed]⟩
  | close => exact absurd rfl hclose
  | reopen => exact absurd rfl hreopen

end Perform

/-! ### The invariant -/

/-- The rows of a store are those of what was kept, and none has the key of another. -/
structure Reflects (place : Place) (calls : List Call) (st : Store) : Prop where
  place_eq : st.place = place
  open_iff : st.closed = false ↔ Open calls
  keyed : Table.Keyed st.rows
  mem_iff : ∀ entry, entry ∈ st.rows ↔
    ∃ src c now, Kept place src c now calls ∧ entry = (keyOf src, rowOf src c now)

namespace Reflects

variable {place : Place} {calls : List Call} {st st' : Store} {sources : List Source}

/-- A call that neither puts in nor ends anything leaves the rows as they are. -/
lemma keep (h : Reflects place calls st) {call : Call} (hplace : st'.place = st.place)
    (hrows : st'.rows = st.rows) (hopen : st'.closed = false ↔ Open (calls ++ [call]))
    (hput : ∀ src c now, ¬ (Open calls ∧ call = .put src c now))
    (hends : ∀ src now, ¬ call.Ends place src now calls) :
    Reflects place (calls ++ [call]) st' where
  place_eq := hplace.trans h.place_eq
  open_iff := hopen
  keyed := hrows ▸ h.keyed
  mem_iff := by
    intro entry
    rw [hrows, h.mem_iff]
    refine exists₃_congr fun src c now => and_congr_left' ?_
    rw [kept_concat, or_iff_right (hput src c now), and_iff_left (hends src now)]

/-- The row of a source takes the place of its last one. -/
lemma put (h : Reflects place calls st) (hapart : Session.DigestsApart sources) {src : Source}
    {c : Chunk} {now : ℤ} (hputs : Among sources (calls ++ [.put src c now])) (hopen : Open calls) :
    Reflects place (calls ++ [.put src c now]) (st.insert (keyOf src) (rowOf src c now)) where
  place_eq := h.place_eq
  open_iff := by
    rw [open_concat]
    exact h.open_iff.trans (by simp)
  keyed := h.keyed.put _ _
  mem_iff := by
    intro entry
    rw [insert, List.mem_cons, List.mem_filter, h.mem_iff]
    constructor
    · rintro (rfl | ⟨⟨other, d, time, hkept, rfl⟩, hkey⟩)
      · exact ⟨src, c, now, kept_concat.mpr (.inl ⟨hopen, rfl⟩), rfl⟩
      · refine ⟨other, d, time, kept_concat.mpr (.inr ⟨hkept, ?_⟩), rfl⟩
        rw [ends_put_iff]
        rintro ⟨-, rfl⟩
        simp at hkey
    · rintro ⟨other, d, time, hkept, rfl⟩
      rcases kept_concat.mp hkept with ⟨-, heq⟩ | ⟨hkept, hends⟩
      · obtain ⟨rfl, rfl, rfl⟩ := Call.put.inj heq
        exact .inl rfl
      · refine .inr ⟨⟨other, d, time, hkept, rfl⟩, decide_eq_true fun hkey => hends ?_⟩
        -- sources with one key are the same
        have hdigest := digestOf_eq_of_keyOf_eq hkey
        have hsrc := hputs src c now (by simp)
        have hother := hputs.of_concat other d time hkept.mem_put
        rw [ends_put_iff]
        exact ⟨hopen, (hapart other hother src hsrc hdigest).symm⟩

/-- What is too old is removed. -/
lemma purge (h : Reflects place calls st) (hopen : Open calls) (before : ℤ) :
    Reflects place (calls ++ [.purge before])
      { st with rows := st.rows.filter fun r => before ≤ r.2.created } where
  place_eq := h.place_eq
  open_iff := by
    rw [open_concat]
    exact h.open_iff.trans (by simp)
  keyed := h.keyed.filter _
  mem_iff := by
    intro entry
    rw [List.mem_filter, h.mem_iff]
    constructor
    · rintro ⟨⟨src, c, now, hkept, rfl⟩, hold⟩
      refine ⟨src, c, now, kept_concat.mpr (.inr ⟨hkept, ?_⟩), rfl⟩
      rw [ends_purge_iff]
      rintro ⟨-, hlt⟩
      exact absurd (of_decide_eq_true hold) (not_le.mpr hlt)
    · rintro ⟨src, c, now, hkept, rfl⟩
      rcases kept_concat.mp hkept with ⟨-, heq⟩ | ⟨hkept, hends⟩
      · cases heq
      · rw [ends_purge_iff] at hends
        refine ⟨⟨src, c, now, hkept, rfl⟩, decide_eq_true (not_lt.mp fun hlt => hends ?_)⟩
        exact ⟨hopen, hlt⟩

/-- A store that is opened again has what it had, unless it is kept nowhere. -/
lemma reopen (h : Reflects place calls st) : Reflects place (calls ++ [.reopen]) st.reopen.1 := by
  have hopen : st.reopen.1.closed = false ↔ Open (calls ++ [.reopen]) := by
    rw [open_concat]
    exact iff_of_true rfl (.inl rfl)
  by_cases hplace : place = .memory
  · have hrows : st.reopen.1.rows = [] := if_pos (h.place_eq.trans hplace)
    refine ⟨h.place_eq, hopen, ?_, fun entry => ?_⟩
    · rw [hrows]
      exact List.nodup_nil
    · rw [hrows]
      refine iff_of_false List.not_mem_nil ?_
      rintro ⟨src, c, now, hkept, -⟩
      rcases kept_concat.mp hkept with ⟨-, heq⟩ | ⟨-, hends⟩
      · cases heq
      · exact hends (ends_reopen_iff.mpr hplace)
  · refine h.keep rfl ?_ hopen (by simp) fun src now => ?_
    · exact if_neg (h.place_eq ▸ hplace)
    · rw [ends_reopen_iff]
      exact hplace

/-- **One call keeps the invariant.** -/
lemma perform (h : Reflects place calls st) (hapart : Session.DigestsApart sources) {call : Call}
    (hputs : Among sources (calls ++ [call])) :
    Reflects place (calls ++ [call]) (st.perform call).2 := by
  by_cases hopen : Open calls
  · have hst := h.open_iff.mpr hopen
    have hstays (hclose : call ≠ .close) : st.closed = false ↔ Open (calls ++ [call]) := by
      rw [open_concat]
      exact iff_of_true hst (.inr ⟨hopen, hclose⟩)
    cases call with
    | put src c now =>
        rw [perform_put hst]
        exact h.put hapart hputs hopen
    | get src =>
        rw [perform_get hst]
        exact h.keep rfl rfl (hstays (by simp)) (by simp) (by simp [Call.Ends])
    | count =>
        rw [perform_count hst]
        exact h.keep rfl rfl (hstays (by simp)) (by simp) (by simp [Call.Ends])
    | purge before =>
        rw [perform_purge hst]
        exact h.purge hopen before
    | close =>
        refine h.keep rfl rfl ?_ (by simp) (by simp [Call.Ends])
        rw [open_concat]
        exact iff_of_false (by simp [Store.perform, close]) (by simp)
    | reopen => exact h.reopen
  · have hst : st.closed = true := by
      rw [← Bool.not_eq_false, h.open_iff]
      exact hopen
    by_cases hreopen : call = .reopen
    · rw [hreopen]
      exact h.reopen
    · -- nothing else changes the rows of a closed store, or opens it
      have hsame : (st.perform call).2 = { st with closed := true } := by
        by_cases hclose : call = .close
        · rw [hclose]
          rfl
        · obtain ⟨r, hr⟩ := exists_perform_of_closed hst hclose hreopen
          rw [hr, ← hst]
      rw [hsame]
      refine h.keep rfl rfl ?_ (fun _ _ _ hput => hopen hput.1) fun src now hends => ?_
      · rw [open_concat]
        exact iff_of_false (by simp) (by simp [hreopen, hopen])
      · rcases hends with ⟨hopen', -⟩ | ⟨-, heq⟩
        · exact hopen hopen'
        · exact hreopen heq

/-- **The invariant holds after all calls.** -/
lemma after (hempty : st.rows = []) (hopen : st.closed = false)
    (hapart : Session.DigestsApart sources) (hputs : Among sources calls) :
    Reflects st.place calls (st.after calls) := by
  induction calls using List.reverseRecOn with
  | nil =>
      refine ⟨rfl, iff_of_true hopen open_nil, ?_, fun entry => ?_⟩
      · rw [Store.after, List.foldl_nil, hempty]
        exact List.nodup_nil
      · rw [Store.after, List.foldl_nil, hempty]
        refine iff_of_false List.not_mem_nil ?_
        rintro ⟨src, c, now, hkept, -⟩
        exact not_since_nil hkept
  | append_singleton calls call ih =>
      rw [after_concat]
      exact (ih hputs.of_concat).perform hapart hputs

/-! ### What the rows are -/

/-- The row of a source is that of what was kept for it. -/
lemma row?_eq_some_iff (h : Reflects place calls st) (hapart : Session.DigestsApart sources)
    (hputs : Among sources calls) {src : Source} (hsrc : src ∈ sources) (row : Row) :
    st.row? (keyOf src) = some row ↔
      ∃ c now, Kept place src c now calls ∧ row = rowOf src c now := by
  rw [row?, h.keyed.lookup_eq_some_iff, h.mem_iff]
  constructor
  · rintro ⟨other, c, now, hkept, heq⟩
    obtain ⟨hkey, rfl⟩ := Prod.mk.inj heq
    have hother := hputs other c now hkept.mem_put
    obtain rfl := hapart src hsrc other hother (digestOf_eq_of_keyOf_eq hkey)
    exact ⟨c, now, hkept, rfl⟩
  · rintro ⟨c, now, hkept, rfl⟩
    exact ⟨src, c, now, hkept, rfl⟩

/-- What is found for a source is what the bytes of the chunk that was kept stand
for. -/
lemma chunk?_examine_eq_some_iff (h : Reflects place calls st)
    (hapart : Session.DigestsApart sources) (hputs : Among sources calls) {src : Source}
    (hsrc : src ∈ sources) (hzero : Wire.digestOf src ≠ .zero) {found : Chunk} :
    (examine src (st.row? (keyOf src))).chunk? = some found ↔
      src.bytes ≠ [] ∧ ∃ c now, Kept place src c now calls ∧
        Chunk.ofBytes (c.encode src) = .ok found := by
  have hrow := h.row?_eq_some_iff hapart hputs hsrc
  cases hfound : st.row? (keyOf src) with
  | none =>
      refine iff_of_false (by simp [examine, Finding.chunk?]) ?_
      rintro ⟨-, c, now, hkept, -⟩
      rw [(hrow _).mpr ⟨c, now, hkept, rfl⟩] at hfound
      cases hfound
  | some row =>
      obtain ⟨c, now, hkept, rfl⟩ := (hrow row).mp hfound
      have hlast : (∃ d later, Kept place src d later calls ∧
          Chunk.ofBytes (d.encode src) = .ok found) ↔ Chunk.ofBytes (c.encode src) = .ok found := by
        refine ⟨?_, fun hread => ⟨c, now, hkept, hread⟩⟩
        rintro ⟨d, later, hkept', hread⟩
        rwa [← (hkept.unique hkept').1]
      rw [chunk?_examine_rowOf_eq, hlast]
      by_cases hbytes : src.bytes = []
      · simp [hbytes]
      · cases hread : Chunk.ofBytes (c.encode src) <;> simp [hbytes, hzero, Except.toOption]

/-- Rows of some times are as many as sources for which a chunk of such a time was
kept. -/
lemma length_filter (h : Reflects place calls st) (hapart : Session.DigestsApart sources)
    (hputs : Among sources calls) (p : ℤ → Bool) :
    (st.rows.filter fun r => p r.2.created).length =
      {src | ∃ c now, Kept place src c now calls ∧ p now = true}.ncard := by
  set kept := {src | ∃ c now, Kept place src c now calls ∧ p now = true} with hkept
  set keys := (st.rows.filter fun r => p r.2.created).map Prod.fst with hkeys
  have himage : (keys.toFinset : Set String) = keyOf '' kept := by
    ext key
    simp only [hkeys, List.coe_toFinset, List.mem_map, List.mem_filter, h.mem_iff, hkept,
      Set.mem_ofPred_eq, Set.mem_image]
    constructor
    · rintro ⟨_, ⟨⟨src, c, now, hsrc, rfl⟩, hp⟩, rfl⟩
      exact ⟨src, ⟨c, now, hsrc, hp⟩, rfl⟩
    · rintro ⟨src, ⟨c, now, hsrc, hp⟩, rfl⟩
      exact ⟨_, ⟨⟨src, c, now, hsrc, rfl⟩, hp⟩, rfl⟩
  have hinj : Set.InjOn keyOf kept := by
    rintro a ⟨c, now, ha, -⟩ b ⟨d, later, hb, -⟩ hkey
    exact hapart a (hputs a c now ha.mem_put) b (hputs b d later hb.mem_put)
      (digestOf_eq_of_keyOf_eq hkey)
  calc (st.rows.filter fun r => p r.2.created).length
      = keys.length := by rw [hkeys, List.length_map]
    _ = keys.toFinset.card := (List.toFinset_card_of_nodup (h.keyed.filter _)).symm
    _ = (keyOf '' kept).ncard := by rw [← himage, Set.ncard_coe_finset]
    _ = kept.ncard := hinj.ncard_image

end Reflects

/-! ### Whole histories -/

variable {sources : List Source} {calls : List Call}

/-- **A store holds what its calls tell.** Let a store be empty and open at the start, and
let some calls have been made of it, at any times. As long as it is open, a chunk is found
for a source exactly if one is kept that was put in for it, and it is the chunk that the
bytes of the one put in last stand for; nothing is found for the empty source. The number
of rows is the number of sources for which something is kept. Rows are removed exactly if
they are too old, and as many are reported; nothing else is changed by asking, counting or
removing. A closed store refuses all of this and stays as it is. If it has a file, it is
found as it was when it is opened again. -/
theorem perform_after {st : Store} (hempty : st.rows = []) (hopen : st.closed = false)
    (hapart : Session.DigestsApart sources) (hzero : ∀ src ∈ sources, Wire.digestOf src ≠ .zero)
    (hputs : Among sources calls) :
    (Open calls →
      (∀ src c now, ((st.after calls).perform (.put src c now)).1 = .done) ∧
      (∀ src ∈ sources, ∃ chunk?,
        (st.after calls).perform (.get src) = (.found chunk?, st.after calls) ∧
        ∀ found, chunk? = some found ↔ src.bytes ≠ [] ∧
          ∃ c now, Kept st.place src c now calls ∧ Chunk.ofBytes (c.encode src) = .ok found) ∧
      (st.after calls).perform .count =
        (.number {src | ∃ c now, Kept st.place src c now calls}.ncard, st.after calls) ∧
      ∀ before, ∃ removed,
        (st.after calls).perform (.purge before) =
          (.number removed, { st.after calls with
            rows := (st.after calls).rows.filter fun r => before ≤ r.2.created }) ∧
        removed = ((st.after calls).rows.filter fun r => r.2.created < before).length ∧
        removed = {src | ∃ c now, Kept st.place src c now calls ∧ now < before}.ncard) ∧
    (¬ Open calls → ∀ call, call ≠ .close → call ≠ .reopen →
      ∃ r, (st.after calls).perform call = (.refused r, st.after calls)) ∧
    (st.place ≠ .memory →
      (st.after calls).close.reopen.1 = { st.after calls with closed := false }) := by
  have h := Reflects.after hempty hopen hapart hputs
  refine ⟨fun hcalls => ?_, fun hcalls call hclose hreopen => ?_, fun hplace => ?_⟩
  · have hst := h.open_iff.mpr hcalls
    refine ⟨fun src c now => ?_, fun src hsrc => ?_, ?_, fun before => ?_⟩
    · rw [perform_put hst]
    · refine ⟨_, perform_get hst src, fun found => ?_⟩
      exact h.chunk?_examine_eq_some_iff hapart hputs hsrc (hzero src hsrc)
    · rw [perform_count hst]
      simpa using h.length_filter hapart hputs fun _ => true
    · refine ⟨_, perform_purge hst before, rfl, ?_⟩
      simpa using h.length_filter hapart hputs fun now => now < before
  · have hst : (st.after calls).closed = true := by
      rw [← Bool.not_eq_false, h.open_iff]
      exact hcalls
    exact exists_perform_of_closed hst hclose hreopen
  · have hplace' : (st.after calls).place ≠ .memory := h.place_eq ▸ hplace
    simp [close, reopen, opened, hplace']

/-- Two chunks are put in for a source, one after the other. What is older than the second
is removed, and the store is closed and opened again: it has the second chunk. -/
theorem perform_after_replaced :
    let src : Source := .ofString "!false"
    let old : Chunk := ⟨#[0], #[1], #[]⟩
    let new : Chunk := ⟨#[1, 0, 13, 0], #[1, 1, 1, 1], #[.boolean false]⟩
    let st : Store := ⟨"chunks.db", .file "chunks.db", [], false⟩
    let calls : List Call := [.put src old 10, .put src new 20, .purge 15, .close, .reopen]
    (st.after calls).perform (.get src) = (.found (some new), st.after calls) ∧
      (st.after calls).perform .count = (.number 1, st.after calls) := by
  intro src old new st calls
  have hzero : Wire.digestOf src ≠ .zero := by decide +kernel
  have hbytes : src.bytes ≠ [] := by decide
  have hread : Chunk.ofBytes (new.encode src) = .ok new := by decide +kernel
  -- from here on it does not matter what the source and the chunks are
  clear_value src old new
  have hapart : Session.DigestsApart [src] := by simp [Session.DigestsApart]
  have hputs : Among [src] calls := by
    intro s c now hput
    simp only [calls, List.mem_cons, Call.put.injEq, reduceCtorEq, List.not_mem_nil,
      or_false] at hput
    obtain ⟨rfl, -⟩ | ⟨rfl, -⟩ := hput <;> simp
  have hsplit : calls = [] ++ [Call.put src old 10] ++ [Call.put src new 20] ++
      [Call.purge 15] ++ [Call.close] ++ [Call.reopen] := rfl
  have hcalls : Open calls := hsplit ▸ open_concat.mpr (.inl rfl)
  have hlast (s : Source) (c : Chunk) (now : ℤ) : Kept st.place s c now calls ↔
      (src = s ∧ new = c ∧ 20 = now ∨ (src = s ∧ old = c ∧ 10 = now) ∧ src ≠ s) ∧ 15 ≤ now := by
    rw [hsplit]
    simp only [kept_concat, open_concat, ends_put_iff, ends_purge_iff, ends_reopen_iff]
    simp [Call.Ends, open_nil, not_since_nil, Kept]
  have hkept (s : Source) (c : Chunk) (now : ℤ) :
      Kept st.place s c now calls ↔ s = src ∧ c = new ∧ now = 20 := by
    rw [hlast]
    constructor
    · rintro ⟨⟨rfl, rfl, rfl⟩ | ⟨⟨rfl, -, -⟩, hs⟩, -⟩
      · exact ⟨rfl, rfl, rfl⟩
      · exact absurd rfl hs
    · rintro ⟨rfl, rfl, rfl⟩
      exact ⟨.inl ⟨rfl, rfl, rfl⟩, by decide⟩
  have hempty : st.rows = [] := rfl
  obtain ⟨hopen, -⟩ := perform_after hempty rfl hapart (by simp [hzero]) hputs
  obtain ⟨-, hget, hcount, -⟩ := hopen hcalls
  obtain ⟨chunk?, hfound, hiff⟩ := hget src (by simp)
  have hnew : chunk? = some new :=
    (hiff new).mpr ⟨hbytes, new, 20, (hkept src new 20).mpr ⟨rfl, rfl, rfl⟩, hread⟩
  have hsources : {s | ∃ c now, Kept st.place s c now calls} = {src} := by
    ext s
    simp [hkept]
  rw [hsources, Set.ncard_singleton] at hcount
  exact ⟨hnew ▸ hfound, hcount⟩

end ExprMachine.Store
