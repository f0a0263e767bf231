import ExprMachine.Proofs.Store.Lookup
import ExprMachine.Session

/-!
A session with a store answers like one without.

A session is driven by calls, each of which may find the store out of order. What
the store holds for a source is the chunk that the source compiles to, so that it
does not matter whether a chunk was found or compiled.

* `Session.Call`, `Session.perform`, `Session.replies`, `Session.after`: calls,
  what is seen of them, and the session after them.
* `Session.Faithful`: **the invariant**, on the sources of a run.
* `Session.compile_cases`: what one call can do.
* `Session.fst_compile`, `Session.fst_interpret`: what a call makes of a source does not
  depend on the store.
* `Session.faithful_perform`, `Session.perform_congr`: one call keeps the invariant and
  is answered as without a store.
* `Session.compiles_after`, `Session.misses`: how many sources are compiled.
* `Session.replies_without_store`: all of it over whole runs.
-/

namespace ExprMachine

/-- Whether a source compiles. -/
def Source.compiles (s : Source) : Bool := s.compile.isOk

lemma Source.compiles_of_eq_ok {s : Source} {c : Chunk} (h : s.compile = .ok c) :
    s.compiles = true := by
  rw [compiles, h]
  rfl

lemma Source.compiles_of_eq_error {s : Source} {ds : List Diagnostic}
    (h : s.compile = .error ds) : s.compiles = false := by
  rw [compiles, h]
  rfl

namespace Session

/-! ### Calls -/

/-- What is asked for. -/
inductive Request where
  /-- The value of the source. -/
  | interpret
  /-- The chunk of the source. -/
  | compile
  deriving DecidableEq, Repr

/-- A call of a session. -/
structure Call where
  /-- What is asked for. -/
  request : Request
  /-- The source. -/
  source : Source
  /-- What fails of the store during the call. -/
  outage : Outage
  /-- When the call is made. -/
  now : ℤ

/-- What is seen of a call, the log apart. -/
inductive Reply where
  /-- A value, and what was shown on the way to it. -/
  | value (result : Except Error Value) (out trace listing : String)
  /-- A chunk. -/
  | chunk (result : Except (List Diagnostic) Chunk)
  deriving DecidableEq

/-- One call. -/
def perform (s : Session) (call : Call) : Reply × Session :=
  match call.request with
  | .interpret =>
      let (result, shown, s') := s.interpret call.outage call.now call.source
      (.value result shown.out shown.trace shown.listing, s')
  | .compile =>
      let (result, _, s') := s.compile call.outage call.now call.source
      (.chunk result, s')

/-- What is seen of calls made one after the other. -/
def replies : Session → List Call → List Reply
  | _, [] => []
  | s, call :: calls => (s.perform call).1 :: replies (s.perform call).2 calls

/-- The session after some calls. -/
def after : Session → List Call → Session
  | s, [] => s
  | s, call :: calls => after (s.perform call).2 calls

/-- How many calls have a source that compiles and is not found in the store. -/
def misses : Session → List Call → ℕ
  | _, [] => 0
  | s, call :: calls =>
      (if call.source.compiles ∧ (s.lookup call.outage call.source).1 = none then 1 else 0)
        + misses (s.perform call).2 calls

/-! ### What one call does -/

/-- With the store in order, what is found is what the row of the source holds. -/
lemma fst_lookup_of_open {s : Session} {st : Store} (hstore : s.store? = some st)
    (hclosed : st.closed = false) {o : Outage} (ho : o.lookup? = none) (src : Source) :
    (s.lookup o src).1 = (Store.examine src (st.row? (Store.keyOf src))).chunk? := by
  simp [lookup, hstore, ho, Store.lookup, hclosed]

/-- Nothing is found unless the store is in order. -/
lemma exists_store_of_lookup {s : Session} {o : Outage} {src : Source} {c : Chunk}
    (h : (s.lookup o src).1 = some c) :
    ∃ st, s.store? = some st ∧ st.closed = false ∧ o.lookup? = none := by
  rw [lookup] at h
  cases hstore : s.store? with
  | none => simp [hstore] at h
  | some st =>
      cases ho : o.lookup? with
      | some reason => simp [hstore, ho] at h
      | none =>
          cases hclosed : st.closed with
          | true => simp [hstore, ho, Store.lookup, hclosed] at h
          | false => exact ⟨st, rfl, hclosed, rfl⟩

/-- Saving leaves the session as it is, or writes the row of the source. -/
lemma fst_save (s : Session) (o : Outage) (now : ℤ) (src : Source) (c : Chunk) :
    (s.save o now src c).1 = s ∨
      ∃ st, s.store? = some st ∧
        (s.save o now src c).1 =
          { s with store? := some (st.insert (Store.keyOf src) (Store.rowOf src c now)) } := by
  rw [save]
  cases hstore : s.store? with
  | none => exact .inl rfl
  | some st =>
      cases hsave : o.save? with
      | some reason => exact .inl rfl
      | none =>
          by_cases hclosed : st.closed = true
          · exact .inl (by simp [Store.save, hclosed])
          · exact .inr ⟨st, rfl, by simp [Store.save, hclosed, Store.rowOf]⟩

/-- With the store in order, saving writes the row. -/
lemma fst_save_of_open {s : Session} {st : Store} (hstore : s.store? = some st)
    (hclosed : st.closed = false) {o : Outage} (ho : o.save? = none) (now : ℤ) (src : Source)
    (c : Chunk) :
    (s.save o now src c).1 =
      { s with store? := some (st.insert (Store.keyOf src) (Store.rowOf src c now)) } := by
  simp [save, hstore, ho, Store.save, hclosed, Store.rowOf]

/-- A chunk is found, or the source does not compile, or it is compiled and
saved. -/
lemma compile_cases (s : Session) (o : Outage) (now : ℤ) (src : Source) :
    (∃ c, (s.lookup o src).1 = some c ∧ (s.compile o now src).1 = .ok c ∧
      (s.compile o now src).2.2 = s) ∨
    (∃ ds, (s.lookup o src).1 = none ∧ src.compile = .error ds ∧
      (s.compile o now src).1 = .error ds ∧ (s.compile o now src).2.2 = s) ∨
    (∃ c, (s.lookup o src).1 = none ∧ src.compile = .ok c ∧ (s.compile o now src).1 = .ok c ∧
      (s.compile o now src).2.2 = ({ s with compiles := s.compiles + 1 }.save o now src c).1) := by
  rw [compile]
  obtain ⟨found, log⟩ := s.lookup o src
  cases found with
  | some c => exact .inl ⟨c, rfl, rfl, rfl⟩
  | none =>
      cases hc : src.compile with
      | error ds => exact .inr (.inl ⟨ds, rfl, rfl, rfl, rfl⟩)
      | ok c => exact .inr (.inr ⟨c, rfl, rfl, rfl, rfl⟩)

/-- Interpreting changes a session as compiling does. -/
lemma snd_perform (s : Session) (call : Call) :
    (s.perform call).2 = (s.compile call.outage call.now call.source).2.2 := by
  rw [perform, interpret]
  cases call.request with
  | interpret =>
      obtain ⟨result, log, s'⟩ := s.compile call.outage call.now call.source
      cases result <;> rfl
  | compile => rfl

/-- Calls do not change how a session shows things. -/
lemma settings_perform (s : Session) (call : Call) :
    (s.perform call).2.traces = s.traces ∧ (s.perform call).2.listing = s.listing ∧
      (s.perform call).2.logger = s.logger := by
  rw [snd_perform]
  obtain ⟨c, -, -, hs⟩ | ⟨ds, -, -, -, hs⟩ | ⟨c, -, -, -, hs⟩ :=
    s.compile_cases call.outage call.now call.source
  · rw [hs]
    exact ⟨rfl, rfl, rfl⟩
  · rw [hs]
    exact ⟨rfl, rfl, rfl⟩
  · rw [hs]
    rcases fst_save { s with compiles := s.compiles + 1 } call.outage call.now call.source c with
      h | ⟨st, -, h⟩
    · rw [h]
      exact ⟨rfl, rfl, rfl⟩
    · rw [h]
      exact ⟨rfl, rfl, rfl⟩

/-! ### The invariant -/

/-- The row of each of some sources, if there is one, is the row of its compiled
chunk. -/
def Faithful (sources : List Source) (s : Session) : Prop :=
  ∀ st, s.store? = some st → ∀ src ∈ sources, ∀ row, st.row? (Store.keyOf src) = some row →
    ∃ c now, src.compile = .ok c ∧ row = Store.rowOf src c now

/-- Different sources among some have different digests. -/
def DigestsApart (sources : List Source) : Prop :=
  ∀ a ∈ sources, ∀ b ∈ sources, Wire.digestOf a = Wire.digestOf b → a = b

variable {sources : List Source} {s : Session}

/-- What is found for a source is what it compiles to. -/
lemma compile_of_lookup (hs : Faithful sources s) {src : Source} (hsrc : src ∈ sources)
    {o : Outage} {c : Chunk} (h : (s.lookup o src).1 = some c) : src.compile = .ok c := by
  obtain ⟨st, hstore, hclosed, ho⟩ := exists_store_of_lookup h
  rw [fst_lookup_of_open hstore hclosed ho] at h
  cases hrow : st.row? (Store.keyOf src) with
  | none =>
      rw [hrow] at h
      cases h
  | some row =>
      obtain ⟨c', now, hc', rfl⟩ := hs st hstore src hsrc row hrow
      rw [hrow, Store.chunk?_examine_rowOf hc' now] at h
      split_ifs at h
      rw [hc', Option.some_inj.mp h]

/-- A source is given the chunk that it compiles to, or the findings about it. -/
lemma fst_compile (hs : Faithful sources s) {src : Source} (hsrc : src ∈ sources) (o : Outage)
    (now : ℤ) : (s.compile o now src).1 = src.compile := by
  obtain ⟨c, hfound, hresult, -⟩ | ⟨ds, -, hc, hresult, -⟩ | ⟨c, -, hc, hresult, -⟩ :=
    s.compile_cases o now src
  · rw [hresult, compile_of_lookup hs hsrc hfound]
  · rw [hresult, hc]
  · rw [hresult, hc]

/-- A chunk that is run comes to its value, whatever is shown of the run. -/
lemma fst_runChunk (hlisting : ∀ reason, s.listing ≠ .failing reason) (c : Chunk) :
    (s.runChunk (some c)).1 = c.evaluate.mapError .run := by
  have hresult : ∀ observer, ((Machine.new (some c)).evaluate observer).1.result = c.evaluate :=
    fun _ => rfl
  unfold runChunk
  cases hl : s.listing with
  | nowhere => cases he : c.evaluate <;> simp [hresult, he, Except.mapError]
  | shown => cases he : c.evaluate <;> simp [hresult, he, Except.mapError]
  | failing reason => exact absurd hl (hlisting reason)

/-- A source is given the value of its chunk, wherever the chunk comes from. -/
lemma fst_interpret (hs : Faithful sources s) {src : Source} (hsrc : src ∈ sources)
    (hlisting : ∀ reason, s.listing ≠ .failing reason) (o : Outage) (now : ℤ) :
    (s.interpret o now src).1 =
      (src.compile.mapError .compile).bind fun c => c.evaluate.mapError .run := by
  have hcompile := fst_compile hs hsrc o now
  obtain ⟨-, hkept, -⟩ := s.settings_perform ⟨.compile, src, o, now⟩
  rw [snd_perform] at hkept
  rw [interpret]
  generalize s.compile o now src = r at hcompile hkept ⊢
  obtain ⟨result, log, s'⟩ := r
  rw [← hcompile]
  cases result with
  | error ds => rfl
  | ok c => exact fst_runChunk (fun reason => hkept ▸ hlisting reason) c

/-- A call keeps the invariant: it writes at most the row of its own source. -/
lemma faithful_perform (hs : Faithful sources s) (hapart : DigestsApart sources) {call : Call}
    (hsrc : call.source ∈ sources) : Faithful sources (s.perform call).2 := by
  rw [snd_perform]
  obtain ⟨c, -, -, heq⟩ | ⟨ds, -, -, -, heq⟩ | ⟨c, -, hc, -, heq⟩ :=
    s.compile_cases call.outage call.now call.source
  · rwa [heq]
  · rwa [heq]
  · rw [heq]
    rcases fst_save { s with compiles := s.compiles + 1 } call.outage call.now call.source c with
      h | ⟨st, hstore, h⟩
    · rw [h]
      exact hs
    · rw [h]
      intro st' hst' src hmem row hrow
      obtain rfl := Option.some_inj.mp hst'
      rw [Store.row?_insert] at hrow
      split_ifs at hrow with hkey
      · -- the row just written is that of a source with the same digest
        obtain rfl := hapart src hmem call.source hsrc (Store.digestOf_eq_of_keyOf_eq hkey)
        exact ⟨c, call.now, hc, (Option.some_inj.mp hrow).symm⟩
      · exact hs st hstore src hmem row hrow

/-! ### With and without a store -/

/-- A run of a chunk depends on a session only by how it shows things. -/
lemma runChunk_congr {t : Session} (htraces : s.traces = t.traces)
    (hlisting : s.listing = t.listing) (hlogger : s.logger = t.logger) (c? : Option Chunk) :
    s.runChunk c? = t.runChunk c? := by
  simp only [runChunk, entry]
  rw [htraces, hlisting, hlogger]

/-- Sessions that show things alike and hold nothing but compiled chunks give the
same reply. -/
lemma perform_congr {t : Session} (hs : Faithful sources s) (ht : Faithful sources t)
    (htraces : s.traces = t.traces) (hlisting : s.listing = t.listing)
    (hlogger : s.logger = t.logger) {call : Call} (hsrc : call.source ∈ sources) :
    (s.perform call).1 = (t.perform call).1 := by
  have hs' := fst_compile hs hsrc call.outage call.now
  have ht' := fst_compile ht hsrc call.outage call.now
  obtain ⟨h1, h2, h3⟩ := s.settings_perform call
  obtain ⟨k1, k2, k3⟩ := t.settings_perform call
  rw [snd_perform] at h1 h2 h3 k1 k2 k3
  simp only [perform, interpret]
  cases call.request with
  | compile => simp only [hs', ht']
  | interpret =>
      generalize s.compile call.outage call.now call.source = left at *
      generalize t.compile call.outage call.now call.source = right at *
      obtain ⟨result, log, s'⟩ := left
      obtain ⟨result', log', t'⟩ := right
      obtain rfl : result = result' := hs'.trans ht'.symm
      cases result with
      | error ds => rfl
      | ok c =>
          have hrun : s'.runChunk (some c) = t'.runChunk (some c) := by
            refine runChunk_congr ?_ ?_ ?_ _
            · exact h1.trans (htraces.trans k1.symm)
            · exact h2.trans (hlisting.trans k2.symm)
            · exact h3.trans (hlogger.trans k3.symm)
          simp only [hrun]

/-- Sessions that show things alike and hold nothing but compiled chunks give the
same replies. -/
lemma replies_congr {t : Session} (hapart : DigestsApart sources) (calls : List Call)
    (hs : Faithful sources s) (ht : Faithful sources t) (htraces : s.traces = t.traces)
    (hlisting : s.listing = t.listing) (hlogger : s.logger = t.logger)
    (hsrc : ∀ call ∈ calls, call.source ∈ sources) : s.replies calls = t.replies calls := by
  induction calls generalizing s t with
  | nil => rfl
  | cons call calls ih =>
      have hcall := hsrc call List.mem_cons_self
      obtain ⟨h1, h2, h3⟩ := s.settings_perform call
      obtain ⟨k1, k2, k3⟩ := t.settings_perform call
      rw [replies, replies, perform_congr hs ht htraces hlisting hlogger hcall]
      congr 1
      refine ih (faithful_perform hs hapart hcall) (faithful_perform ht hapart hcall) ?_ ?_ ?_
        fun c hc => hsrc c (List.mem_cons_of_mem call hc)
      · rw [h1, htraces, k1]
      · rw [h2, hlisting, k2]
      · rw [h3, hlogger, k3]

/-! ### How many sources are compiled -/

/-- A call compiles its source if the source compiles and is not found. -/
lemma compiles_perform (s : Session) (call : Call) :
    (s.perform call).2.compiles = s.compiles +
      if call.source.compiles ∧ (s.lookup call.outage call.source).1 = none then 1 else 0 := by
  rw [snd_perform]
  obtain ⟨c, hfound, -, heq⟩ | ⟨ds, -, hc, -, heq⟩ | ⟨c, hfound, hc, -, heq⟩ :=
    s.compile_cases call.outage call.now call.source
  · rw [heq, hfound]
    simp
  · rw [heq, Source.compiles_of_eq_error hc]
    simp
  · rw [heq, hfound, Source.compiles_of_eq_ok hc]
    rcases fst_save { s with compiles := s.compiles + 1 } call.outage call.now call.source c with
      h | ⟨st, -, h⟩
    · rw [h]
      simp
    · rw [h]
      simp

/-- The calls whose source compiles and is not found are counted. -/
lemma compiles_after (s : Session) (calls : List Call) :
    (s.after calls).compiles = s.compiles + s.misses calls := by
  induction calls generalizing s with
  | nil => rfl
  | cons call calls ih => rw [after, ih, compiles_perform, misses, add_assoc]

/-- The store is open and has a row for those of some sources that compile and
have been seen. -/
def Stocked (sources seen : List Source) (s : Session) : Prop :=
  ∃ st, s.store? = some st ∧ st.closed = false ∧
    ∀ src ∈ sources, src.compiles = true →
      ((st.row? (Store.keyOf src)).isSome = true ↔ src ∈ seen)

/-- The sources have digests, and their chunks can be read back. -/
def Kept (sources : List Source) : Prop :=
  ∀ src ∈ sources, Wire.digestOf src ≠ .zero ∧
    ∀ c, src.compile = .ok c → c.code.size ≤ Cbor.maxEntries

variable {seen : List Source}

/-- A source that compiles is not found as long as it has not been seen. -/
lemma lookup_eq_none_iff (hs : Faithful sources s) (hstock : Stocked sources seen s)
    (hkept : Kept sources) {src : Source} (hsrc : src ∈ sources) (hcompiles : src.compiles = true)
    {o : Outage} (ho : o.lookup? = none) : (s.lookup o src).1 = none ↔ src ∉ seen := by
  obtain ⟨st, hstore, hclosed, hrows⟩ := hstock
  have hseen := hrows src hsrc hcompiles
  rw [fst_lookup_of_open hstore hclosed ho, ← hseen]
  cases hrow : st.row? (Store.keyOf src) with
  | none => exact iff_of_true rfl (by simp)
  | some row =>
      obtain ⟨c, now, hc, rfl⟩ := hs st hstore src hsrc row hrow
      obtain ⟨hzero, hsize⟩ := hkept src hsrc
      rw [Store.chunk?_examine_rowOf hc now, if_pos ⟨hsize c hc, hzero⟩]
      simp

/-- A call with the store in order puts in the row of its source. -/
lemma stocked_perform (hs : Faithful sources s) (hstock : Stocked sources seen s)
    (hkept : Kept sources) (hapart : DigestsApart sources) {call : Call}
    (hsrc : call.source ∈ sources) (ho : call.outage = .none) :
    Stocked sources (call.source :: seen) (s.perform call).2 := by
  have hlookup : call.outage.lookup? = none := by rw [ho]; rfl
  have hsave : call.outage.save? = none := by rw [ho]; rfl
  have hnone := lookup_eq_none_iff hs hstock hkept hsrc
  obtain ⟨st, hstore, hclosed, hrows⟩ := hstock
  rw [snd_perform]
  obtain ⟨c, hfound, -, heq⟩ | ⟨ds, -, hc, -, heq⟩ | ⟨c, -, hc, -, heq⟩ :=
    s.compile_cases call.outage call.now call.source
  · -- a source that is found has been seen before
    have hcompiles := Source.compiles_of_eq_ok (compile_of_lookup hs hsrc hfound)
    have hseen : call.source ∈ seen := by
      by_contra hnot
      rw [(hnone hcompiles hlookup).mpr hnot] at hfound
      cases hfound
    rw [heq]
    refine ⟨st, hstore, hclosed, fun src hmem h => (hrows src hmem h).trans ?_⟩
    rw [List.mem_cons]
    exact ⟨.inr, fun hor => hor.elim (fun he => he ▸ hseen) id⟩
  · have hnot := Source.compiles_of_eq_error hc
    rw [heq]
    refine ⟨st, hstore, hclosed, fun src hmem h => (hrows src hmem h).trans ?_⟩
    have hne : src ≠ call.source := by
      rintro rfl
      rw [h] at hnot
      cases hnot
    simp [hne]
  · have hstore' : { s with compiles := s.compiles + 1 }.store? = some st := hstore
    rw [heq, fst_save_of_open hstore' hclosed hsave]
    refine ⟨_, rfl, hclosed, fun src hmem h => ?_⟩
    rw [Store.row?_insert, List.mem_cons]
    split_ifs with hkey
    · have he := hapart src hmem call.source hsrc (Store.digestOf_eq_of_keyOf_eq hkey)
      exact iff_of_true rfl (.inl he)
    · have hne : src ≠ call.source := fun he => hkey (congrArg Store.keyOf he)
      rw [hrows src hmem h]
      simp [hne]

/-- The sources among some that compile, each once. -/
def compilable (sources : List Source) : Finset Source :=
  (sources.filter Source.compiles).toFinset

/-- One more source counts if it compiles and is new. -/
lemma card_compilable_cons (src : Source) (seen : List Source) :
    (compilable (src :: seen)).card =
      (compilable seen).card + if src.compiles ∧ src ∉ seen then 1 else 0 := by
  simp only [compilable]
  cases hcompiles : src.compiles with
  | false => simp [hcompiles]
  | true =>
      rw [List.filter_cons_of_pos hcompiles, List.toFinset_cons]
      by_cases hmem : src ∈ seen
      · rw [Finset.insert_eq_of_mem (by simp [hmem, hcompiles])]
        simp [hmem]
      · rw [Finset.card_insert_of_notMem (by simp [hmem])]
        simp [hmem]

/-- With the store in order, each source that compiles is compiled once. -/
lemma card_add_misses (hapart : DigestsApart sources) (hkept : Kept sources) (calls : List Call)
    (hs : Faithful sources s) (hstock : Stocked sources seen s)
    (hsrc : ∀ call ∈ calls, call.source ∈ sources) (ho : ∀ call ∈ calls, call.outage = .none) :
    (compilable seen).card + s.misses calls =
      (compilable (calls.map Call.source ++ seen)).card := by
  induction calls generalizing s seen with
  | nil => rfl
  | cons call calls ih =>
      have hcall := hsrc call List.mem_cons_self
      have hout := ho call List.mem_cons_self
      have hlookup : call.outage.lookup? = none := by rw [hout]; rfl
      have hnew : (call.source.compiles = true ∧
          (s.lookup call.outage call.source).1 = none) ↔
            (call.source.compiles = true ∧ call.source ∉ seen) :=
        and_congr_right fun h => lookup_eq_none_iff hs hstock hkept hcall h hlookup
      have hrest := ih (faithful_perform hs hapart hcall)
        (stocked_perform hs hstock hkept hapart hcall hout)
        (fun c hc => hsrc c (List.mem_cons_of_mem call hc))
        (fun c hc => ho c (List.mem_cons_of_mem call hc))
      have hsame : compilable (calls.map Call.source ++ call.source :: seen) =
          compilable (call.source :: (calls.map Call.source ++ seen)) := by
        ext src
        simp only [compilable, List.mem_toFinset, List.mem_filter, List.mem_append, List.mem_cons]
        rw [or_left_comm]
      rw [card_compilable_cons, hsame] at hrest
      simp only [misses, hnew, List.map_cons, List.cons_append]
      omega

/-! ### Whole runs -/

/-- **The store is transparent.** A session whose store was empty at the start gives
to any sequence of calls, whatever fails of the store in each of them, the replies of
the same session without a store. It has compiled as often as a call had a source
that compiles and was not found; and if nothing failed and no chunk was too long to
be read back, it has compiled each source that compiles once. -/
theorem replies_without_store (s : Session) (st : Store) (calls : List Call)
    (hstore : s.store? = some st) (hempty : st.rows = [])
    (hapart : DigestsApart (calls.map Call.source))
    (hzero : ∀ call ∈ calls, Wire.digestOf call.source ≠ .zero) :
    s.replies calls = { s with store? := none }.replies calls ∧
    (s.after calls).compiles = s.compiles + s.misses calls ∧
    (st.closed = false → (∀ call ∈ calls, call.outage = .none) →
      (∀ call ∈ calls, ∀ c, call.source.compile = .ok c → c.code.size ≤ Cbor.maxEntries) →
      (s.after calls).compiles =
        s.compiles + (compilable (calls.map Call.source)).card) := by
  have hrow : ∀ key, st.row? key = none := by
    intro key
    rw [Store.row?, hempty]
    rfl
  have hsrc : ∀ call ∈ calls, call.source ∈ calls.map Call.source :=
    fun call hcall => List.mem_map_of_mem hcall
  have hs : Faithful (calls.map Call.source) s := by
    intro st' hst' src _ row h
    obtain rfl : st = st' := Option.some_inj.mp (hstore.symm.trans hst')
    rw [hrow] at h
    cases h
  have ht : Faithful (calls.map Call.source) { s with store? := none } := by
    intro st' hst'
    cases hst'
  refine ⟨replies_congr hapart calls hs ht rfl rfl rfl hsrc, s.compiles_after calls, ?_⟩
  intro hclosed ho hsize
  have hkept : Kept (calls.map Call.source) := by
    intro src hmem
    obtain ⟨call, hcall, rfl⟩ := List.mem_map.mp hmem
    exact ⟨hzero call hcall, hsize call hcall⟩
  have hstock : Stocked (calls.map Call.source) [] s := by
    refine ⟨st, hstore, hclosed, fun src _ _ => ?_⟩
    rw [hrow]
    simp
  have hcount := card_add_misses hapart hkept calls hs hstock hsrc ho
  rw [List.append_nil, show (compilable []).card = 0 from rfl, zero_add] at hcount
  rw [compiles_after, hcount]

/-- A product that is interpreted, found again and then compiled, and a source that
does not compile in between: the product is compiled once. -/
theorem replies_without_store_product :
    let s : Session := ⟨true, .shown, some ⟨":memory:", .memory, [], false⟩, "session", 0⟩
    let calls : List Call :=
      [⟨.interpret, .ofString "6*7", .none, 0⟩, ⟨.interpret, .ofString "6*", .none, 1⟩,
        ⟨.interpret, .ofString "6*7", .none, 2⟩, ⟨.compile, .ofString "6*7", .none, 3⟩]
    s.replies calls = { s with store? := none }.replies calls ∧
      (s.after calls).compiles = s.misses calls ∧ (s.after calls).compiles = 1 := by
  intro s calls
  have hmem : ∀ src ∈ calls.map Call.source,
      src = Source.ofString "6*7" ∨ src = Source.ofString "6*" := by
    simp [calls]
  obtain ⟨hne, hzero₁, hzero₂⟩ :
      Wire.digestOf (.ofString "6*7") ≠ Wire.digestOf (.ofString "6*") ∧
        Wire.digestOf (.ofString "6*7") ≠ .zero ∧ Wire.digestOf (.ofString "6*") ≠ .zero := by
    decide +kernel
  have hapart : DigestsApart (calls.map Call.source) := by
    intro a ha b hb h
    rcases hmem a ha with rfl | rfl <;> rcases hmem b hb with rfl | rfl
    · rfl
    · exact absurd h hne
    · exact absurd h.symm hne
    · rfl
  have hzero : ∀ call ∈ calls, Wire.digestOf call.source ≠ .zero := by
    intro call hcall
    rcases hmem call.source (List.mem_map_of_mem hcall) with h | h
    · rwa [h]
    · rwa [h]
  have hsize : ∀ call ∈ calls, ∀ c, call.source.compile = .ok c →
      c.code.size ≤ Cbor.maxEntries := by
    have hall : ∀ call ∈ calls, ∀ c ∈ call.source.compile.toOption,
        c.code.size ≤ Cbor.maxEntries := by decide +kernel
    intro call hcall c hc
    exact hall call hcall c (by rw [hc]; rfl)
  obtain ⟨hreplies, hmisses, hdistinct⟩ :=
    replies_without_store s _ calls rfl rfl hapart hzero
  refine ⟨hreplies, by simpa [s] using hmisses, ?_⟩
  rw [hdistinct rfl (by decide +kernel) hsize]
  decide +kernel

end Session

end ExprMachine
