import ExprMachine.Proofs.Session.Transparency
import ExprMachine.Proofs.Wire.Accepted

/-!
A session whose store holds anything at all.

Whatever the rows of a store are, and whoever wrote them, looking a source up is not
refused, and only a row that passes every check is taken for its chunk. A source that
is not found is compiled as if there were no store, and its row is written anew, which
mends the store at this one place.

* `Store.validate_of_hits`: what is found is well formed.
* `Session.exists_store_of_compile`: the store after a source was compiled.
* `Session.compile_heals`: **bad rows do no harm, and are mended**.
-/

namespace ExprMachine

/-- What is found is well formed. -/
lemma Store.validate_of_hits {st : Store} (hopen : st.closed = false) {s : Source} {c : Chunk}
    (h : st.Hits s c) : c.validate = .ok () := by
  obtain ⟨_, w, -, -, -, -, -, hchunk⟩ := chunk?_examine_eq_some_iff.mp ((hits_iff hopen).mp h)
  obtain ⟨-, -, -, -, hvalid⟩ := Wire.toChunk_eq_ok_iff.mp hchunk
  exact hvalid

namespace Session

variable {s : Session} {st : Store} {src : Source}

/-- With the store in order, nothing is found exactly if the store has no chunk. -/
lemma fst_lookup_eq_none_iff (hstore : s.store? = some st) (hopen : st.closed = false) :
    (s.lookup .none src).1 = none ↔ ∀ c, ¬ st.Hits src c := by
  rw [fst_lookup_of_open hstore hopen rfl, Option.eq_none_iff_forall_ne_some]
  exact forall_congr' fun c => not_congr (Store.hits_iff hopen).symm

/-- A source that does not compile leaves the session as it is. -/
lemma snd_compile_of_error {ds : List Diagnostic} (hc : src.compile = .error ds) (o : Outage)
    (now : ℤ) : (s.compile o now src).2.2 = s := by
  obtain ⟨c, -, -, heq⟩ | ⟨es, -, -, -, heq⟩ | ⟨c, -, hc', -⟩ := s.compile_cases o now src
  · exact heq
  · exact heq
  · rw [hc] at hc'
    cases hc'

/-- A source that is not found is compiled, and its row is written. -/
lemma exists_store_of_compile (hstore : s.store? = some st) (hopen : st.closed = false)
    (hmiss : ∀ c, ¬ st.Hits src c) {c : Chunk} (hc : src.compile = .ok c) (now : ℤ) :
    (s.compile .none now src).1 = .ok c ∧
      (s.compile .none now src).2.2.store? =
        some (st.insert (Store.keyOf src) (Store.rowOf src c now)) := by
  have hnone := (fst_lookup_eq_none_iff hstore hopen).mpr hmiss
  obtain ⟨d, hfound, -⟩ | ⟨ds, -, hc', -⟩ | ⟨d, -, hc', hresult, heq⟩ :=
    s.compile_cases .none now src
  · rw [hnone] at hfound
    cases hfound
  · rw [hc] at hc'
    cases hc'
  · obtain rfl := Except.ok.inj (hc.symm.trans hc')
    have hstore' : { s with compiles := s.compiles + 1 }.store? = some st := hstore
    rw [heq, fst_save_of_open hstore' hopen rfl]
    exact ⟨hresult, rfl⟩

/-- **Bad rows do no harm, and are mended.** Let the rows of an open store be any at all.
No source is refused. A chunk is found for a source exactly if the row of its digest was
written by the current version, stands for a portable chunk that carries this digest,
and makes this chunk, which is well formed then. A source that is not found is compiled
as without a store, and then its row is the new one and no other row has changed; so its
chunk is found from then on, if it is not too long to be read back and the source has a
digest. A source that does not compile changes nothing. -/
theorem compile_heals (s : Session) (st : Store) (hstore : s.store? = some st)
    (hopen : st.closed = false) (src : Source) (now : ℤ) :
    (∃ found log, st.lookup src = .ok (found, log)) ∧
    (∀ c, st.Hits src c ↔
      ∃ row w, st.row? (Store.keyOf src) = some row ∧ row.version = 1 ∧
        Wire.decode row.data = .ok w ∧ w.digest ≠ .zero ∧ w.digest = Wire.digestOf src ∧
        w.toChunk = .ok c) ∧
    (∀ c, st.Hits src c → c.validate = .ok ()) ∧
    ((∀ c, ¬ st.Hits src c) → ∀ c, src.compile = .ok c →
      (s.compile .none now src).1 = .ok c ∧
      ∃ mended, (s.compile .none now src).2.2.store? = some mended ∧ mended.closed = false ∧
        (∀ found, mended.Hits src found ↔
          found = c ∧ c.code.size ≤ 131072 ∧ Wire.digestOf src ≠ .zero) ∧
        ∀ key, mended.row? key =
          if key = Store.keyOf src then some (Store.rowOf src c now) else st.row? key) ∧
    (∀ ds, src.compile = .error ds → (s.compile .none now src).2.2 = s) := by
  refine ⟨Store.exists_lookup_eq hopen src, fun c => ?_, fun c => Store.validate_of_hits hopen,
    fun hmiss c hc => ?_, fun ds hc => snd_compile_of_error hc .none now⟩
  · rw [Store.hits_iff hopen, Store.chunk?_examine_eq_some_iff]
  · obtain ⟨hresult, hafter⟩ := exists_store_of_compile hstore hopen hmiss hc now
    set mended := st.insert (Store.keyOf src) (Store.rowOf src c now) with hmended
    have hopen' : mended.closed = false := hopen
    have hrows (key : String) : mended.row? key =
        if key = Store.keyOf src then some (Store.rowOf src c now) else st.row? key :=
      st.row?_insert (Store.keyOf src) key (Store.rowOf src c now)
    refine ⟨hresult, mended, hafter, hopen', fun found => ?_, hrows⟩
    rw [Store.hits_iff hopen', hrows, if_pos rfl, Store.chunk?_examine_rowOf hc now]
    split_ifs with h
    · rw [Option.some_inj, eq_comm]
      exact (and_iff_left h).symm
    · exact iff_of_false (by simp) fun hfound => h hfound.2

/-- The row of a negation cannot be read, and another row is of another version. The
negation is found once it has been compiled, and the other row is left alone. -/
theorem compile_heals_negation :
    let src : Source := .ofString "!false"
    let c : Chunk := ⟨#[1, 0, 13, 0], #[1, 1, 1, 1], #[.boolean false]⟩
    let st : Store :=
      ⟨":memory:", .memory, [(Store.keyOf src, ⟨1, [0xFF], 0⟩), ("ab", ⟨7, [], 0⟩)], false⟩
    let s : Session := ⟨false, .nowhere, some st, "session", 0⟩
    (∀ d, ¬ st.Hits src d) ∧ (s.compile .none 5 src).1 = .ok c ∧
      ∃ mended, (s.compile .none 5 src).2.2.store? = some mended ∧ mended.Hits src c ∧
        mended.row? "ab" = some ⟨7, [], 0⟩ := by
  intro src c st s
  have hc : src.compile = .ok c := by decide +kernel
  have hrow : st.row? (Store.keyOf src) = some ⟨1, [0xFF], 0⟩ := by simp [st, Store.row?]
  have hdecode : Wire.decode [0xFF] = .error .unreadable := by decide +kernel
  have hdigest : Wire.digestOf src ≠ .zero := by decide +kernel
  have hkey : "ab" ≠ Store.keyOf src := by
    intro h
    exact absurd (h ▸ Store.length_keyOf src) (by decide)
  obtain ⟨-, hhits, -, hmends, -⟩ := compile_heals s st rfl rfl src 5
  have hmiss (d : Chunk) : ¬ st.Hits src d := by
    rw [hhits, hrow]
    rintro ⟨row, w, hsome, -, hread, -⟩
    obtain rfl := Option.some_inj.mp hsome
    rw [hdecode] at hread
    cases hread
  obtain ⟨hresult, mended, hstore, -, hfound, hrows⟩ := hmends hmiss c hc
  refine ⟨hmiss, hresult, mended, hstore, (hfound c).mpr ⟨rfl, by decide, hdigest⟩, ?_⟩
  rw [hrows, if_neg hkey]
  simp [st, Store.row?, List.lookup_cons, beq_eq_false_iff_ne.mpr hkey]

end Session

end ExprMachine
