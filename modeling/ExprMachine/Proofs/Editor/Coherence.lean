import ExprMachine.Editor.Server
import ExprMachine.Proofs.History
import ExprMachine.Proofs.Table

/-!
Open texts and published marks keep together.

A server is told what happens in an editor, request by request. What it holds and
what it has published can be told from the requests alone.

* `Server.after`, `Server.published`: the server after some requests, and what it has
  published on the way; `marksOf?`: the marks last published for a text.
* `Request.Gives`, `Request.Settles`: requests that bring a text in, and requests that
  say what becomes of one.
* `Ready`, `LastGiven`: what a history tells: whether the server takes requests, and
  which text was given last.
* `Server.handle_cases`: what one request can do.
* `Server.Coherent`: **the invariant**. The server holds the texts given last, and the
  marks last published for a text are those of the text that is held.
* `Server.coherent_handle`, `Server.coherent_run`: one request keeps it, so it holds
  after all requests.
* `Server.coherent_after`: what follows for the texts, the marks and the next request.
-/

namespace ExprMachine.Editor

/-! ### Requests in a row -/

namespace Server

/-- The server after some requests. -/
def after (s : Server) (requests : List Request) : Server :=
  requests.foldl (fun s r => (s.handle r).2) s

/-- What a server publishes during some requests, in order. -/
def published (s : Server) : List Request → List Publication
  | [] => []
  | r :: requests => (s.handle r).1.publication?.toList ++ (s.handle r).2.published requests

lemma after_concat (s : Server) (requests : List Request) (r : Request) :
    s.after (requests ++ [r]) = ((s.after requests).handle r).2 := by
  simp [after]

lemma published_concat (s : Server) (requests : List Request) (r : Request) :
    s.published (requests ++ [r]) =
      s.published requests ++ ((s.after requests).handle r).1.publication?.toList := by
  induction requests generalizing s with
  | nil => simp [published, after]
  | cons first requests ih =>
      rw [List.cons_append, published, ih, published, List.append_assoc]
      rfl

end Server

/-- The marks last published for a text, if any were. -/
def marksOf? (publications : List Publication) (uri : String) : Option (List Mark) :=
  (publications.reverse.find? (·.uri = uri)).map (·.marks)

/-- Marks that have just been published are the last ones of their text. -/
lemma marksOf?_concat (publications : List Publication) (p : Publication) (uri : String) :
    marksOf? (publications ++ [p]) uri =
      if p.uri = uri then some p.marks else marksOf? publications uri := by
  by_cases h : p.uri = uri <;> simp [marksOf?, h]

/-! ### What a history tells -/

/-- A request that brings a text in: it opens the text, or changes it and the last of
the changes is a whole one. -/
def Request.Gives (r : Request) (uri text : String) : Prop :=
  r = .didOpen uri text ∨ ∃ earlier, r = .didChange uri (earlier ++ [.whole text])

/-- A request that says what becomes of a text: it brings the text in, or closes it. -/
def Request.Settles (r : Request) (uri : String) : Prop :=
  r = .didClose uri ∨ ∃ text, r.Gives uri text

/-- A request brings in one text at most. -/
lemma Request.Gives.unique {r : Request} {uri text other new : String} (h : r.Gives uri text)
    (h' : r.Gives other new) : other = uri ∧ new = text := by
  rcases h with rfl | ⟨earlier, rfl⟩ <;> rcases h' with heq | ⟨earlier', heq⟩
  · cases heq
    exact ⟨rfl, rfl⟩
  · cases heq
  · cases heq
  · obtain ⟨rfl, hchanges⟩ := Request.didChange.inj heq
    obtain ⟨-, hlast⟩ := List.append_inj' hchanges rfl
    exact ⟨rfl, (Change.whole.inj (List.singleton_inj.mp hlast)).symm⟩

/-- A request that brings a text in says what becomes of this one. -/
lemma Request.Gives.settles_iff {r : Request} {uri text : String} (h : r.Gives uri text)
    (other : String) : r.Settles other ↔ other = uri := by
  constructor
  · rintro (rfl | ⟨new, hnew⟩)
    · rcases h with heq | ⟨_, heq⟩ <;> cases heq
    · exact (h.unique hnew).1
  · rintro rfl
    exact .inr ⟨text, h⟩

/-- Closing a text says what becomes of this one. -/
lemma Request.settles_didClose_iff (uri other : String) :
    (Request.didClose uri).Settles other ↔ other = uri := by
  simp [Request.Settles, Request.Gives, eq_comm]

/-- The server has been initialised, and it has not been shut down since. -/
def Ready (history : List Request) : Prop :=
  Since (fun _ r => r = .connect) (fun _ r => r = .shutdown) history

/-- A text was brought in while the server was ready, and nothing that it took since
has said what becomes of the text. -/
def LastGiven (uri text : String) (history : List Request) : Prop :=
  Since (fun before r => Ready before ∧ r.Gives uri text)
    (fun before r => Ready before ∧ r.Settles uri) history

/-! ### Open texts -/

namespace Server

variable {s : Server}

lemma document?_erase (s : Server) (uri other : String) :
    (s.erase uri).document? other = if other = uri then none else s.document? other :=
  Table.lookup_filter_ne s.documents uri other

lemma document?_insert (s : Server) (uri text other : String) :
    (s.insert uri text).document? other =
      if other = uri then some text else s.document? other :=
  Table.lookup_put s.documents uri other text

/-! ### One request -/

/-- A server that is not ready refuses everything but initialisation. -/
lemma handle_of_not_ready (hready : s.ready = false) {r : Request} (hr : r ≠ .connect) :
    s.handle r = (refused .notReady, s) := by
  unfold handle
  rw [if_pos ⟨by simp [hready], hr⟩]

/-- A change whose last part is a whole text brings the text in. -/
lemma handle_whole (hready : s.ready = true) (uri text : String) (earlier : List Change) :
    s.handle (.didChange uri (earlier ++ [.whole text])) = s.accept uri text := by
  simp [handle, hready]

/-- A change without a last part, or whose last part is not a whole text, is not
taken. -/
lemma handle_of_not_whole (hready : s.ready = true) {uri : String} {changes : List Change}
    (h : ∀ text, changes.getLast? ≠ some (.whole text)) :
    s.handle (.didChange uri changes) = (answered .none, s) := by
  simp [handle, hready]

/-- A request is refused by a server that is not ready, or it brings a text in, or
closes one, or it leaves the texts alone and publishes nothing. -/
lemma handle_cases (s : Server) (r : Request) :
    (s.ready = false ∧ r ≠ .connect ∧ s.handle r = (refused .notReady, s)) ∨
    (∃ uri text, s.ready = true ∧ r.Gives uri text ∧ s.handle r = s.accept uri text) ∨
    (∃ uri, s.ready = true ∧ r = .didClose uri ∧
      s.handle r = (⟨.ok .none, some ⟨uri, []⟩, []⟩, s.erase uri)) ∨
    ((s.ready = true ∨ r = .connect) ∧ (∀ uri, ¬ r.Settles uri) ∧
      (s.handle r).1.publication? = none ∧ (s.handle r).1.answer ≠ .error .notReady ∧
      (s.handle r).2 = { s with ready := r ≠ .shutdown }) := by
  by_cases hconnect : r = .connect
  · subst hconnect
    refine .inr (.inr (.inr ⟨.inr rfl, ?_, by simp [handle], by simp [handle], by simp [handle]⟩))
    simp [Request.Settles, Request.Gives]
  cases hready : s.ready with
  | false => exact .inl ⟨rfl, hconnect, handle_of_not_ready hready hconnect⟩
  | true =>
      have hsame : s = { s with ready := true } := by rw [← hready]
      cases r with
      | didOpen uri text =>
          exact .inr (.inl ⟨uri, text, rfl, .inl rfl, by simp [handle, hready]⟩)
      | didChange uri changes =>
          by_cases hwhole : ∃ text, changes.getLast? = some (.whole text)
          · obtain ⟨text, hlast⟩ := hwhole
            obtain ⟨earlier, rfl⟩ := List.getLast?_eq_some_iff.mp hlast
            exact .inr (.inl ⟨uri, text, rfl, .inr ⟨earlier, rfl⟩, handle_whole hready ..⟩)
          · rw [not_exists] at hwhole
            rw [handle_of_not_whole hready hwhole]
            refine .inr (.inr (.inr ⟨.inl rfl, ?_, rfl, by simp [answered], by simpa using hsame⟩))
            rintro other (hclose | ⟨text, hopen | ⟨earlier, hchange⟩⟩)
            · cases hclose
            · cases hopen
            · cases hchange
              exact hwhole text (by simp)
      | didClose uri => exact .inr (.inr (.inl ⟨uri, rfl, rfl, by simp [handle, hready]⟩))
      | _ =>
          refine .inr (.inr (.inr ⟨.inl rfl, ?_, ?_⟩))
          · simp [Request.Settles, Request.Gives]
          · simp [handle, hready, answered, refused, ← hsame]

/-- Initialisation makes a server ready, and a shutdown ends that. -/
lemma ready_handle (s : Server) (r : Request) :
    (s.handle r).2.ready = true ↔ r = .connect ∨ (s.ready = true ∧ r ≠ .shutdown) := by
  obtain ⟨hready, hr, heq⟩ | ⟨uri, text, hready, hgives, heq⟩ | ⟨uri, hready, rfl, heq⟩ |
    ⟨hready, -, -, -, heq⟩ := s.handle_cases r
  · simp [heq, hready, hr]
  · have hr : r ≠ .shutdown := by
      rintro rfl
      simp [Request.Gives] at hgives
    simp [heq, accept, insert, hready, hr]
  · simp [heq, erase, hready]
  · by_cases hr : r = .connect
    · subst hr
      simp [heq]
    · simp [heq, hr, hready.resolve_right hr]

/-- A request is refused for its time exactly by a server that is not ready, unless it
initialises the server. -/
lemma answer_eq_notReady_iff (s : Server) (r : Request) :
    (s.handle r).1.answer = .error .notReady ↔ s.ready = false ∧ r ≠ .connect := by
  obtain ⟨hready, hr, heq⟩ | ⟨uri, text, hready, -, heq⟩ | ⟨uri, hready, rfl, heq⟩ |
    ⟨hready, -, -, hanswer, -⟩ := s.handle_cases r
  · simp [heq, hready, hr, refused]
  · simp [heq, hready, accept]
  · simp [heq, hready]
  · refine iff_of_false hanswer fun ⟨hnot, hr⟩ => ?_
    rw [hready.resolve_right hr] at hnot
    cases hnot

/-! ### All requests -/

/-- The marks last published for a text that are right for it, open or not. -/
def Suits (text? : Option String) (marks? : Option (List Mark)) : Prop :=
  match text? with
  | some text => marks? = some (diagnose text.toList)
  | none => marks? = none ∨ marks? = some []

/-- After some requests, the server is ready if they say so, it holds the texts given
last, and the marks last published for a text are those of the text that is held, or
none if no text is. -/
structure Coherent (history : List Request) (s : Server) (publications : List Publication) :
    Prop where
  ready : s.ready = true ↔ Ready history
  texts : ∀ uri text, s.document? uri = some text ↔ LastGiven uri text history
  marks : ∀ uri, Suits (s.document? uri) (marksOf? publications uri)

/-- The requests that leave a history ready are told by the last one. -/
lemma ready_concat (history : List Request) (r : Request) :
    Ready (history ++ [r]) ↔ r = .connect ∨ (Ready history ∧ r ≠ .shutdown) :=
  since_concat

/-- The text given last, with one request more. -/
lemma lastGiven_concat {history : List Request} {uri text : String} (r : Request) :
    LastGiven uri text (history ++ [r]) ↔
      (Ready history ∧ r.Gives uri text) ∨
        (LastGiven uri text history ∧ ¬ (Ready history ∧ r.Settles uri)) :=
  since_concat

/-- One request more. -/
lemma coherent_handle {history : List Request} {publications : List Publication}
    (h : Coherent history s publications) (r : Request) :
    Coherent (history ++ [r]) (s.handle r).2
      (publications ++ (s.handle r).1.publication?.toList) where
  ready := by rw [ready_handle, h.ready, ready_concat]
  texts := by
    intro uri text
    rw [lastGiven_concat, ← h.ready, ← h.texts]
    have hframe (hsame : (s.handle r).2.documents = s.documents)
        (hnot : ¬ (s.ready = true ∧ r.Settles uri)) :
        (s.handle r).2.document? uri = some text ↔
          (s.ready = true ∧ r.Gives uri text) ∨
            (s.document? uri = some text ∧ ¬ (s.ready = true ∧ r.Settles uri)) := by
      have hgives : ¬ (s.ready = true ∧ r.Gives uri text) :=
        fun h' => hnot ⟨h'.1, .inr ⟨text, h'.2⟩⟩
      rw [document?, hsame, ← document?]
      simp only [hnot, hgives, not_false_eq_true, and_true, false_or]
    obtain ⟨hready, -, heq⟩ | ⟨given, new, hready, hgives, heq⟩ | ⟨closed, hready, rfl, heq⟩ |
      ⟨-, hnone, -, -, heq⟩ := s.handle_cases r
    · exact hframe (by rw [heq]) (by simp [hready])
    · rw [heq, accept, document?_insert, hgives.settles_iff]
      by_cases huri : uri = given
      · subst huri
        have hnew : some new = some text ↔ r.Gives uri text :=
          ⟨fun heq => Option.some_inj.mp heq ▸ hgives, fun h' => by rw [(hgives.unique h').2]⟩
        simp [hready, hnew]
      · have hnot : ¬ r.Gives uri text := fun h' => huri (hgives.unique h').1
        simp [huri, hnot]
    · rw [heq, document?_erase, Request.settles_didClose_iff]
      have hnot (text : String) : ¬ (Request.didClose closed).Gives uri text := by
        simp [Request.Gives]
      by_cases huri : uri = closed
      · subst huri
        simp [hready, hnot]
      · simp [huri, hnot]
    · exact hframe (by rw [heq]) fun h' => hnone uri h'.2
  marks := by
    intro uri
    have hframe (hsame : (s.handle r).2.documents = s.documents)
        (hpublished : (s.handle r).1.publication? = none) :
        Suits ((s.handle r).2.document? uri)
          (marksOf? (publications ++ (s.handle r).1.publication?.toList) uri) := by
      rw [document?, hsame, ← document?, hpublished, Option.toList_none, List.append_nil]
      exact h.marks uri
    obtain ⟨-, -, heq⟩ | ⟨given, new, -, -, heq⟩ | ⟨closed, -, rfl, heq⟩ |
      ⟨-, -, hpublished, -, heq⟩ := s.handle_cases r
    · exact hframe (by rw [heq]) (by rw [heq]; rfl)
    · rw [heq, accept, document?_insert, Option.toList_some, marksOf?_concat]
      by_cases huri : uri = given
      · rw [if_pos huri, if_pos huri.symm]
        exact rfl
      · rw [if_neg huri, if_neg (Ne.symm huri)]
        exact h.marks uri
    · rw [heq, document?_erase, Option.toList_some, marksOf?_concat]
      by_cases huri : uri = closed
      · rw [if_pos huri, if_pos huri.symm]
        exact .inr rfl
      · rw [if_neg huri, if_neg (Ne.symm huri)]
        exact h.marks uri
    · exact hframe (by rw [heq]) hpublished

/-- Requests are taken one after the other. -/
lemma coherent_run (requests : List Request) :
    Coherent requests (new.after requests) (new.published requests) := by
  induction requests using List.reverseRecOn with
  | nil =>
      refine ⟨?_, fun uri text => ?_, fun uri => .inl rfl⟩
      · exact iff_of_false Bool.false_ne_true not_since_nil
      · exact iff_of_false (by simp [document?, after, new]) not_since_nil
  | append_singleton requests r ih =>
      rw [after_concat, published_concat]
      exact coherent_handle ih r

/-- **Open texts and published marks keep together.** Whatever an editor sends to a new
server, and in whatever order: a text is held exactly if it was given last by a request
that the server took; the marks last published for a text that is held are those of the
text, and for one that is not held there are none. The next request is refused for its
time, and has no effect then, exactly if the server has not been initialised since the
last shutdown and the request does not initialise it. A question, or a change whose
last part is not a whole text, has no effect. -/
theorem coherent_after (requests : List Request) :
    let s := new.after requests
    let marks? := marksOf? (new.published requests)
    (∀ uri text, s.document? uri = some text ↔ LastGiven uri text requests) ∧
    (∀ uri text, s.document? uri = some text → marks? uri = some (diagnose text.toList)) ∧
    (∀ uri, s.document? uri = none → marks? uri = none ∨ marks? uri = some []) ∧
    (∀ r, ((s.handle r).1.answer = .error .notReady ↔ ¬ Ready requests ∧ r ≠ .connect) ∧
      (¬ Ready requests ∧ r ≠ .connect →
        (s.handle r).1.publication? = none ∧ (s.handle r).2 = s)) ∧
    (∀ uri cursor earlier text, ∀ r ∈ [Request.hover uri cursor, .completion uri cursor,
        .didChange uri (earlier ++ [.ranged text]), .didChange uri []],
      (s.handle r).1.publication? = none ∧ (s.handle r).2 = s) := by
  intro s marks?
  have h : Coherent requests s (new.published requests) := coherent_run requests
  have hready : s.ready = false ↔ ¬ Ready requests := by
    rw [← h.ready, Bool.not_eq_true]
  refine ⟨h.texts, fun uri text htext => ?_, fun uri htext => ?_, fun r => ⟨?_, ?_⟩, ?_⟩
  · have hmarks := h.marks uri
    rwa [htext] at hmarks
  · have hmarks := h.marks uri
    rwa [htext] at hmarks
  · rw [answer_eq_notReady_iff, hready]
  · rintro ⟨hnot, hr⟩
    rw [handle_of_not_ready (hready.mpr hnot) hr]
    exact ⟨rfl, rfl⟩
  · intro uri cursor earlier text r hr
    cases hs : s.ready with
    | false =>
        have hconnect : r ≠ .connect := by
          rintro rfl
          simp at hr
        rw [handle_of_not_ready hs hconnect]
        exact ⟨rfl, rfl⟩
    | true =>
        simp only [List.mem_cons, List.not_mem_nil, or_false] at hr
        rcases hr with rfl | rfl | rfl | rfl <;> simp [handle, hs, answered]

end Server

end ExprMachine.Editor
