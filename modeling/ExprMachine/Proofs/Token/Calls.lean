import ExprMachine.Proofs.Token.Tiling

/-!
Reading a text by calls of both kinds.

A caller may ask for the next token (`scan`), or for the next token unless the end token has
been read (`next`), in any order.

* `Scanner.Call`, `Scanner.perform`: a call, what it returns and the scanner it leaves.
  `Scanner.perform_eq` says once what a call does.
* `Scanner.after`, `Scanner.returned`: the scanner behind calls, and the tokens they returned.
* `Scanner.tokens_scan`: a scan takes the first of the tokens that are left, unless it is the
  last one, which is there to stay.
* `Scanner.Reached`: how a scanner stands that has returned some tokens. One call keeps this
  (`Scanner.Reached.perform`), so all calls do (`Scanner.Reached.after`).
* `Source.answers_after`: what any call returns behind any others.
-/

namespace ExprMachine

namespace Scanner

/-! ### Calls -/

/-- The ways to ask for a token. -/
inductive Call where
  /-- Reads one token. -/
  | scan
  /-- Reads one token unless the end token has been read. -/
  | next
  deriving DecidableEq, Repr

/-- What a call returns, if it returns a token, and the scanner that it leaves. -/
def perform (s : Scanner) (call : Call) : Option Token × Scanner :=
  let answer := match call with
    | .scan => some s.scan
    | .next => s.next?
  match answer with
  | some (t, s') => (some t, s')
  | none => (none, s)

/-- The scanner behind some calls. -/
def after (s : Scanner) : List Call → Scanner
  | [] => s
  | call :: calls => (s.perform call).2.after calls

/-- The tokens that some calls return. -/
def returned (s : Scanner) : List Call → List Token
  | [] => []
  | call :: calls => (s.perform call).1.toList ++ (s.perform call).2.returned calls

variable {s s₀ : Scanner} {earlier : List Token}

/-- A call is refused, or it scans. -/
lemma perform_eq (s : Scanner) (call : Call) :
    s.perform call =
      if call = .next ∧ s.done = true then (none, s) else (some s.scan.1, s.scan.2) := by
  cases call with
  | scan => rfl
  | next => cases hdone : s.done <;> simp [perform, next?, hdone]

/-! ### Scanning again and again -/

/-- The next token is the first of those that are left. -/
lemma head?_tokens (s : Scanner) : s.tokens.head? = some s.scan.1 := by
  by_cases h : s.scan.1.kind = .eof
  · rw [tokens_of_eof h, List.head?_cons]
  · rw [tokens_of_ne h, List.head?_cons]

/-- At the end of the text, a scan reads the end token again, in the same place. -/
lemma scan_scan_of_eof (h : s.scan.1.kind = .eof) : s.scan.2.scan = s.scan := by
  have hnil := kind_scan_eq_eof_iff.mp h
  rw [scan_of_nil hnil]
  simp [scan, skipBlank, newlines, hnil]

/-- A scan takes the first of the tokens that are left, and leaves the last one. -/
lemma tokens_scan (s : Scanner) :
    s.scan.2.tokens = s.tokens.drop (min 1 (s.tokens.length - 1)) := by
  by_cases h : s.scan.1.kind = .eof
  · have hscan := scan_scan_of_eof h
    have heof : s.scan.2.scan.1.kind = .eof := by rw [hscan, h]
    rw [tokens_of_eof heof, tokens_of_eof h, hscan]
    rfl
  · have hpos := List.length_pos_iff.mpr s.scan.2.tokens_ne_nil
    have hone : min 1 ((s.scan.1 :: s.scan.2.tokens).length - 1) = 1 := Nat.min_eq_left hpos
    rw [tokens_of_ne h, hone, List.drop_one, List.tail_cons]

/-- A scanner is at the end once it has read the end token. -/
lemma done_scan (s : Scanner) :
    s.scan.2.done = true ↔ s.done = true ∨ s.scan.1.kind = .eof := by
  rw [kind_scan_eq_eof_iff]
  cases hrest : s.rest.dropWhile Token.isBlank with
  | nil => simp [scan_of_nil hrest]
  | cons c cs => simp [scan_of_cons hrest]

/-! ### Any calls -/

/-- `s.Reached s₀ earlier`: how the scanner `s₀` stands when it has returned the tokens
`earlier`. -/
structure Reached (s s₀ : Scanner) (earlier : List Token) : Prop where
  /-- Left are the tokens behind those returned, and always the last one. -/
  tokens : s.tokens = s₀.tokens.drop (min earlier.length (s₀.tokens.length - 1))
  /-- The end is known once its token has been returned. -/
  done : s.done = true ↔ ∃ t ∈ earlier, t.kind = .eof

lemma reached_nil (h : s.done = false) : s.Reached s [] := by
  refine ⟨?_, by simp [h]⟩
  rw [List.length_nil, Nat.zero_min, List.drop_zero]

/-- A scan returns the next token. -/
lemma Reached.scan (h : s.Reached s₀ earlier) : s.scan.2.Reached s₀ (earlier ++ [s.scan.1]) where
  tokens := by
    have hpos := List.length_pos_iff.mpr s₀.tokens_ne_nil
    rw [tokens_scan, h.tokens, List.drop_drop, List.length_drop, List.length_append,
      List.length_singleton]
    congr 1
    omega
  done := by
    rw [done_scan, h.done]
    simp [or_and_right, exists_or]

/-- What a call returns is returned, whatever the call. -/
lemma Reached.perform (h : s.Reached s₀ earlier) (call : Call) :
    (s.perform call).2.Reached s₀ (earlier ++ (s.perform call).1.toList) := by
  rw [perform_eq]
  split_ifs
  · rwa [Option.toList_none, List.append_nil]
  · exact h.scan

/-- The same over any calls, one after the other. -/
lemma Reached.after (h : s.Reached s₀ earlier) (calls : List Call) :
    (s.after calls).Reached s₀ (earlier ++ s.returned calls) := by
  induction calls generalizing s earlier with
  | nil => rwa [Scanner.after, returned, List.append_nil]
  | cons call calls ih =>
      rw [Scanner.after, returned, ← List.append_assoc]
      exact ih (h.perform call)

/-- `s.Answers tokens earlier call`: how the scanner of a text with the tokens `tokens`, which
has returned the tokens `earlier`, answers a call. -/
structure Answers (s : Scanner) (tokens earlier : List Token) (call : Call) : Prop where
  /-- A token that is returned is the next of the text, or again its last one. -/
  token : ∀ t, (s.perform call).1 = some t →
    tokens[min earlier.length (tokens.length - 1)]? = some t
  /-- The scanner is then on the line of that token. -/
  line : ∀ t, (s.perform call).1 = some t → (s.perform call).2.line = t.line
  /-- Refused is `next`, and only once the end token has been returned. -/
  refused : (s.perform call).1 = none ↔ call = .next ∧ ∃ t ∈ earlier, t.kind = .eof
  /-- A call that is refused changes nothing. -/
  unchanged : (s.perform call).1 = none → (s.perform call).2 = s

lemma Reached.answers (h : s.Reached s₀ earlier) (call : Call) :
    s.Answers s₀.tokens earlier call := by
  have hnext : s₀.tokens[min earlier.length (s₀.tokens.length - 1)]? = some s.scan.1 := by
    rw [← List.head?_drop, ← h.tokens, head?_tokens]
  have hperform := s.perform_eq call
  split_ifs at hperform with hrefused
  · exact {
      token := by simp [hperform]
      line := by simp [hperform]
      refused := iff_of_true (by rw [hperform]) ⟨hrefused.1, h.done.mp hrefused.2⟩
      unchanged := fun _ => by rw [hperform] }
  · exact {
      token := by simpa [hperform] using hnext
      line := by simp [hperform, line_snd_scan]
      refused := iff_of_false (by simp [hperform]) fun heof => hrefused ⟨heof.1, h.done.mpr heof.2⟩
      unchanged := by simp [hperform] }

end Scanner

/-- **Calls of both kinds read one stream.** Whatever calls were made on the scanner of a
source, the next call returns the token of the source behind those that were returned, or again
the end token if that was the last one, and leaves the scanner on the line of the token. Only
`next` is refused, just when an earlier call of either kind has returned the end token, and then
it changes nothing. -/
theorem Source.answers_after (s : Source) (before : List Scanner.Call) (call : Scanner.Call) :
    ((Scanner.start s.text).after before).Answers (tokenize s.text)
      ((Scanner.start s.text).returned before) call :=
  ((Scanner.reached_nil rfl).after before).answers call

/-- The second `next` is refused, the scan behind it is not. -/
example : ((Scanner.start ['1']).returned [.next, .scan, .next, .scan]).map Token.kind =
    [.number, .eof, .eof] := by
  decide +kernel

end ExprMachine
