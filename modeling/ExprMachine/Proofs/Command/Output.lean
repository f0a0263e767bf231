import ExprMachine.Machine.Run
import ExprMachine.Proofs.Chunk.Decode
import Mathlib.Tactic
import Mathlib.Data.Nat.Digits.Lemmas

/-!
What a run prints, line by line.

A listing, a trace and the value of a run go to one place, and the line with the
result behind them. These are lemmas about where that line can stand.

* `OneLine`: a text without a line break. Numbers, values and instructions are such
  texts (`Number.oneLine_text`, `Value.oneLine_text`, `Chunk.oneLine_text_decode`).
* `Machine.stackText`, `Machine.Frame.text_eq`: the two lines that a trace has for each
  instruction.
* `Command.PrintsResult`: a line of a text is that of a result.
* `Command.Quiet`: a text of whole lines, none of which is that of a result.
  Listings and traces are quiet (`Command.quiet_disassemble`, `Command.quiet_trace`).
* `Command.Quiet.not_printsResult`, `Command.printsResult_append`: no line of a quiet
  text is that of a result, and one printed behind whole lines is.
-/

namespace ExprMachine

/-! ### Texts without a line break -/

/-- A text without a line break. -/
def OneLine (text : String) : Prop :=
  '\n' ∉ text.toList

instance (text : String) : Decidable (OneLine text) :=
  inferInstanceAs (Decidable ('\n' ∉ text.toList))

@[simp] lemma oneLine_append {s t : String} : OneLine (s ++ t) ↔ OneLine s ∧ OneLine t := by
  simp [OneLine, String.toList_append]

/-- Texts put together are on one line if each of them is. -/
lemma oneLine_join {texts : List String} (h : ∀ s ∈ texts, OneLine s) :
    OneLine (String.join texts) := by
  rw [OneLine, String.toList_join, List.mem_flatMap]
  rintro ⟨s, hs, hbreak⟩
  exact h s hs hbreak

/-- The characters of a natural number are digits. -/
lemma isDigit_of_mem_toString {n : ℕ} {c : Char} (h : c ∈ (toString n).toList) :
    c.isDigit = true := by
  rw [Nat.toString_eq_ofList_toDigits, String.toList_ofList] at h
  exact Nat.isDigit_of_mem_toDigits (by norm_num) (by norm_num) h

@[simp] lemma oneLine_toString (n : ℕ) : OneLine (toString n) := by
  intro h
  have hdigit := isDigit_of_mem_toString h
  exact absurd hdigit (by decide)

/-- A number in a column has nothing but digits and a sign. -/
lemma Layout.not_mem_zeroPadded {c : Char} (hsign : c ≠ '-') (hdigit : c.isDigit = false)
    (width : ℕ) (n : ℤ) : c ∉ (Layout.zeroPadded width n).toList := by
  intro h
  simp only [Layout.zeroPadded, String.toList_append, List.mem_append, String.toList_ofList,
    List.mem_replicate] at h
  obtain (h | ⟨-, rfl⟩) | h := h
  · split_ifs at h with hneg
    · exact hsign (by simpa using h)
    · simp at h
  · exact absurd hdigit (by decide)
  · rw [isDigit_of_mem_toString h] at hdigit
    cases hdigit

@[simp] lemma Layout.oneLine_zeroPadded (width : ℕ) (n : ℤ) :
    OneLine (Layout.zeroPadded width n) :=
  Layout.not_mem_zeroPadded (by decide) (by decide) width n

lemma Layout.toList_zeroPadded_ne_nil (width : ℕ) (n : ℤ) :
    (Layout.zeroPadded width n).toList ≠ [] := by
  simp [Layout.zeroPadded]

@[simp] lemma Layout.oneLine_rightAligned {width : ℕ} {word : String} :
    OneLine (Layout.rightAligned width word) ↔ OneLine word := by
  simp [Layout.rightAligned, OneLine, String.toList_append, List.mem_replicate]

/-! ### Values and instructions -/

/-- Digits are on one line. -/
lemma Decimal.oneLine_lowDigits (width n : ℕ) : '\n' ∉ Decimal.lowDigits width n := by
  induction width generalizing n with
  | zero => simp [lowDigits]
  | succ width ih =>
      rw [lowDigits, List.mem_append, List.mem_singleton, not_or]
      refine ⟨ih _, fun heq => ?_⟩
      have hdigit : (Nat.digitChar (n % 10)).isDigit = true := by
        rw [Nat.isDigit_digitChar, decide_eq_true_eq]
        exact Nat.mod_lt _ (by norm_num)
      rw [← heq] at hdigit
      exact absurd hdigit (by decide)

lemma Decimal.oneLine_text (d : Decimal) : OneLine d.text := by
  simp only [Decimal.text]
  split_ifs
  · exact oneLine_toString _
  · simp only [oneLine_append, oneLine_toString, true_and]
    refine ⟨by decide, ?_⟩
    rw [OneLine, String.toList_ofList]
    exact Decimal.oneLine_lowDigits _ _

lemma Number.oneLine_text (x : Float) : OneLine (Number.text x) := by
  simp only [Number.text]
  split
  · decide
  · decide
  · decide
  · rw [oneLine_append]
    refine ⟨?_, Decimal.oneLine_text _⟩
    split_ifs <;> decide

lemma Value.oneLine_text (v : Value) : OneLine v.text := by
  cases v with
  | nil => decide
  | number x => exact Number.oneLine_text x
  | boolean b => cases b <;> decide

namespace Instruction

lemma Problem.oneLine_text (p : Problem) : OneLine p.text := by
  cases p with
  | outside => decide
  | unknownOpcode byte =>
      have htext : (unknownOpcode byte).text = "Unknown opcode " ++ toString byte.toNat := rfl
      rw [htext, oneLine_append]
      exact ⟨by decide, oneLine_toString _⟩
  | missingOperand => decide
  | badConstant index =>
      have htext : (badConstant index).text =
        "constant index " ++ toString index.toNat ++ " out of range" := rfl
      rw [htext, oneLine_append, oneLine_append]
      exact ⟨⟨by decide, oneLine_toString _⟩, by decide⟩

lemma oneLine_problemText (i : Instruction) : OneLine i.problemText := by
  rw [problemText]
  cases i.problem? with
  | none => decide
  | some p => exact p.oneLine_text

lemma oneLine_constantText (i : Instruction) : OneLine i.constantText := by
  rw [constantText]
  cases i.constant? with
  | none => decide
  | some v => exact v.oneLine_text

/-- An instruction is shown on one line if its name is. -/
lemma oneLine_text {i : Instruction} (hname : OneLine i.name) : OneLine i.text := by
  have hproblem := i.oneLine_problemText
  have hremark : OneLine (if i.problem?.isSome then " ; " ++ i.problemText else "") := by
    split_ifs
    · rw [oneLine_append]
      exact ⟨by decide, hproblem⟩
    · decide
  have hline : OneLine (if i.sameLine then "   | "
      else Layout.zeroPadded 4 i.line.toInt ++ " ") := by
    split_ifs
    · decide
    · rw [oneLine_append]
      exact ⟨Layout.oneLine_zeroPadded _ _, by decide⟩
  simp only [text, oneLine_append, Layout.oneLine_zeroPadded, true_and]
  -- the remark stands behind both forms of the body and is taken as a whole
  generalize (if i.problem?.isSome then " ; " ++ i.problemText else "") = remark at hremark ⊢
  refine ⟨⟨by decide, hline⟩, ?_⟩
  split_ifs
  · exact hproblem
  · cases i.operand? with
    | none => simpa using ⟨hname, hremark⟩
    | some index =>
        simp only [oneLine_append, Layout.oneLine_zeroPadded, Layout.oneLine_rightAligned]
        exact ⟨⟨⟨⟨⟨⟨hname, by decide⟩, trivial⟩, by decide⟩, i.oneLine_constantText⟩, by decide⟩,
          hremark⟩

/-- An instruction is shown with its offset first. -/
lemma head?_text (i : Instruction) : i.text.toList.head? ≠ some 'R' := by
  obtain ⟨c, cs, heq⟩ := List.exists_cons_of_ne_nil (Layout.toList_zeroPadded_ne_nil 4 i.offset)
  have hne : c ≠ 'R' := by
    rintro rfl
    refine Layout.not_mem_zeroPadded (c := 'R') (by decide) (by decide) 4 i.offset ?_
    rw [heq]
    exact List.mem_cons_self
  simpa [text, String.toList_append, heq] using hne

end Instruction

namespace Opcode

lemma oneLine_nameOfByte (b : UInt8) : OneLine (nameOfByte b) := by
  rw [nameOfByte]
  split
  · rename_i op _
    cases op with
    | ret => decide
    | constant => decide
    | unary op => cases op <;> decide
    | binary op => cases op <;> decide
  · simp only [oneLine_append, oneLine_toString, and_true]
    decide

end Opcode

/-- Every instruction of a chunk is shown on one line. -/
lemma Chunk.oneLine_text_decode (c : Chunk) (offset : ℤ) : OneLine (c.decode offset).text := by
  refine Instruction.oneLine_text ?_
  unfold Chunk.decode
  dsimp only
  split
  · show OneLine ""
    decide
  · repeat' split
    all_goals exact Opcode.oneLine_nameOfByte _

namespace Machine

/-- The values on a stack as a trace shows them, from the bottom up. -/
def stackText (stack : List Value) : String :=
  "          " ++ String.join (stack.reverse.map fun v => "[ " ++ v.text ++ " ]")

lemma oneLine_stackText (stack : List Value) : OneLine (stackText stack) := by
  rw [stackText, oneLine_append]
  refine ⟨by decide, oneLine_join fun s hs => ?_⟩
  obtain ⟨v, -, rfl⟩ := List.mem_map.mp hs
  simp only [oneLine_append]
  exact ⟨⟨by decide, v.oneLine_text⟩, by decide⟩

/-- A frame is shown on two lines, one for the stack and one for the instruction. -/
lemma Frame.text_eq (c : Chunk) (f : Frame) :
    f.text c = stackText f.stack ++ "\n" ++ (c.decode f.offset).text ++ "\n" :=
  rfl

end Machine

/-! ### The line of a result -/

namespace Command

/-- A line of a text is that of a result. -/
def PrintsResult (text : String) : Prop :=
  ∃ line ∈ text.toList.splitOn '\n', "Result:".toList <+: line

/-- A text of whole lines, none of which can be that of a result. -/
inductive Quiet : String → Prop
  | empty : Quiet ""
  | line {first rest : String} (hbreak : OneLine first) (hhead : first.toList.head? ≠ some 'R')
      (hrest : Quiet rest) : Quiet (first ++ "\n" ++ rest)

namespace Quiet

lemma single {first : String} (hbreak : OneLine first) (hhead : first.toList.head? ≠ some 'R') :
    Quiet (first ++ "\n") := by
  have h := Quiet.line hbreak hhead .empty
  rwa [String.append_empty] at h

lemma append {s t : String} (hs : Quiet s) (ht : Quiet t) : Quiet (s ++ t) := by
  induction hs with
  | empty => rwa [String.empty_append]
  | line hbreak hhead _ ih =>
      rw [String.append_assoc]
      exact .line hbreak hhead ih

lemma join {texts : List String} (h : ∀ s ∈ texts, Quiet s) : Quiet (String.join texts) := by
  induction texts with
  | nil => exact .empty
  | cons s texts ih =>
      rw [String.join_cons]
      exact (h s List.mem_cons_self).append (ih fun t ht => h t (List.mem_cons_of_mem s ht))

/-- A quiet text has no line of a result. -/
lemma not_printsResult {text : String} (h : Quiet text) : ¬PrintsResult text := by
  induction h with
  | empty =>
      rintro ⟨line, hline, hresult⟩
      simp at hline
      subst hline
      simp at hresult
  | @line first rest hbreak hhead _ ih =>
      rintro ⟨line, hline, hresult⟩
      have hlines : (first ++ "\n" ++ rest).toList.splitOn '\n' =
          first.toList :: rest.toList.splitOn '\n' := by
        rw [String.toList_append, String.toList_append, List.append_assoc]
        exact List.splitOn_append_cons_self_of_not_mem hbreak _
      rw [hlines, List.mem_cons] at hline
      rcases hline with rfl | hline
      · obtain ⟨more, hmore⟩ := hresult
        rw [← hmore] at hhead
        exact hhead rfl
      · exact ih ⟨line, hline, hresult⟩

end Quiet

/-- The line of a result stands on its own behind whole lines. -/
lemma printsResult_append (before : String) {value : String} (hvalue : OneLine value) :
    PrintsResult (before ++ "\n" ++ ("Result: " ++ value ++ "\n")) := by
  have hresult : OneLine ("Result: " ++ value) := by
    rw [oneLine_append]
    exact ⟨by decide, hvalue⟩
  have hlines : (before ++ "\n" ++ ("Result: " ++ value ++ "\n")).toList.splitOn '\n' =
      before.toList.splitOn '\n' ++ (("Result: " ++ value).toList :: List.splitOn '\n' []) := by
    rw [← List.splitOn_append_cons_self_of_not_mem hresult, ← List.splitOn_append_cons_self]
    simp [String.toList_append]
  refine ⟨("Result: " ++ value).toList, ?_, ' ' :: value.toList, ?_⟩
  · rw [hlines]
    simp
  · simp [String.toList_append]

/-- A listing is quiet. -/
lemma quiet_disassemble (c : Chunk) : Quiet (c.disassemble "chunk") := by
  have htitle : Quiet ("== chunk ==" ++ "\n") := .single (by decide) (by decide)
  refine htitle.append (.join fun s hs => ?_)
  obtain ⟨i, hi, rfl⟩ := List.mem_map.mp hs
  obtain ⟨place, -, rfl⟩ := Chunk.exists_of_mem_listingFrom hi
  exact .single (c.oneLine_text_decode place) (Instruction.head?_text _)

/-- A trace is quiet. -/
lemma quiet_trace (r : Machine.Run) (c : Chunk) : Quiet (r.trace (some c)) := by
  refine .join fun s hs => ?_
  obtain ⟨f, -, rfl⟩ := List.mem_map.mp hs
  have hstack : Quiet (Machine.stackText f.stack ++ "\n") :=
    .single (Machine.oneLine_stackText f.stack) (by simp [Machine.stackText, String.toList_append])
  have hinstruction := Quiet.single (c.oneLine_text_decode f.offset) (Instruction.head?_text _)
  have hboth := hstack.append hinstruction
  rwa [← String.append_assoc, ← Machine.Frame.text_eq] at hboth

end Command

end ExprMachine
