import ExprMachine.Proofs.Machine.FailureLine
import ExprMachine.Proofs.Wire.Compiled

/-!
The listing of compiled code.

An expression asks for instructions: those of its operands, then that of its
operator, each on the line of its token. The listing of the compiled chunk shows
just these, with nothing wrong and in their order.

* `Entry`, `Expr.entries`: the instructions that an expression asks for. Its
  literals are loaded by consecutive indices.
* `Chunk.Shows`: an instruction of a chunk is the one that was asked for, and all of
  its bytes have its line.
* `Chunk.Segment`: a part of a listing that shows some entries. Parts are put
  together by `Segment.append`.
* `Expr.segment_emit`: the code of an expression, wherever it stands, is listed as
  the entries of the expression. The induction is on the tree, for all code that
  comes before and after.
* `Chunk.isChain_sameLine`: where each instruction lies on one line, the mark for the
  line before compares whole instructions.
* `Source.listing_compile`: the listing of a source that compiles.
-/

namespace ExprMachine

/-- An instruction that an expression asks for. -/
structure Entry where
  /-- What it is. -/
  opcode : Opcode
  /-- The constant that it loads, with its index. -/
  load? : Option (ℕ × Value)
  /-- The line of its token. -/
  line : ℕ
  deriving DecidableEq

/-- The instructions that an expression asks for when the pool already holds `n`
constants. -/
def Expr.entries (n : ℕ) : Expr → List Entry
  | .literal v line => [⟨.constant, some (n, v), line⟩]
  | .unary op line operand => operand.entries n ++ [⟨.unary op, none, line⟩]
  | .binary op line left right =>
      left.entries n ++ right.entries (n + left.literals.length) ++ [⟨.binary op, none, line⟩]

/-- The instructions of a whole program: those of the expression, and a return on the
line where its text ends. -/
def Expr.program (e : Expr) (endLine : ℕ) : List Entry :=
  e.entries 0 ++ [⟨.ret, none, endLine⟩]

/-! ### What an expression asks for -/

namespace Expr

/-- Constants are loaded by consecutive indices, each once. -/
lemma loads_entries (e : Expr) (n : ℕ) :
    (e.entries n).filterMap (fun x => x.load?.map Prod.fst) =
      List.range' n e.literals.length := by
  induction e generalizing n with
  | literal v line => rfl
  | unary op line a ih => simp [entries, literals, ih]
  | binary op line l r ihl ihr =>
      simp [entries, literals, ihl, ihr, List.range'_append_1]

/-- An expression asks for no return, and just the instruction that loads a constant
has one to load. -/
lemma opcode_of_mem_entries {e : Expr} {n : ℕ} {x : Entry} (h : x ∈ e.entries n) :
    x.opcode ≠ .ret ∧ (x.opcode = .constant ↔ x.load?.isSome = true) := by
  induction e generalizing n with
  | literal v line =>
      obtain rfl := List.mem_singleton.mp h
      simp
  | unary op line a ih =>
      rcases List.mem_append.mp h with h | h
      · exact ih h
      · obtain rfl := List.mem_singleton.mp h
        simp
  | binary op line l r ihl ihr =>
      rcases List.mem_append.mp h with h | h
      · rcases List.mem_append.mp h with h | h
        · exact ihl h
        · exact ihr h
      · obtain rfl := List.mem_singleton.mp h
        simp

/-- An expression has a literal. -/
lemma literals_length_pos (e : Expr) : 0 < e.literals.length := by
  induction e with
  | literal v line => exact Nat.one_pos
  | unary op line a ih => exact ih
  | binary op line l r ihl _ =>
      rw [literals, List.length_append]
      omega

end Expr

/-! ### Parts of a listing -/

namespace Chunk

open Machine

/-- `c.Shows i x`: the instruction `i` of the chunk `c` is `x` with nothing wrong, and
all its bytes have the line of `x`. -/
structure Shows (c : Chunk) (i : Instruction) (x : Entry) : Prop where
  opcode : i.opcode? = some x.opcode
  operand : i.operand?.map UInt8.toNat = x.load?.map Prod.fst
  constant : i.constant? = x.load?.map Prod.snd
  problem : i.problem? = none
  line : i.line = Int64.ofNat x.line
  bytes : ∀ k < i.size, c.lines[i.offset.toNat + k]? = some i.line

/-- The listing from `start` shows some entries and goes on at `stop`. -/
def Segment (c : Chunk) (start stop : ℕ) (xs : List Entry) : Prop :=
  ∃ is, c.listingFrom start = is ++ c.listingFrom stop ∧ List.Forall₂ c.Shows is xs

variable {c : Chunk} {offset : ℕ}

lemma Segment.append {start middle stop : ℕ} {xs ys : List Entry}
    (hxs : c.Segment start middle xs) (hys : c.Segment middle stop ys) :
    c.Segment start stop (xs ++ ys) := by
  obtain ⟨is, hstart, his⟩ := hxs
  obtain ⟨js, hmiddle, hjs⟩ := hys
  refine ⟨is ++ js, ?_, List.rel_append his hjs⟩
  rw [hstart, hmiddle, List.append_assoc]

/-- One instruction without an operand. -/
lemma segment_operator {op : Opcode} {line : ℕ} (hne : op ≠ .constant)
    (hop : c.code[offset]? = some op.byte)
    (hline : c.lines[offset]? = some (Int64.ofNat line)) :
    c.Segment offset (offset + 1) [⟨op, none, line⟩] := by
  have hlt := (Array.getElem?_eq_some_iff.mp hop).1
  have hat := lineAt_of_getElem? hline
  have hdecode : c.decode offset = ⟨offset, c.lineAt offset,
      decide (0 < (offset : ℤ) ∧ c.lineAt offset = c.lineAt (offset - 1)), op.byte,
      Opcode.nameOfByte op.byte, some op, none, none, none, 1⟩ := by
    rw [decode_eq hop]
    cases op with
    | constant => exact absurd rfl hne
    | _ => simp
  refine ⟨[c.decode offset], ?_, ?_⟩
  · rw [listingFrom_of_lt hlt, hdecode]
    rfl
  · rw [hdecode]
    refine .cons ⟨rfl, rfl, rfl, rfl, hat, ?_⟩ .nil
    intro k hk
    obtain rfl : k = 0 := Nat.lt_one_iff.mp hk
    rw [hat]
    exact hline

/-- The instruction that loads a constant, with its operand. -/
lemma segment_constant {index : UInt8} {v : Value} {line : ℕ}
    (hop : c.code[offset]? = some Opcode.constant.byte)
    (hindex : c.code[offset + 1]? = some index) (hv : c.constants[index.toNat]? = some v)
    (hline : c.lines[offset]? = some (Int64.ofNat line))
    (hline' : c.lines[offset + 1]? = some (Int64.ofNat line)) :
    c.Segment offset (offset + 2) [⟨.constant, some (index.toNat, v), line⟩] := by
  have hlt := (Array.getElem?_eq_some_iff.mp hop).1
  have hat := lineAt_of_getElem? hline
  have hdecode : c.decode offset = ⟨offset, c.lineAt offset,
      decide (0 < (offset : ℤ) ∧ c.lineAt offset = c.lineAt (offset - 1)), Opcode.constant.byte,
      Opcode.nameOfByte Opcode.constant.byte, some .constant, some index, some v, none, 2⟩ := by
    simp [decode_eq hop, hindex, hv]
  refine ⟨[c.decode offset], ?_, ?_⟩
  · rw [listingFrom_of_lt hlt, hdecode]
    rfl
  · rw [hdecode]
    refine .cons ⟨rfl, rfl, rfl, rfl, hat, ?_⟩ .nil
    intro k hk
    rw [hat]
    interval_cases k
    · exact hline
    · exact hline'

/-! ### Marks for the line before -/

/-- The instruction behind one that lies on one line is marked exactly if it is on that
line too. -/
lemma sameLine_behind {i : Instruction} (hi : i = c.decode offset)
    (hbytes : ∀ k < i.size, c.lines[i.offset.toNat + k]? = some i.line)
    (hlt : offset + i.size < c.code.size) :
    (c.decode ((offset + i.size : ℕ) : ℤ)).sameLine = true ↔
      i.line = (c.decode ((offset + i.size : ℕ) : ℤ)).line := by
  have hpos : 0 < i.size := hi ▸ c.decode_size_pos offset
  have hbehind := Array.getElem?_eq_getElem hlt
  have hlast : c.lineAt (((offset + i.size : ℕ) : ℤ) - 1) = i.line := by
    have hcast : ((offset + i.size : ℕ) : ℤ) - 1 = ((offset + (i.size - 1) : ℕ) : ℤ) := by omega
    rw [hcast]
    refine lineAt_of_getElem? ?_
    have h := hbytes (i.size - 1) (by omega)
    rwa [hi, decode_offset, ← hi, Int.toNat_natCast] at h
  rw [decode_sameLine hbehind, decode_line hbehind, hlast, decide_eq_true_eq]
  constructor
  · rintro ⟨-, h⟩
    exact h.symm
  · intro h
    exact ⟨by omega, h.symm⟩

/-- The first instruction is not marked. -/
lemma sameLine_head (c : Chunk) : ∀ i ∈ c.listing.head?, i.sameLine = false := by
  intro i hi
  by_cases hlt : 0 < c.code.size
  · rw [listing, listingFrom_of_lt hlt, List.head?_cons, Option.mem_some_iff] at hi
    rw [← hi, decode_sameLine (Array.getElem?_eq_getElem hlt)]
    simp
  · rw [listing, listingFrom, if_neg hlt] at hi
    cases hi

/-- In a listing whose instructions each lie on one line, an instruction is marked
exactly if the one before it is on the same line. -/
lemma isChain_sameLine (c : Chunk) (offset : ℕ)
    (h : ∀ i ∈ c.listingFrom offset, ∀ k < i.size,
      c.lines[i.offset.toNat + k]? = some i.line) :
    (c.listingFrom offset).IsChain fun i j => j.sameLine = true ↔ i.line = j.line := by
  fun_induction c.listingFrom offset with
  | case1 offset hlt i ih =>
      have hrest := ih fun j hj => h j (List.mem_cons_of_mem _ hj)
      by_cases hbehind : offset + i.size < c.code.size
      · rw [listingFrom_of_lt hbehind] at hrest ⊢
        exact .cons_cons (sameLine_behind rfl (h i List.mem_cons_self) hbehind) hrest
      · rw [listingFrom, if_neg hbehind]
        exact .singleton _
  | case2 offset hlt => exact .nil

end Chunk

/-! ### The code of an expression -/

namespace Expr

open Chunk

/-- An operator written behind some code is listed there, on its own line. -/
lemma segment_writeOp {b : Builder} {c : Chunk} {op : Opcode} {line : ℕ} (hb : b.Aligned)
    (hne : op ≠ .constant) (hc : (b.writeOp op.byte (Int64.ofNat line)).chunk.Within c) :
    c.Segment b.chunk.code.size (b.chunk.code.size + 1) [⟨op, none, line⟩] := by
  refine segment_operator hne (hc.code _ _ (by simp)) (hc.lines _ _ ?_)
  rw [← hb, Builder.lines_writeOp, Array.getElem?_push_size]

/-- A literal loaded behind some code is listed there with the next index, on its own
line. -/
lemma segment_load {b : Builder} {c : Chunk} {v : Value} {line : ℕ} (hb : b.Aligned)
    (hfits : b.chunk.constants.size < maxConstants)
    (hc : (b.load v (Int64.ofNat line)).chunk.Within c) :
    c.Segment b.chunk.code.size (b.chunk.code.size + 2)
      [⟨.constant, some (b.chunk.constants.size, v), line⟩] := by
  have hindex : (UInt8.ofNat b.chunk.constants.size).toNat = b.chunk.constants.size :=
    UInt8.toNat_ofNat_of_lt' hfits
  have hv : c.constants[(UInt8.ofNat b.chunk.constants.size).toNat]? = some v := by
    rw [hindex]
    exact hc.constants _ _ Array.getElem?_push_size
  have hsecond : ∀ {α : Type} (xs : Array α) (x y : α),
      ((xs.push x).push y)[xs.size + 1]? = some y := fun xs x y => by
    rw [Array.getElem?_push, if_pos (by simp)]
  have hseg : c.Segment b.chunk.code.size (b.chunk.code.size + 2)
      [⟨.constant, some ((UInt8.ofNat b.chunk.constants.size).toNat, v), line⟩] := by
    refine segment_constant (hc.code _ _ ?_) (hc.code _ _ (hsecond _ _ _)) hv (hc.lines _ _ ?_)
      (hc.lines _ _ ?_)
    · exact getElem?_push_of_eq_some Array.getElem?_push_size
    · rw [← hb]
      exact getElem?_push_of_eq_some Array.getElem?_push_size
    · rw [← hb]
      exact hsecond _ _ _
  rwa [hindex] at hseg

/-- The code of an expression, wherever it stands, is listed as its entries. -/
lemma segment_emit (e : Expr) {b : Builder} {c : Chunk} (hb : b.Aligned)
    (hfits : b.chunk.constants.size + e.literals.length ≤ maxConstants)
    (hc : (e.emit b).chunk.Within c) :
    c.Segment b.chunk.code.size (e.emit b).chunk.code.size
      (e.entries b.chunk.constants.size) := by
  induction e generalizing b with
  | literal v line =>
      have hsize : (emit b (literal v line)).chunk.code.size = b.chunk.code.size + 2 := by
        simp [emit]
      rw [hsize]
      exact segment_load hb hfits hc
  | unary op line a ih =>
      have hsize : (emit b (unary op line a)).chunk.code.size = (a.emit b).chunk.code.size + 1 := by
        simp [emit]
      have ha := ih hb hfits ((Builder.within_writeOp _ _ _).trans hc)
      rw [hsize]
      exact ha.append (segment_writeOp (aligned_emit a hb) (by simp) hc)
  | binary op line l r ihl ihr =>
      have hsize : (emit b (binary op line l r)).chunk.code.size =
          (r.emit (l.emit b)).chunk.code.size + 1 := by
        simp [emit]
      have hcount := l.size_constants_emit b
      have hcr := (Builder.within_writeOp (r.emit (l.emit b)) (Opcode.binary op).byte _).trans hc
      have hbl := aligned_emit l hb
      simp only [literals, List.length_append] at hfits
      have hl := ihl hb (by omega) ((within_emit r _).trans hcr)
      have hr := ihr hbl (by omega) hcr
      rw [hcount] at hr
      rw [hsize]
      exact (hl.append hr).append (segment_writeOp (aligned_emit r hbl) (by simp) hc)

/-- The finished code of an expression is listed as the program of the expression. -/
lemma listing_assemble (e : Expr) (endLine : ℕ) (hfits : e.literals.length ≤ maxConstants) :
    List.Forall₂ (e.assemble endLine).chunk.Shows (e.assemble endLine).chunk.listing
      (e.program endLine) := by
  set c := (e.assemble endLine).chunk with hc
  have haligned : Builder.new.Aligned := rfl
  have hwithin : ((e.emit .new).writeOp Opcode.ret.byte (Int64.ofNat endLine)).chunk.Within c :=
    Within.refl c
  have hbody := segment_emit e haligned (by simpa [Builder.new, Chunk.empty] using hfits)
    ((Builder.within_writeOp _ _ _).trans hwithin)
  have hreturn := segment_writeOp (aligned_emit e haligned) (by simp) hwithin
  obtain ⟨is, hlisting, hshows⟩ := hbody.append hreturn
  -- nothing is listed behind the return
  have hsize : c.code.size = (e.emit .new).chunk.code.size + 1 := by simp [hc, assemble]
  have hend : c.listingFrom ((e.emit .new).chunk.code.size + 1) = [] := by
    rw [listingFrom, if_neg (by omega)]
  have hall : c.listing = is := by
    rw [listing]
    exact hlisting.trans (by rw [hend, List.append_nil])
  rw [hall]
  exact hshows

end Expr

/-! ### Whole programs -/

namespace Chunk

variable {c : Chunk} {is : List Instruction} {xs : List Entry}

/-- Every instruction of a part that shows entries shows one of them. -/
lemma exists_shows_of_mem (h : List.Forall₂ c.Shows is xs) {i : Instruction} (hi : i ∈ is) :
    ∃ x ∈ xs, c.Shows i x := by
  induction h with
  | nil => cases hi
  | cons hshows _ ih =>
      rcases List.mem_cons.mp hi with rfl | hi
      · exact ⟨_, List.mem_cons_self, hshows⟩
      · obtain ⟨x, hx, hshows⟩ := ih hi
        exact ⟨x, List.mem_cons_of_mem _ hx, hshows⟩

/-- The operands of the instructions that load constants are the indices of the
constants that were asked for. -/
lemma operands_of_shows (h : List.Forall₂ c.Shows is xs)
    (hload : ∀ x ∈ xs, x.opcode = .constant ↔ x.load?.isSome = true) :
    (is.filter fun i => i.opcode? = some .constant).map (fun i => i.operand?.map UInt8.toNat) =
      (xs.filterMap fun x => x.load?.map Prod.fst).map some := by
  induction h with
  | nil => rfl
  | @cons i x is xs hshows _ ih =>
      have hrest := ih fun y hy => hload y (List.mem_cons_of_mem _ hy)
      have hx := hload x List.mem_cons_self
      cases hl : x.load? with
      | none =>
          have hop : x.opcode ≠ .constant := fun heq => by simpa [hl] using hx.mp heq
          simp [hshows.opcode, hop, hl, hrest]
      | some load =>
          have hop : x.opcode = .constant := hx.mpr (by simp [hl])
          simp [hshows.opcode, hshows.operand, hop, hl, hrest]

end Chunk

namespace Expr

open Chunk

variable {c : Chunk} {e : Expr} {is : List Instruction} {endLine : ℕ}

/-- A listing that shows a program has one return, which is the last instruction. -/
lemma exists_return_of_shows (h : List.Forall₂ c.Shows is (e.program endLine)) :
    ∃ body last, is = body ++ [last] ∧ last.opcode? = some .ret ∧
      ∀ i ∈ body, i.opcode? ≠ some .ret := by
  have hbody := List.forall₂_take_append _ _ _ h
  have hlast := List.forall₂_drop_append _ _ _ h
  obtain ⟨last, behind, hret, hnil, hdrop⟩ := List.forall₂_cons_right_iff.mp hlast
  obtain rfl := List.forall₂_nil_right_iff.mp hnil
  refine ⟨is.take (e.entries 0).length, last, ?_, hret.opcode, fun i hi => ?_⟩
  · rw [← hdrop, List.take_append_drop]
  · obtain ⟨x, hx, hshows⟩ := exists_shows_of_mem hbody hi
    rw [hshows.opcode, ne_eq, Option.some_inj]
    exact (opcode_of_mem_entries hx).1

/-- A listing that shows a program loads the constants in their order, each once. -/
lemma operands_of_program (h : List.Forall₂ c.Shows is (e.program endLine)) :
    (is.filter fun i => i.opcode? = some .constant).map (fun i => i.operand?.map UInt8.toNat) =
      (List.range e.literals.length).map some := by
  rw [operands_of_shows h, program, List.filterMap_append, loads_entries, List.range_eq_range']
  · simp
  · intro x hx
    rcases List.mem_append.mp hx with hx | hx
    · exact (opcode_of_mem_entries hx).2
    · obtain rfl := List.mem_singleton.mp hx
      simp

end Expr

open ExprMachine.Expr

/-- **Compiled chunks are well-formed**: a compiled chunk is valid and nothing is wrong
with any instruction of its listing. The only return is the last instruction, and the
constants are loaded each once and in their order. All numbers are finite and have no
sign. The listing shows the instructions that the tree of the text asks for, all bytes
of each on the line of its token, and the return on the line of the end token. So an
instruction is marked exactly if the one before it is on the same line. -/
theorem Source.listing_compile (s : Source) (c : Chunk) (hc : s.compile = .ok c) :
    c.validate = .ok () ∧
    (∀ i ∈ c.listing, i.problem? = none) ∧
    (∃ body last, c.listing = body ++ [last] ∧ last.opcode? = some .ret ∧
      ∀ i ∈ body, i.opcode? ≠ some .ret) ∧
    ((c.listing.filter fun i => i.opcode? = some .constant).map
        (fun i => i.operand?.map UInt8.toNat) = (List.range c.constants.size).map some ∧
      1 ≤ c.constants.size ∧ c.constants.size ≤ 256) ∧
    (∀ x, .number x ∈ c.constants →
      ∃ m q, FloatFormat.double.decode x.toBits.toNat = .finite false m q) ∧
    (∃ ts eof e, (tokenize s.text).filter (fun t => t.kind ≠ .comment) = ts ++ [eof] ∧
      eof.kind = .eof ∧ Derives .equality ts e ∧
      List.Forall₂ c.Shows c.listing (e.program eof.line)) ∧
    (∀ i ∈ c.listing.head?, i.sameLine = false) ∧
    c.listing.IsChain fun i j => j.sameLine = true ↔ i.line = j.line := by
  obtain ⟨e, he, rfl⟩ := Source.compile_eq_ok_iff.mp hc
  obtain ⟨herr, hderives, hcount, -⟩ := parseAll_eq_ok_iff.mp he
  set eof := endToken (tokenize s.text) with heof
  set c := (e.assemble eof.line).chunk with hchunk
  have hlength : e.literals.length ≤ Chunk.maxConstants := by
    rw [length_literals hderives]
    exact hcount
  have hsize : c.constants.size = e.literals.length := by
    rw [hchunk, ← Array.length_toList]
    simp [assemble, constants_emit, Chunk.Builder.new, Chunk.empty]
  have hshows := e.listing_assemble eof.line hlength
  rw [← hchunk] at hshows
  refine ⟨validate_of_compile hc, ?_, ?_, ⟨?_, ?_, ?_⟩, ?_, ?_, ?_, ?_⟩
  · intro i hi
    obtain ⟨x, -, hx⟩ := Chunk.exists_shows_of_mem hshows hi
    exact hx.problem
  · exact exists_return_of_shows hshows
  · rw [operands_of_program hshows, hsize]
  · rw [hsize]
    exact e.literals_length_pos
  · rw [hsize]
    exact hlength
  · intro x hx
    exact FloatFormat.double.exists_decode_of_lt_infinity (toBits_lt_of_compile hc hx)
  · refine ⟨_, eof, e, (isSentence_filter s.text herr).filter_eq, ?_, hderives, hshows⟩
    obtain ⟨-, -, hkind, -⟩ := exists_tokenize_eq s.text
    exact hkind
  · exact c.sameLine_head
  · refine c.isChain_sameLine 0 fun i hi => ?_
    obtain ⟨x, -, hx⟩ := Chunk.exists_shows_of_mem hshows hi
    exact hx.bytes

/-- A difference over two lines. Both bytes of the second literal are on the second
line, and so is the return, while the operator between them goes back to the first. -/
theorem Source.listing_compile_difference :
    ∃ c : Chunk, (Source.ofString "1 -\n2").compile = .ok c ∧
      c.lines = #[1, 1, 2, 2, 1, 2] ∧
      c.listing.map (·.sameLine) = [false, false, false, false] ∧
      (∀ i ∈ c.listing, i.problem? = none) ∧
      c.listing.IsChain fun i j => j.sameLine = true ↔ i.line = j.line := by
  have hc : (Source.ofString "1 -\n2").compile =
      .ok ⟨#[1, 0, 1, 1, 4, 0], #[1, 1, 2, 2, 1, 2], #[.number 1, .number 2]⟩ := by
    decide +kernel
  obtain ⟨-, hproblem, -, -, -, -, -, hchain⟩ := Source.listing_compile _ _ hc
  exact ⟨_, hc, rfl, by decide +kernel, hproblem, hchain⟩

end ExprMachine
