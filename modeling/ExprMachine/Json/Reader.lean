import ExprMachine.Json.Basic
import ExprMachine.Number.Literal
import ExprMachine.Text.Utf8

/-!
Reading structured data off a text.

* `Rest`: what is left of a text after something has been read from it, which
  is always shorter.
* `string?`, `isNumber`: strings after their opening quote, and numbers.
* `value?`, `items?`, `members?`: data, and what stands inside brackets and
  inside braces.
* `read?`: the data of a whole text.
-/

namespace ExprMachine.Json

/-- What is left of a text after something has been read from it. -/
abbrev Rest (s : List Char) := { r : List Char // r.length < s.length }

/-- Blanks between the parts of a text. -/
def isBlank (c : Char) : Bool :=
  c == ' ' || c == '\t' || c == '\n' || c == '\r'

/-- A text without the blanks at its head. -/
def skipBlank (s : List Char) : List Char :=
  s.dropWhile isBlank

theorem length_skipBlank_le (s : List Char) : (skipBlank s).length ≤ s.length :=
  (List.dropWhile_suffix isBlank).length_le

/-- What follows the first character after blanks is shorter than the whole. -/
theorem length_lt_of_skipBlank {s cs : List Char} {c : Char} (h : skipBlank s = c :: cs) :
    cs.length < s.length := by
  have := length_skipBlank_le s
  rw [h, List.length_cons] at this
  omega

/-! ### Strings and numbers -/

/-- The number that four hexadecimal digits at the head of a text stand for. -/
def unit? (cs : List Char) : Option Nat := do
  let digits ← (cs.take 4).mapM Layout.hexValue?
  if digits.length = 4 then some (digits.foldl (fun n d => 16 * n + d) 0) else none

/-- The character of a unit and of the escape after it, and the number of
characters that they take after the first `u`: two surrogates make one
character, a surrogate alone stands for none. -/
def unitChar (unit : Nat) (after : List Char) : Char × Nat :=
  match after with
  | '\\' :: 'u' :: cs =>
      match unit? cs with
      | some low =>
          if 0xD800 ≤ unit ∧ unit < 0xDC00 ∧ 0xDC00 ≤ low ∧ low < 0xE000 then
            (Char.ofNat (0x10000 + (unit - 0xD800) * 0x400 + (low - 0xDC00)), 10)
          else (alone, 4)
      | none => (alone, 4)
  | _ => (alone, 4)
where
  /-- The character of the unit alone. -/
  alone : Char := if unit.isValidChar then Char.ofNat unit else Utf8.replacement

/-- The character that an escape stands for, and the length of the escape. -/
def escape? : List Char → Option (Char × Nat)
  | [] => none
  | c :: cs =>
      match c with
      | '"' | '\\' | '/' => some (c, 1)
      | 'b' => some ('\x08', 1)
      | 'f' => some ('\x0c', 1)
      | 'n' => some ('\n', 1)
      | 'r' => some ('\r', 1)
      | 't' => some ('\t', 1)
      | 'u' =>
          (unit? cs).map fun unit =>
            let (c, n) := unitChar unit (cs.drop 4)
            (c, 1 + n)
      | _ => none

/-- A string after its opening quote, and the number of characters read. -/
def string? : List Char → Option (List Char × Nat)
  | [] => none
  | c :: cs =>
      if c = '"' then some ([], 1)
      else if c.toNat < 0x20 then none
      else if c = '\\' then do
        let (e, n) ← escape? cs
        let (text, m) ← string? (cs.drop n)
        return (e :: text, 1 + n + m)
      else (string? cs).map fun (text, n) => (c :: text, n + 1)
termination_by cs => cs.length
decreasing_by all_goals (simp only [List.length_drop, List.length_cons]; omega)

/-- Whether a text is a number. -/
def isNumber (cs : List Char) : Bool :=
  let body := if cs.head? = some '-' then cs.drop 1 else cs
  let (whole, rest) := Number.spanDigits body
  let (fraction, rest) :=
    match rest with
    | '.' :: digits => Number.spanDigits digits
    | _ => (['0'], rest)
  !whole.isEmpty && (whole.length == 1 || whole.head? != some '0') && !fraction.isEmpty &&
    (Number.exponent? rest).isSome

/-- The characters of a word or a number. -/
def isWordPart (c : Char) : Bool :=
  c.isAlphanum || c == '-' || c == '+' || c == '.'

/-- The data that a word stands for. -/
def ofWord? (word : List Char) : Option Value :=
  if word = "null".toList then some .null
  else if word = "true".toList then some (.boolean true)
  else if word = "false".toList then some (.boolean false)
  else if isNumber word then some (.number (String.ofList word))
  else none

/-! ### Data -/

mutual

/-- Data, after blanks. -/
def value? (s : List Char) : Option (Value × Rest s) :=
  match h : skipBlank s with
  | [] => none
  | c :: cs =>
      have hs := length_lt_of_skipBlank h
      if c = '[' then
        match items? cs with
        | none => none
        | some (items, ⟨r, hr⟩) => some (.array items, ⟨r, by omega⟩)
      else if c = '\x7b' then
        match members? cs with
        | none => none
        | some (members, ⟨r, hr⟩) => some (.object members, ⟨r, by omega⟩)
      else if c = '"' then
        (string? cs).map fun (text, n) =>
          (.string (String.ofList text),
           ⟨cs.drop n, by simp only [List.length_drop]; omega⟩)
      else
        let word := (c :: cs).takeWhile isWordPart
        (ofWord? word).map fun v =>
          (v, ⟨cs.drop (word.length - 1), by simp only [List.length_drop]; omega⟩)
termination_by 2 * s.length

/-- The items up to a closing bracket. -/
def items? (s : List Char) : Option (List Value × Rest s) :=
  match h : skipBlank s with
  | [] => none
  | c :: cs =>
      have hs := length_lt_of_skipBlank h
      if c = ']' then some ([], ⟨cs, by omega⟩)
      else
        match value? s with
        | none => none
        | some (v, ⟨r, hr⟩) =>
            match h' : skipBlank r with
            | [] => none
            | d :: rest =>
                have hd := length_lt_of_skipBlank h'
                if d = ']' then some ([v], ⟨rest, by omega⟩)
                else if d = ',' then
                  match items? rest with
                  | none => none
                  | some (vs, ⟨r', hr'⟩) =>
                      -- a comma before the closing bracket is a fault
                      if vs.isEmpty then none else some (v :: vs, ⟨r', by omega⟩)
                else none
termination_by 2 * s.length + 1

/-- The members up to a closing brace. -/
def members? (s : List Char) : Option (List (String × Value) × Rest s) :=
  match h : skipBlank s with
  | [] => none
  | c :: cs =>
      have hs := length_lt_of_skipBlank h
      if c = '\x7d' then some ([], ⟨cs, by omega⟩)
      else if c = '"' then
        match string? cs with
        | none => none
        | some (name, n) =>
            match h₁ : skipBlank (cs.drop n) with
            | [] => none
            | colon :: q =>
                have hq : q.length < cs.length := by
                  have := length_lt_of_skipBlank h₁
                  simp only [List.length_drop] at this
                  omega
                if colon ≠ ':' then none
                else
                  match value? q with
                  | none => none
                  | some (v, ⟨r, hr⟩) =>
                      match h' : skipBlank r with
                      | [] => none
                      | d :: rest =>
                          have hd := length_lt_of_skipBlank h'
                          let member := (String.ofList name, v)
                          if d = '\x7d' then some ([member], ⟨rest, by omega⟩)
                          else if d = ',' then
                            match members? rest with
                            | none => none
                            | some (ms, ⟨r', hr'⟩) =>
                                if ms.isEmpty then none
                                else some (member :: ms, ⟨r', by omega⟩)
                          else none
      else none
termination_by 2 * s.length + 1

end

/-- The data of a whole text. -/
def read? (s : List Char) : Option Value :=
  match value? s with
  | some (v, ⟨r, _⟩) => if (skipBlank r).isEmpty then some v else none
  | none => none

end ExprMachine.Json
