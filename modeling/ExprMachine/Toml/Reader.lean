import ExprMachine.Text.Utf8
import ExprMachine.Toml.Literal
import ExprMachine.Toml.Text

/-!
Reading statements off a text.

A statement ends with its line. Inside brackets and braces, blanks, newlines and
comments may stand before and after every part, and a comma may follow the last
one.

* `Rest`: what is left of a text after something has been read from it, which
  is always shorter. This makes the recursion of the readers well-founded.
* `key?`: a key with the character that ends it.
* `value?`, `items?`, `entries?`: a value, and what stands inside brackets and
  inside braces.
* `statements?`: all statements of a text.
* `characters?`: the characters of a text that is clean: whole characters, and
  no control characters but tabs and newlines.
* `parse?`: the statements of a text as it was received.
-/

namespace ExprMachine.Toml

/-- What is left of a text after something has been read from it. -/
abbrev Rest (s : List Char) := { r : List Char // r.length < s.length }

/-- Blanks within a line. -/
def isSpace (c : Char) : Bool :=
  c == ' ' || c == '\t'

/-- A text without the blanks, newlines and comments at its head; `comment` says
that it starts inside a comment. -/
def skipBlank (comment : Bool) : List Char → List Char
  | [] => []
  | c :: cs =>
      if c = '\n' then skipBlank false cs
      else if comment then skipBlank true cs
      else if c = '#' then skipBlank true cs
      else if isBlank c then skipBlank false cs
      else c :: cs

theorem length_skipBlank_le (comment : Bool) (cs : List Char) :
    (skipBlank comment cs).length ≤ cs.length := by
  fun_induction skipBlank comment cs <;> grind

/-- What follows the first character after blanks is shorter than the whole. -/
theorem length_lt_of_skipBlank {comment : Bool} {s cs : List Char} {c : Char}
    (h : skipBlank comment s = c :: cs) : cs.length < s.length := by
  have := length_skipBlank_le comment s
  rw [h, List.length_cons] at this
  omega

theorem length_dropWhile_le (p : Char → Bool) (cs : List Char) :
    (cs.dropWhile p).length ≤ cs.length :=
  (List.dropWhile_suffix p).length_le

/-- What follows the first character after a run is shorter than the whole. -/
theorem length_lt_of_dropWhile {p : Char → Bool} {s cs : List Char} {c : Char}
    (h : s.dropWhile p = c :: cs) : cs.length < s.length := by
  have := length_dropWhile_le p s
  rw [h, List.length_cons] at this
  omega

/-- What is left of a rest is left of the whole. -/
def Rest.within {s t : List Char} (h : t.length < s.length) (r : Rest t) : Rest s :=
  ⟨r.val, Nat.lt_trans r.property h⟩

/-! ### Keys -/

/-- What follows a name, the character behind it and the blanks around it is
shorter than the whole. -/
theorem length_lt_of_name {s cs rest : List Char} {c d : Char} {n : Nat}
    (h : s.dropWhile isSpace = c :: cs) (h' : (cs.drop n).dropWhile isSpace = d :: rest) :
    rest.length < s.length := by
  have hs := length_lt_of_dropWhile h
  have hr := length_lt_of_dropWhile h'
  rw [List.length_drop] at hr
  omega

/-- A name after its first character, and how many more characters it takes. -/
def name? (c : Char) (cs : List Char) : Option (String × Nat) :=
  if c = '"' then (basic? cs).map fun (text, n) => (String.ofList text, n)
  else if c = '\'' then (raw? cs).map fun (text, n) => (String.ofList text, n)
  else if isBare c then
    let more := cs.takeWhile isBare
    some (String.ofList (c :: more), more.length)
  else none

/-- A key and the character `stop` after it. -/
def key? (stop : Char) (s : List Char) : Option (Key × Rest s) :=
  match h : s.dropWhile isSpace with
  | [] => none
  | c :: cs =>
      match name? c cs with
      | none => none
      | some (name, n) =>
          match h' : (cs.drop n).dropWhile isSpace with
          | [] => none
          | d :: rest =>
              have hlt := length_lt_of_name h h'
              if d = stop then some ([name], ⟨rest, hlt⟩)
              else if d = '.' then
                match key? stop rest with
                | none => none
                | some (names, r) => some (name :: names, r.within hlt)
              else none
termination_by s.length

/-! ### Values -/

/-- A value that is neither in brackets nor in braces, after its first
character, and how many more characters it takes. -/
def scalar? (c : Char) (cs : List Char) : Option (Value × Nat) :=
  let string (text? : Option (List Char × Nat)) (before : Nat) : Option (Value × Nat) :=
    text?.map fun (text, n) => (.string (String.ofList text), before + n)
  match c, cs with
  | '"', '"' :: '"' :: rest => string (basicBlock? rest) 2
  | '"', _ => string (basic? cs) 0
  | '\'', '\'' :: '\'' :: rest => string (rawBlock? rest) 2
  | '\'', _ => string (raw? cs) 0
  | _, _ =>
      let word := wordOf (c :: cs)
      (Value.ofWord? word).map fun v => (v, word.length - 1)

mutual

/-- A value. -/
def value? (s : List Char) : Option (Value × Rest s) :=
  match s with
  | [] => none
  | '[' :: cs =>
      match items? cs with
      | none => none
      | some (items, ⟨r, hr⟩) =>
          some (.array items, ⟨r, by simp only [List.length_cons]; omega⟩)
  | '\x7b' :: cs =>
      match entries? cs with
      | none => none
      | some (entries, ⟨r, hr⟩) =>
          some (.table entries, ⟨r, by simp only [List.length_cons]; omega⟩)
  | c :: cs =>
      (scalar? c cs).map fun (v, n) =>
        (v, ⟨cs.drop n, by simp only [List.length_drop, List.length_cons]; omega⟩)
termination_by 2 * s.length
decreasing_by all_goals (simp only [List.length_cons]; omega)

/-- The values up to a closing bracket. -/
def items? (s : List Char) : Option (List Value × Rest s) :=
  match h : skipBlank false s with
  | [] => none
  | c :: cs =>
      have hs := length_lt_of_skipBlank h
      if c = ']' then some ([], ⟨cs, by omega⟩)
      else
        match value? (c :: cs) with
        | none => none
        | some (v, ⟨r, hr⟩) =>
            match h' : skipBlank false r with
            | [] => none
            | d :: rest =>
                have hd := length_lt_of_skipBlank h'
                have hlt : rest.length < s.length := by
                  simp only [List.length_cons] at hr; omega
                if d = ']' then some ([v], ⟨rest, hlt⟩)
                else if d = ',' then
                  match items? rest with
                  | none => none
                  | some (vs, ⟨r', hr'⟩) => some (v :: vs, ⟨r', by omega⟩)
                else none
termination_by 2 * s.length + 1

/-- The keys and values up to a closing brace. -/
def entries? (s : List Char) : Option (List (Key × Value) × Rest s) :=
  match h : skipBlank false s with
  | [] => none
  | c :: cs =>
      have hs := length_lt_of_skipBlank h
      if c = '\x7d' then some ([], ⟨cs, by omega⟩)
      else
        match key? '=' (c :: cs) with
        | none => none
        | some (k, ⟨q, hq⟩) =>
            have hw := length_dropWhile_le isSpace q
            have hq' : q.length ≤ cs.length := Nat.le_of_lt_succ hq
            match value? (q.dropWhile isSpace) with
            | none => none
            | some (v, ⟨r, hr⟩) =>
                match h' : skipBlank false r with
                | [] => none
                | d :: rest =>
                    have hd := length_lt_of_skipBlank h'
                    have hlt : rest.length < s.length := by omega
                    if d = '\x7d' then some ([(k, v)], ⟨rest, hlt⟩)
                    else if d = ',' then
                      match entries? rest with
                      | none => none
                      | some (es, ⟨r', hr'⟩) => some ((k, v) :: es, ⟨r', by omega⟩)
                    else none
termination_by 2 * s.length + 1

end

/-! ### Statements -/

/-- Whether nothing but blanks and a comment is left of the line at the head of
a text. -/
def endsLine (cs : List Char) : Bool :=
  match cs.dropWhile isSpace with
  | [] => true
  | c :: _ => c == '\n' || c == '\r' || c == '#'

/-- The statement at the head of a text. -/
def statement? (s : List Char) : Option (Statement × Rest s) :=
  match s with
  | [] => none
  | '[' :: '[' :: cs =>
      match key? ']' cs with
      | some (k, ⟨']' :: r, hr⟩) =>
          some (.element k, ⟨r, by simp only [List.length_cons] at hr ⊢; omega⟩)
      | _ => none
  | '[' :: cs =>
      match key? ']' cs with
      | some (k, ⟨r, hr⟩) => some (.table k, ⟨r, by simp only [List.length_cons]; omega⟩)
      | none => none
  | s =>
      match key? '=' s with
      | none => none
      | some (k, ⟨q, hq⟩) =>
          have hw := length_dropWhile_le isSpace q
          match value? (q.dropWhile isSpace) with
          | none => none
          | some (v, ⟨r, hr⟩) => some (.assign k v, ⟨r, by omega⟩)

/-- The statements of a text. -/
def statements? (s : List Char) : Option (List Statement) :=
  match h : skipBlank false s with
  | [] => some []
  | c :: cs =>
      match statement? (c :: cs) with
      | none => none
      | some (first, ⟨r, hr⟩) =>
          have : r.length < s.length :=
            Nat.lt_of_lt_of_le hr (Nat.succ_le_of_lt (length_lt_of_skipBlank h))
          if endsLine r then (statements? r).map (first :: ·) else none
termination_by s.length

/-! ### Bytes -/

/-- Whether the control characters of a text are tabs and newlines, a return
only as part of a newline. -/
def hasCleanControls : List Char → Bool
  | [] => true
  | '\r' :: cs => cs.head? == some '\n' && hasCleanControls cs
  | c :: cs =>
      (c == '\t' || c == '\n' || (32 ≤ c.toNat && c.toNat ≠ 127)) && hasCleanControls cs

/-- A text without a byte order mark at its head. -/
def dropMark : List UInt8 → List UInt8
  | 0xFF :: 0xFE :: bs => bs
  | 0xFE :: 0xFF :: bs => bs
  | 0xEF :: 0xBB :: 0xBF :: bs => bs
  | bs => bs

/-- The characters of a clean text. -/
def characters? (bytes : List UInt8) : Option (List Char) :=
  (Utf8.decode? (dropMark bytes)).filter hasCleanControls

/-- The statements of a text as it was received. -/
def parse? (bytes : List UInt8) : Option (List Statement) :=
  (characters? bytes).bind statements?

end ExprMachine.Toml
