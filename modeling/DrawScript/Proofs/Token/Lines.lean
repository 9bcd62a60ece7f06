import DrawScript.Proofs.Token.Coverage

set_option autoImplicit false

namespace DrawScript

namespace Piece

open Text

theorem takeWhile_before {kind : Char → Bool} {stop : Char} (other : kind stop = false)
    (cs rest : List Char) : (cs ++ stop :: rest).takeWhile kind = cs.takeWhile kind := by
  induction cs with
  | nil => simp [other]
  | cons c cs ih =>
    by_cases inside : kind c
    next => simp [inside, ih]
    next => simp [inside]

theorem prefix_before {literal : List Char} {stop : Char} (absent : stop ∉ literal)
    (cs rest : List Char) : literal <+: cs ++ stop :: rest ↔ literal <+: cs := by
  induction literal generalizing cs with
  | nil => simp
  | cons l literal ih =>
    obtain ⟨other, later⟩ : stop ≠ l ∧ stop ∉ literal := by simpa using absent
    cases cs with
    | nil => simp [List.cons_prefix_cons, Ne.symm other]
    | cons c cs => simp [List.cons_prefix_cons, ih later]

theorem Shape.Takes.extent_le {shape : Shape} {cs : List Char}
    {property : List Char → List Char → Prop} (takes : shape.Takes cs property) :
    shape.extent cs ≤ cs.length := by
  by_cases present : shape.extent cs = 0
  next => omega
  next =>
    obtain ⟨text, rest, split, extent, -⟩ := takes present
    rw [extent, split, List.length_append]
    omega

theorem extent_le (shape : Shape) (cs : List Char) : shape.extent cs ≤ cs.length := by
  cases shape with
  | newline | access | delimiter | assign | stray => exact (single_takes _ (by decide) cs).extent_le
  | blank => exact (blank_takes cs).extent_le
  | blockComment => exact (blockComment_takes cs).extent_le
  | lineComment => exact (lineComment_takes cs).extent_le
  | number => exact (number_takes cs).extent_le
  | string => exact (string_takes cs).extent_le
  | boolean => exact (boolean_takes cs).extent_le
  | word => exact (word_takes cs).extent_le
  | operator => exact (operator_takes cs).extent_le

theorem fractionLength_before (cs rest : List Char) :
    fractionLength (cs ++ '\n' :: rest) = fractionLength cs := by
  cases cs with
  | nil => rfl
  | cons c cs =>
    by_cases point : c = '.'
    next =>
      simp only [point, List.cons_append, fractionLength, digitCount]
      rw [takeWhile_before (by decide)]
    next => simp [fractionLength, point]

theorem stringLength_before (cs rest : List Char) :
    stringLength (cs ++ '\n' :: rest) = stringLength cs := by
  cases cs with
  | nil => rfl
  | cons c cs =>
    by_cases quote : c = '"'
    next =>
      -- The contents end in front of the line end, so the quote that closes them is there or not.
      obtain ⟨contents, after, rfl, taken, -, -⟩ :=
        exists_run (fun c => c ≠ '"' && c ≠ '\n') cs
      simp only [quote, List.cons_append, stringLength]
      rw [takeWhile_before (by decide), taken, List.append_assoc, List.drop_left, List.drop_left]
      cases after with
      | nil => rfl
      | cons d after => by_cases closes : d = '"' <;> simp [closes]
    next => simp [stringLength, quote]

theorem literalLength_before {literal : List Char} (absent : '\n' ∉ literal)
    (cs rest : List Char) :
    literalLength literal (cs ++ '\n' :: rest) = literalLength literal cs := by
  by_cases front : literal <+: cs
  next =>
    obtain ⟨after, rfl⟩ := front
    have letter : isWordCharacter '\n' = false := by decide
    cases after <;> simp [literalLength, List.append_assoc, letter]
  next =>
    have beyond : ¬ literal <+: cs ++ '\n' :: rest := (prefix_before absent cs rest).not.mpr front
    simp [literalLength, ← List.isPrefixOf_iff_prefix] at front beyond ⊢
    simp [front, beyond]

theorem operatorLength_two (c d : Char) (cs more : List Char) :
    operatorLength (c :: d :: cs) = operatorLength (c :: d :: more) := by
  by_cases pair : [c, d] ∈ operators
  next =>
    have each : ∀ symbol ∈ operators,
        operatorLength (symbol ++ cs) = operatorLength (symbol ++ more) ∨ symbol.length = 1 := by
      simp [operators, operatorLength]
    simpa using each _ pair
  next =>
    have single (cs : List Char) : operatorLength (c :: d :: cs) =
        if ['-', '+', '*', '/', '%', '<', '>', '!'].contains c then 1 else 0 := by
      apply operatorLength.eq_7 <;> (rintro _ rfl ⟨⟩; exact pair (by decide))
    rw [single, single]

theorem operatorLength_before {cs : List Char} (present : cs ≠ []) (rest : List Char) :
    operatorLength (cs ++ '\n' :: rest) = operatorLength cs := by
  match cs with
  | [] => exact absurd rfl present
  | [c] => simp [operatorLength]
  | c :: d :: cs => exact operatorLength_two c d _ cs

theorem blockComment_prefix {cs : List Char} (present : Shape.blockComment.extent cs ≠ 0) :
    ['/', '*'] <+: cs := by
  rw [Shape.extent.eq_def] at present
  split at present
  all_goals try contradiction
  next rest _ => exact ⟨rest, rfl⟩

theorem lineComment_prefix {cs : List Char} (present : Shape.lineComment.extent cs ≠ 0) :
    ['/', '/'] <+: cs := by
  rw [Shape.extent.eq_def] at present
  split at present
  all_goals try contradiction
  next rest _ => exact ⟨rest, rfl⟩

theorem extent_before {cs : List Char} (present : cs ≠ []) (plain : ¬ ['/', '*'] <+: cs)
    (shape : Shape) (rest : List Char) :
    shape.extent (cs ++ '\n' :: rest) = shape.extent cs := by
  obtain ⟨c, cs, rfl⟩ := List.exists_cons_of_ne_nil present
  cases shape with
  | newline => by_cases ends : c = '\n' <;> simp [Shape.extent, ends]
  | blank => rw [Shape.extent, Shape.extent, takeWhile_before (by decide)]
  | blockComment =>
    have beyond : ¬ ['/', '*'] <+: c :: cs ++ '\n' :: rest :=
      (prefix_before (by decide) (c :: cs) rest).not.mpr plain
    rw [not_not.mp (mt blockComment_prefix plain), not_not.mp (mt blockComment_prefix beyond)]
  | lineComment =>
    by_cases slashes : ['/', '/'] <+: c :: cs
    next =>
      obtain ⟨body, spelled⟩ := slashes
      rw [← spelled]
      simp only [Shape.extent, List.cons_append, List.nil_append]
      rw [takeWhile_before (by decide)]
    next =>
      have beyond : ¬ ['/', '/'] <+: c :: cs ++ '\n' :: rest :=
        (prefix_before (by decide) (c :: cs) rest).not.mpr slashes
      rw [not_not.mp (mt lineComment_prefix slashes), not_not.mp (mt lineComment_prefix beyond)]
  | number =>
    have digits (cs : List Char) : digitCount (cs ++ '\n' :: rest) = digitCount cs := by
      rw [digitCount, digitCount, takeWhile_before (by decide)]
    have within : digitCount (c :: cs) ≤ (c :: cs).length := (List.takeWhile_prefix _).length_le
    rw [Shape.extent, Shape.extent, digits, List.drop_append_of_le_length within,
      fractionLength_before]
  | string => exact stringLength_before (c :: cs) rest
  | boolean =>
    rw [Shape.extent, Shape.extent, literalLength_before (by decide),
      literalLength_before (by decide)]
  | word =>
    simp only [Shape.extent, List.cons_append]
    rw [takeWhile_before (by decide)]
  | access => by_cases point : c = '.' <;> simp [Shape.extent, point]
  | operator => exact operatorLength_before present rest
  | delimiter => rfl
  | assign => by_cases sign : c = '=' <;> simp [Shape.extent, sign]
  | stray => rfl

theorem first?_before {cs : List Char} (present : cs ≠ []) (plain : ¬ ['/', '*'] <+: cs)
    (rest : List Char) : first? (cs ++ '\n' :: rest) = first? cs := by
  have same (shape : Shape) : shape.piece? (cs ++ '\n' :: rest) = shape.piece? cs := by
    rw [Shape.piece?, Shape.piece?, extent_before present plain]
    split
    next => rfl
    next => rw [List.take_append_of_le_length (extent_le shape cs)]
  simp only [first?, same]

theorem divide_append_newline (a b : List Char) (plain : ¬ ['/', '*'] <:+: a) :
    divide (a ++ '\n' :: b) = divide a ++ ⟨.newline, ['\n']⟩ :: divide b := by
  induction a using divide_induction with
  | nil =>
    have found : first? ('\n' :: b) = some ⟨.newline, ['\n']⟩ := rfl
    exact divide_of_first? found
  | cons piece rest found ih =>
    have present : piece.text ++ rest ≠ [] := by
      have positive := first?_pos found
      exact List.ne_nil_of_length_pos (by rw [List.length_append]; omega)
    have here : ¬ ['/', '*'] <+: piece.text ++ rest := fun front => plain front.isInfix
    have later : ¬ ['/', '*'] <:+: rest :=
      fun inside => plain (inside.trans (List.suffix_append _ _).isInfix)
    have same := (first?_before present here b).trans found
    rw [divide_of_first? same, List.append_assoc, List.drop_left, ih later, List.cons_append]

theorem token?_add (piece : Piece) (line lines : Nat) :
    piece.token? (line + lines) =
      (piece.token? line).map fun t => { t with line := t.line + lines } := by
  obtain ⟨shape, text⟩ := piece
  cases shape with
  | number => cases found : Number.ofText? text <;> simp [token?, found, Token.ofLexeme]
  | _ => rfl

theorem token?_line {piece : Piece} {line : Nat} {t : Token} (found : piece.token? line = some t) :
    t.line = line := by
  obtain ⟨shape, text⟩ := piece
  cases shape with
  | number =>
    simp only [token?] at found
    split at found <;> (cases found; rfl)
  | newline | blank | blockComment | lineComment => cases found
  | _ => cases found; rfl

end Piece

def Token.below (t : Token) (lines : Nat) : Token := { t with line := t.line + lines }

def LexicalError.below (e : LexicalError) (lines : Nat) : LexicalError :=
  { e with line := e.line + lines }

namespace Reading

def below (r : Reading) (lines : Nat) : Reading :=
  { tokens := r.tokens.map (·.below lines), errors := r.errors.map (·.below lines) }

def append (r later : Reading) : Reading :=
  { tokens := r.tokens ++ later.tokens, errors := r.errors ++ later.errors }

theorem ofPieces_add (pieces : List Piece) (line lines : Nat) :
    ofPieces (line + lines) pieces = (ofPieces line pieces).below lines := by
  induction pieces generalizing line with
  | nil => rfl
  | cons piece pieces ih =>
    have order : line + lines + piece.newlines = line + piece.newlines + lines := by omega
    rw [ofPieces, ofPieces, order, ih, Piece.token?_add]
    cases piece.token? line with
    | none => rfl
    | some t =>
      by_cases unknown : t.kind = .unknown
      next => simp [add, below, unknown, Token.below, LexicalError.below, Token.text]
      next => simp [add, below, unknown, Token.below]

theorem ofPieces_append (a : List Char) (line : Nat) (pieces : List Piece) :
    ofPieces line (Piece.divide a ++ pieces) =
      (ofPieces line (Piece.divide a)).append (ofPieces (line + a.count '\n') pieces) := by
  induction a using Piece.divide_induction generalizing line with
  | nil => rfl
  | cons piece rest _ ih =>
    rw [List.cons_append, ofPieces, ofPieces, ih, List.count_append, ← Nat.add_assoc]
    cases piece.token? line with
    | none => rfl
    | some t => by_cases unknown : t.kind = .unknown <;> simp [add, append, unknown, Piece.newlines]

theorem ofPieces_lines (pieces : List Piece) (line : Nat) :
    (line :: (ofPieces line pieces).tokens.map Token.line).Pairwise (· ≤ ·) := by
  induction pieces generalizing line with
  | nil => simp [ofPieces]
  | cons piece pieces ih =>
    obtain ⟨low, sorted⟩ := List.pairwise_cons.mp (ih (line + piece.newlines))
    have bound : ∀ n ∈ (ofPieces (line + piece.newlines) pieces).tokens.map Token.line, line ≤ n :=
      fun n member => Nat.le_trans (Nat.le_add_right _ _) (low n member)
    have later := List.pairwise_cons.mpr ⟨bound, sorted⟩
    rw [ofPieces]
    cases found : piece.token? line with
    | none => exact later
    | some t =>
      simp only [add, List.map_cons, Piece.token?_line found]
      exact List.pairwise_cons.mpr ⟨List.forall_mem_cons.mpr ⟨Nat.le_refl _, bound⟩, later⟩

end Reading

theorem tokenize_append_newline (a b : String) (plain : ¬ "/*".toList <:+: a.toList) :
    tokenize (a ++ "\n" ++ b) =
      (tokenize a).append ((tokenize b).below (1 + a.toList.count '\n')) := by
  have text : (a ++ "\n" ++ b).toList = a.toList ++ '\n' :: b.toList := by simp
  have lineEnd (line : Nat) (pieces : List Piece) :
      Reading.ofPieces line (⟨.newline, ['\n']⟩ :: pieces) = Reading.ofPieces (line + 1) pieces :=
    rfl
  have lines : 1 + a.toList.count '\n' + 1 = 1 + (1 + a.toList.count '\n') := by omega
  simp only [tokenize]
  rw [text, Piece.divide_append_newline _ _ plain, Reading.ofPieces_append, lineEnd, lines,
    Reading.ofPieces_add]

-- The first text ends inside a string that is never closed, the second begins with a comment.
theorem tokenize_append_newline_open :
    ∃ a b : String, a = "x = 1.\n\"y" ∧ b = "/* z\n */ true\n@" ∧
      ¬ "/*".toList <:+: a.toList ∧
      tokenize (a ++ "\n" ++ b) = (tokenize a).append ((tokenize b).below 2) ∧
      (tokenize (a ++ "\n" ++ b)).tokens.map Token.line = [1, 1, 1, 1, 2, 2, 4, 5] ∧
      (tokenize (a ++ "\n" ++ b)).errors = [⟨2, "\""⟩, ⟨5, "@"⟩] := by
  have plain : ¬ "/*".toList <:+: "x = 1.\n\"y".toList := by decide
  have read := tokenize_append_newline "x = 1.\n\"y" "/* z\n */ true\n@" plain
  exact ⟨_, _, rfl, rfl, plain, read, rfl, rfl⟩

end DrawScript
