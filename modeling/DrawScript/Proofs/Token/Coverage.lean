import DrawScript.Proofs.Token.Shapes
import Mathlib.Data.List.Infix
import Mathlib.Data.List.TakeWhile

set_option autoImplicit false

/-!
# Every character is in some piece

A script is a row of stretches, each of which is a token or layout between tokens. What a stretch
may look like is said without the order in which shapes are tried.
-/

namespace DrawScript

open Piece Text

/-- Text between tokens, with what follows it: a line comment goes on to the end of its line. -/
inductive Gap : (text rest : List Char) → Prop
  | newline {rest : List Char} : Gap ['\n'] rest
  | blanks {text rest : List Char} (present : text ≠ []) (blank : ∀ c ∈ text, isBlank c) :
      Gap text rest
  | blockComment {body rest : List Char} (inside : ¬ ['*', '/'] <:+: body) :
      Gap ('/' :: '*' :: (body ++ ['*', '/'])) rest
  | lineComment {body rest : List Char} (oneLine : '\n' ∉ body) (ends : Ends (· ≠ '\n') rest) :
      Gap ('/' :: '/' :: body) rest

inductive Numeral (digit : Char → Bool) : (whole fraction text : List Char) → Prop
  | whole {digits : List Char} (present : digits ≠ []) (inside : ∀ c ∈ digits, digit c) :
      Numeral digit digits [] digits
  | fraction {whole digits : List Char} (present : digits ≠ [])
      (inside : ∀ c ∈ whole ++ digits, digit c) :
      Numeral digit whole digits (whole ++ '.' :: digits)

/-- The text that a token of this kind and value is read from. -/
inductive Spells : List Char → Token.Kind → Token.Value → Prop
  | number {whole fraction text : List Char} (numeral : Numeral Char.isDigit whole fraction text) :
      Spells text .number (.number (.ofDigits whole fraction))
  | string {contents : String} (quoteless : '"' ∉ contents.toList)
      (oneLine : '\n' ∉ contents.toList) :
      Spells ('"' :: (contents.toList ++ ['"'])) .string (.string contents)
  | boolean (b : Bool) : Spells (if b then "true" else "false").toList .boolean (.boolean b)
  | keyword {word : String} (member : word ∈ Token.keywords) :
      Spells word.toList .keyword (.lexeme word)
  | name {name : String} (isName : IsName name) : Spells name.toList .identifier (.lexeme name)
  | access : Spells ['.'] .access (.lexeme ".")
  | operator {symbol : List Char} (member : symbol ∈ operators) :
      Spells symbol .operator (.lexeme (String.ofList symbol))
  | delimiter {c : Char} (isDelimiter : isDelimiter c) :
      Spells [c] .delimiter (.lexeme (String.ofList [c]))
  | assign : Spells ['='] .assign (.lexeme "=")
  | stray {c : Char} (inLine : c ≠ '\n') : Spells [c] .unknown (.lexeme (String.ofList [c]))
  -- digits of other writing systems have no value
  | foreign {whole fraction text : List Char} (numeral : Numeral isDecimalDigit whole fraction text)
      (other : ¬ text.all fun c => c.isDigit || c = '.') :
      Spells text .unknown (.lexeme (String.ofList text))

theorem Gap.ne_nil {text rest : List Char} (gap : Gap text rest) : text ≠ [] := by
  cases gap with
  | blanks present => exact present
  | newline | blockComment | lineComment => simp

theorem Numeral.ne_nil {digit : Char → Bool} {whole fraction text : List Char}
    (numeral : Numeral digit whole fraction text) : text ≠ [] := by
  cases numeral with
  | whole present => exact present
  | fraction => simp

theorem Numeral.value {whole fraction text : List Char}
    (numeral : Numeral Char.isDigit whole fraction text) :
    Number.ofText? text = some (.ofDigits whole fraction) := by
  have noPoint {c : Char} (digit : c.isDigit) : c ≠ '.' := by
    rintro rfl
    exact absurd digit (by decide)
  cases numeral with
  | whole _ inside =>
    have all : whole.all fun c => c.isDigit || c = '.' := by simp +contextual [inside]
    have front : whole.takeWhile (· ≠ '.') = whole := by
      simpa using fun c member => noPoint (inside c member)
    have back : whole.dropWhile (· ≠ '.') = [] := by
      simpa using fun c member => noPoint (inside c member)
    rw [Number.ofText?, if_pos all, front, back, List.drop_nil]
  | fraction _ inside =>
    obtain ⟨before, after⟩ := List.forall_mem_append.mp inside
    have all : (whole ++ '.' :: fraction).all fun c => c.isDigit || c = '.' := by
      simp +contextual [before, after]
    have front : (whole ++ '.' :: fraction).takeWhile (· ≠ '.') = whole := by
      rw [List.takeWhile_append_of_pos (by simpa using fun c member => noPoint (before c member))]
      simp
    have back : (whole ++ '.' :: fraction).dropWhile (· ≠ '.') = '.' :: fraction := by
      rw [List.dropWhile_append_of_pos (by simpa using fun c member => noPoint (before c member))]
      simp
    rw [Number.ofText?, if_pos all, front, back, List.drop_one, List.tail_cons]

theorem Numeral.ascii {whole fraction text : List Char}
    (numeral : Numeral isDecimalDigit whole fraction text)
    (plain : text.all fun c => c.isDigit || c = '.') :
    Numeral Char.isDigit whole fraction text := by
  have digit (c : Char) (member : c ∈ text) (decimal : isDecimalDigit c) : c.isDigit := by
    have either := List.all_eq_true.mp plain c member
    simp only [Bool.or_eq_true, decide_eq_true_eq] at either
    rcases either with ascii | rfl
    next => exact ascii
    next => exact absurd decimal (by decide)
  cases numeral with
  | whole present inside =>
    exact .whole present fun c member => digit c member (inside c member)
  | fraction present inside =>
    refine .fraction present fun c member => digit c ?_ (inside c member)
    rw [List.mem_append] at member
    simp only [List.mem_append, List.mem_cons]
    tauto

theorem Spells.ne_nil {text : List Char} {kind : Token.Kind} {value : Token.Value}
    (spells : Spells text kind value) : text ≠ [] := by
  cases spells with
  | number numeral | foreign numeral => exact numeral.ne_nil
  | boolean b => cases b <;> decide
  | keyword member =>
    have words : ∀ word ∈ Token.keywords, word.toList ≠ [] := by decide
    exact words _ member
  | name isName =>
    obtain ⟨c, letters, spelled, -⟩ := isName.word
    simp [spelled]
  | operator member =>
    have symbols : ∀ symbol ∈ operators, symbol ≠ [] := by decide
    exact symbols _ member
  | string | access | delimiter | assign | stray => simp

theorem Spells.shown {text : List Char} {kind : Token.Kind} {value : Token.Value}
    (spells : Spells text kind value) (other : kind ≠ .number) :
    value.text = String.ofList text := by
  cases spells with
  | number => exact absurd rfl other
  | string => simp [Token.Value.text, String.ext_iff]
  | boolean b => cases b <;> rfl
  | keyword | name => simp [Token.Value.text]
  | access | operator | delimiter | assign | stray | foreign => rfl

namespace Piece

def Shape.Takes (shape : Shape) (cs : List Char) (property : List Char → List Char → Prop) : Prop :=
  shape.extent cs ≠ 0 →
    ∃ text rest, cs = text ++ rest ∧ shape.extent cs = text.length ∧ property text rest

theorem exists_run (kind : Char → Bool) (cs : List Char) :
    ∃ run rest, cs = run ++ rest ∧ cs.takeWhile kind = run ∧ (∀ c ∈ run, kind c) ∧
      Ends kind rest := by
  refine ⟨cs.takeWhile kind, cs.dropWhile kind, List.takeWhile_append_dropWhile.symm, rfl,
    List.all_eq_true.mp List.all_takeWhile, ?_⟩
  intro c first
  have stops := List.head?_dropWhile_not kind cs
  rw [Option.mem_def.mp first] at stops
  exact stops

theorem blank_takes (cs : List Char) : Shape.blank.Takes cs Gap := by
  intro present
  obtain ⟨run, rest, split, taken, inside, -⟩ := exists_run isBlank cs
  have extent : Shape.blank.extent cs = run.length := by rw [Shape.extent, taken]
  rw [extent] at present
  exact ⟨run, rest, split, extent, .blanks (List.ne_nil_of_length_pos (by omega)) inside⟩

theorem commentEnd?_eq_some {cs : List Char} {length : Nat} (found : commentEnd? cs = some length) :
    ∃ body rest, cs = body ++ '*' :: '/' :: rest ∧ length = body.length + 2 ∧
      ¬ ['*', '/'] <:+: body := by
  induction cs using commentEnd?.induct generalizing length with
  | case1 => simp [commentEnd?] at found
  | case2 rest =>
    simp only [commentEnd?, Option.some.injEq] at found
    exact ⟨[], rest, rfl, by simp [← found], by simp⟩
  | case3 c rest other ih =>
    obtain ⟨inner, later, rfl⟩ : ∃ inner, commentEnd? rest = some inner ∧ inner + 1 = length := by
      simpa [commentEnd?, other] using found
    obtain ⟨body, after, rfl, rfl, inside⟩ := ih later
    refine ⟨c :: body, after, rfl, rfl, ?_⟩
    rw [List.infix_cons_iff]
    rintro (front | later)
    next =>
      -- The first two characters would have ended the comment.
      obtain ⟨more, same⟩ := front
      cases same
      exact other _ rfl rfl
    next => exact inside later

theorem blockComment_takes (cs : List Char) : Shape.blockComment.Takes cs Gap := by
  intro present
  rw [Shape.extent.eq_def] at present
  split at present
  all_goals try contradiction
  next rest _ =>
    cases found : commentEnd? rest with
    | none => simp [found] at present
    | some length =>
      obtain ⟨body, after, rfl, rfl, inside⟩ := commentEnd?_eq_some found
      refine ⟨'/' :: '*' :: (body ++ ['*', '/']), after, by simp, ?_, .blockComment inside⟩
      simp [Shape.extent, found]

theorem lineComment_takes (cs : List Char) : Shape.lineComment.Takes cs Gap := by
  intro present
  rw [Shape.extent.eq_def] at present
  split at present
  all_goals try contradiction
  next rest _ =>
    obtain ⟨body, after, split, taken, inside, ends⟩ := exists_run (· ≠ '\n') rest
    refine ⟨'/' :: '/' :: body, after, by rw [split]; rfl, ?_, .lineComment ?_ ends⟩
    next => simp only [Shape.extent, taken, List.length_cons]
    next => exact fun member => by simpa using inside '\n' member

theorem fraction_of_length {cs : List Char} (present : fractionLength cs ≠ 0) :
    ∃ digits rest, cs = '.' :: (digits ++ rest) ∧ fractionLength cs = digits.length + 1 ∧
      digits ≠ [] ∧ ∀ c ∈ digits, isDecimalDigit c := by
  rw [fractionLength.eq_def] at present ⊢
  split at present
  next rest =>
    obtain ⟨digits, after, split, taken, inside, -⟩ := exists_run isDecimalDigit rest
    have count : digitCount rest = digits.length := by rw [digitCount, taken]
    rw [count] at present ⊢
    cases digits with
    | nil => exact absurd rfl present
    | cons c digits => exact ⟨c :: digits, after, by rw [split], rfl, by simp, inside⟩
  next => exact absurd rfl present

theorem number_takes (cs : List Char) :
    Shape.number.Takes cs fun text _ =>
      ∃ whole fraction, Numeral isDecimalDigit whole fraction text := by
  intro present
  obtain ⟨whole, after, rfl, taken, inside, -⟩ := exists_run isDecimalDigit cs
  have extent : Shape.number.extent (whole ++ after) = whole.length + fractionLength after := by
    rw [Shape.extent, digitCount, taken, List.drop_left]
  rw [extent] at present ⊢
  by_cases pointless : fractionLength after = 0
  next =>
    have positive : whole ≠ [] := List.ne_nil_of_length_pos (by omega)
    exact ⟨whole, after, rfl, by omega, whole, [], .whole positive inside⟩
  next =>
    obtain ⟨digits, last, rfl, length, positive, insideDigits⟩ := fraction_of_length pointless
    refine ⟨whole ++ '.' :: digits, last, by simp, ?_, whole, digits, .fraction positive ?_⟩
    next => rw [length, List.length_append, List.length_cons]
    next => exact List.forall_mem_append.mpr ⟨inside, insideDigits⟩

theorem string_takes (cs : List Char) :
    Shape.string.Takes cs fun text _ =>
      ∃ contents, text = '"' :: (contents ++ ['"']) ∧ '"' ∉ contents ∧ '\n' ∉ contents := by
  intro present
  rw [Shape.extent, stringLength.eq_def] at present
  split at present
  next rest =>
    obtain ⟨contents, after, rfl, taken, inside, -⟩ :=
      exists_run (fun c => c ≠ '"' && c ≠ '\n') rest
    simp only [taken, List.drop_left] at present
    split at present
    next last =>
      refine ⟨'"' :: (contents ++ ['"']), last, by simp, ?_, contents, rfl, ?_, ?_⟩
      next => simp only [Shape.extent, stringLength, taken, List.drop_left]; simp
      next => exact fun member => by simpa using inside '"' member
      next => exact fun member => by simpa using inside '\n' member
    next => exact absurd rfl present
  next => exact absurd rfl present

theorem boolean_takes (cs : List Char) :
    Shape.boolean.Takes cs fun text _ =>
      ∃ b : Bool, text = (if b then "true" else "false").toList := by
  intro present
  have single (literal : List Char) (found : literalLength literal cs ≠ 0) :
      literalLength literal cs = literal.length ∧ ∃ rest, cs = literal ++ rest := by
    rw [literalLength] at found ⊢
    split at found
    next matched =>
      obtain ⟨front, -⟩ := (Bool.and_eq_true _ _).mp matched
      obtain ⟨rest, rfl⟩ := List.isPrefixOf_iff_prefix.mp front
      exact ⟨by rw [if_pos matched], rest, rfl⟩
    next => exact absurd rfl found
  rw [Shape.extent] at present
  by_cases affirmed : literalLength "true".toList cs = 0
  next =>
    obtain ⟨length, rest, rfl⟩ := single "false".toList (by omega)
    exact ⟨_, rest, rfl, by rw [Shape.extent, affirmed, length, Nat.zero_add], false, rfl⟩
  next =>
    obtain ⟨length, rest, rfl⟩ := single "true".toList affirmed
    have other : literalLength "false".toList ("true".toList ++ rest) = 0 := rfl
    exact ⟨_, rest, rfl, by rw [Shape.extent, other, length, Nat.add_zero], true, rfl⟩

theorem word_takes (cs : List Char) :
    Shape.word.Takes cs fun text rest => ∃ word : String, text = word.toList ∧
      word.toList.head?.any startsWord ∧ word.toList.tail.all isWordCharacter ∧
        Ends isWordCharacter rest := by
  intro present
  rw [Shape.extent.eq_def] at present
  split at present
  all_goals try contradiction
  next c rest _ =>
    split at present
    next starts =>
      obtain ⟨letters, after, rfl, taken, inside, ends⟩ := exists_run isWordCharacter rest
      refine ⟨c :: letters, after, rfl, ?_, String.ofList (c :: letters), ?_, ?_, ?_, ends⟩
      next => simp [Shape.extent, starts, taken]
      next => rw [String.toList_ofList]
      next => rw [String.toList_ofList]; exact starts
      next => rw [String.toList_ofList]; exact List.all_eq_true.mpr inside
    next => exact absurd rfl present

theorem operator_takes (cs : List Char) :
    Shape.operator.Takes cs fun text _ => text ∈ operators := by
  rw [Shape.Takes, Shape.extent, operatorLength.eq_def]
  have signs : ∀ c ∈ ['-', '+', '*', '/', '%', '<', '>', '!'], [c] ∈ operators := by
    simp [operators]
  split
  iterate 6 exact fun _ => ⟨[_, _], _, rfl, rfl, by decide⟩
  next c rest _ _ _ _ _ _ =>
    split
    next sign => exact fun _ => ⟨[c], rest, rfl, rfl, signs c (List.contains_iff_mem.mp sign)⟩
    next => exact fun present => absurd rfl present
  next => exact fun present => absurd rfl present

theorem single_takes (shape : Shape)
    (single : shape ∈ [.newline, .access, .delimiter, .assign, .stray]) (cs : List Char) :
    shape.Takes cs fun text _ => ∃ c, text = [c] ∧ shape.starts c := by
  intro present
  cases cs with
  | nil => exact absurd (extent_nil shape) present
  | cons c rest =>
    have starts : shape.starts c := by
      by_contra other
      exact present (extent_of_starts (Bool.eq_false_iff.mpr other))
    have one : shape.extent (c :: rest) = 1 := by
      cases shape with
      | newline | access | delimiter | assign | stray => simp_all [Shape.starts, Shape.extent]
      | _ => simp at single
    exact ⟨[c], rest, rfl, one, c, rfl, starts⟩

theorem first?_earlier {cs : List Char} {piece : Piece} (found : first? cs = some piece) :
    ∀ s ∈ Shape.priority.takeWhile (· ≠ piece.shape), s.extent cs = 0 := by
  obtain ⟨earlier, shape, later, order, taken, none⟩ := List.findSome?_eq_some_iff.mp found
  have same : shape = piece.shape := by
    rw [Shape.piece?] at taken
    split at taken
    next => cases taken
    next => cases taken; rfl
  have others : ∀ s ∈ earlier, s ≠ piece.shape := by
    rintro s member rfl
    rw [same, none _ member] at taken
    cases taken
  intro s member
  rw [order, List.takeWhile_append_of_pos (by simpa using others),
    List.takeWhile_cons_of_neg (by simp [same]), List.append_nil] at member
  have nothing := none s member
  rw [Shape.piece?] at nothing
  split at nothing
  next empty => exact empty
  next => cases nothing

theorem exists_first? {cs : List Char} (present : cs ≠ []) : ∃ piece, first? cs = some piece := by
  cases found : first? cs with
  | some piece => exact ⟨piece, rfl⟩
  | none =>
    -- A line end is a piece of its own, and anything else is at least stray.
    have nothing : ∀ s ∈ Shape.priority, s.extent cs = 0 := by
      intro s member
      have none := List.findSome?_eq_none_iff.mp found s member
      rw [Shape.piece?] at none
      split at none
      next empty => exact empty
      next => cases none
    obtain ⟨c, rest, rfl⟩ := List.exists_cons_of_ne_nil present
    have stray := nothing .stray (by decide)
    by_cases ends : c = '\n'
    next =>
      rw [ends] at nothing
      exact absurd (nothing .newline (by decide)) (by simp [Shape.extent])
    next => simp [Shape.extent, ends] at stray

theorem first?_takes {cs : List Char} {piece : Piece} {property : List Char → List Char → Prop}
    (found : first? cs = some piece) (takes : piece.shape.Takes cs property) :
    ∃ rest, cs = piece.text ++ rest ∧ property piece.text rest := by
  obtain ⟨present, taken⟩ := first?_eq_some found
  obtain ⟨text, rest, rfl, extent, holds⟩ := takes present
  rw [extent, List.take_left] at taken
  exact ⟨rest, by rw [taken], by rwa [taken]⟩

def Stands (line : Nat) (text rest : List Char) : Option Token → Prop
  | none => Gap text rest
  | some t => Spells text t.kind t.value ∧ t.line = line

theorem word_spells {word : String} {rest : List Char}
    (found : first? (word.toList ++ rest) = some ⟨.word, word.toList⟩)
    (starts : word.toList.head?.any startsWord) (letters : word.toList.tail.all isWordCharacter)
    (ends : Ends isWordCharacter rest) : Spells word.toList (wordKind word) (.lexeme word) := by
  have noLiteral : Shape.boolean.extent (word.toList ++ rest) = 0 := by
    have before : Shape.boolean ∈ Shape.priority.takeWhile (· ≠ .word) := by decide
    exact first?_earlier found .boolean before
  have other (literal : String) (positive : literal.toList ≠ [])
      (length : literalLength literal.toList (word.toList ++ rest) = 0) : word ≠ literal := by
    rintro rfl
    rw [literalLength_of_ends ends] at length
    exact positive (List.eq_nil_of_length_eq_zero length)
  rw [Shape.extent] at noLiteral
  by_cases keyword : word ∈ Token.keywords
  next =>
    have spelled := Spells.keyword keyword
    simpa [wordKind, keyword] using spelled
  next =>
    have notTrue := other "true" (by decide) (by omega)
    have notFalse := other "false" (by decide) (by omega)
    have spelled := Spells.name ⟨starts, letters, keyword, notTrue, notFalse⟩
    simpa [wordKind, keyword] using spelled

theorem first?_stands {cs : List Char} {piece : Piece} (found : first? cs = some piece)
    (line : Nat) :
    ∃ rest, cs = piece.text ++ rest ∧ Stands line piece.text rest (piece.token? line) := by
  obtain ⟨shape, text⟩ := piece
  cases shape with
  | newline =>
    obtain ⟨rest, split, c, rfl, starts⟩ :=
      first?_takes found (single_takes .newline (by decide) cs)
    cases of_decide_eq_true starts
    exact ⟨rest, split, .newline⟩
  | blank => exact first?_takes found (blank_takes cs)
  | blockComment => exact first?_takes found (blockComment_takes cs)
  | lineComment => exact first?_takes found (lineComment_takes cs)
  | number =>
    obtain ⟨rest, split, whole, fraction, numeral⟩ := first?_takes found (number_takes cs)
    refine ⟨rest, split, ?_⟩
    by_cases plain : text.all fun c => c.isDigit || c = '.'
    next =>
      have ascii := Numeral.ascii numeral plain
      simp only [token?, Numeral.value ascii]
      exact ⟨.number ascii, rfl⟩
    next =>
      simp only [token?, Number.ofText?, if_neg plain]
      exact ⟨.foreign numeral plain, rfl⟩
  | string =>
    obtain ⟨rest, split, contents, rfl, quoteless, oneLine⟩ := first?_takes found (string_takes cs)
    have spelled : Spells _ .string (.string (String.ofList contents)) :=
      .string (by simpa using quoteless) (by simpa using oneLine)
    exact ⟨rest, split, by simpa [Stands, token?] using spelled⟩
  | boolean =>
    obtain ⟨rest, split, b, rfl⟩ := first?_takes found (boolean_takes cs)
    cases b with
    | true => exact ⟨rest, split, .boolean true, rfl⟩
    | false => exact ⟨rest, split, .boolean false, rfl⟩
  | word =>
    obtain ⟨rest, rfl, word, rfl, starts, letters, ends⟩ := first?_takes found (word_takes cs)
    refine ⟨rest, rfl, ?_⟩
    simp only [token?, String.ofList_toList]
    exact ⟨word_spells found starts letters ends, rfl⟩
  | access =>
    obtain ⟨rest, split, c, rfl, starts⟩ :=
      first?_takes found (single_takes .access (by decide) cs)
    cases of_decide_eq_true starts
    exact ⟨rest, split, .access, rfl⟩
  | operator =>
    obtain ⟨rest, split, member⟩ := first?_takes found (operator_takes cs)
    exact ⟨rest, split, .operator member, rfl⟩
  | delimiter =>
    obtain ⟨rest, split, c, rfl, starts⟩ :=
      first?_takes found (single_takes .delimiter (by decide) cs)
    exact ⟨rest, split, .delimiter starts, rfl⟩
  | assign =>
    obtain ⟨rest, split, c, rfl, starts⟩ :=
      first?_takes found (single_takes .assign (by decide) cs)
    cases of_decide_eq_true starts
    exact ⟨rest, split, .assign, rfl⟩
  | stray =>
    obtain ⟨rest, split, c, rfl, starts⟩ :=
      first?_takes found (single_takes .stray (by decide) cs)
    exact ⟨rest, split, .stray (of_decide_eq_true starts), rfl⟩

theorem divide_induction {motive : List Char → List Piece → Prop} (nil : motive [] [])
    (cons : ∀ piece rest, first? (piece.text ++ rest) = some piece → motive rest (divide rest) →
      motive (piece.text ++ rest) (piece :: divide rest)) (cs : List Char) :
    motive cs (divide cs) := by
  induction length : cs.length using Nat.strong_induction_on generalizing cs with
  | _ n ih =>
    by_cases present : cs = []
    next =>
      rw [present]
      exact nil
    next =>
      obtain ⟨piece, found⟩ := exists_first? present
      obtain ⟨rest, rfl, -⟩ := first?_stands found 1
      have positive := first?_pos found
      rw [List.length_append] at length
      rw [divide_of_first? found, List.drop_left]
      exact cons piece rest found (ih rest.length (by omega) rest rfl)

theorem cut_rest {bound cs : List Char} (enough : cs.length ≤ bound.length) :
    (cut bound cs).2 = [] := by
  induction bound generalizing cs with
  | nil => exact List.eq_nil_of_length_eq_zero (Nat.le_zero.mp enough)
  | cons b bound ih =>
    by_cases present : cs = []
    next =>
      rw [present]
      rfl
    next =>
      obtain ⟨piece, found⟩ := exists_first? present
      have positive := first?_pos found
      simp only [cut, found]
      apply ih
      rw [List.length_drop]
      rw [List.length_cons] at enough
      omega

end Piece

structure Stretch where
  text : List Char
  token : Option Token

namespace Stretch

def row (line : Nat) : List Piece → List Stretch
  | [] => []
  | piece :: pieces => ⟨piece.text, piece.token? line⟩ :: row (line + piece.newlines) pieces

theorem tokens_ofPieces (line : Nat) (pieces : List Piece) :
    (Reading.ofPieces line pieces).tokens = (row line pieces).filterMap token := by
  induction pieces generalizing line with
  | nil => rfl
  | cons piece pieces ih =>
    rw [Reading.ofPieces, row]
    cases found : piece.token? line with
    | none => simp [ih]
    | some t => simp [ih, Reading.add]

theorem errors_ofPieces (line : Nat) (pieces : List Piece) :
    (Reading.ofPieces line pieces).errors =
      ((Reading.ofPieces line pieces).tokens.filter (·.kind = .unknown)).map
        fun t => ⟨t.line, t.text⟩ := by
  induction pieces generalizing line with
  | nil => rfl
  | cons piece pieces ih =>
    rw [Reading.ofPieces]
    cases piece.token? line with
    | none => exact ih _
    | some t => by_cases unknown : t.kind = .unknown <;> simp [Reading.add, unknown, ih]

theorem text_row (line : Nat) (cs : List Char) : (row line (divide cs)).flatMap text = cs := by
  induction cs using divide_induction generalizing line with
  | nil => rfl
  | cons piece rest _ ih => rw [row, List.flatMap_cons, ih]

theorem row_stands (line : Nat) (cs : List Char) {before after : List Stretch} {stretch : Stretch}
    (split : row line (divide cs) = before ++ stretch :: after) :
    Stands (line + (before.flatMap text).count '\n') stretch.text (after.flatMap text)
      stretch.token := by
  induction cs using divide_induction generalizing line before with
  | nil => simp [row] at split
  | cons piece rest found ih =>
    rw [row] at split
    cases before with
    | nil =>
      obtain ⟨rfl, rfl⟩ := List.cons.inj split
      obtain ⟨others, same, stands⟩ := first?_stands found line
      rw [← List.append_cancel_left same] at stands
      rw [text_row]
      exact stands
    | cons first before =>
      obtain ⟨rfl, later⟩ := List.cons.inj split
      have stands := ih _ later
      rwa [List.flatMap_cons, List.count_append, ← Nat.add_assoc]

end Stretch

theorem spells_of_mem_tokens {script : String} {t : Token}
    (member : t ∈ (tokenize script).tokens) : ∃ text, Spells text t.kind t.value := by
  rw [tokenize, Stretch.tokens_ofPieces, List.mem_filterMap] at member
  obtain ⟨stretch, inside, read⟩ := member
  obtain ⟨before, after, split⟩ := List.append_of_mem inside
  have stands := Stretch.row_stands 1 script.toList split
  rw [read] at stands
  exact ⟨stretch.text, stands.1⟩

theorem tokenize_covers (script : String) :
    ∃ row : List Stretch, row.flatMap Stretch.text = script.toList ∧
      (∀ before stretch after, row = before ++ stretch :: after → stretch.text ≠ [] ∧
        match stretch.token with
        | none => Gap stretch.text (after.flatMap Stretch.text)
        | some t => Spells stretch.text t.kind t.value ∧
            t.line = 1 + (before.flatMap Stretch.text).count '\n' ∧
            (t.kind ≠ .number → t.text = String.ofList stretch.text)) ∧
      (tokenize script).tokens = row.filterMap Stretch.token ∧
      (tokenize script).errors =
        ((tokenize script).tokens.filter (·.kind = .unknown)).map (fun t => ⟨t.line, t.text⟩) ∧
      (Piece.cut script.toList script.toList).2 = [] := by
  refine ⟨Stretch.row 1 (divide script.toList), Stretch.text_row 1 _, ?_,
    Stretch.tokens_ofPieces 1 _, Stretch.errors_ofPieces 1 _, cut_rest (Nat.le_refl _)⟩
  intro before stretch after split
  have stands := Stretch.row_stands 1 _ split
  cases read : stretch.token with
  | none =>
    rw [read] at stands
    exact ⟨stands.ne_nil, stands⟩
  | some t =>
    rw [read] at stands
    obtain ⟨spelled, line⟩ := stands
    exact ⟨spelled.ne_nil, spelled, line, spelled.shown⟩

end DrawScript
