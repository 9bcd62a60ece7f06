import DrawScript.Proofs.Number.Exact
import DrawScript.Proofs.Token.Division

set_option autoImplicit false

namespace DrawScript

namespace Piece

open Text

def Shape.starts : Shape → Char → Bool
  | .newline, c => c = '\n'
  | .blank, c => isBlank c
  | .blockComment, c | .lineComment, c => c = '/'
  | .number, c => isDecimalDigit c || c = '.'
  | .string, c => c = '"'
  | .boolean, c => c = 't' || c = 'f'
  | .word, c => startsWord c
  | .access, c => c = '.'
  | .operator, c => ['=', '!', '<', '>', '&', '|', '-', '+', '*', '/', '%'].contains c
  | .delimiter, c => isDelimiter c
  | .assign, c => c = '='
  | .stray, c => c ≠ '\n'

theorem extent_of_starts {shape : Shape} {c : Char} {rest : List Char}
    (other : shape.starts c = false) : shape.extent (c :: rest) = 0 := by
  cases shape with
  | boolean =>
    obtain ⟨noT, noF⟩ : c ≠ 't' ∧ c ≠ 'f' := by simpa [Shape.starts] using other
    simp [Shape.extent, literalLength, Ne.symm noT, Ne.symm noF]
  | number => simp_all [Shape.starts, Shape.extent, digitCount, fractionLength]
  | string => simp_all [Shape.starts, Shape.extent, stringLength]
  | operator => simp_all [Shape.starts, Shape.extent, operatorLength]
  | _ => simp_all [Shape.starts, Shape.extent]

theorem first?_of_extent {shape : Shape} {c : Char} {text rest : List Char}
    (extent : shape.extent (c :: text ++ rest) = text.length + 1)
    (earlier : ∀ s ∈ Shape.priority.takeWhile (· ≠ shape), s.starts c →
      s.extent (c :: text ++ rest) = 0) :
    first? (c :: text ++ rest) = some ⟨shape, c :: text⟩ := by
  -- Earlier shapes have no text there: most cannot begin so at all, the rest are ruled out by hand.
  have order : Shape.priority = Shape.priority.takeWhile (· ≠ shape) ++
      shape :: (Shape.priority.dropWhile (· ≠ shape)).tail := by
    cases shape <;> rfl
  have skipped : (Shape.priority.takeWhile (· ≠ shape)).findSome?
      (·.piece? (c :: text ++ rest)) = none := by
    rw [List.findSome?_eq_none_iff]
    intro s member
    have nothing : s.extent (c :: text ++ rest) = 0 := by
      cases starts : s.starts c with
      | false => exact extent_of_starts starts
      | true => exact earlier s member starts
    simp only [Shape.piece?, nothing]
  have taken : shape.piece? (c :: text ++ rest) = some ⟨shape, c :: text⟩ := by
    simp only [Shape.piece?, extent]
    rw [← List.length_cons, List.take_left]
  rw [first?, order, List.findSome?_append, skipped, Option.none_or, List.findSome?_cons, taken]

theorem first?_of_starts {shape : Shape} {c : Char} {text rest : List Char}
    (extent : shape.extent (c :: text ++ rest) = text.length + 1)
    (other : ∀ s ∈ Shape.priority.takeWhile (· ≠ shape), ¬ s.starts c) :
    first? (c :: text ++ rest) = some ⟨shape, c :: text⟩ :=
  first?_of_extent extent fun s member starts => absurd starts (other s member)

theorem first?_delimiter {c : Char} (isDelimiter : isDelimiter c) (rest : List Char) :
    first? ([c] ++ rest) = some ⟨.delimiter, [c]⟩ := by
  have other : ∀ s ∈ Shape.priority.takeWhile (· ≠ .delimiter),
      ['(', ')', '\x7b', '\x7d', ';', ',', ':'].all (!s.starts ·) := by decide
  apply first?_of_starts
  next => simp [Shape.extent, isDelimiter]
  next =>
    intro s early
    have member := List.contains_iff_mem.mp isDelimiter
    simpa using List.all_eq_true.mp (other s early) c member

def Ends (kind : Char → Bool) (rest : List Char) : Prop := ∀ c ∈ rest.head?, kind c = false

theorem takeWhile_of_ends {kind : Char → Bool} {text rest : List Char}
    (inside : ∀ c ∈ text, kind c) (ends : Ends kind rest) :
    (text ++ rest).takeWhile kind = text := by
  have stops : rest.takeWhile kind = [] := by
    cases rest with
    | nil => rfl
    | cons c rest => rw [List.takeWhile_cons_of_neg (by simp [ends c rfl])]
  rw [List.takeWhile_append_of_pos inside, stops, List.append_nil]

theorem first?_blank {rest : List Char} (ends : Ends isBlank rest) :
    first? ([' '] ++ rest) = some ⟨.blank, [' ']⟩ := by
  have inside : ∀ c ∈ [' '], isBlank c := List.all_eq_true.mp rfl
  apply first?_of_starts
  next => exact congrArg List.length (takeWhile_of_ends inside ends)
  next => decide

theorem first?_assign {rest : List Char} (ends : Ends (· = '=') rest) :
    first? (['='] ++ rest) = some ⟨.assign, ['=']⟩ := by
  have only : ∀ s ∈ Shape.priority.takeWhile (· ≠ .assign), s.starts '=' → s = .operator := by
    decide
  apply first?_of_extent
  next => rfl
  next =>
    intro s member starts
    rw [only s member starts]
    cases rest with
    | nil => rfl
    | cons c rest =>
      have single : c ≠ '=' := by simpa using ends c rfl
      simp [Shape.extent, operatorLength, single]

def operators : List (List Char) :=
  [['=', '='], ['!', '='], ['<', '='], ['>', '='], ['&', '&'], ['|', '|'], ['-'], ['+'], ['*'],
    ['/'], ['%'], ['<'], ['>'], ['!']]

theorem operatorLength_of_mem {symbol rest : List Char} (member : symbol ∈ operators)
    (ends : Ends (['=', '/', '*'].contains ·) rest) :
    operatorLength (symbol ++ rest) = symbol.length := by
  have each : ∀ symbol ∈ operators, operatorLength (symbol ++ rest) = symbol.length := by
    cases rest with
    | nil => decide
    | cons c rest =>
      have single : c ≠ '=' := by
        rintro rfl
        exact absurd (ends '=' rfl) (by decide)
      simp [operators, operatorLength, single]
  exact each symbol member

theorem first?_operator {symbol rest : List Char} (member : symbol ∈ operators)
    (ends : Ends (['=', '/', '*'].contains ·) rest) :
    first? (symbol ++ rest) = some ⟨.operator, symbol⟩ := by
  -- Only a slash shares its first character with earlier shapes, the two comments.
  have length := operatorLength_of_mem member ends
  have only : ∀ symbol ∈ operators, ∀ s ∈ Shape.priority.takeWhile (· ≠ .operator),
      symbol.head?.any s.starts → symbol = ['/'] ∧ (s = .blockComment ∨ s = .lineComment) := by
    decide
  cases symbol with
  | nil => exact absurd member (by decide)
  | cons c text =>
    have extent : Shape.extent .operator (c :: text ++ rest) = text.length + 1 := length
    apply first?_of_extent extent
    intro s earlier starts
    obtain ⟨slash, comment⟩ := only _ member s earlier starts
    cases slash
    cases rest with
    | nil => rcases comment with rfl | rfl <;> rfl
    | cons c rest =>
      have plain : c ≠ '/' ∧ c ≠ '*' := by
        have others := ends c rfl
        simp at others
        exact others.2
      rcases comment with rfl | rfl <;> simp [Shape.extent, plain.1, plain.2]

theorem first?_string {contents rest : List Char} (quoteless : '"' ∉ contents)
    (oneLine : '\n' ∉ contents) :
    first? ('"' :: (contents ++ ['"']) ++ rest) = some ⟨.string, '"' :: (contents ++ ['"'])⟩ := by
  have inside : ∀ c ∈ contents, (c ≠ '"' && c ≠ '\n') = true := by
    intro c member
    have noQuote : c ≠ '"' := ne_of_mem_of_not_mem member quoteless
    have noNewline : c ≠ '\n' := ne_of_mem_of_not_mem member oneLine
    simp [noQuote, noNewline]
  have closing : Ends (fun c => c ≠ '"' && c ≠ '\n') ('"' :: rest) := by
    rintro c ⟨⟩
    rfl
  have taken := takeWhile_of_ends inside closing
  have length : stringLength ('"' :: (contents ++ '"' :: rest)) = contents.length + 2 := by
    simp only [stringLength, taken, List.drop_left]
  apply first?_of_starts
  next => simpa [Shape.extent] using length
  next => decide

theorem isAlpha_iff_toNat {c : Char} :
    c.isAlpha ↔ 65 ≤ c.toNat ∧ c.toNat ≤ 90 ∨ 97 ≤ c.toNat ∧ c.toNat ≤ 122 := by
  have ranges : c.isAlpha = (decide (c.val ≥ 'A'.val ∧ c.val ≤ 'Z'.val) ||
      (decide (c.val ≥ 'a'.val) && decide (c.val ≤ 'z'.val))) := rfl
  rw [ranges]
  simp only [Bool.or_eq_true, Bool.and_eq_true, decide_eq_true_eq, ge_iff_le,
    UInt32.le_iff_toNat_le]
  rfl

theorem isAscii_of_isAlphanum {c : Char} (plain : c.isAlphanum) : isAscii c := by
  have digits : '0'.toNat = 48 ∧ '9'.toNat = 57 := by decide
  apply decide_eq_true
  rcases (Bool.or_eq_true _ _).mp plain with letter | digit
  next =>
    have range := isAlpha_iff_toNat.mp letter
    omega
  next =>
    have range := Char.isDigit_iff_toNat.mp digit
    omega

theorem isDigit_of_isAlpha {c : Char} (letter : c.isAlpha) : c.isDigit = false := by
  have digits : '0'.toNat = 48 ∧ '9'.toNat = 57 := by decide
  have range := isAlpha_iff_toNat.mp letter
  rw [Bool.eq_false_iff]
  intro digit
  have other := Char.isDigit_iff_toNat.mp digit
  omega

theorem isDecimalDigit_of_isDigit {c : Char} (digit : c.isDigit) : isDecimalDigit c := by
  have ascii : isAscii c := isAscii_of_isAlphanum (by simp [Char.isAlphanum, digit])
  simp [isDecimalDigit, ascii, digit]

theorem isDecimalDigit_of_startsWord {c : Char} (starts : startsWord c) :
    isDecimalDigit c = false := by
  rcases (Bool.or_eq_true _ _).mp starts with letter | underscore
  next =>
    have ascii : isAscii c := isAscii_of_isAlphanum (by simp [Char.isAlphanum, letter])
    simp [isDecimalDigit, ascii, isDigit_of_isAlpha letter]
  next =>
    cases of_decide_eq_true underscore
    decide

theorem isWordCharacter_of_startsWord {c : Char} (starts : startsWord c) : isWordCharacter c := by
  rcases (Bool.or_eq_true _ _).mp starts with letter | underscore
  next =>
    have ascii : isAscii c := isAscii_of_isAlphanum (by simp [Char.isAlphanum, letter])
    simp [isWordCharacter, ascii, Char.isAlphanum, letter]
  next =>
    cases of_decide_eq_true underscore
    decide

theorem newline_notMem_word {c : Char} {text : List Char} (starts : startsWord c)
    (inside : ∀ x ∈ text, isWordCharacter x) : '\n' ∉ c :: text := by
  have all : ∀ x ∈ c :: text, isWordCharacter x :=
    List.forall_mem_cons.mpr ⟨isWordCharacter_of_startsWord starts, inside⟩
  exact fun member => absurd (all '\n' member) (by decide)

theorem newline_notMem_toDigits (n : Nat) : '\n' ∉ Nat.toDigits 10 n := by
  intro member
  have digit : Char.isDigit '\n' := Nat.isDigit_of_mem_toDigits (by decide) (by decide) member
  exact absurd digit (by decide)

theorem not_starts_early {s : Shape} {c : Char}
    (early : s ∈ Shape.priority.takeWhile (· ≠ .number)) (plain : c.isAlphanum || c = '_') :
    ¬ s.starts c := by
  have blank : ['\n', ' ', '\t', '\r', '/'].all fun c => !(c.isAlphanum || c = '_') := by decide
  have shapes : ∀ s ∈ Shape.priority.takeWhile (· ≠ .number),
      s = .newline ∨ s = .blank ∨ s = .blockComment ∨ s = .lineComment := by decide
  intro starts
  have member : c ∈ ['\n', ' ', '\t', '\r', '/'] := by
    rcases shapes s early with rfl | rfl | rfl | rfl <;> grind [Shape.starts, isBlank]
  simpa [plain] using List.all_eq_true.mp blank c member

theorem first?_digits {digits rest : List Char} (positive : digits ≠ [])
    (inside : ∀ c ∈ digits, c.isDigit) (ends : Ends (fun c => isDecimalDigit c || c = '.') rest) :
    first? (digits ++ rest) = some ⟨.number, digits⟩ := by
  have decimal : ∀ c ∈ digits, isDecimalDigit c :=
    fun c member => isDecimalDigit_of_isDigit (inside c member)
  have stops : Ends isDecimalDigit rest := by
    intro c first
    exact ((Bool.or_eq_false_iff).mp (ends c first)).1
  have count : digitCount (digits ++ rest) = digits.length :=
    congrArg List.length (takeWhile_of_ends decimal stops)
  have pointless : fractionLength rest = 0 := by
    cases rest with
    | nil => rfl
    | cons c rest =>
      have noPoint : c ≠ '.' := by simpa using ((Bool.or_eq_false_iff).mp (ends c rfl)).2
      simp [fractionLength, noPoint]
  have extent : Shape.extent .number (digits ++ rest) = digits.length := by
    rw [Shape.extent, count, List.drop_left, pointless]
    rfl
  cases digits with
  | nil => exact absurd rfl positive
  | cons c digits =>
    apply first?_of_starts extent
    have digit := inside c List.mem_cons_self
    intro s early
    exact not_starts_early early (by simp [Char.isAlphanum, digit])

theorem takeWhile_of_literalLength {literal cs : List Char} (word : literal.all isWordCharacter)
    (found : literalLength literal cs ≠ 0) : cs.takeWhile isWordCharacter = literal := by
  rw [literalLength] at found
  split at found
  next matched =>
    obtain ⟨atFront, alone⟩ := (Bool.and_eq_true _ _).mp matched
    obtain ⟨rest, rfl⟩ := List.isPrefixOf_iff_prefix.mp atFront
    apply takeWhile_of_ends (List.all_eq_true.mp word)
    intro c first
    rw [List.drop_left] at alone
    simpa [Option.mem_def.mp first] using alone
  next => exact absurd rfl found

theorem literalLength_of_ends {literal rest : List Char} (ends : Ends isWordCharacter rest) :
    literalLength literal (literal ++ rest) = literal.length := by
  have alone : rest.head?.any isWordCharacter = false := by
    cases rest with
    | nil => rfl
    | cons c rest => exact ends c rfl
  simp [literalLength, alone]

theorem first?_boolean (b : Bool) {rest : List Char} (ends : Ends isWordCharacter rest) :
    first? ((if b then "true" else "false").toList ++ rest) =
      some ⟨.boolean, (if b then "true" else "false").toList⟩ := by
  cases b with
  | true =>
    have extent : Shape.extent .boolean ("true".toList ++ rest) = 4 := by
      rw [Shape.extent, literalLength_of_ends ends]
      rfl
    exact first?_of_starts extent (by decide)
  | false =>
    have extent : Shape.extent .boolean ("false".toList ++ rest) = 5 := by
      rw [Shape.extent, literalLength_of_ends ends]
      rfl
    exact first?_of_starts extent (by decide)

theorem first?_word {c : Char} {text rest : List Char} (starts : startsWord c)
    (inside : ∀ x ∈ text, isWordCharacter x) (ends : Ends isWordCharacter rest)
    (notTrue : c :: text ≠ "true".toList) (notFalse : c :: text ≠ "false".toList) :
    first? (c :: text ++ rest) = some ⟨.word, c :: text⟩ := by
  -- The longest word is the text, so a literal at the front would have to be all of it.
  have letters : ∀ x ∈ c :: text, isWordCharacter x :=
    List.forall_mem_cons.mpr ⟨isWordCharacter_of_startsWord starts, inside⟩
  have noLiteral {literal : List Char} (word : literal.all isWordCharacter)
      (other : c :: text ≠ literal) : literalLength literal (c :: text ++ rest) = 0 := by
    apply Classical.byContradiction
    intro found
    have same := takeWhile_of_literalLength word found
    rw [takeWhile_of_ends letters ends] at same
    exact other same
  apply first?_of_extent
  next =>
    have taken := takeWhile_of_ends inside ends
    simp [Shape.extent, starts, taken]
  next =>
    have only : ∀ s ∈ Shape.priority.takeWhile (· ≠ .word),
        s ∈ Shape.priority.takeWhile (· ≠ .number) ∨ s = .number ∨ s = .string ∨ s = .boolean := by
      decide
    intro s early begins
    rcases only s early with before | rfl | rfl | rfl
    next => exact absurd begins (not_starts_early before (by grind [startsWord, Char.isAlphanum]))
    next =>
      have point : c = '.' := by
        simpa [Shape.starts, isDecimalDigit_of_startsWord starts] using begins
      cases point
      exact absurd starts (by decide)
    next =>
      cases of_decide_eq_true begins
      exact absurd starts (by decide)
    next => rw [Shape.extent, noLiteral (by decide) notTrue, noLiteral (by decide) notFalse]

end Piece

structure IsName (name : String) : Prop where
  starts : name.toList.head?.any Piece.startsWord
  letters : name.toList.tail.all Text.isWordCharacter
  notKeyword : name ∉ Token.keywords
  notTrue : name ≠ "true"
  notFalse : name ≠ "false"

namespace IsName

instance : DecidablePred IsName := fun name =>
  decidable_of_iff
    (name.toList.head?.any Piece.startsWord ∧
      name.toList.tail.all Text.isWordCharacter ∧
      name ∉ Token.keywords ∧ name ≠ "true" ∧ name ≠ "false")
    ⟨fun ⟨starts, letters, notKeyword, notTrue, notFalse⟩ =>
      ⟨starts, letters, notKeyword, notTrue, notFalse⟩,
    fun h => ⟨h.starts, h.letters, h.notKeyword, h.notTrue, h.notFalse⟩⟩

theorem word {name : String} (isName : IsName name) :
    ∃ c text, name.toList = c :: text ∧ Piece.startsWord c ∧
      ∀ x ∈ text, Text.isWordCharacter x := by
  obtain ⟨starts, letters, -, -, -⟩ := isName
  cases spelled : name.toList with
  | nil => simp [spelled] at starts
  | cons c text =>
    rw [spelled] at starts letters
    exact ⟨c, text, rfl, starts, List.all_eq_true.mp letters⟩

end IsName

namespace Lexes

open Piece Text

variable {line : Nat} {rest : List Char}

theorem blank (ends : Ends isBlank rest) : Lexes line [' '] [] rest :=
  skip (first?_blank ends) (by decide) rfl

theorem delimiter {c : Char} (isDelimiter : isDelimiter c) :
    Lexes line [c] [.ofLexeme .delimiter (String.ofList [c]) line] rest := by
  have plain : '\n' ∉ [c] := by
    intro member
    cases List.mem_singleton.mp member
    exact absurd isDelimiter (by decide)
  exact token (first?_delimiter isDelimiter rest) plain rfl nofun

theorem assign (ends : Ends (· = '=') rest) :
    Lexes line ['='] [.ofLexeme .assign "=" line] rest :=
  token (first?_assign ends) (by decide) rfl nofun

theorem operator {symbol : String} (member : symbol.toList ∈ operators)
    (ends : Ends (['=', '/', '*'].contains ·) rest) :
    Lexes line symbol.toList [.ofLexeme .operator symbol line] rest := by
  have plain : ∀ symbol ∈ operators, '\n' ∉ symbol := by decide
  apply token (first?_operator member ends) (plain _ member)
  next => rw [token?, String.ofList_toList]
  next => nofun

theorem word {word : String} (starts : word.toList.head?.any startsWord)
    (letters : word.toList.tail.all isWordCharacter) (notTrue : word ≠ "true")
    (notFalse : word ≠ "false") (ends : Ends isWordCharacter rest) :
    Lexes line word.toList [.ofLexeme (wordKind word) word line] rest := by
  cases spelled : word.toList with
  | nil => simp [spelled] at starts
  | cons c text =>
    rw [spelled] at starts letters
    have inside : ∀ x ∈ text, isWordCharacter x := List.all_eq_true.mp letters
    have plain : '\n' ∉ c :: text := newline_notMem_word starts inside
    have found : first? (c :: text ++ rest) = some ⟨.word, c :: text⟩ := by
      apply first?_word starts inside ends
      next =>
        rw [← spelled]
        exact fun same => notTrue (String.toList_inj.mp same)
      next =>
        rw [← spelled]
        exact fun same => notFalse (String.toList_inj.mp same)
    apply token found plain
    next => rw [token?, ← spelled, String.ofList_toList]
    next =>
      rw [Token.ofLexeme, wordKind]
      split <;> nofun

theorem name {name : String} (isName : IsName name) (ends : Ends isWordCharacter rest) :
    Lexes line name.toList [.ofLexeme .identifier name line] rest := by
  have read : Lexes line name.toList [.ofLexeme (wordKind name) name line] rest :=
    word isName.starts isName.letters isName.notTrue isName.notFalse ends
  simpa [wordKind, isName.notKeyword] using read

theorem boolean (b : Bool) (ends : Ends isWordCharacter rest) :
    Lexes line (if b then "true" else "false").toList [⟨.boolean, .boolean b, line⟩] rest := by
  apply token (first?_boolean b ends)
  next => cases b <;> decide
  next => cases b <;> rfl
  next => nofun

theorem string {contents : String} (quoteless : '"' ∉ contents.toList)
    (oneLine : '\n' ∉ contents.toList) :
    Lexes line ('"' :: (contents.toList ++ ['"'])) [⟨.string, .string contents, line⟩] rest := by
  apply token (first?_string quoteless oneLine)
  next => simpa using oneLine
  next => simp [token?]
  next => nofun

theorem integer {n : Nat} (bound : n ≤ 1 <<< 53)
    (ends : Ends (fun c => isDecimalDigit c || c = '.') rest) :
    Lexes line (Nat.toDigits 10 n) [⟨.number, .number (.int n), line⟩] rest := by
  have digits : ∀ c ∈ Nat.toDigits 10 n, c.isDigit :=
    fun c member => Nat.isDigit_of_mem_toDigits (by decide) (by decide) member
  apply token (first?_digits Nat.toDigits_ne_nil digits ends) (newline_notMem_toDigits n)
  next => simp only [token?, Number.ofText?_toDigits bound]
  next => nofun

end Lexes

end DrawScript
