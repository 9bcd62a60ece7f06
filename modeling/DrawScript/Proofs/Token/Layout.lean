import DrawScript.Proofs.Token.Coverage

set_option autoImplicit false

namespace DrawScript

open Piece Text

inductive Printable : Token.Kind → Token.Value → Prop
  | keyword {word : String} (member : word ∈ Token.keywords) : Printable .keyword (.lexeme word)
  | name {name : String} (isName : IsName name) : Printable .identifier (.lexeme name)
  | operator {symbol : String} (member : symbol.toList ∈ operators) :
      Printable .operator (.lexeme symbol)
  | delimiter {c : Char} (isDelimiter : isDelimiter c) :
      Printable .delimiter (.lexeme (String.ofList [c]))
  | assign : Printable .assign (.lexeme "=")
  | access : Printable .access (.lexeme ".")
  | boolean (b : Bool) : Printable .boolean (.boolean b)
  | string {contents : String} (quoteless : '"' ∉ contents.toList)
      (oneLine : '\n' ∉ contents.toList) : Printable .string (.string contents)
  | integer {n : Nat} (bound : n ≤ 1 <<< 53) : Printable .number (.number (.int n))

def spaces : List Char := [' ', '\t', '\r', '\n']

inductive Filler : List Char → Prop
  | nil : Filler []
  | space {c : Char} {text : List Char} (space : c ∈ spaces) (later : Filler text) :
      Filler (c :: text)
  | blockComment {body text : List Char} (inside : ¬ ['*', '/'] <:+: body) (later : Filler text) :
      Filler ('/' :: '*' :: (body ++ '*' :: '/' :: text))
  | lineComment {body text : List Char} (oneLine : '\n' ∉ body) (later : Filler text) :
      Filler ('/' :: '/' :: (body ++ '\n' :: text))

inductive Separator : List Char → Prop
  | space {c : Char} {text : List Char} (space : c ∈ spaces) (later : Filler text) :
      Separator (c :: text)

structure Printed where
  gap : List Char
  kind : Token.Kind
  value : Token.Value

namespace Printed

def text (item : Printed) : List Char := item.gap ++ item.value.text.toList

def textOf (items : List Printed) : List Char := items.flatMap text

def tokens (line : Nat) : List Printed → List Token
  | [] => []
  | item :: items =>
      ⟨item.kind, item.value, line + item.gap.count '\n'⟩ ::
        tokens (line + item.gap.count '\n') items

end Printed

namespace Piece

theorem first?_blanks {c : Char} {run rest : List Char} (blank : ∀ x ∈ c :: run, isBlank x)
    (ends : Ends isBlank rest) : first? (c :: run ++ rest) = some ⟨.blank, c :: run⟩ := by
  have notNewline : c ≠ '\n' := by
    rintro rfl
    exact absurd (blank '\n' List.mem_cons_self) (by decide)
  apply first?_of_starts
  next => exact congrArg List.length (takeWhile_of_ends blank ends)
  next =>
    have only : ∀ s ∈ Shape.priority.takeWhile (· ≠ .blank), s = .newline := by decide
    intro s early
    simp [only s early, Shape.starts, notNewline]

theorem commentEnd?_of_body {body : List Char} (inside : ¬ ['*', '/'] <:+: body)
    (rest : List Char) : commentEnd? (body ++ '*' :: '/' :: rest) = some (body.length + 2) := by
  induction body with
  | nil => rfl
  | cons c body ih =>
    rw [List.infix_cons_iff, not_or] at inside
    have goesOn : ∀ more, c = '*' → body ++ '*' :: '/' :: rest = '/' :: more → False := by
      rintro more rfl same
      cases body with
      | nil => simp at same
      | cons d body =>
        obtain ⟨rfl, -⟩ := List.cons.inj same
        exact inside.1 ⟨body, rfl⟩
    rw [List.cons_append, commentEnd?.eq_3 _ _ goesOn, ih inside.2]
    rfl

theorem first?_blockComment {body : List Char} (inside : ¬ ['*', '/'] <:+: body)
    (rest : List Char) :
    first? ('/' :: '*' :: (body ++ ['*', '/']) ++ rest) =
      some ⟨.blockComment, '/' :: '*' :: (body ++ ['*', '/'])⟩ := by
  apply first?_of_starts
  next => simp [Shape.extent, commentEnd?_of_body inside]
  next => decide

theorem first?_lineComment {body rest : List Char} (oneLine : '\n' ∉ body)
    (ends : Ends (· ≠ '\n') rest) :
    first? ('/' :: '/' :: body ++ rest) = some ⟨.lineComment, '/' :: '/' :: body⟩ := by
  have inside : ∀ c ∈ body, decide (c ≠ '\n') = true := by
    intro c member
    exact decide_eq_true (ne_of_mem_of_not_mem member oneLine)
  have only : ∀ s ∈ Shape.priority.takeWhile (· ≠ .lineComment), s.starts '/' →
      s = .blockComment := by decide
  apply first?_of_extent
  next =>
    simp only [List.cons_append, Shape.extent, takeWhile_of_ends inside ends, List.length_cons]
  next =>
    intro s early starts
    rw [only s early starts]
    rfl

theorem first?_access {rest : List Char} (ends : Ends isDecimalDigit rest) :
    first? (['.'] ++ rest) = some ⟨.access, ['.']⟩ := by
  have only : ∀ s ∈ Shape.priority.takeWhile (· ≠ .access), s.starts '.' → s = .number := by decide
  have none : digitCount rest = 0 :=
    congrArg List.length (takeWhile_of_ends (List.forall_mem_nil _) ends)
  have pointless : digitCount ('.' :: rest) = 0 := rfl
  apply first?_of_extent
  next => rfl
  next =>
    intro s early starts
    rw [only s early starts]
    simp [Shape.extent, pointless, fractionLength, none]

end Piece

theorem ofPieces_silent {shape : Shape} {text rest : List Char}
    (found : first? (text ++ rest) = some ⟨shape, text⟩) (line : Nat)
    (silent : token? ⟨shape, text⟩ line = none) :
    Reading.ofPieces line (divide (text ++ rest)) =
      Reading.ofPieces (line + text.count '\n') (divide rest) := by
  rw [divide_of_first? found, Reading.ofPieces, silent, List.drop_left]
  rfl

theorem ofPieces_blank {c : Char} (blank : isBlank c) (line : Nat) (rest : List Char) :
    Reading.ofPieces line (divide (c :: rest)) = Reading.ofPieces line (divide rest) := by
  -- The blanks that follow belong to the same piece, or they are a piece without this one.
  obtain ⟨run, after, rfl, -, inside, ends⟩ := exists_run isBlank rest
  have plain (text : List Char) (blanks : ∀ x ∈ text, isBlank x) : text.count '\n' = 0 := by
    rw [List.count_eq_zero]
    exact fun member => absurd (blanks '\n' member) (by decide)
  have joined : ∀ x ∈ c :: run, isBlank x := List.forall_mem_cons.mpr ⟨blank, inside⟩
  have whole : Reading.ofPieces line (divide (c :: run ++ after)) =
      Reading.ofPieces line (divide after) := by
    rw [ofPieces_silent (first?_blanks joined ends) line rfl, plain _ joined, Nat.add_zero]
  cases run with
  | nil => exact whole
  | cons d run =>
    rw [ofPieces_silent (first?_blanks inside ends) line rfl, plain _ inside, Nat.add_zero]
    exact whole

theorem ofPieces_space {c : Char} (space : c ∈ spaces) (line : Nat) (rest : List Char) :
    Reading.ofPieces line (divide (c :: rest)) =
      Reading.ofPieces (line + [c].count '\n') (divide rest) := by
  by_cases ends : c = '\n'
  next =>
    rw [ends]
    have found : first? (['\n'] ++ rest) = some ⟨.newline, ['\n']⟩ := rfl
    exact ofPieces_silent found line rfl
  next =>
    have blank : isBlank c := by
      simp only [spaces, List.mem_cons, List.not_mem_nil] at space
      simp [isBlank]
      tauto
    rw [ofPieces_blank blank, List.count_eq_zero.mpr (by simpa using Ne.symm ends), Nat.add_zero]

theorem ofPieces_filler {text : List Char} (filler : Filler text) (line : Nat) (rest : List Char) :
    Reading.ofPieces line (divide (text ++ rest)) =
      Reading.ofPieces (line + text.count '\n') (divide rest) := by
  induction filler generalizing line with
  | nil => rfl
  | @space c text space later ih =>
    rw [List.cons_append, ofPieces_space space, ih, Nat.add_assoc, ← List.count_append]
    rfl
  | @blockComment body text inside later ih =>
    have comment := ofPieces_silent (first?_blockComment inside (text ++ rest)) line rfl
    have split : '/' :: '*' :: (body ++ '*' :: '/' :: text) =
        '/' :: '*' :: (body ++ ['*', '/']) ++ text := by simp
    rw [split, List.append_assoc, comment, ih, Nat.add_assoc, ← List.count_append]
  | @lineComment body text oneLine later ih =>
    have ends : Ends (· ≠ '\n') ('\n' :: (text ++ rest)) := by
      rintro c ⟨⟩
      rfl
    have comment := ofPieces_silent (first?_lineComment oneLine ends) line rfl
    have split : '/' :: '/' :: (body ++ '\n' :: text) ++ rest =
        '/' :: '/' :: body ++ '\n' :: (text ++ rest) := by simp
    have lines : ('/' :: '/' :: (body ++ '\n' :: text)).count '\n' =
        ('/' :: '/' :: body).count '\n' + ['\n'].count '\n' + text.count '\n' := by
      simp
      omega
    rw [split, comment, ofPieces_space (by decide), ih, lines]
    simp only [Nat.add_assoc]

def Parted (rest : List Char) : Prop := ∀ c ∈ rest.head?, c ∈ spaces

theorem Parted.ends {rest : List Char} (parted : Parted rest) {kind : Char → Bool}
    (other : spaces.all (!kind ·)) : Ends kind rest := by
  intro c first
  simpa using List.all_eq_true.mp other c (parted c first)

theorem Separator.filler {text : List Char} (separator : Separator text) : Filler text := by
  cases separator with
  | space space later => exact .space space later

theorem Separator.parted {text : List Char} (separator : Separator text) (rest : List Char) :
    Parted (text ++ rest) := by
  cases separator with
  | space space later =>
    rintro c ⟨⟩
    exact space

theorem text_integer (n : Nat) :
    (Token.Value.number (.int n)).text.toList = Nat.toDigits 10 n := by
  change n.repr.toList = Nat.toDigits 10 n
  rw [Nat.repr_eq_ofList_toDigits, String.toList_ofList]

theorem Printable.lexes {kind : Token.Kind} {value : Token.Value} (printable : Printable kind value)
    {rest : List Char} (parted : Parted rest) (line : Nat) :
    Lexes line value.text.toList [⟨kind, value, line⟩] rest := by
  cases printable with
  | keyword member =>
    have words : ∀ word ∈ Token.keywords, word.toList.head?.any startsWord ∧
        word.toList.tail.all isWordCharacter ∧ word ≠ "true" ∧ word ≠ "false" := by decide
    obtain ⟨starts, letters, notTrue, notFalse⟩ := words _ member
    have read : Lexes line _ [.ofLexeme (wordKind _) _ line] rest :=
      .word starts letters notTrue notFalse (parted.ends (by decide))
    rw [wordKind, if_pos (by simpa using member)] at read
    exact read
  | name isName => exact .name isName (parted.ends (by decide))
  | operator member => exact .operator member (parted.ends (by decide))
  | @delimiter c isDelimiter =>
    have shown : (Token.Value.lexeme (String.ofList [c])).text.toList = [c] := String.toList_ofList
    rw [shown]
    exact .delimiter isDelimiter
  | assign => exact .assign (parted.ends (by decide))
  | access => exact .token (first?_access (parted.ends (by decide))) (by decide) rfl (by simp)
  | boolean b => exact .boolean b (parted.ends (by decide))
  | @string contents quoteless oneLine =>
    have shown : (Token.Value.string contents).text.toList = '"' :: (contents.toList ++ ['"']) := by
      simp [Token.Value.text]
    rw [shown]
    exact .string quoteless oneLine
  | integer bound =>
    rw [text_integer]
    exact .integer bound (parted.ends (by decide))

theorem Printable.plain {kind : Token.Kind} {value : Token.Value}
    (printable : Printable kind value) : '\n' ∉ value.text.toList := by
  cases printable with
  | keyword member =>
    have words : ∀ word ∈ Token.keywords, '\n' ∉ word.toList := by decide
    exact words _ member
  | name isName =>
    obtain ⟨c, text, spelled, starts, inside⟩ := isName.word
    rw [Token.Value.text, spelled]
    exact newline_notMem_word starts inside
  | operator member =>
    have symbols : ∀ symbol ∈ operators, '\n' ∉ symbol := by decide
    exact symbols _ member
  | @delimiter c isDelimiter =>
    rw [Token.Value.text, String.toList_ofList, List.mem_singleton]
    rintro rfl
    exact absurd isDelimiter (by decide)
  | assign | access => decide
  | boolean b => cases b <;> decide
  | string _ oneLine => simpa [Token.Value.text] using oneLine
  | integer => rw [text_integer]; exact newline_notMem_toDigits _

namespace Printed

theorem textOf_cons (item : Printed) (items : List Printed) :
    textOf (item :: items) = item.gap ++ (item.value.text.toList ++ textOf items) := by
  simp [textOf, text]

/-- Every item can be printed, and behind the first one the gaps keep them apart. -/
structure WellSpaced (items : List Printed) : Prop where
  printable : ∀ item ∈ items, Printable item.kind item.value
  start : ∀ item ∈ items.head?, Filler item.gap
  apart : ∀ item ∈ items.tail, Separator item.gap

namespace WellSpaced

variable {item : Printed} {items : List Printed}

theorem tail (spaced : WellSpaced (item :: items)) : WellSpaced items where
  printable := fun other member => spaced.printable other (List.mem_cons_of_mem _ member)
  start := fun other first => (spaced.apart other (List.mem_of_mem_head? first)).filler
  apart := fun other member => spaced.apart other (List.mem_of_mem_tail member)

theorem parted (spaced : WellSpaced (item :: items)) : Parted (textOf items) := by
  cases items with
  | nil => exact nofun
  | cons other items =>
    rw [textOf_cons]
    exact (spaced.apart other List.mem_cons_self).parted _

end WellSpaced

theorem ofPieces_textOf {items : List Printed} (spaced : WellSpaced items) (line : Nat) :
    Reading.ofPieces line (divide (textOf items)) = ⟨tokens line items, []⟩ := by
  induction items generalizing line with
  | nil => rfl
  | cons item items ih =>
    have filler := spaced.start item rfl
    have read := (spaced.printable item List.mem_cons_self).lexes spaced.parted
      (line + item.gap.count '\n')
    rw [textOf_cons, ofPieces_filler filler, read.reading, ih spaced.tail]
    rfl

theorem tokens_append (line : Nat) (items others : List Printed)
    (printable : ∀ item ∈ items, Printable item.kind item.value) :
    tokens line (items ++ others) =
      tokens line items ++ tokens (line + (textOf items).count '\n') others := by
  induction items generalizing line with
  | nil => rfl
  | cons item items ih =>
    obtain ⟨first, later⟩ := List.forall_mem_cons.mp printable
    have lines : (textOf (item :: items)).count '\n' =
        item.gap.count '\n' + (textOf items).count '\n' := by
      simp [textOf_cons, List.count_eq_zero.mpr first.plain]
    rw [List.cons_append, tokens, tokens, ih _ later, lines, Nat.add_assoc, List.cons_append]

theorem symbols_tokens (line : Nat) (items : List Printed) :
    (tokens line items).map (fun t => (t.kind, t.value)) =
      items.map fun item => (item.kind, item.value) := by
  induction items generalizing line with
  | nil => rfl
  | cons item items ih => rw [tokens, List.map_cons, List.map_cons, ih]

end Printed

theorem tokenize_printed (items : List Printed) (spaced : Printed.WellSpaced items) :
    let reading := tokenize (String.ofList (Printed.textOf items))
    reading.errors = [] ∧
    reading.tokens.map (fun t => (t.kind, t.value)) =
      items.map (fun item => (item.kind, item.value)) ∧
    ∀ before item after, items = before ++ item :: after →
      (reading.tokens.map Token.line)[before.length]? =
        some (1 + (Printed.textOf before ++ item.gap).count '\n') := by
  have read : tokenize (String.ofList (Printed.textOf items)) = ⟨Printed.tokens 1 items, []⟩ := by
    rw [tokenize, String.toList_ofList, Printed.ofPieces_textOf spaced]
  rw [read]
  refine ⟨rfl, Printed.symbols_tokens 1 items, ?_⟩
  rintro before item after rfl
  have earlier : ∀ item ∈ before, Printable item.kind item.value :=
    fun other member => spaced.printable other (List.mem_append_left _ member)
  have count : (Printed.tokens 1 before).length = before.length := by
    simpa using congrArg List.length (Printed.symbols_tokens 1 before)
  rw [Printed.tokens_append 1 before _ earlier, List.map_append, List.getElem?_append_right]
  next => simp [count, Printed.tokens, Nat.add_assoc]
  next => simp [count]

-- The number stands on the fourth line: one line end closes a comment, one is a separator and one
-- is inside a comment.
theorem tokenize_printed_comments :
    ∃ items : List Printed,
      items = [⟨['/', '*', '*', '/'], .keyword, .lexeme "var"⟩,
        ⟨[' ', '/', '/', 'a', '\n'], .identifier, .lexeme "x"⟩,
        ⟨['\n', '/', '*', '\n', '*', '/'], .assign, .lexeme "="⟩,
        ⟨['\t'], .number, .number (.int 9007199254740992)⟩] ∧
      Printed.WellSpaced items ∧
      (tokenize (String.ofList (Printed.textOf items))).errors = [] ∧
      ((tokenize (String.ofList (Printed.textOf items))).tokens.map Token.line)[3]? = some 4 := by
  have comment : Filler ['/', '*', '*', '/'] :=
    @Filler.blockComment [] [] (by decide) .nil
  have first : Separator [' ', '/', '/', 'a', '\n'] :=
    .space (by decide) (@Filler.lineComment ['a'] [] (by decide) .nil)
  have second : Separator ['\n', '/', '*', '\n', '*', '/'] :=
    .space (by decide) (@Filler.blockComment ['\n'] [] (by decide) .nil)
  have third : Separator ['\t'] := .space (by decide) .nil
  have spaced : Printed.WellSpaced [⟨['/', '*', '*', '/'], .keyword, .lexeme "var"⟩,
      ⟨[' ', '/', '/', 'a', '\n'], .identifier, .lexeme "x"⟩,
      ⟨['\n', '/', '*', '\n', '*', '/'], .assign, .lexeme "="⟩,
      ⟨['\t'], .number, .number (.int 9007199254740992)⟩] := by
    refine ⟨?_, ?_, ?_⟩
    next =>
      simp only [List.forall_mem_cons]
      exact ⟨.keyword (by decide), .name (by decide), .assign, .integer (Nat.le_refl _), nofun⟩
    next =>
      rintro item ⟨⟩
      exact comment
    next =>
      simp only [List.tail_cons, List.forall_mem_cons]
      exact ⟨first, second, third, nofun⟩
  obtain ⟨errors, -, lines⟩ := tokenize_printed _ spaced
  exact ⟨_, rfl, spaced, errors, lines [_, _, _] _ [] rfl⟩

end DrawScript
