import DrawScript.Grammar.Program

set_option autoImplicit false

namespace DrawScript

theorem Token.is_iff {token : Token} {kind : Token.Kind} {text : String} :
    token.is kind text ↔ token.kind = kind ∧ token.value = .lexeme text := by
  simp [Token.is]

theorem Token.is_of_is {token : Token} {kind : Token.Kind} {text : String}
    (same : token.is kind text) (other : Token.Kind) (otherText : String) :
    token.is other otherText = (decide (kind = other) && decide (text = otherText)) := by
  obtain ⟨rfl, value⟩ := Token.is_iff.mp same
  simp [Token.is, value]

theorem Token.is_ofLexeme (kind : Token.Kind) (text : String) (line : Nat) :
    (Token.ofLexeme kind text line).is kind text := by
  simp [Token.is, Token.ofLexeme]

theorem BinaryOp.ofSymbol?_eq_some {text : String} {op : BinaryOp} :
    ofSymbol? text = some op ↔ op.symbol = text := by
  constructor
  next =>
    intro found
    simpa using List.find?_some found
  next =>
    rintro rfl
    exact ofSymbol?_symbol op

theorem UnaryOp.ofSymbol?_eq_some {text : String} {op : UnaryOp} :
    ofSymbol? text = some op ↔ op.symbol = text := by
  constructor
  next =>
    intro found
    simpa using List.find?_some found
  next =>
    rintro rfl
    exact ofSymbol?_symbol op

theorem BinaryOp.symbol_injective {op other : BinaryOp} (same : op.symbol = other.symbol) :
    op = other := by
  have found : ofSymbol? op.symbol = some other := by rw [same, ofSymbol?_symbol]
  simpa using found

namespace Grammar

theorem binaryOf?_eq_some {ops : List BinaryOp} {token : Token} {op : BinaryOp} :
    binaryOf? ops token = some op ↔ op ∈ ops ∧ token.is .operator op.symbol := by
  rw [Token.is_iff]
  constructor
  next =>
    intro found
    rw [binaryOf?] at found
    split at found
    next symbol isOperator isLexeme =>
      split at found
      next listed =>
        obtain rfl := BinaryOp.ofSymbol?_eq_some.mp found
        obtain ⟨other, member, same⟩ := List.mem_map.mp (List.contains_iff_mem.mp listed)
        rw [← BinaryOp.symbol_injective same]
        exact ⟨member, isOperator, by rw [isLexeme, same]⟩
      next => cases found
    next => cases found
  next =>
    rintro ⟨member, isOperator, isLexeme⟩
    have listed : (ops.map BinaryOp.symbol).contains op.symbol :=
      List.contains_iff_mem.mpr (List.mem_map_of_mem member)
    simp only [binaryOf?, isOperator, isLexeme, if_pos listed, BinaryOp.ofSymbol?_symbol]

theorem binaryOf?_eq_none {ops : List BinaryOp} {token : Token} :
    binaryOf? ops token = none ↔ ∀ op ∈ ops, ¬token.is .operator op.symbol := by
  simp only [Option.eq_none_iff_forall_ne_some, ne_eq, binaryOf?_eq_some, not_and]

theorem unaryOf?_eq_some {token : Token} {op : UnaryOp} :
    unaryOf? token = some op ↔ token.is .operator op.symbol := by
  rw [Token.is_iff]
  constructor
  next =>
    intro found
    rw [unaryOf?] at found
    split at found
    next symbol isOperator isLexeme =>
      exact ⟨isOperator, by rw [isLexeme, UnaryOp.ofSymbol?_eq_some.mp found]⟩
    next => cases found
  next =>
    rintro ⟨isOperator, isLexeme⟩
    simp only [unaryOf?, isOperator, isLexeme, UnaryOp.ofSymbol?_symbol]

/-- Reading gets from `s` to `t` over the tokens `taken`. -/
structure State.Reaches (s : State) (taken : List Token) (t : State) : Prop where
  rest : s.rest = taken ++ t.rest
  previous : t.previous = (taken.getLast?.map Token.line).getD s.previous
  position : t.position = s.position + taken.length
  limit : t.limit = s.limit
  reported : s.reported <:+ t.reported

namespace State.Reaches

theorem refl (s : State) : s.Reaches [] s :=
  ⟨rfl, rfl, rfl, rfl, List.suffix_refl _⟩

theorem trans {s t u : State} {taken later : List Token} (first : s.Reaches taken t)
    (second : t.Reaches later u) : s.Reaches (taken ++ later) u where
  rest := by rw [first.rest, second.rest, List.append_assoc]
  previous := by
    rw [second.previous, first.previous, List.getLast?_append]
    cases later.getLast? <;> rfl
  position := by rw [second.position, first.position, List.length_append, Nat.add_assoc]
  limit := second.limit.trans first.limit
  reported := first.reported.trans second.reported

theorem next {s : State} {token : Token} {rest : List Token} (front : s.rest = token :: rest) :
    s.Reaches [token] s.next := by
  constructor <;> simp [State.next, front]

theorem skip (s : State) (count : Nat) : ∃ taken, s.Reaches taken (s.skip count) := by
  induction count generalizing s with
  | zero => exact ⟨[], refl s⟩
  | succ count ih =>
    obtain ⟨later, second⟩ := ih s.next
    cases front : s.rest with
    | nil =>
      have same : s.next = s := by simp [State.next, front]
      exact ⟨later, by simpa [State.skip, same] using second⟩
    | cons token rest => exact ⟨token :: later, (next front).trans second⟩

theorem report (s : State) (error : GrammarError) : s.Reaches [] (s.report error) :=
  ⟨rfl, rfl, rfl, rfl, List.suffix_cons _ _⟩

theorem resume (s : State) (start : Nat) : ∃ taken, s.Reaches taken (s.resume start) := by
  simp only [State.resume]
  split
  next => exact skip s 1
  next => exact skip s _

theorem silent {s t u : State} {taken later : List Token} (first : s.Reaches taken t)
    (second : t.Reaches later u) (same : u.reported = s.reported) :
    t.reported = s.reported ∧ u.reported = t.reported := by
  -- Errors are only added, so none came and went in between.
  have back : t.reported <:+ s.reported := same ▸ second.reported
  have equal : t.reported = s.reported :=
    back.eq_of_length_le first.reported.length_le
  exact ⟨equal, same.trans equal.symm⟩

end State.Reaches

end Grammar

end DrawScript
