import DrawScript.Token.Reading

set_option autoImplicit false

namespace DrawScript

namespace Piece

theorem extent_nil (shape : Shape) : shape.extent [] = 0 := by
  cases shape <;> rfl

theorem first?_eq_some {cs : List Char} {piece : Piece} (found : first? cs = some piece) :
    piece.shape.extent cs ≠ 0 ∧ piece.text = cs.take (piece.shape.extent cs) := by
  obtain ⟨shape, _, taken⟩ := List.exists_of_findSome?_eq_some found
  rw [Shape.piece?] at taken
  split at taken
  next => cases taken
  next positive =>
    cases taken
    exact ⟨positive, rfl⟩

theorem first?_pos {cs : List Char} {piece : Piece} (found : first? cs = some piece) :
    0 < piece.text.length := by
  obtain ⟨positive, taken⟩ := first?_eq_some found
  cases cs with
  | nil => exact absurd (extent_nil piece.shape) positive
  | cons c cs =>
    rw [taken, List.length_take, List.length_cons]
    omega

theorem cut_congr {bound other cs : List Char} (enough : cs.length ≤ bound.length)
    (enough' : cs.length ≤ other.length) : cut bound cs = cut other cs := by
  -- Every piece takes a character, so neither bound runs out before the text does.
  induction bound generalizing other cs with
  | nil =>
    cases List.eq_nil_of_length_eq_zero (Nat.le_zero.mp enough)
    cases other <;> rfl
  | cons b bound ih =>
    cases cs with
    | nil => cases other <;> rfl
    | cons c cs =>
      cases other with
      | nil => exact absurd enough' (by simp)
      | cons o other =>
        rw [cut, cut]
        cases found : first? (c :: cs) with
        | none => rfl
        | some piece =>
          have positive := first?_pos found
          simp only [List.length_cons] at enough enough'
          have same : cut bound ((c :: cs).drop piece.text.length) =
              cut other ((c :: cs).drop piece.text.length) := by
            apply ih <;> simp only [List.length_drop, List.length_cons] <;> omega
          simp only [same]

theorem divide_of_first? {cs : List Char} {piece : Piece} (found : first? cs = some piece) :
    divide cs = piece :: divide (cs.drop piece.text.length) := by
  have positive := first?_pos found
  cases cs with
  | nil => cases found
  | cons c cs =>
    have same : cut cs ((c :: cs).drop piece.text.length) =
        cut ((c :: cs).drop piece.text.length) ((c :: cs).drop piece.text.length) := by
      apply cut_congr _ (Nat.le_refl _)
      simp only [List.length_drop, List.length_cons]
      omega
    simp only [divide, cut, found, same, List.cons_append]

end Piece

namespace Reading

def after (tokens : List Token) (r : Reading) : Reading :=
  { tokens := tokens ++ r.tokens, errors := r.errors }

@[simp] theorem after_after (tokens others : List Token) (r : Reading) :
    (r.after others).after tokens = r.after (tokens ++ others) := by
  simp [after]

end Reading

/-- On this line and in front of this rest, the text is read as these tokens. -/
structure Lexes (line : Nat) (text : List Char) (tokens : List Token) (rest : List Char) :
    Prop where
  reading : Reading.ofPieces line (Piece.divide (text ++ rest)) =
    (Reading.ofPieces line (Piece.divide rest)).after tokens

namespace Lexes

variable {line : Nat} {text more rest : List Char} {tokens others : List Token}

theorem nil : Lexes line [] [] rest := ⟨rfl⟩

theorem append (first : Lexes line text tokens (more ++ rest))
    (second : Lexes line more others rest) :
    Lexes line (text ++ more) (tokens ++ others) rest := by
  constructor
  rw [List.append_assoc, first.reading, second.reading, Reading.after_after]

theorem ofPieces_first {shape : Piece.Shape}
    (found : Piece.first? (text ++ rest) = some ⟨shape, text⟩) (plain : '\n' ∉ text) :
    Reading.ofPieces line (Piece.divide (text ++ rest)) =
      let later := Reading.ofPieces line (Piece.divide rest)
      (Piece.token? ⟨shape, text⟩ line).elim later later.add := by
  have sameLine : Piece.newlines ⟨shape, text⟩ = 0 := List.count_eq_zero.mpr plain
  rw [Piece.divide_of_first? found, Reading.ofPieces, sameLine, Nat.add_zero, List.drop_left]
  cases Piece.token? ⟨shape, text⟩ line <;> rfl

theorem token {shape : Piece.Shape} {t : Token}
    (found : Piece.first? (text ++ rest) = some ⟨shape, text⟩) (plain : '\n' ∉ text)
    (token : Piece.token? ⟨shape, text⟩ line = some t) (known : t.kind ≠ .unknown) :
    Lexes line text [t] rest := by
  constructor
  rw [ofPieces_first found plain, token]
  simp [Reading.add, Reading.after, known]

theorem skip {shape : Piece.Shape}
    (found : Piece.first? (text ++ rest) = some ⟨shape, text⟩) (plain : '\n' ∉ text)
    (silent : Piece.token? ⟨shape, text⟩ line = none) : Lexes line text [] rest := by
  constructor
  rw [ofPieces_first found plain, silent]
  rfl

end Lexes

end DrawScript
