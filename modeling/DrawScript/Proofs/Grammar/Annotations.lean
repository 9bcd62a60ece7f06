import DrawScript.Proofs.Grammar.Acceptance

set_option autoImplicit false

namespace DrawScript

def Statement.Inferred : Statement → Prop
  | .var _ type initial _ => type = Grammar.literalType? initial
  | _ => True

namespace Grammar

def startsAnnotated : List Token → Bool
  | keyword :: name :: colon :: _ =>
      keyword.is .keyword "var" && name.kind = .identifier && colon.is .delimiter ":"
  | _ => false

def hasWrittenType : List Token → Bool
  | [] => false
  | token :: rest => startsAnnotated (token :: rest) || hasWrittenType rest

theorem hasWrittenType_behind {taken rest : List Token}
    (absent : hasWrittenType (taken ++ rest) = false) : hasWrittenType rest = false := by
  induction taken with
  | nil => exact absent
  | cons token taken ih => exact ih (Bool.or_eq_false_iff.mp absent).2

section

variable {room : Nat} {tokens later : List Token}

theorem VarDeclaration.inferred {x : Statement}
    (declared : VarDeclaration (Expression room) tokens x)
    (absent : hasWrittenType (tokens ++ later) = false) : x.Inferred := by
  obtain @⟨_, _, _, _, _, _, initial, isVar, named, typed, _, _⟩ := declared
  cases typed with
  | written isColon _ =>
    -- The colon would be the third token of a declaration with a type.
    have annotated := (Bool.or_eq_false_iff.mp absent).1
    simp [startsAnnotated, isVar, named, isColon] at annotated
  | int | float | bool => rfl
  | untyped noNumber noBoolean =>
    cases initial with
    | number n => exact absurd rfl (noNumber n)
    | boolean b => exact absurd rfl (noBoolean b)
    | _ => rfl

theorem Found.inferred {x : Statement} (found : Found tokens x)
    (absent : hasWrittenType tokens = false) : x.Inferred := by
  obtain ⟨room, own, ⟨front, back, rfl⟩, form⟩ := found
  rw [List.append_assoc] at absent
  have behind := hasWrittenType_behind absent
  rcases form with form | starts
  next =>
    cases form with
    | var declared _ =>
      rw [List.append_assoc] at behind
      exact declared.inferred behind
    | ifElse chain =>
      cases chain <;> exact trivial
    | _ => exact trivial
  next =>
    cases starts with
    | var declared => exact declared.inferred behind
    | expression => exact trivial

end

theorem parse_inferred {tokens : List Token} (absent : hasWrittenType tokens = false) :
    ∀ x ∈ (parse tokens).program.walk, x.Inferred :=
  fun x member => (parse_found tokens x member).inferred absent

end Grammar

end DrawScript
