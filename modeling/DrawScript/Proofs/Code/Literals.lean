import DrawScript.Code.Expression
import DrawScript.Compile
import DrawScript.Proofs.Token.Coverage

set_option autoImplicit false

namespace DrawScript

namespace Code

/-- Divides the text behind the opening quote of a C literal: the first quote that no backslash
takes is the last character of the literal. -/
def closing? : List Char → Option (List Char × List Char)
  | [] => none
  | '\\' :: c :: rest => (closing? rest).map fun (inside, after) => ('\\' :: c :: inside, after)
  | '"' :: rest => some (['"'], rest)
  | c :: rest => (closing? rest).map fun (inside, after) => (c :: inside, after)

def literal? : List Char → Option (List Char × List Char)
  | '"' :: rest => (closing? rest).map fun (inside, after) => ('"' :: inside, after)
  | _ => none

def trailing (cs : List Char) : Nat := (cs.reverse.takeWhile (· = '\\')).length

theorem trailing_cons (c : Char) (cs : List Char) :
    trailing (c :: cs) =
      trailing cs + if c = '\\' ∧ trailing cs = cs.length then 1 else 0 := by
  simp only [trailing, List.reverse_cons, List.takeWhile_append, List.length_reverse]
  by_cases all : (cs.reverse.takeWhile (· = '\\')).length = cs.length
  next => by_cases slash : c = '\\' <;> simp [all, slash]
  next => simp [all]

theorem trailing_le (cs : List Char) : trailing cs ≤ cs.length := by
  have le := (List.takeWhile_prefix (· = '\\') (l := cs.reverse)).length_le
  rwa [List.length_reverse] at le

theorem trailing_taken (c : Char) (cs : List Char) :
    trailing ('\\' :: c :: cs) % 2 = trailing cs % 2 := by
  -- Both characters are at the end, or neither is.
  have bound := trailing_le cs
  rw [trailing_cons '\\', trailing_cons c]
  by_cases slash : c = '\\'
  next =>
    simp only [slash, true_and, List.length_cons]
    split <;> split <;> omega
  next =>
    simp only [slash, false_and, if_false, List.length_cons]
    split <;> omega

theorem closing?_append {cs : List Char} (quoteless : '"' ∉ cs) (rest : List Char) :
    closing? (cs ++ '"' :: rest) =
      if trailing cs % 2 = 0 then some (cs ++ ['"'], rest)
      else (closing? rest).map fun (inside, after) => (cs ++ '"' :: inside, after) := by
  induction cs using closing?.induct with
  | case1 => rfl
  | case2 c cs ih =>
    have inside : '"' ∉ cs := fun member => quoteless (by simp [member])
    rw [List.cons_append, List.cons_append, closing?, ih inside, trailing_taken]
    split
    next => rfl
    next => rw [Option.map_map]; rfl
  | case3 cs => exact absurd List.mem_cons_self quoteless
  | case4 c cs noPair noQuote ih =>
    have inside : '"' ∉ cs := fun member => quoteless (by simp [member])
    by_cases slash : c = '\\'
    next =>
      -- It is the last character, so it takes the quote.
      cases cs with
      | nil =>
        rw [slash]
        rfl
      | cons d cs => exact absurd rfl (noPair d cs slash)
    next =>
      have same : trailing (c :: cs) = trailing cs := by simp [trailing_cons, slash]
      have reads (more : List Char) : closing? (c :: more) =
          (closing? more).map fun (inside, after) => (c :: inside, after) := by
        simp [closing?, slash]
      rw [List.cons_append, reads, ih inside, same]
      split
      next => rfl
      next => rw [Option.map_map]; rfl

theorem literal?_string {contents : String} (quoteless : '"' ∉ contents.toList)
    (rest : List Char) :
    literal? (("\"" ++ contents ++ "\"").toList ++ rest) =
      if trailing contents.toList % 2 = 0 then some (("\"" ++ contents ++ "\"").toList, rest)
      else (closing? rest).map fun (inside, after) =>
        (("\"" ++ contents ++ "\"").toList ++ inside, after) := by
  have spelled (more : List Char) : ("\"" ++ contents ++ "\"").toList ++ more =
      '"' :: (contents.toList ++ '"' :: more) := by simp
  rw [spelled, literal?, closing?_append quoteless]
  split
  next => simp
  next => rw [Option.map_map]; simp [Function.comp_def]

/-- Reading goes past the text exactly when it ends with an odd number of backslashes: then the
literal is closed by a quote that is not its own, if there is one. -/
theorem render_string_literal {script contents : String} {token : Token} (line : Nat)
    (member : token ∈ (tokenize script).tokens) (isString : token.value = .string contents) :
    ∃ text, render line (.string contents) = .ok text ∧
      ((∀ rest, literal? (text.toList ++ rest) = some (text.toList, rest)) ↔
        trailing contents.toList % 2 = 0) ∧
      (trailing contents.toList % 2 = 1 → ∀ rest, literal? (text.toList ++ rest) =
        (closing? rest).map fun (inside, after) => (text.toList ++ inside, after)) := by
  have quoteless : '"' ∉ contents.toList := by
    obtain ⟨text, spelled⟩ := spells_of_mem_tokens member
    generalize token.kind = kind at spelled
    rw [isString] at spelled
    cases spelled with
    | string quoteless => exact quoteless
  have read := literal?_string quoteless
  refine ⟨_, rfl, ⟨fun own => ?_, fun even rest => ?_⟩, fun odd rest => ?_⟩
  next =>
    apply Classical.byContradiction
    intro odd
    have alone := own []
    rw [read, if_neg odd] at alone
    cases alone
  next => rw [read, if_pos even]
  next => rw [read, if_neg (by omega)]

-- The quotes of two strings change places: `"\\"` runs on to the quote that opens the second.
theorem render_string_literal_pair :
    ∃ token, token ∈ (tokenize "f(\"\\\", \"b\");").tokens ∧ token.value = .string "\\" ∧
      ¬ (∀ rest, literal? ("\"\\\"".toList ++ rest) = some ("\"\\\"".toList, rest)) ∧
      literal? ("\"\\\"".toList ++ ", \"b\");".toList) =
        some ("\"\\\", \"".toList, "b\");".toList) := by
  have member : ⟨.string, .string "\\", 1⟩ ∈ (tokenize "f(\"\\\", \"b\");").tokens := by
    decide +kernel
  obtain ⟨text, rendered, own, runs⟩ := render_string_literal 1 member rfl
  cases rendered
  exact ⟨_, member, rfl, own.not.mpr (by decide), runs (by decide) ", \"b\");".toList⟩

theorem render_string_unclosed :
    (compileScript .c {} "var s = \"\\\";").map GeneratedCode.declarations =
      .ok "    char* s = \"\\\";\n" ∧
    literal? "\"\\\";\n".toList = none := by
  constructor
  next => decide +kernel
  next => decide

end Code

end DrawScript
