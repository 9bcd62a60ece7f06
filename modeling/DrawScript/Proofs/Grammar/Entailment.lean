import DrawScript.Proofs.Grammar.Mending

set_option autoImplicit false

namespace DrawScript.Grammar

/-- What is spelled by such tokens has the property. -/
def Entails {α : Type} (fits : Token → Prop) (spelling : Spelling α) (property : α → Prop) : Prop :=
  ∀ tokens value, spelling tokens value → (∀ t ∈ tokens, fits t) → property value

section

variable {α : Type} {fits : Token → Prop} {item : Spelling α} {property : α → Prop}

theorem Entails.all {tokens : List Token} {value : α}
    (entails : Entails (fun _ => True) item property) (spelled : item tokens value) :
    property value :=
  entails tokens value spelled fun _ _ => trivial

variable (items : Entails fits item property)

include items

theorem Separated.entails :
    Entails fits (Separated item) fun values => ∀ v ∈ values, property v := by
  intro tokens values separated
  induction separated with
  | one only =>
    intro fit
    rw [List.forall_mem_singleton]
    exact items _ _ only fit
  | more first _ _ ih =>
    intro fit
    obtain ⟨firsts, laters⟩ := List.forall_mem_append.mp fit
    exact List.forall_mem_cons.mpr ⟨items _ _ first firsts, ih (List.forall_mem_cons.mp laters).2⟩

theorem Parenthesized.entails :
    Entails fits (Parenthesized item) fun values => ∀ v ∈ values, property v := by
  intro tokens values listed fit
  cases listed with
  | none => exact fun v member => absurd member List.not_mem_nil
  | some _ inside _ =>
    obtain ⟨inner, -⟩ := List.forall_mem_append.mp (List.forall_mem_cons.mp fit).2
    exact Separated.entails items _ _ inside inner

theorem Mended.entails {gaps : Prop} :
    Entails fits (Mended gaps item) fun values => ∀ v ∈ values, property v := by
  intro tokens values mended
  induction mended with
  | nil => exact fun _ v member => absurd member List.not_mem_nil
  | cons first _ ih =>
    intro fit
    obtain ⟨firsts, laters⟩ := List.forall_mem_append.mp fit
    exact List.forall_mem_cons.mpr ⟨items _ _ first firsts, ih laters⟩
  | skip _ _ ih => exact fun fit => ih (List.forall_mem_append.mp fit).2

end

section

variable {fits : Token → Prop} {property : Expr → Prop} {operand : Spelling Expr}
  (joins : ∀ {op left right}, property left → property right → property (.binary op left right))
  (operands : Entails fits operand property)

include joins operands

theorem Chain.entails (ops : List BinaryOp) : Entails fits (Chain ops operand) property := by
  intro tokens e chain
  induction chain with
  | single only => exact operands _ _ only
  | join _ _ _ last ih =>
    intro fit
    obtain ⟨lefts, rights⟩ := List.forall_mem_append.mp fit
    exact joins (ih lefts) (operands _ _ last (List.forall_mem_cons.mp rights).2)

theorem Tiered.entails (tiers : List (List BinaryOp)) :
    Entails fits (Tiered tiers operand) property := by
  induction tiers generalizing operand with
  | nil => exact operands
  | cons ops tiers ih => exact ih (Chain.entails joins operands ops)

theorem Assignment.entails : Entails fits (Assignment operand) property := by
  intro tokens e assignment
  induction assignment with
  | value plain => exact Tiered.entails joins operands tiers _ _ plain
  | assign target _ _ ih =>
    intro fit
    obtain ⟨targets, values⟩ := List.forall_mem_append.mp fit
    exact joins (Tiered.entails joins operands tiers _ _ target targets)
      (ih (List.forall_mem_cons.mp values).2)

end

section

variable {fits : Token → Prop} {property : Expr → Prop} {expression : Spelling Expr}
  (expressions : Entails fits expression property)

include expressions

theorem Condition.entails : Entails fits (Condition expression) property := by
  rintro _ _ ⟨_, inner, _⟩ fit
  obtain ⟨inside, -⟩ := List.forall_mem_append.mp (List.forall_mem_cons.mp fit).2
  exact expressions _ _ inner inside

theorem Optional.entails :
    Entails fits (Optional expression) fun found => ∀ e ∈ found, property e := by
  intro tokens found optional fit
  cases optional with
  | none => exact fun e absent => by cases absent
  | some present =>
    rintro e ⟨⟩
    exact expressions _ _ present fit

end

end DrawScript.Grammar
