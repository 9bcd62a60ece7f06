import DrawScript.Proofs.Code.Lowerable
import Mathlib.Data.List.Basic

set_option autoImplicit false

namespace DrawScript.Code

open Catalogue

-- Errors that the checker does not rule out.
def Foreseen (error : CodeError) : Prop :=
  (∀ name, error.cause ≠ .notConstant name) ∧ error.cause ≠ .unsupported "unknown cursor method"

/-- Whatever the sheet, the writer succeeds under the condition and only then. -/
def Settles {α : Type} (writer : Writer α) (condition : Prop) : Prop :=
  ∀ sheet, match writer.run sheet with
    | .ok _ _ => condition
    | .error error _ => ¬ condition ∧ Foreseen error

section

variable {α β : Type} {condition other : Prop}

theorem Settles.bind {writer : Writer α} {next : α → Writer β} (first : Settles writer condition)
    (rest : ∀ value, condition → Settles (next value) other) :
    Settles (writer >>= next) (condition ∧ other) := by
  intro sheet
  have before := first sheet
  rw [EStateM.run_bind]
  cases ran : writer.run sheet with
  | error error sheet =>
    rw [ran] at before
    exact ⟨fun both => before.1 both.1, before.2⟩
  | ok value sheet =>
    rw [ran] at before
    have after := rest value before sheet
    dsimp only
    cases ran' : (next value).run sheet with
    | error error sheet =>
      rw [ran'] at after
      exact ⟨fun both => after.1 both.2, after.2⟩
    | ok value sheet =>
      rw [ran'] at after
      exact ⟨before, after⟩

theorem Settles.pure {value : α} : Settles (pure value) True := fun _ => trivial

theorem Settles.throw {error : CodeError} (foreseen : Foreseen error) :
    Settles (throw error : Writer α) False :=
  fun _ => ⟨id, foreseen⟩

theorem Settles.get {next : Sheet → Writer β} (rest : ∀ sheet, Settles (next sheet) condition) :
    Settles (get >>= next) condition :=
  fun sheet => rest sheet sheet

theorem Settles.update (change : Sheet → Sheet) : Settles (modify change) True := fun _ => trivial

theorem Settles.after_update {change : Sheet → Sheet} {next : Writer β}
    (rest : Settles next condition) : Settles (do modify change; next) condition :=
  fun sheet => rest (change sheet)

theorem Settles.emitLine (text : String) : Settles (emitLine text) True := Settles.update _

theorem Settles.after_emitLine {text : String} {next : Writer β} (rest : Settles next condition) :
    Settles (do Code.emitLine text; next) condition :=
  Settles.after_update rest

theorem Settles.emitDrawing (drawCall x y : String) : Settles (emitDrawing drawCall x y) True :=
  .after_emitLine (.after_emitLine (.after_emitLine (.emitLine _)))

theorem Settles.and_then {writer : Writer α} {next : α → Writer β}
    (settles : Settles writer condition) (rest : ∀ value, Settles (next value) True) :
    Settles (writer >>= next) condition := by
  have both := settles.bind fun value _ => rest value
  rwa [and_true] at both

theorem Settles.iff {writer : Writer α} (settles : Settles writer condition)
    (same : condition ↔ other) : Settles writer other := by
  rwa [← propext same]

@[simp] theorem ofExcept_bind (result : Except CodeError α) (next : α → Except CodeError β) :
    ofExcept (result >>= next) = ofExcept result >>= fun value => ofExcept (next value) := by
  cases result <;> rfl

@[simp] theorem ofExcept_pure (value : α) : ofExcept (Pure.pure value) = Pure.pure value := rfl

end

@[simp] theorem drawsNothing_call {callee : String} {arguments : List Expr} :
    (Expr.call callee arguments).DrawsNothing ↔
      drawFunction? callee = none ∧ ∀ e ∈ arguments, e.DrawsNothing := by
  have own : ¬ (Expr.call callee arguments).IsDrawing ↔ drawFunction? callee = none := by
    simp [Expr.IsDrawing]
  have inside : (∀ x ∈ Expr.partsAll arguments, ¬ x.IsDrawing) ↔
      ∀ e ∈ arguments, e.DrawsNothing := by
    constructor
    next =>
      intro all e member x part
      exact all x (Expr.mem_partsAll.mpr ⟨e, member, part⟩)
    next =>
      intro each x part
      obtain ⟨e, member, part⟩ := Expr.mem_partsAll.mp part
      exact each e member x part
  rw [Expr.DrawsNothing, Expr.parts, List.forall_mem_cons, own, Expr.inner, inside]

@[simp] theorem drawsNothing_binary {op : BinaryOp} {left right : Expr} :
    (Expr.binary op left right).DrawsNothing ↔ left.DrawsNothing ∧ right.DrawsNothing := by
  rw [Expr.DrawsNothing, Expr.parts, List.forall_mem_cons, Expr.inner, List.forall_mem_append]
  exact and_iff_right id

@[simp] theorem drawsNothing_unary {op : UnaryOp} {operand : Expr} :
    (Expr.unary op operand).DrawsNothing ↔ operand.DrawsNothing := by
  rw [Expr.DrawsNothing, Expr.parts, List.forall_mem_cons, Expr.inner]
  exact and_iff_right id

theorem Settles.leaf {text : String} {e : Expr} (alone : e.inner = []) (plain : ¬ e.IsDrawing) :
    Settles (ofExcept (.ok text)) e.DrawsNothing := by
  have nothing : e.DrawsNothing := by
    simpa [Expr.DrawsNothing, Expr.parts, alone] using plain
  exact fun _ => nothing

mutual
theorem render_settles (line : Nat) : ∀ e, Settles (ofExcept (render line e)) e.DrawsNothing
  | .call callee arguments => by
    rw [render, drawsNothing_call]
    split
    next drawing =>
      apply (Settles.throw (by simp [Foreseen])).iff
      simp [Option.isSome_iff_ne_none.mp drawing]
    next plain =>
      have unknown : drawFunction? callee = none := by simpa using plain
      rw [ofExcept_bind, and_iff_right unknown]
      exact (renderAll_settles line arguments).and_then fun _ => .pure
  | .binary op left right => by
    rw [render, ofExcept_bind, drawsNothing_binary]
    apply (render_settles line left).bind
    intro leftText _
    rw [ofExcept_bind]
    exact (render_settles line right).and_then fun _ => .pure
  | .unary op operand => by
    rw [render, ofExcept_bind, drawsNothing_unary]
    exact (render_settles line operand).and_then fun _ => .pure
  | .identifier _ | .number _ | .string _ | .boolean _ => Settles.leaf rfl id

theorem renderAll_settles (line : Nat) :
    ∀ es, Settles (ofExcept (renderAll line es)) (∀ e ∈ es, e.DrawsNothing)
  | [] => fun _ _ member => absurd member List.not_mem_nil
  | e :: es => by
    rw [renderAll, ofExcept_bind, List.forall_mem_cons]
    apply (render_settles line e).bind
    intro text _
    rw [ofExcept_bind]
    exact (renderAll_settles line es).and_then fun _ => .pure
end

theorem renderBare_settles (line : Nat) (e : Expr) :
    Settles (ofExcept (renderBare line e)) e.DrawsNothing := by
  rw [renderBare, ofExcept_bind]
  exact (render_settles line e).and_then fun _ => .pure

theorem renderOptional_settles (line : Nat) (e : Option Expr) :
    Settles (ofExcept (renderOptional line e)) (∀ x ∈ e.toList, x.DrawsNothing) := by
  cases e with
  | none => exact fun _ _ member => absurd member List.not_mem_nil
  | some e =>
    rw [Option.toList_some, List.forall_mem_singleton]
    exact renderBare_settles line e

theorem declaration_settles (name : String) (type : Option String) (initial : Expr) (line : Nat) :
    Settles (ofExcept (declaration name type initial line)) initial.DrawsNothing := by
  rw [declaration, ofExcept_bind]
  exact (renderBare_settles line initial).and_then fun _ => .pure

theorem drawsNothing_of_renderBare {line : Nat} {e : Expr} {text : String}
    (rendered : renderBare line e = .ok text) : e.DrawsNothing := by
  have settled := renderBare_settles line e {}
  rwa [rendered] at settled

theorem drawsNothing_of_isConstant {e : Expr} (constant : e.isConstant) : e.DrawsNothing := by
  rw [Expr.isConstant] at constant
  fun_induction Expr.constant? e with
  | case1 n => simp [Expr.DrawsNothing, Expr.parts, Expr.inner, Expr.IsDrawing]
  | case2 operand ih => exact drawsNothing_unary.mpr (ih (by simpa using constant))
  | case3 operand ih => exact drawsNothing_unary.mpr (ih constant)
  | case4 => cases constant

theorem constants_of_isConstant (name : String) (line : Nat) {arguments : List Expr}
    (constant : ∀ e ∈ arguments, e.isConstant) :
    ∃ values, constants name line arguments = .ok values := by
  induction arguments with
  | nil => exact ⟨[], rfl⟩
  | cons e es ih =>
    obtain ⟨first, others⟩ := List.forall_mem_cons.mp constant
    obtain ⟨value, known⟩ := Option.isSome_iff_exists.mp first
    obtain ⟨values, found⟩ := ih others
    refine ⟨value :: values, ?_⟩
    simp [constants, Code.constant, known, found, bind, Except.bind, Pure.pure, Except.pure]

theorem colorOf_of_isConstant (name : String) (line : Nat) {arguments : List Expr}
    (constant : ∀ e ∈ arguments, e.isConstant) :
    ∃ color, colorOf name line arguments = .ok color := by
  obtain ⟨values, found⟩ := constants_of_isConstant name line fun e member =>
    constant e (List.mem_of_mem_take member : e ∈ arguments)
  rw [colorOf, found]
  exact ⟨_, rfl⟩

end DrawScript.Code
