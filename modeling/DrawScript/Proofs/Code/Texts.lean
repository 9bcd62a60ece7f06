import DrawScript.Proofs.Code.Rendering
import DrawScript.Proofs.Grammar.Words

set_option autoImplicit false

namespace DrawScript

structure Solid (text : String) : Prop where
  oneLine : '\n' ∉ text.toList
  starts : text.toList.head?.any (· ≠ ' ')

instance : DecidablePred Solid := fun text =>
  decidable_of_iff ('\n' ∉ text.toList ∧ text.toList.head?.any (· ≠ ' '))
    ⟨fun both => ⟨both.1, both.2⟩, fun solid => ⟨solid.oneLine, solid.starts⟩⟩

theorem notMem_append {c : Char} {first second : String} :
    c ∉ (first ++ second).toList ↔ c ∉ first.toList ∧ c ∉ second.toList := by
  rw [String.toList_append, List.mem_append, not_or]

namespace Solid

theorem append {first second : String} (solid : Solid first) (oneLine : '\n' ∉ second.toList) :
    Solid (first ++ second) where
  oneLine := notMem_append.mpr ⟨solid.oneLine, oneLine⟩
  starts := by
    have starts := solid.starts
    rw [String.toList_append]
    cases front : first.toList with
    | nil => simp [front] at starts
    | cons c rest => simpa [front] using starts

end Solid

-- No blank at all.
structure Unbroken (text : String) : Prop where
  nonempty : text.toList ≠ []
  noBlank : ' ' ∉ text.toList
  oneLine : '\n' ∉ text.toList

instance : DecidablePred Unbroken := fun text =>
  decidable_of_iff (text.toList ≠ [] ∧ ' ' ∉ text.toList ∧ '\n' ∉ text.toList)
    ⟨fun all => ⟨all.1, all.2.1, all.2.2⟩,
      fun unbroken => ⟨unbroken.nonempty, unbroken.noBlank, unbroken.oneLine⟩⟩

namespace Unbroken

theorem solid {text : String} (unbroken : Unbroken text) : Solid text where
  oneLine := unbroken.oneLine
  starts := by
    obtain ⟨c, rest, front⟩ := List.exists_cons_of_ne_nil unbroken.nonempty
    have noBlank := unbroken.noBlank
    rw [front, List.mem_cons, not_or] at noBlank
    simpa [front] using Ne.symm noBlank.1

theorem append {first second : String} (unbroken : Unbroken first)
    (noBlank : ' ' ∉ second.toList) (oneLine : '\n' ∉ second.toList) :
    Unbroken (first ++ second) where
  nonempty := by simp [unbroken.nonempty]
  noBlank := notMem_append.mpr ⟨unbroken.noBlank, noBlank⟩
  oneLine := notMem_append.mpr ⟨unbroken.oneLine, oneLine⟩

theorem of_forall {text : String} (nonempty : text.toList ≠ [])
    (seen : ∀ c ∈ text.toList, c ≠ ' ' ∧ c ≠ '\n') : Unbroken text where
  nonempty := nonempty
  noBlank := fun member => (seen ' ' member).1 rfl
  oneLine := fun member => (seen '\n' member).2 rfl

end Unbroken

theorem IsName.unbroken {name : String} (isName : IsName name) : Unbroken name := by
  obtain ⟨c, rest, spelled, starts, inside⟩ := isName.word
  have letters : ∀ x ∈ name.toList, Text.isWordCharacter x := by
    rw [spelled]
    exact List.forall_mem_cons.mpr ⟨Piece.isWordCharacter_of_startsWord starts, inside⟩
  exact ⟨by simp [spelled], fun member => absurd (letters _ member) (by decide),
    fun member => absurd (letters _ member) (by decide)⟩

theorem IsName.solid {name : String} (isName : IsName name) : Solid name := isName.unbroken.solid

theorem seen_of_isDigit {c : Char} (digit : c.isDigit) : c ≠ ' ' ∧ c ≠ '\n' := by
  constructor <;> rintro rfl <;> exact absurd digit (by decide)

theorem unbroken_repr (n : Nat) : Unbroken n.repr := by
  refine .of_forall (by simp [Nat.repr]) fun c member => seen_of_isDigit ?_
  have digit : c ∈ Nat.toDigits 10 n := by simpa [Nat.repr] using member
  exact Nat.isDigit_of_mem_toDigits (by decide) (by decide) digit

theorem unbroken_toString (n : Int) : Unbroken (toString n) := by
  rw [Int.toString_eq_repr, Int.repr_eq_if]
  split
  next => exact unbroken_repr _
  next =>
    have sign : Unbroken "-" := by decide
    exact sign.append (unbroken_repr _).noBlank (unbroken_repr _).oneLine

namespace Decimal

theorem shortest_digits (mantissa : Nat) (exponent : Int) :
    ∀ c ∈ (shortest mantissa exponent).digits, c.isDigit := by
  -- The digits are those of a natural number, whichever count of them is the least.
  have multiples (multiple count : Nat) (point : Int) :
      ∀ c ∈ (ofMultiple multiple count point).digits, c.isDigit := by
    rw [ofMultiple]
    split
    next => simp
    next => exact fun c => Nat.isDigit_of_mem_toDigits (by decide) (by decide)
  rw [shortest]
  cases found : (List.range' 1 17).findSome? _ with
  | none => simp
  | some decimal =>
    obtain ⟨count, -, made⟩ := List.exists_of_findSome?_eq_some found
    obtain ⟨multiple, -, rfl⟩ := Option.map_eq_some_iff.mp made
    exact multiples multiple count _

theorem unbroken_positional {d : Decimal} (digits : ∀ c ∈ d.digits, c.isDigit) :
    Unbroken d.positional := by
  have zero : ∀ n : Int, ∀ c ∈ zeros n, c ≠ ' ' ∧ c ≠ '\n' := by
    intro n c member
    rw [List.eq_of_mem_replicate member]
    decide
  have digit : ∀ c ∈ d.digits, c ≠ ' ' ∧ c ≠ '\n' := fun c member =>
    seen_of_isDigit (digits c member)
  rw [positional]
  split
  next =>
    refine .of_forall (by simp) ?_
    simp only [String.toList_ofList, List.cons_append, List.forall_mem_cons,
      List.forall_mem_append]
    exact ⟨by decide, by decide, zero _, digit⟩
  next positive =>
    split
    next enough =>
      refine .of_forall ?_ ?_
      next =>
        -- Without any digits there would be zeros.
        rw [String.toList_ofList, Ne, List.append_eq_nil_iff, zeros, List.replicate_eq_nil_iff]
        rintro ⟨none, short⟩
        rw [none, List.length_nil] at short
        omega
      next =>
        rw [String.toList_ofList, List.forall_mem_append]
        exact ⟨digit, zero _⟩
    next =>
      refine .of_forall (by simp) ?_
      simp only [String.toList_ofList, List.forall_mem_append, List.forall_mem_cons]
      exact ⟨fun c member => digit c (List.mem_of_mem_take member), by decide,
        fun c member => digit c (List.mem_of_mem_drop member)⟩

end Decimal

namespace Binary64

theorem unbroken_withSign {text : String} (unbroken : Unbroken text) (negative : Bool) :
    Unbroken (withSign negative text) := by
  cases negative with
  | true =>
    have sign : Unbroken "-" := by decide
    exact sign.append unbroken.noBlank unbroken.oneLine
  | false => exact unbroken

theorem unbroken_withFraction {text : String} (unbroken : Unbroken text) :
    Unbroken (withFraction text) := by
  rw [withFraction]
  split
  next => exact unbroken
  next => exact unbroken.append (by decide) (by decide)

theorem unbroken_text (x : Binary64) : Unbroken x.text := by
  cases x with
  | nan => decide
  | infinite negative => exact unbroken_withSign (by decide) negative
  | finite negative mantissa exponent =>
    refine unbroken_withSign ?_ negative
    split
    next => decide
    next =>
      exact unbroken_withFraction (Decimal.unbroken_positional (Decimal.shortest_digits _ _))

end Binary64

theorem Number.unbroken_text (n : Number) : Unbroken n.text := by
  cases n with
  | int n => exact unbroken_toString n
  | float x => exact x.unbroken_text

namespace Code

theorem newline_notMem_commaSeparated {texts : List String}
    (oneLine : ∀ text ∈ texts, '\n' ∉ text.toList) : '\n' ∉ (commaSeparated texts).toList := by
  rw [commaSeparated, String.toList_intercalate]
  induction texts with
  | nil => simp
  | cons text texts ih =>
    obtain ⟨first, later⟩ := List.forall_mem_cons.mp oneLine
    cases texts with
    | nil => simpa using first
    | cons next texts =>
      have rest := ih later
      simp only [List.map_cons, List.intercalate_cons_cons, List.mem_append, not_or] at rest ⊢
      exact ⟨⟨first, by decide⟩, rest⟩

def Gives {α : Type} (result : Except CodeError α) (post : α → Prop) : Prop :=
  ∀ value, result = .ok value → post value

section

variable {α β : Type} {result : Except CodeError α} {next : α → Except CodeError β}
  {mid other : α → Prop} {post : β → Prop}

theorem Gives.bind (first : Gives result mid)
    (later : ∀ value, mid value → Gives (next value) post) : Gives (result >>= next) post := by
  intro final found
  cases result with
  | error error => cases found
  | ok value => exact later value (first value rfl) final found

theorem Gives.pure {value : α} (holds : mid value) : Gives (pure value) mid := by
  rintro _ ⟨⟩
  exact holds

theorem Gives.error {error : CodeError} : Gives (.error error : Except CodeError α) mid :=
  fun _ impossible => nomatch impossible

theorem Gives.mono (gives : Gives result mid) (weaker : ∀ value, mid value → other value) :
    Gives result other :=
  fun value found => weaker value (gives value found)

end

-- Lines that begin with one of these have a body below them.
def bodyOpenings : List String := ["if (", "for ("]

def Bodiless (text : String) : Prop := ∀ opening ∈ bodyOpenings, ¬ opening.toList <+: text.toList

theorem bodyOpenings_parts {opening : String} (known : opening ∈ bodyOpenings) :
    ∃ word, opening.toList = word ++ [' ', '('] ∧ ' ' ∉ word ∧
      ∀ c ∈ word, c ∈ ['i', 'f', 'o', 'r'] := by
  simp only [bodyOpenings, List.mem_cons, List.not_mem_nil, or_false] at known
  rcases known with rfl | rfl
  next => exact ⟨['i', 'f'], rfl, by simp, by simp⟩
  next => exact ⟨['f', 'o', 'r'], rfl, by simp, by simp⟩

def firstWord (text : List Char) : List Char := text.takeWhile (· ≠ ' ')

def afterFirst (text : List Char) : List Char := text.dropWhile (· ≠ ' ')

theorem seen_of_notMem {text : List Char} (noBlank : ' ' ∉ text) :
    ∀ c ∈ text, decide (c ≠ ' ') := by
  intro c member
  rw [decide_eq_true_iff]
  rintro rfl
  exact noBlank member

theorem firstWord_append {text : List Char} (noBlank : ' ' ∉ text) (rest : List Char) :
    firstWord (text ++ rest) = text ++ firstWord rest :=
  List.takeWhile_append_of_pos (seen_of_notMem noBlank)

theorem afterFirst_append {text : List Char} (noBlank : ' ' ∉ text) (rest : List Char) :
    afterFirst (text ++ rest) = afterFirst rest :=
  List.dropWhile_append_of_pos (seen_of_notMem noBlank)

theorem mem_firstWord_append {text : List Char} {c : Char} (member : c ∈ firstWord text)
    (rest : List Char) : c ∈ firstWord (text ++ rest) := by
  rw [firstWord, List.takeWhile_append]
  split
  next => exact List.mem_append_left _ ((List.takeWhile_sublist _).mem member)
  next => exact member

theorem Bodiless.of_letter {text : String} {c : Char} (member : c ∈ firstWord text.toList)
    (other : c ∉ ['i', 'f', 'o', 'r']) : Bodiless text := by
  rintro opening known ⟨more, spelled⟩
  obtain ⟨word, parts, noBlank, letters⟩ := bodyOpenings_parts known
  rw [← spelled, parts, List.append_assoc, firstWord_append noBlank] at member
  exact other (letters c (by simpa [firstWord] using member))

theorem Bodiless.of_gap {word rest : String} {c : Char} (noBlank : ' ' ∉ word.toList)
    (follows : rest.toList.head? = some c) (other : c ≠ '(') : Bodiless (word ++ " " ++ rest) := by
  rintro opening known ⟨more, spelled⟩
  obtain ⟨key, parts, keyBlank, -⟩ := bodyOpenings_parts known
  -- Both texts are the same from the first blank on.
  have behind := congrArg afterFirst spelled
  simp only [parts, String.toList_append, List.append_assoc, afterFirst_append noBlank,
    afterFirst_append keyBlank] at behind
  have same : '(' :: more = rest.toList := by simpa [afterFirst] using behind
  rw [← same] at follows
  exact other (Option.some.inj follows).symm

def Lead (text : String) : Prop :=
  (∃ c ∈ firstWord text.toList, c ∉ ['i', 'f', 'o', 'r']) ∨ ' ' ∉ text.toList

theorem Lead.semicolon {text : String} (lead : Lead text) : Bodiless (text ++ ";") := by
  rcases lead with ⟨c, member, other⟩ | noBlank
  next =>
    refine .of_letter ?_ other
    rw [String.toList_append]
    exact mem_firstWord_append member _
  next =>
    refine .of_letter (c := ';') ?_ (by decide)
    rw [String.toList_append, firstWord_append noBlank]
    exact List.mem_append_right _ (by decide)

theorem Lead.gap {text rest : String} {c : Char} (lead : Lead text)
    (follows : rest.toList.head? = some c) (gap : c ≠ '(') : Bodiless (text ++ " " ++ rest) := by
  rcases lead with ⟨d, member, other⟩ | noBlank
  next =>
    refine .of_letter ?_ other
    rw [String.toList_append, String.toList_append]
    exact mem_firstWord_append (mem_firstWord_append member _) _
  next => exact .of_gap noBlank follows gap

theorem newline_notMem_symbol (op : BinaryOp) : '\n' ∉ op.symbol.toList := by
  cases op <;> decide

theorem newline_notMem_sign (op : UnaryOp) : '\n' ∉ op.symbol.toList := by
  cases op <;> decide

theorem symbol_starts (op : BinaryOp) : ∃ c, op.symbol.toList.head? = some c ∧ c ≠ '(' := by
  cases op <;> exact ⟨_, rfl, by decide⟩

/-- Alone and as part of another expression, the text is solid, and as a statement it cannot be
taken for the head of a body. -/
structure SolidText (e : Expr) (text : String) : Prop where
  inside : Solid text
  alone : Solid (bare e text)
  lead : Lead text
  ended : Bodiless (bare e text ++ ";")

theorem SolidText.of_bare {e : Expr} {text : String} (solid : Solid text) (lead : Lead text)
    (same : bare e text = text) : SolidText e text where
  inside := solid
  alone := same.symm ▸ solid
  lead := lead
  ended := same.symm ▸ lead.semicolon

theorem SolidText.of_unbroken {e : Expr} {text : String} (unbroken : Unbroken text)
    (same : bare e text = text) : SolidText e text :=
  .of_bare unbroken.solid (.inr unbroken.noBlank) same

theorem lead_of_parenthesis {text : String} : Lead ("(" ++ text) := by
  refine .inl ⟨'(', ?_, by decide⟩
  rw [String.toList_append]
  exact mem_firstWord_append (by decide) _

mutual
theorem render_solid (line : Nat) :
    ∀ e : Expr, e.AllWorded → Gives (render line e) (SolidText e)
  | .number n => fun _ => .pure (.of_unbroken n.unbroken_text rfl)
  | .string contents => by
    intro worded
    obtain ⟨-, oneLine⟩ := worded _ List.mem_cons_self
    have quote : Solid "\"" := by decide
    have lead : Lead ("\"" ++ contents ++ "\"") := by
      refine .inl ⟨'"', ?_, by decide⟩
      rw [String.toList_append, String.toList_append]
      exact mem_firstWord_append (mem_firstWord_append (by decide) _) _
    exact .pure (.of_bare ((quote.append oneLine).append (by decide)) lead rfl)
  | .boolean b => by
    intro _
    cases b <;> exact .pure (.of_unbroken (by decide) rfl)
  | .identifier name => by
    intro worded
    have isName : IsName name := worded _ List.mem_cons_self
    rw [render, surfaceName?_getD]
    exact .pure (.of_unbroken (isName_surfaceMacro isName).unbroken rfl)
  | .binary op left right => by
    intro worded
    obtain ⟨lefts, rights⟩ := Expr.allWorded_binary.mp worded
    rw [render]
    refine (render_solid line left lefts).bind fun leftText first => ?_
    refine (render_solid line right rights).bind fun rightText second => .pure ?_
    have inner : Solid (leftText ++ " " ++ op.symbol ++ " " ++ rightText) := by
      have symbol := newline_notMem_symbol op
      exact (((first.inside.append (by decide)).append symbol).append (by decide)).append
        second.inside.oneLine
    have opening : Solid "(" := by decide
    have whole : "(" ++ leftText ++ " " ++ op.symbol ++ " " ++ rightText ++ ")" =
        "(" ++ (leftText ++ " " ++ op.symbol ++ " " ++ rightText) ++ ")" := by
      simp only [String.append_assoc]
    rw [whole]
    refine ⟨(opening.append inner.oneLine).append (by decide), ?_, ?_, ?_⟩
    next =>
      rw [bare, dropEnds_parenthesis]
      exact inner
    next =>
      rw [String.append_assoc]
      exact lead_of_parenthesis
    next =>
      -- Behind the first blank there is the symbol.
      obtain ⟨c, follows, gap⟩ := symbol_starts op
      have ended : leftText ++ " " ++ op.symbol ++ " " ++ rightText ++ ";" =
          leftText ++ " " ++ (op.symbol ++ " " ++ rightText ++ ";") := by
        simp only [String.append_assoc]
      rw [bare, dropEnds_parenthesis, ended]
      exact first.lead.gap (by simp [follows]) gap
  | .unary op operand => by
    intro worded
    rw [render]
    refine (render_solid line operand (Expr.allWorded_unary.mp worded)).bind fun text solid => ?_
    have opening : Solid "(" := by decide
    have signed := opening.append (newline_notMem_sign op)
    have lead : Lead ("(" ++ op.symbol ++ text ++ ")") := by
      rw [String.append_assoc, String.append_assoc]
      exact lead_of_parenthesis
    exact .pure (.of_bare ((signed.append solid.inside.oneLine).append (by decide)) lead rfl)
  | .call callee arguments => by
    intro worded
    obtain ⟨isName, inside⟩ := Expr.allWorded_call.mp worded
    rw [render]
    split
    next => exact Gives.error
    next =>
      refine (renderAll_solid line arguments inside).bind fun texts solid => ?_
      have listed := newline_notMem_commaSeparated fun text member => (solid text member).oneLine
      have called : Solid (callee ++ "(") := isName.solid.append (by decide)
      have lead : Lead (callee ++ "(" ++ commaSeparated texts ++ ")") := by
        refine .inl ⟨'(', ?_, by decide⟩
        rw [String.append_assoc, String.append_assoc, String.toList_append,
          firstWord_append isName.unbroken.noBlank, String.toList_append]
        exact List.mem_append_right _ (mem_firstWord_append (by decide) _)
      exact .pure (.of_bare ((called.append listed).append (by decide)) lead rfl)

theorem renderAll_solid (line : Nat) :
    ∀ es : List Expr, (∀ e ∈ es, e.AllWorded) →
      Gives (renderAll line es) fun texts => ∀ text ∈ texts, Solid text
  | [] => fun _ => .pure fun text member => absurd member List.not_mem_nil
  | e :: es => by
    intro worded
    obtain ⟨first, later⟩ := List.forall_mem_cons.mp worded
    rw [renderAll]
    refine (render_solid line e first).bind fun text solid => ?_
    refine (renderAll_solid line es later).bind fun texts rest => .pure ?_
    exact List.forall_mem_cons.mpr ⟨solid.alone, rest⟩
end

theorem renderBare_solid (line : Nat) {e : Expr} (worded : e.AllWorded) :
    Gives (renderBare line e) fun text => Solid text ∧ Bodiless (text ++ ";") := by
  rw [renderBare]
  exact (render_solid line e worded).bind fun text solid => .pure ⟨solid.alone, solid.ended⟩

theorem renderOptional_oneLine (line : Nat) {found : Option Expr}
    (worded : ∀ e ∈ found, e.AllWorded) :
    Gives (renderOptional line found) fun text => '\n' ∉ text.toList := by
  cases found with
  | none => exact .pure (by decide)
  | some e => exact (renderBare_solid line (worded e rfl)).mono fun text solid => solid.1.oneLine

theorem unbroken_typeOf (e : Expr) : Unbroken (typeOf e) := by
  fun_induction typeOf e with
  | case5 _ _ ih | case9 _ _ _ ih => exact ih
  | _ => decide

theorem unbroken_typeNamed {name : String} (isName : IsName name) : Unbroken (typeNamed name) := by
  rw [typeNamed]
  split
  next => decide
  next =>
    split
    next => decide
    next => exact isName.unbroken

end Code

end DrawScript
