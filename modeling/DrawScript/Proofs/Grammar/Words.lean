import DrawScript.Proofs.Grammar.Acceptance
import DrawScript.Proofs.Grammar.Entailment
import DrawScript.Proofs.Token.Coverage

set_option autoImplicit false

namespace DrawScript

def Token.Spelled (t : Token) : Prop := ∃ text, Spells text t.kind t.value

theorem Token.Spelled.name {t : Token} (spelled : t.Spelled) (named : t.kind = .identifier) :
    IsName t.text := by
  obtain ⟨text, spells⟩ := spelled
  rw [named] at spells
  rw [Token.text]
  generalize t.value = value at spells
  cases spells with
  | name isName => exact isName

theorem Token.Spelled.named {t : Token} {name : String} (spelled : t.Spelled)
    (named : t.is .identifier name) : IsName name := by
  obtain ⟨kind, value⟩ := Token.is_iff.mp named
  have isName := spelled.name kind
  rwa [Token.text, value] at isName

theorem Token.Spelled.string {contents : String} {line : Nat}
    (spelled : Token.Spelled ⟨.string, .string contents, line⟩) :
    '"' ∉ contents.toList ∧ '\n' ∉ contents.toList := by
  obtain ⟨text, spells⟩ := spelled
  cases spells with
  | string quoteless oneLine => exact ⟨quoteless, oneLine⟩

def Expr.Worded : Expr → Prop
  | .call name _ | .identifier name => IsName name
  | .string contents => '"' ∉ contents.toList ∧ '\n' ∉ contents.toList
  | .binary .. | .unary .. | .number _ | .boolean _ => True

def Expr.AllWorded (e : Expr) : Prop := ∀ x ∈ e.parts, x.Worded

namespace Expr

theorem allWorded_binary {op : BinaryOp} {left right : Expr} :
    (binary op left right).AllWorded ↔ left.AllWorded ∧ right.AllWorded := by
  have split : (binary op left right).inner = left.parts ++ right.parts := rfl
  rw [AllWorded, parts, split, List.forall_mem_cons, List.forall_mem_append]
  exact and_iff_right trivial

theorem AllWorded.binary {op : BinaryOp} {left right : Expr} (first : left.AllWorded)
    (second : right.AllWorded) : (binary op left right).AllWorded :=
  allWorded_binary.mpr ⟨first, second⟩

theorem allWorded_unary {op : UnaryOp} {operand : Expr} :
    (unary op operand).AllWorded ↔ operand.AllWorded := by
  rw [AllWorded, parts, List.forall_mem_cons]
  exact and_iff_right trivial

theorem allWorded_call {callee : String} {arguments : List Expr} :
    (call callee arguments).AllWorded ↔ IsName callee ∧ ∀ e ∈ arguments, e.AllWorded := by
  rw [AllWorded, parts, List.forall_mem_cons, inner]
  refine and_congr_right fun _ => ⟨fun all e member x inside => ?_, fun all x inside => ?_⟩
  next => exact all x (mem_partsAll.mpr ⟨e, member, inside⟩)
  next =>
    obtain ⟨e, member, within⟩ := mem_partsAll.mp inside
    exact all e member x within

theorem allWorded_leaf {e : Expr} (leaf : e.inner = []) : e.AllWorded ↔ e.Worded := by
  rw [AllWorded, parts, leaf, List.forall_mem_singleton]

end Expr

def Statement.Worded : Statement → Prop
  | .var name type initial _ => IsName name ∧ (∀ t ∈ type, IsName t) ∧ initial.AllWorded
  | .cursor name arguments _ | .method name _ arguments _ =>
      IsName name ∧ ∀ e ∈ arguments, e.AllWorded
  | .ifElse condition _ _ _ | .whileLoop condition _ _ | .doWhile _ condition _ =>
      condition.AllWorded
  | .forLoop _ condition increment _ _ =>
      (∀ e ∈ condition, e.AllWorded) ∧ ∀ e ∈ increment, e.AllWorded
  | .expression value _ => value.AllWorded
  | .function .. | .returnValue .. | .copy .. | .animate .. | .block _ | .empty _ => True

namespace Grammar

theorem Operand.entails (room : Nat) : Entails Token.Spelled (Operand room) Expr.AllWorded := by
  induction room with
  | zero => exact fun _ _ impossible => impossible.elim
  | succ room ih =>
    intro tokens e form spelled
    cases form with
    | signed _ inner =>
      exact Expr.allWorded_unary.mpr (ih _ _ inner (List.forall_mem_cons.mp spelled).2)
    | parenthesis _ inner _ =>
      obtain ⟨inside, -⟩ := List.forall_mem_append.mp (List.forall_mem_cons.mp spelled).2
      exact Assignment.entails .binary ih _ _ inner inside
    | call named items =>
      obtain ⟨callee, inside⟩ := List.forall_mem_cons.mp spelled
      exact Expr.allWorded_call.mpr
        ⟨callee.named named, Parenthesized.entails (Assignment.entails .binary ih) _ _ items inside⟩
    | identifier named =>
      exact (Expr.allWorded_leaf rfl).mpr ((List.forall_mem_singleton.mp spelled).named named)
    | string => exact (Expr.allWorded_leaf rfl).mpr (List.forall_mem_singleton.mp spelled).string
    | number | boolean => exact (Expr.allWorded_leaf rfl).mpr trivial

theorem Expression.entails (room : Nat) :
    Entails Token.Spelled (Expression room) Expr.AllWorded :=
  Assignment.entails .binary (Operand.entails room)

section

variable {expression : Spelling Expr}
  (expressions : Entails Token.Spelled expression Expr.AllWorded)

include expressions

theorem VarDeclaration.entails :
    Entails Token.Spelled (VarDeclaration expression) Statement.Worded := by
  rintro _ _ ⟨_, named, typed, _, value⟩ spelled
  simp only [List.cons_append, List.forall_mem_cons, List.forall_mem_append] at spelled
  obtain ⟨-, name, types, -, values⟩ := spelled
  refine ⟨name.name named, ?_, expressions _ _ value values⟩
  cases typed with
  | written _ isType =>
    rintro t ⟨⟩
    exact (List.forall_mem_cons.mp (List.forall_mem_cons.mp types).2).1.name isType
  | int | float | bool =>
    rintro t ⟨⟩
    decide
  | untyped => exact fun t absent => by cases absent

variable {block : Spelling (Block Statement)}

theorem IfElse.entails :
    Entails Token.Spelled (IfElse expression block) Statement.Worded := by
  intro tokens s chain spelled
  cases chain with
  | plain _ tested _ | otherwise _ tested _ _ _ | elseIf _ tested _ _ _ =>
    simp only [List.cons_append, List.append_assoc, List.forall_mem_cons, List.forall_mem_append]
      at spelled
    exact Condition.entails expressions _ _ tested spelled.2.1

theorem StatementForm.entails :
    Entails Token.Spelled (StatementForm expression block) Statement.Worded := by
  intro tokens s form spelled
  cases form with
  | var declared _ =>
    exact VarDeclaration.entails expressions _ _ declared (List.forall_mem_append.mp spelled).1
  | cursor _ named _ _ items _ =>
    simp only [List.cons_append, List.forall_mem_cons, List.forall_mem_append] at spelled
    obtain ⟨-, name, -, -, inside, -⟩ := spelled
    exact ⟨name.name named, Parenthesized.entails expressions _ _ items inside⟩
  | ifElse chain => exact IfElse.entails expressions _ _ chain spelled
  | forLoop _ _ _ _ tested _ stepped _ _ =>
    simp only [List.cons_append, List.append_assoc, List.forall_mem_cons, List.forall_mem_append]
      at spelled
    obtain ⟨-, -, -, -, tests, -, steps, -, -⟩ := spelled
    exact ⟨Optional.entails expressions _ _ tested tests,
      Optional.entails expressions _ _ stepped steps⟩
  | whileLoop _ tested _ =>
    simp only [List.cons_append, List.forall_mem_cons, List.forall_mem_append] at spelled
    exact Condition.entails expressions _ _ tested spelled.2.1
  | doWhile _ _ _ tested _ =>
    simp only [List.cons_append, List.append_assoc, List.forall_mem_cons, List.forall_mem_append]
      at spelled
    obtain ⟨-, -, -, tests, -⟩ := spelled
    exact Condition.entails expressions _ _ tested tests
  | method isCursor _ _ items _ =>
    simp only [List.cons_append, List.forall_mem_cons, List.forall_mem_append] at spelled
    obtain ⟨cursor, -, -, inside, -⟩ := spelled
    exact ⟨cursor.name isCursor, Parenthesized.entails expressions _ _ items inside⟩
  | expression plain _ => exact expressions _ _ plain (List.forall_mem_append.mp spelled).1
  | function | returnValue | copy | animate | block | empty => exact trivial

theorem ForInitial.entails {tokens : List Token} {s : Statement}
    (starts : ForInitial expression tokens (some s)) (spelled : ∀ t ∈ tokens, t.Spelled) :
    s.Worded := by
  cases starts with
  | var declared => exact VarDeclaration.entails expressions _ _ declared spelled
  | expression plain => exact expressions _ _ plain spelled

end

theorem parse_worded {tokens : List Token} (spelled : ∀ t ∈ tokens, t.Spelled) :
    ∀ x ∈ (parse tokens).program.walk, x.Worded := by
  intro x member
  obtain ⟨room, own, inside, form⟩ := parse_found tokens x member
  have ownSpelled : ∀ t ∈ own, t.Spelled := fun t among => spelled t (inside.subset among)
  rcases form with form | starts
  next => exact StatementForm.entails (Expression.entails room) _ _ form ownSpelled
  next => exact ForInitial.entails (Expression.entails room) starts ownSpelled

end Grammar

end DrawScript
