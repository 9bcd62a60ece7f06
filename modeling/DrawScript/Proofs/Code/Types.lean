import DrawScript.Proofs.Code.Lowering
import DrawScript.Proofs.Grammar.Annotations
import DrawScript.Token.Reading

set_option autoImplicit false

namespace DrawScript

namespace Statement

mutual
def untyped : Statement → Statement
  | .var name _ initial line => .var name none initial line
  | .function name parameters body line => .function name parameters (untypedBlock body) line
  | .ifElse condition thenBlock elseBlock line =>
      .ifElse condition (untypedBlock thenBlock) (untypedOtherwise elseBlock) line
  | .forLoop initial condition increment body line =>
      .forLoop (untypedInitial initial) condition increment (untypedBlock body) line
  | .whileLoop condition body line => .whileLoop condition (untypedBlock body) line
  | .doWhile body condition line => .doWhile (untypedBlock body) condition line
  | .animate first second body line => .animate first second (untypedBlock body) line
  | .block body => .block (untypedBlock body)
  | other => other

def untypedBlock : Block Statement → Block Statement
  | ⟨body, line⟩ => ⟨untypedAll body, line⟩

def untypedOtherwise : Option (Block Statement) → Option (Block Statement)
  | none => none
  | some body => some (untypedBlock body)

def untypedInitial : Option Statement → Option Statement
  | none => none
  | some initial => some initial.untyped

def untypedAll : List Statement → List Statement
  | [] => []
  | s :: ss => s.untyped :: untypedAll ss
end

def type? : Statement → Option String
  | .var _ type _ _ => type
  | _ => none

theorem untypedAll_eq_map (ss : List Statement) : untypedAll ss = ss.map untyped := by
  induction ss with
  | nil => rfl
  | cons s ss ih => rw [untypedAll, ih, List.map_cons]

theorem type?_untyped (s : Statement) : s.untyped.type? = none := by cases s <;> rfl

theorem isVar_untyped (s : Statement) : s.untyped.isVar = s.isVar := by cases s <;> rfl

theorem kindName_untyped (s : Statement) : s.untyped.kindName = s.kindName := by cases s <;> rfl

theorem line_untyped (s : Statement) : s.untyped.line = s.line := by
  cases s with
  | block body =>
    cases body
    rfl
  | _ => rfl

mutual
theorem inner_untyped : ∀ s : Statement, s.untyped.inner = s.inner.map untyped
  | .function _ _ body _ | .whileLoop _ body _ | .doWhile body _ _ | .animate _ _ body _
  | .block body => walkBlock_untyped body
  | .ifElse _ thenBlock elseBlock _ => by
    rw [untyped, inner, inner, List.map_append, walkBlock_untyped, walkOtherwise_untyped]
  | .forLoop initial _ _ body _ => by
    rw [untyped, inner, inner, List.map_append, walkInitial_untyped, walkBlock_untyped]
  | .var .. | .cursor .. | .returnValue .. | .copy .. | .method .. | .expression ..
  | .empty _ => rfl

theorem walkBlock_untyped : ∀ b, walkBlock (untypedBlock b) = (walkBlock b).map untyped
  | ⟨body, _⟩ => walkAll_untyped body

theorem walkOtherwise_untyped :
    ∀ b, walkOtherwise (untypedOtherwise b) = (walkOtherwise b).map untyped
  | none => rfl
  | some body => walkBlock_untyped body

theorem walkInitial_untyped :
    ∀ initial, walkInitial (untypedInitial initial) = (walkInitial initial).map untyped
  | none => rfl
  | some initial => by
    rw [untypedInitial, walkInitial, walkInitial, List.map_cons, inner_untyped]

theorem walkAll_untyped : ∀ ss, walkAll (untypedAll ss) = (walkAll ss).map untyped
  | [] => rfl
  | s :: ss => by
    rw [untypedAll, walkAll, walkAll, List.map_append, List.map_cons, inner_untyped,
      walkAll_untyped]
end

end Statement

def Program.untyped (p : Program) : Program := Statement.untypedAll p

namespace Code

open Grammar

theorem typeNamed_of_literal {e : Expr} {type : String} (found : type ∈ literalType? e) :
    typeNamed type = typeOf e := by
  cases e with
  | number n =>
    obtain rfl : (if n.isInt then "int" else "float") = type := by simpa [literalType?] using found
    rw [typeOf]
    cases n.isInt <;> decide
  | boolean b =>
    obtain rfl : "bool" = type := by simpa [literalType?] using found
    rw [typeOf]
    decide
  | _ => cases found

/-- A type that a variable has is the one that its first value would give it. -/
def TypesAgree : Statement → Prop
  | .var _ type initial _ => ∀ t ∈ type, typeNamed t = typeOf initial
  | _ => True

theorem typesAgree_of_inferred {s : Statement} (inferred : s.Inferred) : TypesAgree s := by
  cases s with
  | var name type initial line =>
    obtain rfl : type = literalType? initial := inferred
    exact fun t => typeNamed_of_literal
  | _ => trivial

theorem declaration_untyped {name : String} {type : Option String} {initial : Expr} {line : Nat}
    (agrees : ∀ t ∈ type, typeNamed t = typeOf initial) :
    declaration name none initial line = declaration name type initial line := by
  cases type with
  | none => rfl
  | some t =>
    rw [declaration, declaration, Option.elim_none, Option.elim_some, agrees t rfl]

theorem unsupported_untyped (s : Statement) : unsupported s.untyped = unsupported s := by
  rw [unsupported, unsupported, s.line_untyped, s.kindName_untyped]

theorem forInitial_untyped {initial : Option Statement}
    (agree : ∀ x ∈ Statement.walkInitial initial, TypesAgree x) :
    forInitial (Statement.untypedInitial initial) = forInitial initial := by
  cases initial with
  | none => rfl
  | some s =>
    cases s with
    | var => exact declaration_untyped (agree _ List.mem_cons_self)
    | expression => rfl
    | _ => exact congrArg Except.error (unsupported_untyped _)

theorem forHead_untyped {initial : Option Statement}
    (agree : ∀ x ∈ Statement.walkInitial initial, TypesAgree x) (condition increment : Option Expr)
    (line : Nat) :
    forHead (Statement.untypedInitial initial) condition increment line =
      forHead initial condition increment line := by
  rw [forHead, forHead, forInitial_untyped agree]

mutual
theorem statement_untyped :
    ∀ s : Statement, (∀ x ∈ s.walk, TypesAgree x) → statement s.untyped = statement s
  | .var .. => fun agree => by
    rw [Statement.untyped, statement, statement, declaration_untyped (agree _ List.mem_cons_self)]
  | .ifElse _ thenBlock elseBlock _ => fun agree => by
    obtain ⟨thens, elses⟩ := List.forall_mem_append.mp (List.forall_mem_cons.mp agree).2
    rw [Statement.untyped, statement, statement, block_untyped thenBlock thens,
      otherwise_untyped elseBlock elses]
  | .forLoop _ _ _ body _ => fun agree => by
    obtain ⟨starts, inside⟩ := List.forall_mem_append.mp (List.forall_mem_cons.mp agree).2
    rw [Statement.untyped, statement, statement, forHead_untyped starts,
      block_untyped body inside]
  | .whileLoop _ body _ | .doWhile body _ _ => fun agree => by
    rw [Statement.untyped, statement, statement,
      block_untyped body (List.forall_mem_cons.mp agree).2]
  | .block body => fun agree => block_untyped body (List.forall_mem_cons.mp agree).2
  -- What has no form in C is refused for its kind and line only.
  | .function .. | .animate .. | .returnValue .. | .copy .. => fun _ => rfl
  | .cursor .. | .method .. | .expression .. | .empty _ => fun _ => rfl

theorem block_untyped :
    ∀ b, (∀ x ∈ Statement.walkBlock b, TypesAgree x) →
      block (Statement.untypedBlock b) = block b
  | ⟨body, _⟩ => fun agree => by
    rw [Statement.untypedBlock, block, block, statements_untyped body agree]

theorem otherwise_untyped :
    ∀ b, (∀ x ∈ Statement.walkOtherwise b, TypesAgree x) →
      otherwise (Statement.untypedOtherwise b) = otherwise b
  | none => fun _ => rfl
  | some body => fun agree => by
    rw [Statement.untypedOtherwise, otherwise, otherwise, block_untyped body agree]

theorem statements_untyped :
    ∀ ss, (∀ x ∈ Statement.walkAll ss, TypesAgree x) →
      statements (Statement.untypedAll ss) = statements ss
  | [] => fun _ => rfl
  | s :: ss => fun agree => by
    obtain ⟨first, later⟩ := List.forall_mem_append.mp agree
    rw [Statement.untypedAll, statements, statements, statement_untyped s first,
      statements_untyped ss later]
end

theorem sections_untyped {p : Program} (agree : ∀ x ∈ p.walk, TypesAgree x) :
    sections p.untyped = sections p := by
  obtain ⟨declared, others⟩ := forall_walk_partition.mp agree
  have same : Statement.isVar ∘ Statement.untyped = Statement.isVar :=
    funext Statement.isVar_untyped
  -- The same statements go to the front, with or without their types.
  have partition : p.untyped.partition Statement.isVar =
      (Statement.untypedAll (p.filter Statement.isVar),
        Statement.untypedAll (p.filter (not ∘ Statement.isVar))) := by
    simp only [Program.untyped, Statement.untypedAll_eq_map, List.partition_eq_filter_filter,
      List.filter_map, Function.comp_assoc, same]
  rw [sections, sections, partition, List.partition_eq_filter_filter]
  simp only [statements_untyped _ declared, statements_untyped _ others]

end Code

theorem Program.type?_of_mem_untyped {p : Program} {s : Statement} (member : s ∈ p.untyped.walk) :
    s.type? = none := by
  rw [walk, untyped, Statement.walkAll_untyped] at member
  obtain ⟨typed, -, rfl⟩ := List.mem_map.mp member
  exact typed.type?_untyped

open Grammar Code

theorem Generator.run_untyped (script : String)
    (unannotated : hasWrittenType (tokenize script).tokens = false) (g : Generator) :
    (∀ s ∈ (parse (tokenize script).tokens).program.untyped.walk, s.type? = none) ∧
    g.run (parse (tokenize script).tokens).program.untyped =
      g.run (parse (tokenize script).tokens).program ∧
    ∀ e, ∀ type ∈ literalType? e, typeNamed type = typeOf e := by
  refine ⟨fun s => Program.type?_of_mem_untyped, ?_, fun e type => typeNamed_of_literal⟩
  have inferred := parse_inferred unannotated
  rw [run, run, sections_untyped fun x member => typesAgree_of_inferred (inferred x member)]

def literalsScript : String :=
  "for (var i = 0;;) \x7b var h = 0.5; if (i) \x7b var b = true; \x7d \x7d var = 2; var n = -i;"

theorem Generator.run_untyped_literals :
    hasWrittenType (tokenize literalsScript).tokens = false ∧
    (parse (tokenize literalsScript).tokens).errors.length = 1 ∧
    (parse (tokenize literalsScript).tokens).program.walk.filterMap Statement.type? =
      ["int", "float", "bool"] ∧
    (parse (tokenize literalsScript).tokens).program.untyped.generate {} = .ok
      { declarations := "    float n = (-i);\n"
        operations := "    for (int i = 0; ; )\n    \x7b\n        float h = 0.5;\n" ++
          "        if (i)\n        \x7b\n            bool b = true;\n        \x7d\n    \x7d\n"
        header := Surface.header {} } := by
  have unannotated : hasWrittenType (tokenize literalsScript).tokens = false := by decide +kernel
  have same := (run_untyped literalsScript unannotated ⟨{}, {}⟩).2.1
  rw [Program.generate, same]
  decide +kernel

end DrawScript
