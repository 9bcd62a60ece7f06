import DrawScript.Proofs.Code.Setters
import DrawScript.Proofs.Code.Settling
import Mathlib.Data.List.Forall2

set_option autoImplicit false

namespace DrawScript.Code

open Catalogue

/-- Lines next to each other at one depth, with the statement that they are written for. -/
structure Passage where
  source : Statement
  depth : Nat
  texts : List String

def Passage.text (passage : Passage) : String :=
  String.join (passage.texts.map fun text =>
    String.ofList (List.replicate (4 * passage.depth) ' ') ++ text ++ "\n")

def written (passages : List Passage) : String := String.join (passages.map Passage.text)

/-- The call that a statement becomes. What is passed on from the script's arguments stands between
texts that every such call has. -/
inductive Called (pen : Pen) : Statement → (passed : List String) → (text : String) → Prop
  | shape {callee : String} {arguments : List Expr} {line : Nat} {function : DrawFunction}
      {passed : List String} (known : drawFunction? callee = some function)
      (draws : ¬ function.action.needsConstants)
      (rendered : renderAll line arguments = .ok passed) :
      Called pen (.expression (.call callee arguments) line) passed
        (callee ++ "(" ++ ", ".intercalate ("renderer" :: passed ++
          (if callee = "drawSegment" then [toString pen.thickness] else []) ++
          [toString pen.color.red, toString pen.color.green, toString pen.color.blue,
            toString pen.color.alpha, "filename"]) ++ ");")
  | draw {cursor name : String} {arguments : List Expr} {line : Nat} {method : CursorMethod}
      {passed : List String} (known : cursorMethod? name = some method)
      (draws : method.action = .draw) (rendered : renderAll line arguments = .ok passed) :
      Called pen (.method cursor name arguments line) passed
        (method.routine ++ "(" ++
          ", ".intercalate (cursor :: "renderer" :: passed ++ ["filename"]) ++ ");")
  | recolor {cursor name : String} {arguments : List Expr} {line : Nat} {method : CursorMethod}
      {passed : List String} (known : cursorMethod? name = some method)
      (colors : method.action = .setColor)
      (folded : passed = [toString (component arguments 0), toString (component arguments 1),
        toString (component arguments 2), toString (component arguments 3)]) :
      Called pen (.method cursor name arguments line) passed
        (method.routine ++ "(" ++ ", ".intercalate (cursor :: passed) ++ ");")
  | change {cursor name : String} {arguments : List Expr} {line : Nat} {method : CursorMethod}
      {passed : List String} (known : cursorMethod? name = some method)
      (changes : method.action ≠ .draw ∧ method.action ≠ .setColor)
      (rendered : renderAll line arguments = .ok passed) :
      Called pen (.method cursor name arguments line) passed
        (method.routine ++ "(" ++ ", ".intercalate (cursor :: passed) ++ ");")
  | construct {name : String} {arguments : List Expr} {line : Nat} {passed : List String}
      (rendered : renderAll line arguments = .ok passed) :
      Called pen (.cursor name arguments line) passed
        ("Cursor* " ++ name ++ " = " ++ cursorConstructor ++ "(" ++ ", ".intercalate passed ++ ");")

-- The place that is logged for a drawing.
def anchor : Statement → (passed : List String) → String × String
  | .method cursor _ _ _, _ => (cursor ++ "->x", cursor ++ "->y")
  | _, passed => (passed.getD 0 "0", passed.getD 1 "0")

/-- One call among three lines that save the image, log its place and count it. -/
inductive Drawn (pen : Pen) (s : Statement) : List String → Prop
  | lines {passed : List String} {text x y : String} (called : Called pen s passed text)
      (place : anchor s passed = (x, y)) :
      Drawn pen s
        ["sprintf(filename, \"Data/Outputs/drawing_%d.bmp\", drawing_index);",
          text,
          "fprintf(file, \"%d %d\\n\", (int)(" ++ x ++ "), (int)(" ++ y ++ "));",
          "drawing_index++;"]

inductive Clause : Statement → String → Prop
  | declared {name : String} {type : Option String} {initial : Expr} {line : Nat} {value : String}
      (rendered : renderBare line initial = .ok value) :
      Clause (.var name type initial line)
        (type.elim (typeOf initial) typeNamed ++ " " ++ name ++ " = " ++ value)
  | value {e : Expr} {line : Nat} {text : String} (plain : ¬ e.IsDrawing)
      (rendered : renderBare line e = .ok text) : Clause (.expression e line) text

def Starts : Option Statement → String → Prop
  | none, text => text = ""
  | some s, text => Clause s text

inductive Own (pen : Pen) : Statement → List String → Prop
  | clause {s : Statement} {text : String} (clause : Clause s text) : Own pen s [text ++ ";"]
  | called {s : Statement} {passed : List String} {text : String} (quiet : ¬ s.isDrawing)
      (called : Called pen s passed text) : Own pen s [text]
  | drawn {s : Statement} {texts : List String} (draws : s.isDrawing)
      (drawn : Drawn pen s texts) : Own pen s texts
  | setter {name : String} {arguments : List Expr} {line : Nat}
      (setter : name ∈ ["setRGBA", "setThickness"]) :
      Own pen (.expression (.call name arguments) line) []
  | empty {line : Nat} : Own pen (.empty line) []

/-- The lines around the block of a statement, and the statements in front of its body. -/
inductive Encloses : Statement → (head : List Statement) → (opening : List String) →
    (body : List Statement) → (closing : List String) → Prop
  | block {body : List Statement} {start : Nat} :
      Encloses (.block ⟨body, start⟩) [] ["\x7b"] body ["\x7d"]
  | ifThen {condition : Expr} {test : String} {body : List Statement} {start line : Nat}
      (rendered : renderBare line condition = .ok test) :
      Encloses (.ifElse condition ⟨body, start⟩ none line) [] ["if (" ++ test ++ ")", "\x7b"] body
        ["\x7d"]
  | whileLoop {condition : Expr} {test : String} {body : List Statement} {start line : Nat}
      (rendered : renderBare line condition = .ok test) :
      Encloses (.whileLoop condition ⟨body, start⟩ line) [] ["while (" ++ test ++ ")", "\x7b"] body
        ["\x7d"]
  | doWhile {condition : Expr} {test : String} {body : List Statement} {start line : Nat}
      (rendered : renderBare line condition = .ok test) :
      Encloses (.doWhile ⟨body, start⟩ condition line) [] ["do", "\x7b"] body
        ["\x7d", "while (" ++ test ++ ");"]
  | forLoop {initial : Option Statement} {condition increment : Option Expr}
      {first test step : String} {body : List Statement} {start line : Nat}
      (starts : Starts initial first) (tests : renderOptional line condition = .ok test)
      (steps : renderOptional line increment = .ok step) :
      Encloses (.forLoop initial condition increment ⟨body, start⟩ line)
        (Statement.walkInitial initial)
        ["for (" ++ first ++ "; " ++ test ++ "; " ++ step ++ ")", "\x7b"] body ["\x7d"]

/-- The statements, met behind those in `before`, become these passages: each has its own lines,
those of the statements in it stand between its lines and one level deeper. -/
inductive Lowers : (depth : Nat) → (before ss : List Statement) → List Passage → Prop
  | nil {depth : Nat} {before : List Statement} : Lowers depth before [] []
  | own {depth : Nat} {before ss : List Statement} {s : Statement} {texts : List String}
      {passages : List Passage} (own : Own (Pen.after before) s texts)
      (rest : Lowers depth (before ++ s.walk) ss passages) :
      Lowers depth before (s :: ss) (⟨s, depth, texts⟩ :: passages)
  | enclosed {depth : Nat} {before head body ss : List Statement} {s : Statement}
      {opening closing : List String} {inner passages : List Passage}
      (encloses : Encloses s head opening body closing)
      (inside : Lowers (depth + 1) (before ++ s :: head) body inner)
      (rest : Lowers depth (before ++ s.walk) ss passages) :
      Lowers depth before (s :: ss)
        (⟨s, depth, opening⟩ :: inner ++ ⟨s, depth, closing⟩ :: passages)
  | branches {depth : Nat} {before thens elses ss : List Statement} {s : Statement}
      {condition : Expr} {test : String} {first second line : Nat}
      {thenPassages elsePassages passages : List Passage}
      (form : s = .ifElse condition ⟨thens, first⟩ (some ⟨elses, second⟩) line)
      (rendered : renderBare line condition = .ok test)
      (insideThen : Lowers (depth + 1) (before ++ [s]) thens thenPassages)
      (insideElse : Lowers (depth + 1) (before ++ s :: Statement.walkAll thens) elses elsePassages)
      (rest : Lowers depth (before ++ s.walk) ss passages) :
      Lowers depth before (s :: ss)
        (⟨s, depth, ["if (" ++ test ++ ")", "\x7b"]⟩ :: thenPassages ++
          ⟨s, depth, ["\x7d", "else", "\x7b"]⟩ :: elsePassages ++
          ⟨s, depth, ["\x7d"]⟩ :: passages)

@[simp] theorem written_nil : written [] = "" := rfl

@[simp] theorem written_cons (passage : Passage) (passages : List Passage) :
    written (passage :: passages) = passage.text ++ written passages := by
  simp [written]

@[simp] theorem written_append (passages others : List Passage) :
    written (passages ++ others) = written passages ++ written others := by
  simp [written]

theorem Lowers.append {depth : Nat} {before ss others : List Statement}
    {passages more : List Passage} (first : Lowers depth before ss passages)
    (second : Lowers depth (before ++ Statement.walkAll ss) others more) :
    Lowers depth before (ss ++ others) (passages ++ more) := by
  induction first with
  | nil => simpa [Statement.walkAll] using second
  | own own _ ih =>
    refine .own own (ih ?_)
    simpa [Statement.walkAll, Statement.walk] using second
  | enclosed encloses inside _ _ ih =>
    have rest := ih (by simpa [Statement.walkAll, Statement.walk] using second)
    simpa using Lowers.enclosed encloses inside rest
  | branches form rendered insideThen insideElse _ _ _ ih =>
    have rest := ih (by simpa [Statement.walkAll, Statement.walk] using second)
    simpa using Lowers.branches form rendered insideThen insideElse rest

section

variable {pen : Pen} {s : Statement} {texts : List String} {text : String}

theorem Clause.noSite (clause : Clause s text) : s.isCallSite = false ∧ s.inner = [] := by
  cases clause with
  | declared => exact ⟨rfl, rfl⟩
  | @value e line text plain =>
    cases e with
    | call callee arguments =>
      have unknown : drawFunction? callee = none := by simpa [Expr.IsDrawing] using plain
      simp [Statement.isCallSite, unknown, Statement.inner]
    | _ => exact ⟨rfl, rfl⟩

theorem Called.inner {passed : List String} (called : Called pen s passed text) : s.inner = [] := by
  cases called <;> rfl

theorem Own.inner (own : Own pen s texts) : s.inner = [] := by
  cases own with
  | clause clause => exact clause.noSite.2
  | called _ called => exact called.inner
  | drawn _ drawn =>
    obtain ⟨called, -⟩ := drawn
    exact called.inner
  | setter | empty => rfl

theorem noSite_of_setter {name : String} (setter : name ∈ ["setRGBA", "setThickness"])
    (arguments : List Expr) (line : Nat) :
    ¬ Statement.isCallSite (.expression (.call name arguments) line) := by
  have each : ∀ name ∈ ["setRGBA", "setThickness"],
      ¬ (drawFunction? name).any fun function => !function.action.needsConstants := by decide
  exact each name setter

theorem Called.isCallSite {passed : List String} (called : Called pen s passed text) :
    s.isCallSite := by
  cases called with
  | shape known draws => simpa [Statement.isCallSite, known] using draws
  | _ => rfl

theorem Own.called_of_isCallSite (own : Own pen s texts) (site : s.isCallSite) :
    ∃ passed text, Called pen s passed text ∧ text ∈ texts := by
  cases own with
  | clause clause => simp [clause.noSite.1] at site
  | called _ called => exact ⟨_, _, called, List.mem_singleton_self _⟩
  | drawn _ drawn =>
    obtain ⟨called, -⟩ := drawn
    exact ⟨_, _, called, by simp⟩
  | setter setter => exact absurd site (noSite_of_setter setter _ _)
  | empty => cases site

theorem Own.nil_of_setter {name : String} {arguments : List Expr} {line : Nat}
    (own : Own pen (.expression (.call name arguments) line) texts)
    (setter : name ∈ ["setRGBA", "setThickness"]) : texts = [] := by
  have noSite := noSite_of_setter setter arguments line
  cases own with
  | clause clause =>
    have catalogued : ∀ name ∈ ["setRGBA", "setThickness"], (drawFunction? name).isSome := by decide
    cases clause with
    | value plain => exact absurd (catalogued name setter) plain
  | called _ called => exact absurd called.isCallSite noSite
  | drawn _ drawn =>
    obtain ⟨called, -⟩ := drawn
    exact absurd called.isCallSite noSite
  | setter => rfl

theorem Encloses.noSite {head body : List Statement} {opening closing : List String}
    (encloses : Encloses s head opening body closing) : ∀ x ∈ s :: head, ¬ x.isCallSite := by
  cases encloses with
  | @forLoop initial condition increment first test step body start line starts =>
    refine List.forall_mem_cons.mpr ⟨by simp [Statement.isCallSite], ?_⟩
    cases initial with
    | none => exact List.forall_mem_nil _
    | some s =>
      obtain ⟨noSite, simple⟩ := Clause.noSite starts
      rw [Statement.walkInitial, simple, List.forall_mem_singleton, noSite]
      decide
  | _ => exact List.forall_mem_singleton.mpr (by simp [Statement.isCallSite])

end

theorem Encloses.walk {s : Statement} {head body : List Statement} {opening closing : List String}
    (encloses : Encloses s head opening body closing) :
    s.walk = s :: head ++ Statement.walkAll body := by
  cases encloses <;>
    simp [Statement.walk, Statement.inner, Statement.walkBlock, Statement.walkOtherwise]

theorem Lowers.visited {chosen : Statement → Bool} (sites : ∀ s, chosen s → s.isCallSite)
    {depth : Nat} {before ss : List Statement} {passages : List Passage}
    (lowers : Lowers depth before ss passages) :
    List.Forall₂
      (fun visit passage => passage.source = visit.2 ∧ Own visit.1 visit.2 passage.texts)
      ((visits before (Statement.walkAll ss)).filter (chosen ·.2))
      (passages.filter (chosen ·.source)) := by
  -- Only statements without blocks are chosen: what stands around a block is passed over.
  have skipped {s : Statement} (noSite : ¬ s.isCallSite) : chosen s = false := by
    simpa using fun isChosen => noSite (sites s isChosen)
  have hidden {before head : List Statement} (noSite : ∀ x ∈ head, ¬ x.isCallSite) :
      (visits before head).filter (chosen ·.2) = [] := by
    refine List.filter_eq_nil_iff.mpr fun visit member => ?_
    have isHead : visit.2 ∈ head := by
      rw [← visits_snd before head]
      exact List.mem_map_of_mem member
    simp [skipped (noSite _ isHead)]
  induction lowers with
  | nil => exact .nil
  | @own depth before ss s texts passages own rest ih =>
    rw [Statement.walk, own.inner] at ih
    rw [Statement.walkAll, own.inner, List.singleton_append, visits]
    cases isChosen : chosen s with
    | true => simpa [isChosen] using ⟨own, ih⟩
    | false => simpa [isChosen] using ih
  | @enclosed depth before head body ss s opening closing inner passages encloses inside rest
      inIH ih =>
    have quiet := skipped (encloses.noSite s List.mem_cons_self)
    have walked : Statement.walkAll (s :: ss) =
        s :: head ++ Statement.walkAll body ++ Statement.walkAll ss := by
      rw [← encloses.walk]
      rfl
    rw [encloses.walk, ← List.append_assoc] at ih
    rw [walked, visits_append, visits_append, List.filter_append, List.filter_append,
      hidden encloses.noSite]
    simpa [quiet] using List.rel_append inIH ih
  | @branches depth before thens elses ss s condition test first second line thenPassages
      elsePassages passages form rendered insideThen insideElse rest thenIH elseIH ih =>
    have noSite : ¬ s.isCallSite := by simp [form, Statement.isCallSite]
    have walked : s.walk = [s] ++ Statement.walkAll thens ++ Statement.walkAll elses := by
      simp [form, Statement.walk, Statement.inner, Statement.walkBlock, Statement.walkOtherwise]
    have whole : Statement.walkAll (s :: ss) = s.walk ++ Statement.walkAll ss := rfl
    rw [← List.singleton_append, ← List.append_assoc] at elseIH
    rw [walked, ← List.append_assoc, ← List.append_assoc] at ih
    rw [whole, walked, visits_append, visits_append, visits_append, List.filter_append,
      List.filter_append, List.filter_append, hidden (List.forall_mem_singleton.mpr noSite)]
    simpa [skipped noSite] using
      List.rel_append thenIH (List.rel_append elseIH ih)

end DrawScript.Code
