import DrawScript.Proofs.Code.Capture
import DrawScript.Proofs.Code.Texts

set_option autoImplicit false

namespace DrawScript

namespace Code

def linesOf : List Char → List (List Char)
  | [] => []
  | c :: rest =>
      if c = '\n' then [] :: linesOf rest
      else match linesOf rest with
        | [] => [[c]]
        | line :: lines => (c :: line) :: lines

def indentation (line : List Char) : Nat := (line.takeWhile (· = ' ')).length

def content (line : List Char) : List Char := line.dropWhile (· = ' ')

/-- From this depth on, every line is indented by four spaces for each level and the walk ends at
depth 1. An opening brace counts for the lines below it, a closing one for its own line too. -/
def Indented : (depth : Nat) → List (List Char) → Prop
  | depth, [] => depth = 1
  | depth, line :: lines =>
      let here := if content line = ['\x7d'] then depth - 1 else depth
      1 ≤ here ∧ indentation line = 4 * here ∧
        Indented (if content line = ['\x7b'] then here + 1 else here) lines

/-- The first line of a statement that has a body. The end of a loop, `while (...);`, is none. -/
def isHeader (text : List Char) : Bool :=
  text = "do".toList || text = "else".toList ||
    bodyOpenings.any (·.toList.isPrefixOf text) ||
    ("while (".toList.isPrefixOf text && text.getLast? = some ')')

/-- Directly below a header there is an opening brace; all other lines are braces or end with a
semicolon. -/
def HeadersOpen : List (List Char) → Prop
  | [] => True
  | line :: lines =>
      (if isHeader (content line) then lines.head?.map content = some ['\x7b']
        else content line = ['\x7b'] ∨ content line = ['\x7d'] ∨
          (content line).getLast? = some ';') ∧
        HeadersOpen lines

theorem ends_append {back : String} {c : Char} (ends : back.toList.getLast? = some c)
    (front : String) : (front ++ back).toList.getLast? = some c := by
  rw [String.toList_append, List.getLast?_append, ends, Option.some_or]

-- A line that is a whole statement.
structure Terminated (text : String) : Prop extends Solid text where
  ends : text.toList.getLast? = some ';'
  bodiless : Bodiless text

theorem Terminated.notHeader {text : String} (terminated : Terminated text) :
    isHeader text.toList = false := by
  have other (word : String) (ends : word.toList.getLast? ≠ some ';') :
      text.toList ≠ word.toList := by
    intro same
    exact ends (same ▸ terminated.ends)
  have noDo := other "do" (by decide)
  have noElse := other "else" (by decide)
  have noBody : bodyOpenings.any (·.toList.isPrefixOf text.toList) = false := by
    rw [List.any_eq_false]
    intro opening known
    rw [List.isPrefixOf_iff_prefix]
    exact terminated.bodiless opening known
  simp only [isHeader, noDo, noElse, noBody, terminated.ends]
  simp

theorem Bodiless.of_start {start : String} {c : Char} (member : c ∈ firstWord start.toList)
    (other : c ∉ ['i', 'f', 'o', 'r']) (rest : String) : Bodiless (start ++ rest) := by
  refine .of_letter ?_ other
  rw [String.toList_append]
  exact mem_firstWord_append member _

theorem isHeader_body {opening : String} (known : opening ∈ bodyOpenings) (inside : String) :
    isHeader (opening ++ inside).toList := by
  have starts : opening.toList.isPrefixOf (opening ++ inside).toList := by
    rw [List.isPrefixOf_iff_prefix, String.toList_append]
    exact List.prefix_append _ _
  have one : bodyOpenings.any (·.toList.isPrefixOf (opening ++ inside).toList) :=
    List.any_eq_true.mpr ⟨opening, known, starts⟩
  simp only [isHeader, one]
  simp

theorem isHeader_while (test : String) : isHeader ("while (" ++ test ++ ")").toList := by
  have starts : "while (".toList.isPrefixOf ("while (" ++ test ++ ")").toList := by
    rw [List.isPrefixOf_iff_prefix, String.append_assoc]
    exact ⟨(test ++ ")").toList, String.toList_append.symm⟩
  have ends := ends_append (by decide : ")".toList.getLast? = some ')') ("while (" ++ test)
  simp only [isHeader, starts, ends]
  simp

theorem header_of_opening {opening test : String} (known : opening ∈ "while (" :: bodyOpenings)
    (oneLine : '\n' ∉ test.toList) :
    isHeader (opening ++ test ++ ")").toList ∧ Solid (opening ++ test ++ ")") := by
  have solids : ∀ opening ∈ "while (" :: bodyOpenings, Solid opening := by decide
  refine ⟨?_, ((solids opening known).append oneLine).append (by decide)⟩
  rcases List.mem_cons.mp known with rfl | isBody
  next => exact isHeader_while test
  next =>
    rw [String.append_assoc]
    exact isHeader_body isBody _

structure Line where
  depth : Nat
  text : String

def Passage.lines (passage : Passage) : List Line := passage.texts.map (⟨passage.depth, ·⟩)

/-- Lines at this depth, with blocks one deeper; below a header a block begins. -/
inductive Nested : (depth : Nat) → List Line → Prop
  | nil {depth : Nat} : Nested depth []
  | plain {depth : Nat} {text : String} {lines : List Line} (terminated : Terminated text)
      (rest : Nested depth lines) : Nested depth (⟨depth, text⟩ :: lines)
  | block {depth : Nat} {inner lines : List Line} (inside : Nested (depth + 1) inner)
      (rest : Nested depth lines) :
      Nested depth (⟨depth, "\x7b"⟩ :: inner ++ ⟨depth, "\x7d"⟩ :: lines)
  | headed {depth : Nat} {text : String} {lines : List Line} (header : isHeader text.toList)
      (solid : Solid text) (body : Nested depth (⟨depth, "\x7b"⟩ :: lines)) :
      Nested depth (⟨depth, text⟩ :: ⟨depth, "\x7b"⟩ :: lines)

section Statements

open Catalogue

theorem call_terminated {routine : String} {arguments : List String} (unbroken : Unbroken routine)
    (oneLine : ∀ text ∈ arguments, '\n' ∉ text.toList) :
    Terminated (routine ++ "(" ++ ", ".intercalate arguments ++ ");") where
  toSolid := ((unbroken.solid.append (by decide)).append
    (newline_notMem_commaSeparated oneLine)).append (by decide)
  ends := ends_append (by decide) _
  bodiless := by
    rw [String.append_assoc]
    refine .of_start ?_ (by decide : '(' ∉ ['i', 'f', 'o', 'r']) _
    rw [String.toList_append, firstWord_append unbroken.noBlank]
    exact List.mem_append_right _ (by decide)

theorem newline_notMem_getD {texts : List String} (oneLine : ∀ text ∈ texts, '\n' ∉ text.toList)
    (i : Nat) : '\n' ∉ (texts.getD i "0").toList := by
  rw [List.getD_eq_getElem?_getD]
  cases found : texts[i]? with
  | none => decide
  | some text => exact oneLine text (List.mem_of_getElem? found)

theorem newline_notMem_toString (n : Int) : '\n' ∉ (toString n).toList :=
  (unbroken_toString n).solid.oneLine

variable {s : Statement} {pen : Pen} {passed : List String} {text : String}

theorem Called.passed_oneLine (called : Called pen s passed text) (worded : s.Worded) :
    ∀ text ∈ passed, '\n' ∉ text.toList := by
  have rendered {line : Nat} {arguments : List Expr} (worded : ∀ e ∈ arguments, e.AllWorded)
      (found : renderAll line arguments = .ok passed) : ∀ text ∈ passed, '\n' ∉ text.toList :=
    fun text member => (renderAll_solid line arguments worded passed found text member).oneLine
  cases called with
  | shape _ _ found => exact rendered (Expr.allWorded_call.mp worded).2 found
  | draw _ _ found | change _ _ found => exact rendered worded.2 found
  | construct found => exact rendered worded.2 found
  | recolor _ _ folded =>
    rw [folded]
    simp only [List.forall_mem_cons]
    exact ⟨newline_notMem_toString _, newline_notMem_toString _, newline_notMem_toString _,
      newline_notMem_toString _, List.forall_mem_nil _⟩

theorem Called.terminated (called : Called pen s passed text) (worded : s.Worded) :
    Terminated text := by
  have oneLine := called.passed_oneLine worded
  have routines {name : String} {method : CursorMethod} (known : cursorMethod? name = some method) :
      Unbroken method.routine := by
    have each : ∀ method ∈ cursorMethods, Unbroken method.routine := by decide
    exact each method (List.mem_of_find?_eq_some known)
  cases called with
  | @shape callee =>
    refine call_terminated (Expr.allWorded_call.mp worded).1.unbroken ?_
    have thick : ∀ text ∈ (if callee = "drawSegment" then [toString pen.thickness] else []),
        '\n' ∉ text.toList := by
      split
      next => exact List.forall_mem_singleton.mpr (newline_notMem_toString _)
      next => exact List.forall_mem_nil _
    simp only [List.cons_append, List.forall_mem_cons, List.forall_mem_append]
    exact ⟨by decide, ⟨oneLine, thick⟩, newline_notMem_toString _, newline_notMem_toString _,
      newline_notMem_toString _, newline_notMem_toString _, by decide, List.forall_mem_nil _⟩
  | draw known =>
    refine call_terminated (routines known) ?_
    simp only [List.cons_append, List.forall_mem_cons, List.forall_mem_append]
    exact ⟨worded.1.solid.oneLine, by decide, oneLine, by decide, List.forall_mem_nil _⟩
  | recolor known | change known =>
    refine call_terminated (routines known) (List.forall_mem_cons.mpr ?_)
    exact ⟨worded.1.solid.oneLine, oneLine⟩
  | construct =>
    have front : Solid "Cursor* " := by decide
    have listed := newline_notMem_commaSeparated oneLine
    refine ⟨?_, ends_append (by decide) _, ?_⟩
    next =>
      exact (((((front.append worded.1.solid.oneLine).append (by decide)).append
        (by decide)).append (by decide)).append listed).append (by decide)
    next =>
      simp only [String.append_assoc]
      exact .of_start (by decide : 'C' ∈ firstWord "Cursor* ".toList) (by decide) _

theorem Clause.terminated (clause : Clause s text) (worded : s.Worded) :
    Solid text ∧ Terminated (text ++ ";") := by
  have ended {text : String} (solid : Solid text) (bodiless : Bodiless (text ++ ";")) :
      Solid text ∧ Terminated (text ++ ";") :=
    ⟨solid, solid.append (by decide), ends_append (by decide) text, bodiless⟩
  cases clause with
  | value _ found =>
    obtain ⟨solid, bodiless⟩ := renderBare_solid _ worded _ found
    exact ended solid bodiless
  | @declared name type initial line value found =>
    obtain ⟨isName, types, inside⟩ := worded
    obtain ⟨solid, -⟩ := renderBare_solid _ inside _ found
    have typed : Unbroken (type.elim (typeOf initial) typeNamed) := by
      cases type with
      | none => exact unbroken_typeOf initial
      | some written => exact unbroken_typeNamed (types written rfl)
    refine ended ?_ ?_
    next =>
      exact (((typed.solid.append (by decide)).append isName.solid.oneLine).append
        (by decide)).append solid.oneLine
    next =>
      -- Behind the type there is a blank and the name.
      obtain ⟨c, rest, spelled, starts, -⟩ := isName.word
      have gap : c ≠ '(' := by
        rintro rfl
        exact absurd starts (by decide)
      simp only [String.append_assoc]
      rw [← String.append_assoc]
      exact .of_gap typed.noBlank (by simp [spelled]) gap

theorem anchor_oneLine (worded : s.Worded) (oneLine : ∀ text ∈ passed, '\n' ∉ text.toList) :
    '\n' ∉ (anchor s passed).1.toList ∧ '\n' ∉ (anchor s passed).2.toList := by
  have place := newline_notMem_getD oneLine
  cases s with
  | method cursor name arguments line =>
    have field {text : String} (fieldLine : '\n' ∉ text.toList) : '\n' ∉ (cursor ++ text).toList :=
      notMem_append.mpr ⟨worded.1.solid.oneLine, fieldLine⟩
    exact ⟨field (by decide), field (by decide)⟩
  | _ => exact ⟨place 0, place 1⟩

theorem Drawn.terminated {texts : List String} (drawn : Drawn pen s texts) (worded : s.Worded) :
    ∀ text ∈ texts, Terminated text := by
  obtain @⟨passed, text, x, y, called, place⟩ := drawn
  obtain ⟨xLine, yLine⟩ := anchor_oneLine worded (called.passed_oneLine worded)
  rw [place] at xLine yLine
  simp only [List.forall_mem_cons]
  refine ⟨⟨by decide, by decide, ?_⟩, called.terminated worded, ⟨?_, ?_, ?_⟩,
    ⟨by decide, by decide, ?_⟩, List.forall_mem_nil _⟩
  next => exact .of_letter (by decide : '(' ∈ _) (by decide)
  next =>
    have opening : Solid "fprintf(file, \"%d %d\\n\", (int)(" := by decide
    exact (((opening.append xLine).append (by decide)).append yLine).append (by decide)
  next => exact ends_append (by decide) _
  next =>
    simp only [String.append_assoc]
    exact .of_start (by decide : '(' ∈ _) (by decide) _
  next => exact .of_letter (by decide : '_' ∈ _) (by decide)

theorem Own.terminated {texts : List String} (own : Own pen s texts) (worded : s.Worded) :
    ∀ text ∈ texts, Terminated text := by
  cases own with
  | clause clause => exact List.forall_mem_singleton.mpr (clause.terminated worded).2
  | called _ called => exact List.forall_mem_singleton.mpr (called.terminated worded)
  | drawn _ drawn => exact drawn.terminated worded
  | setter | empty => exact List.forall_mem_nil _

theorem tested_oneLine {line : Nat} {condition : Expr} {test : String}
    (worded : condition.AllWorded) (found : renderBare line condition = .ok test) :
    '\n' ∉ test.toList :=
  (renderBare_solid line worded test found).1.oneLine

theorem Starts.oneLine {initial : Option Statement} {first : String}
    (starts : Starts initial first) (worded : ∀ x ∈ Statement.walkInitial initial, x.Worded) :
    '\n' ∉ first.toList := by
  cases initial with
  | none =>
    cases starts
    decide
  | some s => exact (Clause.terminated starts (worded s List.mem_cons_self)).1.oneLine

theorem Encloses.nested {head body : List Statement} {opening closing : List String}
    (encloses : Encloses s head opening body closing) (worded : ∀ x ∈ s :: head, x.Worded)
    {depth : Nat} {inner lines : List Line} (inside : Nested (depth + 1) inner)
    (rest : Nested depth lines) :
    Nested depth
      (opening.map (Line.mk depth) ++ inner ++ (closing.map (Line.mk depth) ++ lines)) := by
  obtain ⟨own, heads⟩ := List.forall_mem_cons.mp worded
  have braces {rest : List Line} (later : Nested depth rest) :
      Nested depth (⟨depth, "\x7b"⟩ :: (inner ++ ⟨depth, "\x7d"⟩ :: rest)) := .block inside later
  cases encloses with
  | block => exact braces rest
  | ifThen found =>
    obtain ⟨header, solid⟩ :=
      header_of_opening (by decide : "if (" ∈ _) (tested_oneLine own found)
    exact .headed header solid (braces rest)
  | whileLoop found =>
    obtain ⟨header, solid⟩ :=
      header_of_opening (by decide : "while (" ∈ _) (tested_oneLine own found)
    exact .headed header solid (braces rest)
  | doWhile found =>
    have opens : Solid "while (" := by decide
    have last : Terminated ("while (" ++ _ ++ ");") :=
      ⟨(opens.append (tested_oneLine own found)).append (by decide), ends_append (by decide) _, by
        rw [String.append_assoc]
        exact .of_start (by decide : 'w' ∈ _) (by decide) _⟩
    exact .headed (by decide) (by decide) (braces (.plain last rest))
  | @forLoop initial condition increment first test step body start line starts tests steps =>
    have inner : '\n' ∉ (first ++ "; " ++ test ++ "; " ++ step).toList := by
      simp only [notMem_append]
      exact ⟨⟨⟨⟨starts.oneLine heads, by decide⟩,
        renderOptional_oneLine line own.1 test tests⟩, by decide⟩,
        renderOptional_oneLine line own.2 step steps⟩
    obtain ⟨header, solid⟩ := header_of_opening (by decide : "for (" ∈ _) inner
    simp only [← String.append_assoc] at header solid
    exact .headed header solid (braces rest)

theorem Nested.plains {depth : Nat} {texts : List String} {lines : List Line}
    (terminated : ∀ text ∈ texts, Terminated text) (rest : Nested depth lines) :
    Nested depth (texts.map (Line.mk depth) ++ lines) := by
  induction texts with
  | nil => exact rest
  | cons text texts ih =>
    obtain ⟨first, later⟩ := List.forall_mem_cons.mp terminated
    exact .plain first (ih later)

theorem Lowers.nested {depth : Nat} {before ss : List Statement} {passages : List Passage}
    (lowers : Lowers depth before ss passages) :
    (∀ x ∈ Statement.walkAll ss, x.Worded) → Nested depth (passages.flatMap Passage.lines) := by
  induction lowers with
  | nil => exact fun _ => .nil
  | own own _ ih =>
    intro worded
    obtain ⟨here, later⟩ := List.forall_mem_append.mp worded
    exact .plains (own.terminated (here _ List.mem_cons_self)) (ih later)
  | @enclosed depth before head body ss s opening closing inner passages encloses _ _ inIH ih =>
    intro worded
    obtain ⟨here, later⟩ : (∀ x ∈ s.walk, x.Worded) ∧ ∀ x ∈ Statement.walkAll ss, x.Worded :=
      List.forall_mem_append.mp worded
    rw [encloses.walk] at here
    obtain ⟨heads, bodies⟩ := List.forall_mem_append.mp here
    simpa [Passage.lines] using encloses.nested heads (inIH bodies) (ih later)
  | @branches depth before thens elses ss s condition test first second line thenPassages
      elsePassages passages form found _ _ _ thenIH elseIH ih =>
    intro worded
    subst form
    obtain ⟨here, later⟩ := List.forall_mem_append.mp worded
    obtain ⟨own, inside⟩ := List.forall_mem_cons.mp here
    obtain ⟨thenWorded, elseWorded⟩ := List.forall_mem_append.mp inside
    obtain ⟨header, solid⟩ :=
      header_of_opening (by decide : "if (" ∈ _) (tested_oneLine own found)
    have whole := Nested.headed header solid (.block (thenIH thenWorded)
      (.headed (by decide : isHeader "else".toList) (by decide)
        (.block (elseIH elseWorded) (ih later))))
    simpa [Passage.lines] using whole

end Statements

def Line.characters (l : Line) : List Char :=
  List.replicate (4 * l.depth) ' ' ++ l.text.toList

theorem linesOf_append {line : List Char} (oneLine : '\n' ∉ line) (rest : List Char) :
    linesOf (line ++ '\n' :: rest) = line :: linesOf rest := by
  induction line with
  | nil => simp [linesOf]
  | cons c line ih =>
    rw [List.mem_cons, not_or] at oneLine
    simp [linesOf, ih oneLine.2, Ne.symm oneLine.1]

theorem written_characters (passages : List Passage) :
    (written passages).toList =
      (passages.flatMap Passage.lines).flatMap fun l => l.characters ++ ['\n'] := by
  induction passages with
  | nil => rfl
  | cons passage passages ih =>
    have own (texts : List String) :
        (Passage.text ⟨passage.source, passage.depth, texts⟩).toList =
          (texts.map (Line.mk passage.depth)).flatMap fun l => l.characters ++ ['\n'] := by
      induction texts with
      | nil => rfl
      | cons text texts ih => simp [ih, indented, Line.characters]
    rw [written_cons, String.toList_append, ih, List.flatMap_cons, List.flatMap_append]
    exact congrArg (· ++ _) (own passage.texts)

theorem linesOf_characters {lines : List Line} (solid : ∀ l ∈ lines, Solid l.text) :
    linesOf (lines.flatMap fun l => l.characters ++ ['\n']) = lines.map Line.characters := by
  induction lines with
  | nil => rfl
  | cons l lines ih =>
    obtain ⟨first, later⟩ := List.forall_mem_cons.mp solid
    have oneLine : '\n' ∉ l.characters := by
      rw [Line.characters, List.mem_append, not_or]
      exact ⟨fun member => absurd (List.eq_of_mem_replicate member) (by decide), first.oneLine⟩
    rw [List.flatMap_cons, List.append_assoc, List.singleton_append, linesOf_append oneLine,
      ih later, List.map_cons]

section

variable {depth : Nat} {text : String}

theorem content_characters (solid : Solid text) :
    content (Line.characters ⟨depth, text⟩) = text.toList := by
  have starts := solid.starts
  rw [content, Line.characters, List.dropWhile_append_of_pos (by simp)]
  cases front : text.toList with
  | nil => simp [front] at starts
  | cons c rest =>
    have seen : c ≠ ' ' := by simpa [front] using starts
    simp [seen]

theorem indentation_characters (solid : Solid text) :
    indentation (Line.characters ⟨depth, text⟩) = 4 * depth := by
  have starts := solid.starts
  rw [indentation, Line.characters, List.takeWhile_append_of_pos (by simp)]
  cases front : text.toList with
  | nil => simp [front] at starts
  | cons c rest =>
    have seen : c ≠ ' ' := by simpa [front] using starts
    simp [seen]

variable {lines : List (List Char)}

theorem Indented.plain (solid : Solid text) (noOpening : text.toList ≠ ['\x7b'])
    (noClosing : text.toList ≠ ['\x7d']) (positive : 1 ≤ depth) (after : Indented depth lines) :
    Indented depth (Line.characters ⟨depth, text⟩ :: lines) := by
  simpa [Indented, content_characters solid, indentation_characters solid, noOpening, noClosing]
    using ⟨positive, after⟩

theorem Indented.opening (positive : 1 ≤ depth) (after : Indented (depth + 1) lines) :
    Indented depth (Line.characters ⟨depth, "\x7b"⟩ :: lines) := by
  have solid : Solid "\x7b" := by decide
  simpa [Indented, content_characters solid, indentation_characters solid]
    using ⟨positive, after⟩

theorem Indented.closing (positive : 1 ≤ depth) (after : Indented depth lines) :
    Indented (depth + 1) (Line.characters ⟨depth, "\x7d"⟩ :: lines) := by
  have solid : Solid "\x7d" := by decide
  simpa [Indented, content_characters solid, indentation_characters solid]
    using ⟨positive, after⟩

theorem HeadersOpen.brace (known : text ∈ ["\x7b", "\x7d"]) (after : HeadersOpen lines) :
    HeadersOpen (Line.characters ⟨depth, text⟩ :: lines) := by
  have braces : ∀ text ∈ ["\x7b", "\x7d"], Solid text ∧ isHeader text.toList = false ∧
      (text.toList = ['\x7b'] ∨ text.toList = ['\x7d']) := by decide
  obtain ⟨solid, noHeader, brace⟩ := braces text known
  refine ⟨?_, after⟩
  rw [content_characters solid, noHeader]
  exact brace.imp_right .inl

end

namespace Nested

variable {depth : Nat} {lines : List Line}

theorem solid (nested : Nested depth lines) : ∀ l ∈ lines, Solid l.text := by
  have braces : Solid "\x7b" ∧ Solid "\x7d" := by decide
  induction nested with
  | nil => exact fun l member => absurd member List.not_mem_nil
  | plain terminated _ ih => exact List.forall_mem_cons.mpr ⟨terminated.toSolid, ih⟩
  | block _ _ inside ih =>
    simp only [List.cons_append, List.forall_mem_cons, List.forall_mem_append]
    exact ⟨braces.1, inside, braces.2, ih⟩
  | headed _ solid _ ih => exact List.forall_mem_cons.mpr ⟨solid, ih⟩

theorem indented (nested : Nested depth lines) (positive : 1 ≤ depth) {rest : List (List Char)}
    (after : Indented depth rest) : Indented depth (lines.map Line.characters ++ rest) := by
  induction nested generalizing rest with
  | nil => exact after
  | plain terminated _ ih =>
    have ends := terminated.ends
    refine .plain terminated.toSolid ?_ ?_ positive (ih positive after) <;>
    next =>
      intro same
      simp [same] at ends
  -- The walk through a block comes back to the depth that it started from.
  | block _ _ inside ih =>
    have closed := Indented.closing positive (ih positive after)
    rw [List.cons_append, List.map_cons, List.map_append, List.cons_append, List.append_assoc]
    exact .opening positive (inside (Nat.le_add_left 1 _) closed)
  | headed header solid _ ih =>
    refine .plain solid ?_ ?_ positive (ih positive after) <;>
    next =>
      intro same
      rw [same] at header
      exact absurd header (by decide)

theorem headersOpen (nested : Nested depth lines) {rest : List (List Char)}
    (after : HeadersOpen rest) : HeadersOpen (lines.map Line.characters ++ rest) := by
  induction nested generalizing rest with
  | nil => exact after
  | plain terminated _ ih =>
    -- A semicolon ends no header.
    refine ⟨?_, ih after⟩
    rw [content_characters terminated.toSolid, terminated.notHeader]
    exact .inr (.inr terminated.ends)
  | @block depth inner lines _ _ inside ih =>
    have closed : HeadersOpen (Line.characters ⟨depth, "\x7d"⟩ ::
        (lines.map Line.characters ++ rest)) := .brace (by decide) (ih after)
    rw [List.cons_append, List.map_cons, List.map_append, List.cons_append, List.append_assoc]
    exact .brace (by decide) (inside closed)
  | headed header solid _ ih =>
    refine ⟨?_, ih after⟩
    rw [content_characters solid, header]
    exact congrArg some (content_characters (by decide))

end Nested

theorem Lowers.text {ss : List Statement} {passages : List Passage}
    (lowers : Lowers 1 [] ss passages) (worded : ∀ x ∈ Statement.walkAll ss, x.Worded) :
    Indented 1 (linesOf (written passages).toList) ∧
      HeadersOpen (linesOf (written passages).toList) := by
  have nested := lowers.nested worded
  rw [written_characters, linesOf_characters nested.solid, ← List.append_nil (List.map _ _)]
  exact ⟨nested.indented (Nat.le_refl 1) rfl, nested.headersOpen trivial⟩

end Code

theorem parse_of_parseScript {script : String} {p : Program}
    (parsed : parseScript script = .ok p) : parse (tokenize script).tokens = ⟨p, []⟩ := by
  simp only [parseScript] at parsed
  split at parsed
  next => cases parsed
  next =>
    split at parsed
    next => cases parsed
    next accepted =>
      cases parsed
      have clean := not_not.mp accepted
      rw [← clean]

theorem worded_of_checkScript {script : String} {p : Program}
    (checked : checkScript script = .ok p) : ∀ x ∈ p.walk, x.Worded := by
  have parsed : parse (tokenize script).tokens = ⟨p, []⟩ := by
    cases found : parseScript script with
    | error error => simp [checkScript, found, bind, Except.bind] at checked
    | ok q =>
      simp only [checkScript, found, bind, Except.bind] at checked
      split at checked
      next => cases checked
      next =>
        cases checked
        exact parse_of_parseScript found
  have spelled : ∀ t ∈ (tokenize script).tokens, t.Spelled :=
    fun t member => spells_of_mem_tokens member
  have worded := Grammar.parse_worded spelled
  rwa [parsed] at worded

open Code

theorem compileScript_indented (target : Target) (surface : Surface) (script : String)
    (code : GeneratedCode) (compiled : compileScript target surface script = .ok code) :
    ∀ text ∈ [code.declarations, code.operations],
      Indented 1 (linesOf text.toList) ∧ HeadersOpen (linesOf text.toList) := by
  obtain ⟨p, checked, -, generated⟩ := checked_of_compile compiled
  obtain ⟨declared, operated, shown, shown', lowers, lowers'⟩ := p.generate_lowers generated
  obtain ⟨first, second⟩ := forall_walk_partition.mp (worded_of_checkScript checked)
  rw [shown, shown']
  simp only [List.forall_mem_cons]
  exact ⟨lowers.text first, lowers'.text second, List.forall_mem_nil _⟩

-- The string looks like a brace, and the `else` is in the block of the nearest `if`.
theorem compileScript_indented_else :
    ∃ code : GeneratedCode, code =
        { declarations := "    char* s = \"\x7b\";\n"
          operations := "    if (1)\n    \x7b\n" ++
            "        if (2)\n        \x7b\n        \x7d\n" ++
            "        else\n        \x7b\n" ++
            "            do\n            \x7b\n            \x7d\n" ++
            "            while (3);\n" ++
            "        \x7d\n    \x7d\n"
          header := Surface.header {} } ∧
      compileScript .c {} ("var s = \"\x7b\"; if (1) \x7b if (2) \x7b \x7d else \x7b " ++
        "do \x7b \x7d while (3); \x7d \x7d") = .ok code ∧
      Indented 1 (linesOf code.declarations.toList) ∧
      Indented 1 (linesOf code.operations.toList) ∧
      HeadersOpen (linesOf code.operations.toList) := by
  refine ⟨_, rfl, ?compiled, (compileScript_indented _ _ _ _ ?compiled _ List.mem_cons_self).1,
    compileScript_indented _ _ _ _ ?compiled _ (List.mem_cons_of_mem _ List.mem_cons_self)⟩
  decide +kernel

end DrawScript
