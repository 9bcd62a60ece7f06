import DrawScript.Grammar.Error
import DrawScript.Token.Basic

set_option autoImplicit false

namespace DrawScript.Grammar

/-- What is left to read. The line of the token taken last is `previous`, 1 before any; `position`
counts the tokens taken, `steps` the statements tried; `reported` has the latest error first. -/
structure State where
  rest : List Token
  previous : Nat := 1
  position : Nat := 0
  steps : Nat := 0
  limit : Option Nat
  reported : List GrammarError := []

/-- After a rejection reading goes on behind the statement; once halted nothing more is read. -/
inductive Failure where
  | rejected (error : GrammarError)
  | halted (error : GrammarError)

def Failure.error : Failure → GrammarError
  | .rejected error | .halted error => error

abbrev Parser := EStateM Failure State

namespace State

def line (s : State) : Nat :=
  match s.rest with
  | token :: _ => token.line
  | [] => s.previous

def next (s : State) : State :=
  match s.rest with
  | token :: rest =>
      { s with rest := rest, previous := token.line, position := s.position + 1 }
  | [] => s

def skip (s : State) : Nat → State
  | 0 => s
  | n + 1 => s.next.skip n

def report (s : State) (error : GrammarError) : State :=
  { s with reported := error :: s.reported }

def sees (s : State) (kind : Token.Kind) (text : String) : Bool :=
  s.rest.head?.any (·.is kind text)

end State

def fail {α : Type} (line : Nat) (cause : Cause) : Parser α :=
  throw (.rejected ⟨line, cause⟩)

@[simp] theorem run_fail {α : Type} (line : Nat) (cause : Cause) (s : State) :
    (fail line cause : Parser α).run s = .error (.rejected ⟨line, cause⟩) s := rfl

def halt {α : Type} (line : Nat) (cause : Cause) : Parser α :=
  throw (.halted ⟨line, cause⟩)

@[simp] theorem run_halt {α : Type} (line : Nat) (cause : Cause) (s : State) :
    (halt line cause : Parser α).run s = .error (.halted ⟨line, cause⟩) s := rfl

def advance : Parser Unit := modify State.next

@[simp] theorem run_advance (s : State) : advance.run s = .ok () s.next := rfl

def currentLine : Parser Nat := return (← get).line

@[simp] theorem run_currentLine (s : State) : currentLine.run s = .ok s.line s := rfl

def atEnd : Parser Bool := return (← get).rest.isEmpty

@[simp] theorem run_atEnd (s : State) : atEnd.run s = .ok s.rest.isEmpty s := rfl

def sees (kind : Token.Kind) (text : String) : Parser Bool := return (← get).sees kind text

@[simp] theorem run_sees (kind : Token.Kind) (text : String) (s : State) :
    (sees kind text).run s = .ok (s.sees kind text) s := rfl

def takes (kind : Token.Kind) (text : String) : Parser Bool := do
  if ← sees kind text then
    advance
    return true
  else return false

@[simp] theorem run_takes (kind : Token.Kind) (text : String) (s : State) :
    (takes kind text).run s = if s.sees kind text then .ok true s.next else .ok false s := by
  rw [takes, EStateM.run_bind, run_sees]
  cases s.sees kind text <;> rfl

def expect (kind : Token.Kind) (text : String) : Parser Nat := do
  let s ← get
  match s.rest with
  | token :: _ =>
      if token.is kind text then
        advance
        return token.line
      else fail token.line (.expectedText text (some token.text))
  | [] => fail s.previous (.expectedText text none)

def expectName (place : NamePlace) : Parser String := do
  let s ← get
  match s.rest with
  | token :: _ =>
      if token.kind = .identifier then
        advance
        return token.text
      else fail token.line (.expectedName place (some token.text))
  | [] => fail s.previous (.expectedName place none)

/-- A missing semicolon is reported on the line of the token that it should follow. -/
def expectSemicolon (closing : Closing) : Parser Unit := do
  unless ← takes .delimiter ";" do
    fail (← get).previous (.missingSemicolon closing)

/-- One or more items with commas between them. The tokens left at the start bound their number. -/
def separated {α : Type} (item : Parser α) : (bound : List Token) → Parser (List α)
  | [] => return [← item]
  | _ :: bound => do
      let first ← item
      if ← takes .delimiter "," then return first :: (← separated item bound)
      else return [first]

def listed {α : Type} (item : Parser α) : Parser (List α) := do
  if ← sees .delimiter ")" then return [] else separated item (← get).rest

def parenthesized {α : Type} (item : Parser α) : Parser (List α) := do
  let _ ← expect .delimiter "("
  let items ← listed item
  let _ ← expect .delimiter ")"
  return items

def tick : Parser Bool := do
  modify fun s => { s with steps := s.steps + 1 }
  let s ← get
  return s.limit.any (· < s.steps)

@[simp] theorem run_tick (s : State) :
    tick.run s = .ok (s.limit.any (· < s.steps + 1)) { s with steps := s.steps + 1 } := rfl

def outcome {α : Type} (parser : Parser α) : Parser (Except Failure α) := fun s =>
  match parser s with
  | .ok value s => .ok (.ok value) s
  | .error failure s => .ok (.error failure) s

@[simp] theorem run_outcome {α : Type} (parser : Parser α) (s : State) :
    (outcome parser).run s = match parser.run s with
      | .ok value t => .ok (.ok value) t
      | .error failure t => .ok (.error failure) t := rfl

def statementKeywords : List String :=
  ["var", "Cursor", "function", "if", "for", "while", "do", "return", "copy", "animate"]

def startsStatement (token : Token) : Bool := statementKeywords.any (token.is .keyword ·)

/-- How many tokens to drop after a rejection: through the next semicolon, or up to a closing brace
or, once some token is gone, up to the start of a statement. -/
def dropCount (moved : Bool) : List Token → Nat
  | [] => 0
  | token :: rest =>
      if token.is .delimiter ";" then 1
      else if token.is .delimiter "\x7d" then 0
      else if moved && startsStatement token then 0
      else dropCount true rest + 1

/-- Goes to where the next statement may start, always past `start`. -/
def State.resume (s : State) (start : Nat) : State :=
  let count := dropCount (start < s.position) s.rest
  if s.position + count = start then s.next else s.skip count

/-- One item, or none when it is rejected; then its error is reported and the rest of it dropped. -/
def attempt {α : Type} (item : Parser α) : Parser (Option α) := do
  let start := (← get).position
  match ← outcome item with
  | .ok value => return some value
  | .error (.rejected error) =>
      modify fun s => (s.report error).resume start
      return none
  | .error (.halted error) => throw (.halted error)

theorem run_attempt {α : Type} (item : Parser α) (s : State) :
    (attempt item).run s = match item.run s with
      | .ok value t => .ok (some value) t
      | .error (.rejected error) t => .ok none ((t.report error).resume s.position)
      | .error (.halted error) t => .error (.halted error) t := by
  rw [attempt, EStateM.run_bind, EStateM.run_get]
  simp only [EStateM.run_bind, run_outcome]
  cases item.run s with
  | ok value t => rfl
  | error failure t => cases failure <;> rfl

end DrawScript.Grammar
