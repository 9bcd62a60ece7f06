import DrawScript.Grammar.Statement

set_option autoImplicit false

namespace DrawScript

structure Parsed where
  program : Program
  errors : List GrammarError

namespace Grammar

def maxNesting : Nat := 100

def stepsPerToken : Nat := 8

def statements : (bound : List Token) → Parser Program
  | [] => return []
  | _ :: bound => do
      if ← atEnd then return []
      if ← tick then
        modify fun s => s.report ⟨s.line, .stepLimit⟩
        return []
      match ← outcome (attempt (statement maxNesting)) with
      | .ok (some value) => return value :: (← statements bound)
      | .ok none => statements bound
      | .error failure =>
          modify (·.report failure.error)
          return []

def parseWithin (limit : Option Nat) (tokens : List Token) : Parsed :=
  match (statements tokens).run { rest := tokens, limit := limit } with
  | .ok program s => { program := program, errors := s.reported.reverse }
  | .error _ s => { program := [], errors := s.reported.reverse }

end Grammar

def parse (tokens : List Token) : Parsed :=
  Grammar.parseWithin (some ((tokens.length + 1) * Grammar.stepsPerToken)) tokens

end DrawScript
