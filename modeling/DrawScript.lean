import DrawScript.Main
import DrawScript.Proofs.Check.Scoping
import DrawScript.Proofs.Code.Lowering
import DrawScript.Proofs.Code.Rendering
import DrawScript.Proofs.Grammar.Acceptance
import DrawScript.Proofs.Check.Widening
import DrawScript.Proofs.Check.Hoisting
import DrawScript.Proofs.Check.Shadowing
import DrawScript.Proofs.Grammar.Recovery.Basic
import DrawScript.Proofs.Grammar.Recovery.Statement
import DrawScript.Proofs.Grammar.Recovery.Program
import DrawScript.Proofs.Code.Setters
import DrawScript.Proofs.Code.Drawings
import DrawScript.Proofs.Token.Coverage
import DrawScript.Proofs.Token.Layout
import DrawScript.Proofs.Grammar.Mending
import DrawScript.Proofs.Grammar.Entailment
import DrawScript.Proofs.Grammar.Composition
import DrawScript.Proofs.Grammar.Height
import DrawScript.Proofs.Check.Stack
import DrawScript.Proofs.Check.Scopes
import DrawScript.Proofs.Code.Capture
import DrawScript.Proofs.Command.Failure
import DrawScript.Proofs.Grammar.Occurrence
import DrawScript.Proofs.Grammar.Recovery.Semicolon
import DrawScript.Proofs.Grammar.Precedence
import DrawScript.Proofs.Template.Splicing
import DrawScript.Proofs.Grammar.Recovery.Truncation
import DrawScript.Proofs.Grammar.Recovery.Braces
import DrawScript.Proofs.Grammar.Recovery.Unclosed
import DrawScript.Proofs.Token.Lines
import DrawScript.Proofs.Code.Literals
import DrawScript.Proofs.Grammar.Lines.Basic
import DrawScript.Proofs.Grammar.Lines.Statement
import DrawScript.Proofs.Grammar.Lines.Program
import DrawScript.Proofs.Code.Texts
import DrawScript.Proofs.Code.Indentation
import DrawScript.Proofs.Grammar.Annotations
import DrawScript.Proofs.Code.Types
