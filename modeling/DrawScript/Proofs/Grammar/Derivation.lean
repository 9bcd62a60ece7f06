import DrawScript.Script.Statement
import DrawScript.Token.Basic

set_option autoImplicit false

namespace DrawScript.Grammar

/-- Which tokens spell which value. -/
abbrev Spelling (α : Type) := List Token → α → Prop

inductive Identifier : Spelling String
  | name {token : Token} (named : token.kind = .identifier) : Identifier [token] token.text

inductive Separated {α : Type} (item : Spelling α) : Spelling (List α)
  | one {tokens : List Token} {value : α} (only : item tokens value) :
      Separated item tokens [value]
  | more {tokens others : List Token} {comma : Token} {value : α} {values : List α}
      (first : item tokens value) (isComma : comma.is .delimiter ",")
      (later : Separated item others values) :
      Separated item (tokens ++ comma :: others) (value :: values)

inductive Parenthesized {α : Type} (item : Spelling α) : Spelling (List α)
  | none {opening closing : Token} (opens : opening.is .delimiter "(")
      (closes : closing.is .delimiter ")") : Parenthesized item [opening, closing] []
  | some {opening closing : Token} {tokens : List Token} {values : List α}
      (opens : opening.is .delimiter "(") (items : Separated item tokens values)
      (closes : closing.is .delimiter ")") :
      Parenthesized item (opening :: tokens ++ [closing]) values

inductive Sequence {α : Type} (item : Spelling α) : Spelling (List α)
  | nil : Sequence item [] []
  | cons {tokens others : List Token} {value : α} {values : List α}
      (first : item tokens value) (later : Sequence item others values) :
      Sequence item (tokens ++ others) (value :: values)

inductive Chain (ops : List BinaryOp) (operand : Spelling Expr) : Spelling Expr
  | single {tokens : List Token} {e : Expr} (only : operand tokens e) : Chain ops operand tokens e
  | join {lefts rights : List Token} {sign : Token} {op : BinaryOp} {left right : Expr}
      (before : Chain ops operand lefts left) (member : op ∈ ops)
      (isSign : sign.is .operator op.symbol) (last : operand rights right) :
      Chain ops operand (lefts ++ sign :: rights) (.binary op left right)

def tiers : List (List BinaryOp) :=
  [[.multiply, .divide, .modulo], [.add, .subtract], [.less, .lessEq, .greater, .greaterEq],
    [.equal, .notEqual], [.and], [.or]]

def Tiered (tiers : List (List BinaryOp)) (operand : Spelling Expr) : Spelling Expr :=
  tiers.foldl (fun tighter ops => Chain ops tighter) operand

/-- Assignments group to the right; what they assign to has to be a name. -/
inductive Assignment (operand : Spelling Expr) : Spelling Expr
  | value {tokens : List Token} {e : Expr} (plain : Tiered tiers operand tokens e) :
      Assignment operand tokens e
  | assign {targets values : List Token} {sign : Token} {name : String} {e : Expr}
      (target : Tiered tiers operand targets (.identifier name)) (isSign : sign.is .assign "=")
      (value : Assignment operand values e) :
      Assignment operand (targets ++ sign :: values) (.binary .assign (.identifier name) e)

inductive OperandForm (operand expression : Spelling Expr) : Spelling Expr
  | signed {sign : Token} {tokens : List Token} {op : UnaryOp} {e : Expr}
      (isSign : sign.is .operator op.symbol) (inner : operand tokens e) :
      OperandForm operand expression (sign :: tokens) (.unary op e)
  | parenthesis {opening closing : Token} {tokens : List Token} {e : Expr}
      (opens : opening.is .delimiter "(") (inner : expression tokens e)
      (closes : closing.is .delimiter ")") :
      OperandForm operand expression (opening :: tokens ++ [closing]) e
  | call {callee : Token} {name : String} {tokens : List Token} {arguments : List Expr}
      (named : callee.is .identifier name) (items : Parenthesized expression tokens arguments) :
      OperandForm operand expression (callee :: tokens) (.call name arguments)
  | identifier {token : Token} {name : String} (named : token.is .identifier name) :
      OperandForm operand expression [token] (.identifier name)
  | number {n : Number} {line : Nat} :
      OperandForm operand expression [⟨.number, .number n, line⟩] (.number n)
  | string {contents : String} {line : Nat} :
      OperandForm operand expression [⟨.string, .string contents, line⟩] (.string contents)
  | boolean {b : Bool} {line : Nat} :
      OperandForm operand expression [⟨.boolean, .boolean b, line⟩] (.boolean b)

/-- An operand in which at most `room` operands nest, itself included. -/
def Operand : (room : Nat) → Spelling Expr
  | 0 => fun _ _ => False
  | room + 1 => OperandForm (Operand room) (Assignment (Operand room))

def Expression (room : Nat) : Spelling Expr := Assignment (Operand room)

inductive Optional (expression : Spelling Expr) : Spelling (Option Expr)
  | none : Optional expression [] none
  | some {tokens : List Token} {e : Expr} (present : expression tokens e) :
      Optional expression tokens (some e)

inductive Condition (expression : Spelling Expr) : Spelling Expr
  | parenthesis {opening closing : Token} {tokens : List Token} {e : Expr}
      (opens : opening.is .delimiter "(") (inner : expression tokens e)
      (closes : closing.is .delimiter ")") :
      Condition expression (opening :: tokens ++ [closing]) e

inductive TypeOf : List Token → Expr → Option String → Prop
  | written {colon type : Token} {e : Expr} (isColon : colon.is .delimiter ":")
      (named : type.kind = .identifier) : TypeOf [colon, type] e (some type.text)
  | int {n : Int} : TypeOf [] (.number (.int n)) (some "int")
  | float {x : Binary64} : TypeOf [] (.number (.float x)) (some "float")
  | bool {b : Bool} : TypeOf [] (.boolean b) (some "bool")
  | untyped {e : Expr} (noNumber : ∀ n, e ≠ .number n) (noBoolean : ∀ b, e ≠ .boolean b) :
      TypeOf [] e none

inductive VarDeclaration (expression : Spelling Expr) : Spelling Statement
  | declare {keyword name sign : Token} {types values : List Token} {type : Option String}
      {initial : Expr} (isVar : keyword.is .keyword "var") (named : name.kind = .identifier)
      (typed : TypeOf types initial type) (isSign : sign.is .assign "=")
      (value : expression values initial) :
      VarDeclaration expression (keyword :: name :: types ++ sign :: values)
        (.var name.text type initial keyword.line)

inductive ForInitial (expression : Spelling Expr) : Spelling (Option Statement)
  | none : ForInitial expression [] none
  | var {tokens : List Token} {s : Statement} (declared : VarDeclaration expression tokens s) :
      ForInitial expression tokens (some s)
  | expression {first : Token} {tokens : List Token} {e : Expr}
      (plain : expression (first :: tokens) e) :
      ForInitial expression (first :: tokens) (some (.expression e first.line))

inductive IfElse (expression : Spelling Expr) (block : Spelling (Block Statement)) :
    Spelling Statement
  | plain {keyword : Token} {tests thens : List Token} {test : Expr}
      {thenBlock : Block Statement} (isIf : keyword.is .keyword "if")
      (tested : Condition expression tests test) (first : block thens thenBlock) :
      IfElse expression block (keyword :: tests ++ thens) (.ifElse test thenBlock none keyword.line)
  | otherwise {keyword separator : Token} {tests thens others : List Token} {test : Expr}
      {thenBlock elseBlock : Block Statement} (isIf : keyword.is .keyword "if")
      (tested : Condition expression tests test) (first : block thens thenBlock)
      (isElse : separator.is .keyword "else") (second : block others elseBlock) :
      IfElse expression block (keyword :: tests ++ thens ++ separator :: others)
        (.ifElse test thenBlock (some elseBlock) keyword.line)
  | elseIf {keyword separator : Token} {tests thens others : List Token} {test : Expr}
      {thenBlock : Block Statement} {link : Statement} (isIf : keyword.is .keyword "if")
      (tested : Condition expression tests test) (first : block thens thenBlock)
      (isElse : separator.is .keyword "else") (second : IfElse expression block others link) :
      IfElse expression block (keyword :: tests ++ thens ++ separator :: others)
        (.ifElse test thenBlock (some ⟨[link], separator.line⟩) keyword.line)

inductive StatementForm (expression : Spelling Expr) (block : Spelling (Block Statement)) :
    Spelling Statement
  | var {tokens : List Token} {stop : Token} {s : Statement}
      (declared : VarDeclaration expression tokens s) (stops : stop.is .delimiter ";") :
      StatementForm expression block (tokens ++ [stop]) s
  | cursor {keyword name sign again stop : Token} {tokens : List Token} {arguments : List Expr}
      (isCursor : keyword.is .keyword "Cursor") (named : name.kind = .identifier)
      (isSign : sign.is .assign "=") (isAgain : again.is .keyword "Cursor")
      (items : Parenthesized expression tokens arguments) (stops : stop.is .delimiter ";") :
      StatementForm expression block (keyword :: name :: sign :: again :: tokens ++ [stop])
        (.cursor name.text arguments keyword.line)
  | ifElse {tokens : List Token} {s : Statement} (chain : IfElse expression block tokens s) :
      StatementForm expression block tokens s
  | forLoop {keyword opening stop second closing : Token}
      {initials conditions increments bodies : List Token} {initial : Option Statement}
      {condition increment : Option Expr} {body : Block Statement}
      (isFor : keyword.is .keyword "for") (opens : opening.is .delimiter "(")
      (starts : ForInitial expression initials initial) (stops : stop.is .delimiter ";")
      (tested : Optional expression conditions condition) (stopsAgain : second.is .delimiter ";")
      (stepped : Optional expression increments increment) (closes : closing.is .delimiter ")")
      (repeated : block bodies body) :
      StatementForm expression block
        (keyword :: opening :: initials ++ stop :: conditions ++ second :: increments ++
          closing :: bodies)
        (.forLoop initial condition increment body keyword.line)
  | whileLoop {keyword : Token} {tests bodies : List Token} {test : Expr} {body : Block Statement}
      (isWhile : keyword.is .keyword "while") (tested : Condition expression tests test)
      (repeated : block bodies body) :
      StatementForm expression block (keyword :: tests ++ bodies)
        (.whileLoop test body keyword.line)
  | doWhile {keyword separator stop : Token} {bodies tests : List Token} {body : Block Statement}
      {test : Expr} (isDo : keyword.is .keyword "do") (repeated : block bodies body)
      (isWhile : separator.is .keyword "while") (tested : Condition expression tests test)
      (stops : stop.is .delimiter ";") :
      StatementForm expression block (keyword :: bodies ++ separator :: tests ++ [stop])
        (.doWhile body test keyword.line)
  | function {keyword name : Token} {tokens bodies : List Token} {parameters : List String}
      {body : Block Statement} (isFunction : keyword.is .keyword "function")
      (named : name.kind = .identifier)
      (items : Parenthesized Identifier tokens parameters) (run : block bodies body) :
      StatementForm expression block (keyword :: name :: tokens ++ bodies)
        (.function name.text parameters body keyword.line)
  | returnValue {keyword stop : Token} {tokens : List Token} {value : Option Expr}
      (isReturn : keyword.is .keyword "return") (result : Optional expression tokens value)
      (stops : stop.is .delimiter ";") :
      StatementForm expression block (keyword :: tokens ++ [stop]) (.returnValue value keyword.line)
  | copy {keyword separator stop : Token} {sources destinations : List Token}
      {source destination : List Expr} (isCopy : keyword.is .keyword "copy")
      (taken : Parenthesized expression sources source) (four : source.length = 4)
      (isTo : separator.is .keyword "to")
      (put : Parenthesized expression destinations destination) (two : destination.length = 2)
      (stops : stop.is .delimiter ";") :
      StatementForm expression block (keyword :: sources ++ separator :: destinations ++ [stop])
        (.copy source destination keyword.line)
  | animate {keyword opening comma closing : Token} {firsts seconds bodies : List Token}
      {first second : Expr} {body : Block Statement} (isAnimate : keyword.is .keyword "animate")
      (opens : opening.is .delimiter "(") (left : expression firsts first)
      (isComma : comma.is .delimiter ",") (right : expression seconds second)
      (closes : closing.is .delimiter ")") (repeated : block bodies body) :
      StatementForm expression block
        (keyword :: opening :: firsts ++ comma :: seconds ++ closing :: bodies)
        (.animate first second body keyword.line)
  | method {cursor point name stop : Token} {tokens : List Token} {arguments : List Expr}
      (isCursor : cursor.kind = .identifier) (isPoint : point.is .access ".")
      (named : name.kind = .identifier) (items : Parenthesized expression tokens arguments)
      (stops : stop.is .delimiter ";") :
      StatementForm expression block (cursor :: point :: name :: tokens ++ [stop])
        (.method cursor.text name.text arguments cursor.line)
  | block {tokens : List Token} {body : Block Statement} (inner : block tokens body) :
      StatementForm expression block tokens (.block body)
  | expression {first stop : Token} {tokens : List Token} {e : Expr}
      (plain : expression (first :: tokens) e) (stops : stop.is .delimiter ";") :
      StatementForm expression block (first :: tokens ++ [stop]) (.expression e first.line)
  | empty {stop : Token} (stops : stop.is .delimiter ";") :
      StatementForm expression block [stop] (.empty stop.line)

inductive Braced (statement : Spelling Statement) : Spelling (Block Statement)
  | braces {opening closing : Token} {tokens : List Token} {statements : List Statement}
      (opens : opening.is .delimiter "\x7b") (inner : Sequence statement tokens statements)
      (closes : closing.is .delimiter "\x7d") :
      Braced statement (opening :: tokens ++ [closing]) ⟨statements, opening.line⟩

/-- A block in which at most `room` levels of blocks and operands nest, itself included. -/
def BlockWithin : (room : Nat) → Spelling (Block Statement)
  | 0 => fun _ _ => False
  | room + 1 => Braced (StatementForm (Expression room) (BlockWithin room))

def StatementWithin (room : Nat) : Spelling Statement :=
  StatementForm (Expression room) (BlockWithin room)

def Script : Spelling Program := Sequence (StatementWithin 100)

end DrawScript.Grammar
