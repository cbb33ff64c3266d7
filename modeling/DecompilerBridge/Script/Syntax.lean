import DecompilerBridge.Number.Basic
import DecompilerBridge.Text.Units

/-!
# Syntax of scripts

The script language: expressions, statements and files, the names that a piece of script declares,
and the faults that keep a file from running at all.
-/

set_option autoImplicit false

namespace DecompilerBridge.Script

open Text (Units)

/-- An expression. -/
inductive Expr where
  | this
  | null
  | bool (b : Bool)
  | number (n : Number)
  | bigint (n : Int)
  | text (s : Units)
  | object (properties : List (String × Expr))
  | list (items : List Expr)
  /-- A function that does nothing. -/
  | emptyFunction
  /-- An arrow function that returns zero. -/
  | arrowFunction
  /-- An object whose conversion to text evaluates `e`, and then returns or throws it. -/
  | stringer (throws : Bool) (e : Expr)
  | read (name : String)
  | typeOf (e : Expr)
  /-- A text followed by operands. -/
  | concat (parts : List Expr)
  | strictEq (a b : Expr)
  /-- A member under a computed key. -/
  | property (e key : Expr)
  /-- A member under a written name. -/
  | member (e : Expr) (name : String)
  | instanceOf (e cls : Expr)
  | call (callee : Expr) (args : List Expr)
  | construct (callee : Expr) (args : List Expr)

namespace Expr

/-- A text constant. -/
def ofString (s : String) : Expr := .text (Units.ofString s)

/-- A member reached from an expression by a path of written names. -/
def path (e : Expr) (names : List String) : Expr := names.foldl .member e

end Expr

/-- A statement. -/
inductive Stmt where
  | expr (e : Expr)
  | declare (name : String) (e : Expr)
  | assign (name : String) (e : Expr)
  /-- Remove a member of the global object. -/
  | delete (e : Expr)
  | raise (e : Expr)
  | giveBack (e : Expr)
  /-- A function with one parameter, `args`. -/
  | define (name : String) (body : List Stmt)
  /-- The handler sees the caught value as the variable `caught`. -/
  | tryCatch (body handler : List Stmt)
  | ifElse (condition : Expr) (yes no : List Stmt)
  /-- Count the variable `i` up from zero while it is below the bound. -/
  | count (bound : Expr) (body : List Stmt)
  /-- Run for ever. -/
  | endless

/-- The statements of one file. -/
abbrev Statements := List Stmt

/-- Why a file does not run at all. -/
inductive SyntaxFault where
  | nameExpected
  | returnOutsideFunction
deriving DecidableEq, Repr

def SyntaxFault.message : SyntaxFault → String
  | nameExpected => "function name expected"
  | returnOutsideFunction => "return not in a function"

/-- Whether statements start with the directive that makes them strict. Only other text constants
may stand before it. -/
def opensStrict : List Stmt → Bool
  | .expr (.text s) :: rest => s == Units.ofString "use strict" || opensStrict rest
  | _ => false

/-- A name that a piece of script declares: a variable, or a function with its body. -/
structure Declaration where
  name : String
  body : Option (List Stmt) := none

mutual

/-- The names that a statement declares. -/
def Stmt.declarations : Stmt → List Declaration
  | .declare name _ => [⟨name, none⟩]
  | .define name body => [⟨name, some body⟩]
  | .tryCatch body handler => declarationsIn body ++ declarationsIn handler
  | .ifElse _ yes no => declarationsIn yes ++ declarationsIn no
  | .count _ body => ⟨"i", none⟩ :: declarationsIn body
  | _ => []

/-- The names that a list of statements declares, in order. -/
def declarationsIn : List Stmt → List Declaration
  | [] => []
  | s :: rest => s.declarations ++ declarationsIn rest

end

/-- Add a declaration to those before it. A name is declared once, and the last function of a name
is the one that counts. -/
def addDeclaration (d : Declaration) : List Declaration → List Declaration
  | [] => [d]
  | e :: rest =>
    if e.name = d.name then ⟨e.name, d.body.or e.body⟩ :: rest else e :: addDeclaration d rest

/-- The declarations of statements, one for each name, in the order of their first occurrence. -/
def hoisted (statements : List Stmt) : List Declaration :=
  (declarationsIn statements).foldl (fun ds d => addDeclaration d ds) []

end DecompilerBridge.Script
