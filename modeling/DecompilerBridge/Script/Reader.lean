import DecompilerBridge.Entry
import DecompilerBridge.Json.Value
import DecompilerBridge.Script.Syntax

/-!
# Script files

Script files as texts. A script is written as the JSON array of its statements, each an array headed
by the name of the statement, with expressions in the same style. A file of nothing but blanks and
line comments is the empty script, and any other text is no script.
-/

set_option autoImplicit false

namespace DecompilerBridge.Script

open Text (Units)

/-- The integer that a text of digits denotes. -/
def readInteger? (s : String) : Option Int :=
  match s.toList with
  | '-' :: ds => (digits ds).map fun n => -(n : Int)
  | ds => (digits ds).map fun n => (n : Int)
where
  digits (ds : List Char) : Option Nat :=
    if ds.isEmpty || !ds.all Char.isDigit then none
    else some (ds.foldl (fun n c => n * 10 + (c.toNat - 48)) 0)

/-- Members in the order of their names. -/
def byName {α : Type} (members : List (String × α)) : List (String × α) :=
  members.mergeSort fun a b => decide (a.1 ≤ b.1)

/-- A dotted name taken apart: the variable, and the member names after it. -/
def readPath (name : String) : String × List String :=
  let parts := cut name.toList
  (String.ofList parts.1, parts.2.map String.ofList)
where
  cut : List Char → List Char × List (List Char)
    | [] => ([], [])
    | c :: cs => if c = '.' then ([], (cut cs).1 :: (cut cs).2) else (c :: (cut cs).1, (cut cs).2)

/-- The words that stand for a value where a variable could stand. -/
def constantNames : List (String × Expr) :=
  [("this", .this), ("null", .null), ("true", .bool true), ("false", .bool false)]

/-- A variable, or a member reached from it by a dotted name. -/
def ofName (name : String) : Expr :=
  let path := readPath name
  .path ((constantNames.lookup path.1).getD (.read path.1)) path.2

/-- A call of a variable or of a dotted name. -/
def callOf (name : String) (args : List Expr) : Expr := .call (ofName name) args

/-- A call of a method with a written name. -/
def methodCall (method : String) (e : Expr) (args : List Expr) : Expr :=
  .call (.member e method) args

/-- A new object of a named class with properties assigned to it. -/
def newWith (cls : String) (args : List Expr) (properties : List (String × Expr)) : Expr :=
  callOf "Object.assign" [.construct (ofName cls) args, .object properties]

/-- The forms without parts. -/
def constantForms : List (String × Expr) :=
  [("undef", .read "undefined"), ("nan", .read "NaN"), ("surrogate", .text [0xD800]),
   ("fn", .emptyFunction), ("arrow", .arrowFunction), ("promise", callOf "Promise.resolve" []),
   ("args", .read "args"), ("caught", .read "caught")]

/-- The forms with one expression. -/
def unaryForms : List (String × (Expr → Expr)) :=
  [("str", .stringer false), ("badstr", .stringer true),
   ("arg", .property (.read "args")), ("trim", fun e => methodCall "trim" e []),
   ("len", fun e => .member e "length")]

/-- The forms with two expressions. -/
def binaryForms : List (String × (Expr → Expr → Expr)) :=
  [("repeat", fun e n => methodCall "repeat" e [n]), ("eq", .strictEq), ("prop", .property)]

/-- The forms with any number of expressions. -/
def listForms : List (String × (List Expr → Expr)) :=
  [("list", .list), ("cat", .concat), ("sym", callOf "Symbol"), ("json", callOf "JSON.stringify"),
   ("strobj", .construct (.read "String")), ("r2cmd", callOf "r2cmd"),
   ("load", callOf "___internal_load"), ("require", callOf "___internal_require")]

/-- The forms with one name. -/
def nameForms : List (String × (String → Option Expr)) :=
  [("get", fun name => some (ofName name)), ("typeof", fun name => some (.typeOf (ofName name))),
   ("big", fun digits => (readInteger? digits).map .bigint)]

/-- The forms with a name and expressions. -/
def namedListForms : List (String × (String → List Expr → Expr)) := [("call", callOf)]

/-- Build an expression from the parts of a form that have been read. -/
def form? (head : String) (names : List String) (parts : List Expr) : Option Expr :=
  match constantForms.lookup head, unaryForms.lookup head, binaryForms.lookup head,
      listForms.lookup head, nameForms.lookup head, namedListForms.lookup head with
  | some e, _, _, _, _, _ => some e
  | _, some f, _, _, _, _ => parts.head?.map f
  | _, _, some f, _, _, _ =>
    match parts with
    | a :: b :: _ => some (f a b)
    | _ => none
  | _, _, _, some f, _, _ => some (f parts)
  | _, _, _, _, some f, _ => names.head?.bind f
  | _, _, _, _, _, some f => names.head?.map fun name => f name parts.tail
  | _, _, _, _, _, _ => none

/-- The text of a JSON string. -/
def nameOf? : Json → Option String
  | .string s => some s
  | _ => none

mutual

/-- Read an expression. -/
def readExpr : Json → Option Expr
  | .null => some .null
  | .bool b => some (.bool b)
  | .number x => some (.number x.number)
  | .string s => some (.ofString s)
  | .object _ => none
  | .array items =>
    match items with
    | .string "obj" :: rest =>
      match rest with
      | [] => some (.object [])
      | .object members :: _ => (readProperties members).map fun ps => .object (byName ps)
      | _ => none
    | .string "err" :: .string cls :: rest =>
      match rest with
      | [] => some (.construct (ofName cls) [])
      | [.object members] => (readProperties members).map fun ps => newWith cls [] (byName ps)
      | [message] => (readExpr message).map fun e => .construct (ofName cls) [e]
      | message :: .object members :: _ => do
        let e ← readExpr message
        let ps ← readProperties members
        some (newWith cls [e] (byName ps))
      | _ => none
    | .string "is" :: e :: .string cls :: _ =>
      (readExpr e).map fun value => .instanceOf value (ofName cls)
    | .string head :: rest => do
      let parts ← readExprs rest
      form? head (rest.filterMap nameOf?) parts
    | _ => none

/-- Read expressions in order. -/
def readExprs : List Json → Option (List Expr)
  | [] => some []
  | j :: rest => do
    let e ← readExpr j
    let es ← readExprs rest
    some (e :: es)

/-- Read the expressions of members. -/
def readProperties : List (String × Json) → Option (List (String × Expr))
  | [] => some []
  | (key, j) :: rest => do
    let e ← readExpr j
    let es ← readProperties rest
    some ((key, e) :: es)

end

/-- The statements with one expression. -/
def expressionStatements : List (String × (Expr → Stmt)) :=
  [("do", .expr), ("delete", .delete), ("throw", .raise), ("return", .giveBack)]

/-- The statements with a name and an expression. -/
def namedStatements : List (String × (String → Expr → Stmt)) :=
  [("var", .declare), ("assign", .assign)]

/-- A call of a method of the console. -/
def consoleCall (method : String) (args : List Expr) : Stmt :=
  .expr (methodCall method (.read "console") args)

/-- Read a statement that holds no other statements. -/
def readSimple (head : String) (parts : List Json) : Option Stmt :=
  match expressionStatements.lookup head, namedStatements.lookup head, parts with
  | some f, _, e :: _ => (readExpr e).map f
  | _, some f, .string name :: e :: _ => (readExpr e).map (f name)
  | _, _, _ =>
    if head = "log" then (readExprs parts).map (consoleCall "log")
    else if head = "loop" then some .endless
    else
      match parts with
      | .string method :: rest =>
        if head = "console" then (readExprs rest).map (consoleCall method) else none
      | _ => none

/-- What was read of a part, or the fault of a script whose part cannot be read. -/
def orFault {α : Type} : Option α → Except SyntaxFault α
  | some a => .ok a
  | none => .error .nameExpected

mutual

/-- Read a statement. The flag tells whether it stands inside a function. -/
def readStmt (inside : Bool) : Json → Except SyntaxFault Stmt
  | .array (.string head :: parts) =>
    if head = "def" then
      match parts with
      | .string name :: .array body :: _ => (readStmts true body).map (.define name)
      | _ => .error .nameExpected
    else if head = "try" then
      match parts with
      | .array body :: .array handler :: _ => do
        let b ← readStmts inside body
        let h ← readStmts inside handler
        .ok (.tryCatch b h)
      | _ => .error .nameExpected
    else if head = "if" then
      match parts with
      | e :: .array yes :: .array no :: _ => do
        let condition ← orFault (readExpr e)
        let y ← readStmts inside yes
        let n ← readStmts inside no
        .ok (.ifElse condition y n)
      | e :: .array yes :: _ => do
        let condition ← orFault (readExpr e)
        let y ← readStmts inside yes
        .ok (.ifElse condition y [])
      | _ => .error .nameExpected
    else if head = "for" then
      match parts with
      | e :: .array body :: _ => do
        let bound ← orFault (readExpr e)
        let b ← readStmts inside body
        .ok (.count bound b)
      | _ => .error .nameExpected
    else if head = "return" && !inside then .error .returnOutsideFunction
    else orFault (readSimple head parts)
  | _ => .error .nameExpected

/-- Read statements in order. -/
def readStmts (inside : Bool) : List Json → Except SyntaxFault (List Stmt)
  | [] => .ok []
  | j :: rest => do
    let s ← readStmt inside j
    let ss ← readStmts inside rest
    .ok (s :: ss)

end

/-- Whether a character ends a line of a script. -/
def endsLine (c : Char) : Bool := c = '\n' || c = '\r' || c.toNat = 0x2028 || c.toNat = 0x2029

/-- Whether a character of a script is a blank. -/
def isScriptBlank (c : Char) : Bool :=
  decide (c.toNat < 0x10000) && Units.isScriptBlank c.toNat.toUInt16

/-- What is left of a text without blanks and line comments. The flag tells whether the text starts
inside a comment. -/
def withoutComments : Bool → List Char → List Char
  | _, [] => []
  | true, c :: cs => withoutComments (!endsLine c) cs
  | false, '/' :: '/' :: cs => withoutComments true cs
  | false, c :: cs =>
    if isScriptBlank c then withoutComments false cs else c :: withoutComments false cs

/-- Read the characters of a script file. -/
def readScript (cs : List Char) : Except SyntaxFault Statements :=
  if (withoutComments false cs).isEmpty then .ok []
  else
    match Json.parseChars cs with
    | .ok (.array statements) => readStmts false statements
    | _ => .error .nameExpected

/-- The script that an entry expression is: a call of the entry function with a list of texts if
there is one, and otherwise a message on the console. -/
def entryScript (tokens : List String) (message : String) : Statements :=
  [.ifElse (.strictEq (.typeOf (.read Entry.functionName)) (.ofString "function"))
    [.expr (.call (.read Entry.functionName) [.list (tokens.map fun token => .ofString token)])]
    [.expr (.call (.member (.read "console") "log") [.ofString message])]]

/-- The JSON value that follows a text at the front of some characters, and what is left of them. -/
def valueAfter? (lead : String) (cs : List Char) : Option (Json × List Char) := do
  let rest ← lead.toList.isPrefixOf? cs
  (Json.scanValue (2 * rest.length + 2) rest).toOption

/-- The text that a JSON value is, if it is one. -/
def jsonText? : Json → Option String
  | .string s => some s
  | _ => none

/-- Read an entry expression: code around two JSON texts, an array of texts and a text. -/
def readEntry? (cs : List Char) : Option Statements := do
  let (array, afterArray) ← valueAfter? Entry.opening cs
  let (missing, afterMissing) ← valueAfter? Entry.between afterArray
  match array with
  | .array items =>
    if afterMissing = Entry.ending.toList then
      some (entryScript (← items.mapM jsonText?) (← jsonText? missing))
    else none
  | _ => none

/-- Read a source text: an entry expression or the text of a script file. -/
def compile (text : String) : Except SyntaxFault Statements :=
  let cs := Text.chars text
  match readEntry? cs with
  | some statements => .ok statements
  | none => readScript cs

end DecompilerBridge.Script
