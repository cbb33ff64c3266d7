import DecompilerBridge.Bridge
import DecompilerBridge.Script.Evaluation
import DecompilerBridge.Script.Reader

/-!
# The interpreter

The engine for the script language here, as the bridge sees it. How a text is read as a script, and
how far a script is followed, is up to whoever sets an interpreter up.

The natives are in the global object of a new engine already, so there is nothing left to do when
the bridge adds them.

Some of the language is left out. Code inside a script is not read from texts: `eval` gives its
argument back, and `Function` makes an empty function. Promises run the code they are made with, and
settle nothing. Objects with an iterator of their own give no items. Theorems about runs are about
every engine, unless they tell what the entry script does, and for that none of this matters.
-/

set_option autoImplicit false

namespace DecompilerBridge.Script

open Text (Units)

/-- A reading of texts as scripts, and the bounds on what is done with them. -/
structure Interpreter where
  /-- Read a source text. -/
  compile : String → Except SyntaxFault Statements
  /-- The calls that can be made one inside the other. -/
  levels : Nat := 2000
  /-- The files that can be evaluated one inside the other. Each takes up far more stack than a
  call. -/
  files : Nat := 200
  /-- The rounds that a loop is followed. -/
  rounds : Nat := 2000000
  /-- The bytes of memory that an empty engine takes up. -/
  leastMemory : Nat := 1024
  /-- The bytes of stack that an evaluation takes up. -/
  leastStack : Nat := 1024

/-- The longest message, in bytes, of an error that a native throws itself. -/
def longestMessage : Nat := 255

/-- The longest start of a text that has at most `room` bytes. -/
def takeBytes : Nat → List Char → List Char
  | _, [] => []
  | room, c :: cs => if c.utf8Size ≤ room then c :: takeBytes (room - c.utf8Size) cs else []

/-- The part of a message that an error thrown by a native keeps: up to the first NUL, and no more
than the longest message. -/
def keptMessage (message : String) : String :=
  String.ofList (takeBytes longestMessage (message.toList.takeWhile (· != Char.ofNat 0)))

/-- The spelling of a text value, or why it has none. -/
def Value.text? : Value → Option (Except String String)
  | .text s =>
    match Units.toString? s with
    | .ok spelling => some (.ok spelling)
    | .error offset =>
      some (.error
        ("Conversion from string failed: invalid utf-8 sequence of 1 bytes from index " ++
          toString offset))
  | _ => none

namespace Interpreter

variable (i : Interpreter)

/-- Whether an amount that is bounded, if at all, by some bytes has room for a least amount. A bound
of zero is none. -/
def hasRoom (least : Nat) : Option Nat → Bool
  | some bytes => bytes == 0 || decide (least ≤ bytes)
  | none => true

/-- A new engine. -/
def newEngine (limits : Limits) (readings : Readings) : Engine :=
  { memory := limits.memory, stack := limits.stack, timeout := limits.timeout, left := i.levels,
    randoms := readings.randoms, delays := readings.delays }

/-- Run a computation with the stack that is left. -/
def onStack {α : Type} (x : Evaluator → Eval α) : Eval α := do
  let engine ← get
  x (.withStack i.rounds engine.left)

/-- Evaluate a text as global code. -/
def evaluate (text : String) : Eval Unit := do
  let engine ← get
  if hasRoom i.leastStack engine.stack && engine.nesting < i.files then
    Eval.nested (i.onStack fun self => Eval.runScript self (i.compile text))
  else Eval.raise .rangeError "Maximum call stack size exceeded"

/-- The interpreter as the bridge sees it. -/
def engine : ScriptEngine where
  State := Engine
  Value := Value
  newRuntime readings := .ok (i.newEngine {} readings)
  newContext limits runtime :=
    if hasRoom i.leastMemory limits.memory then
      .ok (i.newEngine limits ⟨runtime.delays, runtime.randoms⟩)
    else .error "Allocation failed while creating object"
  define _ := pure ()
  evaluate := i.evaluate
  throwNew cls message := Eval.raise cls (keptMessage message)
  global name := i.onStack fun self => (Routine.getNamed (.object .global) name).eval self
  member v name := i.onStack fun self => (Routine.getNamed v name).eval self
  toText v := i.onStack fun self => (Value.text <$> Routine.toText v).eval self
  makeText text := pure (Value.ofString text)
  construct cls args := i.onStack fun self => self.construct cls args
  undefined := .undefined
  text? _ v := v.text?
  isError now v := now.isError v
  isNothing _ v := v.isNothing
  isConstructor now v := now.isConstructor v
  typeName now v := now.typeName v

/-- The machine that evaluates modules with the interpreter. -/
def machine (resolver : Resolver) (limits : Limits := {}) : Machine where
  resolver := resolver
  engine := i.engine
  limits := limits
  -- each of them takes up a call at least
  depth := i.levels

end Interpreter

/-- The interpreter of scripts that are written as JSON. -/
def jsonInterpreter : Interpreter := { compile := compile }

end DecompilerBridge.Script
