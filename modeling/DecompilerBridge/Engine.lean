import DecompilerBridge.Interaction

/-!
# Script engines

What the bridge needs of a script engine, and all that it knows about one.

An engine has a state, values, and operations on them. An operation may run code of scripts, and
scripts reach the bridge by the natives that it has added to the engine. So an operation is a
program that stops at every call of a native, with the state as it is then, and goes on with the end
of the call and the state that the call has left. What an engine reads of the world besides, the
time and random numbers, is given to it when it is made.

Everything else is up to the engine: the language, the memory and the stack that it takes, how it
spends its time, and which exceptions it throws.
-/

set_option autoImplicit false

namespace DecompilerBridge

/-- The classes of errors. -/
inductive ErrorClass where
  | error | evalError | rangeError | referenceError | syntaxError | typeError | uriError
  | internalError | aggregateError
deriving DecidableEq, Repr

namespace ErrorClass

def name : ErrorClass → String
  | error => "Error"
  | evalError => "EvalError"
  | rangeError => "RangeError"
  | referenceError => "ReferenceError"
  | syntaxError => "SyntaxError"
  | typeError => "TypeError"
  | uriError => "URIError"
  | internalError => "InternalError"
  | aggregateError => "AggregateError"

def all : List ErrorClass :=
  [error, evalError, rangeError, referenceError, syntaxError, typeError, uriError, internalError,
   aggregateError]

end ErrorClass

/-- Bounds on an engine. A zero means no bound on memory and stack, and is a bound on time. -/
structure Limits where
  /-- Bytes of memory. -/
  memory : Option Nat := none
  /-- Bytes of stack. -/
  stack : Option Nat := none
  /-- Milliseconds until a run is interrupted. -/
  timeout : Option Nat := none
deriving DecidableEq, Repr

namespace Limits

/-- The seconds that a clock can count to. -/
def clockRange : Nat := 0x8000000000000000

/-- Whether the deadline can be computed from the reading of the clock in seconds. -/
def deadlineExists (l : Limits) (clock : Nat) : Bool :=
  match l.timeout with
  | some ms => decide (clock + ms / 1000 < clockRange)
  | none => true

end Limits

/-- What an engine reads of the world while it lives. -/
structure Readings where
  /-- The milliseconds that pass before each look at the clock, from the making of the engine or the
  look before. -/
  delays : Nat → Nat := fun _ => 0
  /-- Random numbers in order. -/
  randoms : Nat → Nat := fun _ => 0

/-- The functions that the bridge adds to an engine. -/
inductive Native where
  /-- Run a host command. -/
  | command
  /-- Give the text of a module. -/
  | load
  /-- Evaluate a module as global code. -/
  | require
  /-- Print a line: each of the methods of the console. -/
  | console
deriving DecidableEq, Repr

/-- How the call of a native ended, as the engine sees it. -/
inductive NativeEnd (V : Type) where
  | value (v : V)
  | thrown (v : V)
  /-- The native panicked. What its caller is thrown then is up to the engine. -/
  | panicked

/-- What an engine tells of an exception. -/
inductive EngineEvent where
  /-- The deadline has struck, and the exception that it throws is on its way. -/
  | interrupted
  /-- An exception is on its way, and something else goes on before it has left the operation: a
  handler of a script, a promise that is rejected with it, an iterator that is closed. -/
  | intercepted
deriving DecidableEq, Repr

/-- What an operation of an engine asks for. -/
inductive EngineRequest (σ V : Type) where
  /-- Call a native. -/
  | native (n : Native) (args : List V) (state : σ)
  | event (e : EngineEvent)

/-- The answers to the requests of an operation. -/
def EngineRequest.Reply {σ V : Type} : EngineRequest σ V → Type
  | .native _ _ _ => NativeEnd V × σ
  | .event _ => Unit

/-- The requests of an engine with states `σ` and values `V`. -/
abbrev engineSignature (σ V : Type) : Signature := ⟨EngineRequest σ V, EngineRequest.Reply⟩

/-- Why an operation did not end with a result. -/
inductive EngineStop (V : Type) where
  | thrown (v : V)
  /-- It runs for ever. -/
  | hung
  /-- It takes the process down. -/
  | crashed

/-- An operation of an engine with states `σ` and values `V`. -/
abbrev Operation (σ V : Type) :=
  ExceptT (EngineStop V) (StateT σ (Interaction (engineSignature σ V)))

/-- A script engine, as far as the bridge can tell. -/
structure ScriptEngine where
  State : Type
  Value : Type
  /-- Make a runtime. The error says why there is none. -/
  newRuntime : Readings → Except String State
  /-- Bound a runtime, and make a context with the language's own globals in it. -/
  newContext : Limits → State → Except String State
  /-- Add a native to the globals. -/
  define : Native → Operation State Value Unit
  /-- Evaluate a text as global code. -/
  evaluate : String → Operation State Value Unit
  /-- Throw a new error with a message. -/
  throwNew : ErrorClass → String → Operation State Value Empty
  /-- The value of a global. -/
  global : String → Operation State Value Value
  /-- The value of a member. -/
  member : Value → String → Operation State Value Value
  /-- Convert a value to a text of the scripts. -/
  toText : Value → Operation State Value Value
  /-- Make a text of the scripts. -/
  makeText : String → Operation State Value Value
  /-- Make a new object with a constructor. -/
  construct : Value → List Value → Operation State Value Value
  undefined : Value
  /-- The spelling of a value that is a text, or why it has none. -/
  text? : State → Value → Option (Except String String)
  isError : State → Value → Bool
  /-- Whether a value is `null` or `undefined`. -/
  isNothing : State → Value → Bool
  isConstructor : State → Value → Bool
  /-- The name of a value's type. -/
  typeName : State → Value → String

end DecompilerBridge
