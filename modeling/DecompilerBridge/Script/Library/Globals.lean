import DecompilerBridge.Script.Library.Numbers
import DecompilerBridge.Text.Percent

/-!
# Global functions

The functions that the language provides as globals: those that read numbers, and those that escape
texts and read them back.
-/

set_option autoImplicit false

namespace DecompilerBridge.Script

open Text (Units)
open Text.Percent (Fault)

namespace Routine

/-- A text that could be escaped or read back, or the error that says why not. -/
def ofEscapes (r : Except Fault Units) : Routine Value :=
  match r with
  | .ok s => pure (.text s)
  | .error fault => raise .uriError fault.message

/-- The global functions that escape a text and read it back. -/
def escapeFunction (name : String) (s : Units) : Routine Value :=
  match name with
  | "encodeURI" => ofEscapes (Text.Percent.encode Text.Percent.keptInAddress s)
  | "encodeURIComponent" => ofEscapes (Text.Percent.encode Text.Percent.keptInPart s)
  | "decodeURI" => ofEscapes (Text.Percent.decode Text.Percent.isReserved s)
  | "decodeURIComponent" => ofEscapes (Text.Percent.decode (fun _ => false) s)
  | "escape" => pure (.text (Text.Percent.escape s))
  | _ => pure (.text (Text.Percent.unescape s))

/-- The global functions. -/
def globalFunction (name : String) (args : List Value) : Routine Value := do
  let v := argument args 0
  match name with
  | "parseInt" => parseInteger v (argument args 1)
  | "parseFloat" => parseFloat v
  | "isNaN" => do
    let n ← toNumber v
    pure (.bool (decide (n = .nan)))
  | "isFinite" => do
    let n ← toNumber v
    pure (.bool (isFinite n))
  | "eval" => pure v
  | "queueMicrotask" => do
    expectCallable v
    pure .undefined
  | _ => do
    let s ← toText v
    escapeFunction name s

end Routine

end DecompilerBridge.Script
