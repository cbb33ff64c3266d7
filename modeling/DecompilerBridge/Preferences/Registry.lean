import DecompilerBridge.Log
import DecompilerBridge.Preferences.Store

/-!
# The preferences of the decompiler

The preferences of the decompiler scripts and their registration in a store.
-/

set_option autoImplicit false

namespace DecompilerBridge

/-- A preference with the value it starts with and its help text. -/
structure Preference where
  key : String
  initial : String
  description : String
deriving DecidableEq, Repr

namespace Preference

/-- What every key of the decompiler starts with. -/
def keyLead : String := "r2dec."

/-- The preferences of the decompiler, in the order of their registration. -/
def all : List Preference :=
  [⟨"r2dec.casts", "false", "if false, hides all casts in the pseudo code."⟩,
   ⟨"r2dec.asm", "false", "if true, shows pseudo next to the assembly."⟩,
   ⟨"r2dec.blocks", "false", "if true, shows only scopes blocks."⟩,
   ⟨"r2dec.xrefs", "false", "if true, shows all xrefs in the pseudo code."⟩,
   ⟨"r2dec.paddr", "false", "if true, all xrefs uses physical addresses compare."⟩,
   ⟨"r2dec.theme", "default", "defines the color theme to be used on r2dec."⟩]

end Preference

namespace Preferences

/-- Write a preference's first value and its help text. The store keeps what was done before a
refusal. -/
def registerOne (p : Preferences) (pref : Preference) : Preferences × Except PreferenceError Unit :=
  match p.set pref.key pref.initial with
  | .error e => (p, .error e)
  | .ok written =>
    match written.describe pref.key pref.description with
    | .error e => (written, .error e)
    | .ok described => (described, .ok ())

/-- Register preferences in order, up to the first refusal. -/
def registerEach : List Preference → Preferences → Preferences × Except PreferenceError Unit
  | [], p => (p, .ok ())
  | pref :: rest, p =>
    match p.registerOne pref with
    | (q, .ok ()) => registerEach rest q
    | (q, .error e) => (q, .error e)

/-- Register the preferences of the decompiler. The store is locked afterwards in any case. -/
def register (p : Preferences) : Preferences × Except PreferenceError Unit :=
  let outcome := registerEach Preference.all (p.lock false)
  (outcome.1.lock true, outcome.2)

/-- What registration notes, whether it succeeded or not. -/
def registrationRecord : LogRecord :=
  .debug ("registered " ++ toString Preference.all.length ++ " r2dec preferences")

end Preferences

end DecompilerBridge
