import DecompilerBridge.Table

/-!
# The preference store

The preference store: named values that are switches or free texts. A key created with `true` or
`false` is a switch from then on. While the store is locked no key can be created.
-/

set_option autoImplicit false

namespace DecompilerBridge

/-- The two spellings of each switch position, and nothing else. -/
def parseSwitch? (value : String) : Option Bool :=
  if value = "true" ∨ value = "1" then some true
  else if value = "false" ∨ value = "0" then some false
  else none

/-- The spelling under which a switch position is stored. -/
def switchText (b : Bool) : String := if b then "true" else "false"

/-- Why the store refuses a write. -/
inductive PreferenceError where
  | locked (key : String)
  | unknownKey (key : String)
  | notBoolean (key value : String)
deriving DecidableEq, Repr

def PreferenceError.message : PreferenceError → String
  | locked key => s!"config is locked, cannot create '{key}'"
  | unknownKey key => s!"unknown config key '{key}'"
  | notBoolean key value => s!"'{key}' is a boolean, got '{value}'"

/-- What values a key takes: two words, or any text. -/
inductive PreferenceKind where
  | switch
  | text
deriving DecidableEq, Repr

/-- The kind of a key that is created with a value. -/
def PreferenceKind.ofInitial (value : String) : PreferenceKind :=
  if value = "true" ∨ value = "false" then .switch else .text

/-- What the store holds for a key. -/
structure PreferenceEntry where
  value : String
  kind : PreferenceKind
  description : String
deriving DecidableEq, Repr

/-- The value an entry of some kind stores for a written text, if it accepts it. -/
def PreferenceKind.accept (kind : PreferenceKind) (value : String) : Option String :=
  match kind with
  | .switch => (parseSwitch? value).map switchText
  | .text => some value

/-- The preferences by key, and whether new keys are refused. -/
structure Preferences where
  entries : Table PreferenceEntry := []
  locked : Bool := false
deriving DecidableEq, Repr

namespace Preferences

/-- A store without keys, not locked. -/
def empty : Preferences := {}

def lock (p : Preferences) (locked : Bool) : Preferences := { p with locked := locked }

def entry? (p : Preferences) (key : String) : Option PreferenceEntry := p.entries.find? key

def get? (p : Preferences) (key : String) : Option String := (p.entry? key).map (·.value)

def kind? (p : Preferences) (key : String) : Option PreferenceKind := (p.entry? key).map (·.kind)

def description? (p : Preferences) (key : String) : Option String :=
  (p.entry? key).map (·.description)

/-- The position of a switch. A text that spells one is none. -/
def switch? (p : Preferences) (key : String) : Option Bool :=
  match p.entry? key with
  | some ⟨value, .switch, _⟩ => parseSwitch? value
  | _ => none

/-- Write a value. A refused write changes nothing. -/
def set (p : Preferences) (key value : String) : Except PreferenceError Preferences :=
  match p.entry? key with
  | some entry =>
    match entry.kind.accept value with
    | some stored => .ok { p with entries := p.entries.insert key { entry with value := stored } }
    | none => .error (.notBoolean key value)
  | none =>
    if p.locked then .error (.locked key)
    else .ok { p with entries := p.entries.insert key ⟨value, .ofInitial value, ""⟩ }

/-- Give an existing key its help text. -/
def describe (p : Preferences) (key description : String) : Except PreferenceError Preferences :=
  match p.entry? key with
  | some entry =>
    .ok { p with entries := p.entries.insert key { entry with description := description } }
  | none => .error (.unknownKey key)

/-- Keys and values in key order. -/
def listing (p : Preferences) : List (String × String) := p.entries.map fun e => (e.1, e.2.value)

end Preferences

end DecompilerBridge
