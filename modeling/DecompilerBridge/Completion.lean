import DecompilerBridge.Text.Blank

/-!
# Completions

Completion of typed lines. Words are registered at the top or below a parent word, and a typed text
lists those that continue it.
-/

set_option autoImplicit false

namespace DecompilerBridge

/-- What a completion is: an option of a command, or anything else. -/
inductive CompletionKind where
  | word
  | option
deriving DecidableEq, Repr

/-- A registered word. -/
structure CompletionEntry where
  parent : Option String
  word : String
  kind : CompletionKind
deriving DecidableEq, Repr

/-- The registered words, in the order of their first registration. -/
structure Completions where
  entries : List CompletionEntry := []
deriving DecidableEq, Repr

namespace Completions

/-- Register a word, unless the same entry is there already. -/
def add (c : Completions) (entry : CompletionEntry) : Completions :=
  if entry ∈ c.entries then c else ⟨c.entries ++ [entry]⟩

/-- A typed text taken apart: the part before the last space, and the word being typed. -/
structure Typed where
  head : Option String
  partialWord : String
deriving DecidableEq, Repr

/-- Take a typed text apart at its last space. -/
def Typed.ofText (text : String) : Typed :=
  match Text.splitLast ' ' text with
  | some (head, word) => ⟨some head, word⟩
  | none => ⟨none, text⟩

/-- The parent under which words are looked up: the first word of the head, or none at the top. -/
def Typed.parent (t : Typed) : Option String :=
  t.head.map fun head => (Text.words head).headD ""

/-- The whole text once a word is chosen. -/
def Typed.complete (t : Typed) (word : String) : String :=
  match t.head with
  | some head => head ++ " " ++ word
  | none => word

/-- Whether an entry continues what was typed. -/
def Typed.admits (t : Typed) (entry : CompletionEntry) : Bool :=
  decide (entry.parent = t.parent) && Text.startsWith entry.word t.partialWord

/-- The texts that continue a typed text, in text order. -/
def complete (c : Completions) (text : String) : List String :=
  let typed := Typed.ofText text
  ((c.entries.filter typed.admits).map fun e => typed.complete e.word).mergeSort
    fun a b => decide (a ≤ b)

end Completions

end DecompilerBridge
