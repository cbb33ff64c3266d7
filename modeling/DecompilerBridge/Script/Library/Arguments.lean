import DecompilerBridge.Script.Expression

/-!
# Arguments of library functions

What the functions of the library share: picking arguments, positions that count from the end,
lengths, walks over indices that may end early, and the values that others give one by one.
-/

set_option autoImplicit false

namespace DecompilerBridge.Script

open Text (Units)

namespace Routine

/-- The argument at a position; a missing one is `undefined`. -/
def argument (args : List Value) (i : Nat) : Value := args.getD i .undefined

/-- The own or inherited length of a value, as a natural number. A list knows its own. -/
def lengthOf (v : Value) : Routine Nat := do
  match (← getThe Store).listLength? v with
  | some length => pure length
  | none =>
    let n ← toInteger? (← getNamed v "length")
    pure (n.getD 0).toNat

/-- The argument as a position from zero to `length`. Negative positions count from the end. -/
def position (length : Nat) (v : Value) (missing : Nat) : Routine Nat := do
  match v with
  | .undefined => pure missing
  | _ =>
    let n ← toNumber v
    match n.integerPart? with
    | none => pure (if n.isNegative then 0 else length)
    | some i =>
      if i < 0 then pure (i + length).toNat else pure (min i.toNat length)

/-- Take a step for every index from `k` on. A step goes on with an accumulated value or ends the
walk with a result. -/
def walk {β γ : Type} (step : Nat → β → Routine (β ⊕ γ)) (finish : β → γ) :
    Nat → Nat → β → Routine γ
  | 0, _, acc => pure (finish acc)
  | n + 1, k, acc => do
    match ← step k acc with
    | .inl b => walk step finish n (k + 1) b
    | .inr c => pure c

/-- Do something for every value in order. -/
def forEachIn {α : Type} (f : α → Routine Unit) : List α → Routine Unit
  | [] => pure ()
  | a :: rest => do
    f a
    forEachIn f rest

/-- Map values in order. -/
def mapIn {α β : Type} (f : α → Routine β) : List α → Routine (List β)
  | [] => pure []
  | a :: rest => do
    let b ← f a
    let bs ← mapIn f rest
    pure (b :: bs)

/-- The items of an object with a length, each index read in order. -/
def itemsOf (v : Value) : Routine (List Value) := do
  let length ← lengthOf v
  walk (fun k (acc : List Value) => do
    let x ← get v (.ofNat k)
    pure (.inl (x :: acc))) List.reverse length 0 []

/-- The values that a value gives one after the other, if it does: lists and arguments their items,
texts their characters, and iterators what is left of them. -/
def iterated? (v : Value) : Routine (Option (List Value)) := do
  match v with
  | .undefined | .null =>
    raise .typeError ("cannot read property 'Symbol.iterator' of " ++ v.nothingName)
  | .text s => pure (some (s.characters.map .text))
  | .object r => do
    match ((← getThe Store).object r).kind with
    | .list _ _ | .arguments => some <$> itemsOf v
    | .boxed (.text s) => pure (some (s.characters.map .text))
    | .iterator rest => do
      alter r fun o => { o with kind := .iterator [] }
      pure (some rest)
    | _ => pure none
  | _ => pure none

/-- The values that a value has to give one after the other. -/
def iterated (v : Value) : Routine (List Value) := do
  match ← iterated? v with
  | some items => pure items
  | none => raise .typeError "value is not iterable"

end Routine

end DecompilerBridge.Script
