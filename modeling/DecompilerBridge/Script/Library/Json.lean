import DecompilerBridge.Json.Value
import DecompilerBridge.Script.Library.Arguments

/-!
# JSON texts of values

The functions of `JSON`: the JSON text of a value, and the value of a JSON text.
-/

set_option autoImplicit false

namespace DecompilerBridge.Script

open Text (Units)

/-- How a JSON text is written: a function that replaces values, the names that are kept, and the
indentation of one level. -/
structure JsonStyle where
  replacer : Option Value := none
  kept : Option (List Key) := none
  gap : Units := []

/-- Where a value stands: the object that holds it, its key there, the objects around it, and the
indentation. -/
structure JsonPlace where
  holder : Value := .undefined
  key : Key := .name ""
  around : List Ref := []
  indent : Units := []

namespace Routine

/-- The value that is written in place of another. -/
def jsonReplaced (style : JsonStyle) (place : JsonPlace) (v : Value) : Routine Value := do
  let own ← match v with
    | .object _ | .bigint _ => do
      let f ← getNamed v "toJSON"
      if ← isCallable f then call f v [place.key.toValue] else pure v
    | _ => pure v
  match style.replacer with
  | some f => call f place.holder [place.key.toValue, own]
  | none => pure own

/-- Parts between two brackets, on lines of their own if the style indents. -/
def jsonBracketed (style : JsonStyle) (indent : Units) (opening closing : String)
    (parts : List Units) : Units :=
  if parts.isEmpty then Units.ofString (opening ++ closing)
  else if style.gap.isEmpty then
    Units.ofString opening ++ Units.join (Units.ofString ",") parts ++ Units.ofString closing
  else
    let line := Units.ofString "\n" ++ indent
    Units.ofString opening ++ line ++ style.gap ++
      Units.join (Units.ofString "," ++ line ++ style.gap) parts ++ line ++ Units.ofString closing

/-- The JSON text of a value at a place, if it has one. -/
abbrev JsonWriter := JsonPlace → Value → Routine (Option Units)

/-- The place of a member of an object. -/
def JsonPlace.member (place : JsonPlace) (style : JsonStyle) (r : Ref) (key : Key) : JsonPlace :=
  ⟨.object r, key, r :: place.around, place.indent ++ style.gap⟩

/-- The JSON text of a list. Items without a text are written as `null`. -/
def jsonList (style : JsonStyle) (write : JsonWriter) (place : JsonPlace) (r : Ref) :
    Routine Units := do
  let length ← lengthOf (.object r)
  let parts ← walk (fun k (acc : List Units) => do
    let v ← get (.object r) (.index k)
    let s ← write (JsonPlace.member place style r (.index k)) v
    pure (.inl (s.getD (Units.ofString "null") :: acc))) List.reverse length 0 []
  pure (jsonBracketed style place.indent "[" "]" parts)

/-- The JSON texts of members, without those that have none. -/
def jsonMembers (style : JsonStyle) (write : JsonWriter) (place : JsonPlace) (r : Ref) :
    List Key → Routine (List Units)
  | [] => pure []
  | key :: rest => do
    let v ← get (.object r) key
    let s ← write (JsonPlace.member place style r key) v
    let ss ← jsonMembers style write place r rest
    let name ← primitiveText key.toValue
    let colon := Units.ofString (if style.gap.isEmpty then ":" else ": ")
    pure <| match s with
      | some form => (Text.jsonUnits name ++ colon ++ form) :: ss
      | none => ss

/-- The names of an object that JSON texts show. -/
def jsonKeys (style : JsonStyle) (r : Ref) : Routine (List Key) := do
  match style.kept with
  | some keys => pure keys
  | none => pure (((← getThe Store).shownKeys r).filter fun k => !k.isSymbol)

/-- The JSON text of a list or of an object with members. -/
def jsonCompound (style : JsonStyle) (write : JsonWriter) (place : JsonPlace) (r : Ref) :
    Routine (Option Units) := do
  if place.around.contains r then raise .typeError "circular reference"
  else if ((← getThe Store).object r).isList then
    let s ← jsonList style write place r
    pure (some s)
  else
    let keys ← jsonKeys style r
    let parts ← jsonMembers style write place r keys
    pure (some (jsonBracketed style place.indent "\x7b" "\x7d" parts))

/-- The JSON text of a number. -/
def jsonNumber (n : Number) : Units :=
  Units.ofString (match n with
    | .finite _ _ _ => n.text .script
    | _ => "null")

/-- The JSON text of a value that is no object, if it has one. -/
def jsonPrimitive : Value → Routine (Option Units)
  | .null => pure (some (Units.ofString "null"))
  | .bool b => pure (some (Units.ofString (if b then "true" else "false")))
  | .number n => pure (some (jsonNumber n))
  | .bigint _ => raise .typeError "BigInt are forbidden in JSON.stringify"
  | .text s => pure (some (Text.jsonUnits s))
  | _ => pure none

/-- One level of a JSON text. -/
def jsonStep (style : JsonStyle) (write : JsonWriter) : JsonWriter := fun place value => do
  match ← jsonReplaced style place value with
  | .object r =>
    let o := (← getThe Store).object r
    if o.isCallable then pure none
    else
      match o.kind with
      | .boxed (.text _) => do
        let s ← toText (.object r)
        pure (some (Text.jsonUnits s))
      | .boxed (.number _) => do
        let n ← toNumber (.object r)
        pure (some (jsonNumber n))
      | .boxed (.symbol _) => jsonCompound style write place r
      | .boxed v => jsonPrimitive v
      | _ => jsonCompound style write place r
  | v => jsonPrimitive v

/-- The JSON text of a value with some levels of nesting. -/
def jsonWithin (style : JsonStyle) : Nat → JsonWriter
  | 0 => fun _ _ => raise .rangeError "Maximum call stack size exceeded"
  | levels + 1 => jsonStep style (jsonWithin style levels)

/-- The deepest nesting of a JSON text. -/
def jsonLevels : Nat := 1000

/-- The longest indentation of one level. -/
def longestGap : Nat := 10

/-- The indentation that an argument asks for. -/
def jsonGap (v : Value) : Routine Units := do
  let store ← getThe Store
  let plain ← match v with
    | .object r =>
      match (store.object r).kind with
      | .boxed (.number _) => do pure (.number (← toNumber v))
      | .boxed (.text _) => do pure (.text (← toText v))
      | _ => pure v
    | _ => pure v
  match plain with
  | .number n =>
    pure (List.replicate (min (n.integerPart?.getD longestGap).toNat longestGap) 0x20)
  | .text s => pure (s.take longestGap)
  | _ => pure []

/-- The name that an entry of a list of kept names stands for, if it is one. -/
def keptKey (v : Value) : Routine (Option Key) := do
  let store ← getThe Store
  match v with
  | .text s => pure (some (.ofUnits s))
  | .number _ => do pure (some (.ofUnits (← toText v)))
  | .object r =>
    match (store.object r).kind with
    | .boxed (.text _) | .boxed (.number _) => do pure (some (.ofUnits (← toText v)))
    | _ => pure none
  | _ => pure none

/-- The style that the arguments ask for. -/
def jsonStyle (replacer gap : Value) : Routine JsonStyle := do
  let store ← getThe Store
  if store.isCallable replacer then
    let g ← jsonGap gap
    pure { replacer := some replacer, gap := g }
  else if store.isList replacer then
    let items ← itemsOf replacer
    let keys ← mapIn keptKey items
    let g ← jsonGap gap
    pure { kept := some (keys.filterMap id).eraseDups, gap := g }
  else
    let g ← jsonGap gap
    pure { gap := g }

/-- `JSON.stringify`. -/
def stringify (args : List Value) : Routine Value := do
  let v := argument args 0
  let style ← jsonStyle (argument args 1) (argument args 2)
  let holder ← match style.replacer with
    | some _ => makeObject [(.name "", .plain v)]
    | none => pure .undefined
  let form ← jsonWithin style jsonLevels { holder := holder } v
  pure (form.elim .undefined .text)

mutual

/-- The value of a JSON text that was read. -/
def ofJson : Json → Routine Value
  | .null => pure .null
  | .bool b => pure (.bool b)
  | .number x => pure (.number x.number)
  | .string s => pure (Value.ofString s)
  | .array items => do
    let vs ← ofJsonItems items
    makeList vs
  | .object members => do
    let ps ← ofJsonMembers members
    makeObject (ps.foldl (fun qs p => Properties.put p.1 p.2 qs) [])

/-- The values of items. -/
def ofJsonItems : List Json → Routine (List Value)
  | [] => pure []
  | j :: rest => do
    let v ← ofJson j
    let vs ← ofJsonItems rest
    pure (v :: vs)

/-- The properties of members. -/
def ofJsonMembers : List (String × Json) → Routine Properties
  | [] => pure []
  | (key, j) :: rest => do
    let v ← ofJson j
    let ps ← ofJsonMembers rest
    pure ((.ofString key, .plain v) :: ps)

end

/-- `JSON.parse`. -/
def parseJson (args : List Value) : Routine Value := do
  let s ← toText (argument args 0)
  match (s.toString?.toOption.map Json.parse) with
  | some (.ok j) => ofJson j
  | some (.error .ended) => raise .syntaxError "Unexpected end of JSON input"
  | _ => raise .syntaxError "unexpected token"

/-- The functions of `JSON`. -/
def jsonFunction (name : String) (args : List Value) : Routine Value :=
  match name with
  | "stringify" => stringify args
  | "parse" => parseJson args
  | _ => pure .undefined

end Routine

end DecompilerBridge.Script
