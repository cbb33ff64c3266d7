import DecompilerBridge.Script.Library.Arguments
import DecompilerBridge.Text.Case

/-!
# Functions of texts

The functions of `String` and the methods of texts. Positions count 16-bit units.
-/

set_option autoImplicit false

namespace DecompilerBridge.Script

open Text (Units)

namespace Routine

/-- The text that a method was called on. -/
def thisText (this : Value) : Routine Units :=
  if this.isNothing then raise .typeError "null or undefined are forbidden" else toText this

/-- The text that a value is or wraps. -/
def ownText (v : Value) : Routine Units := do
  match v with
  | .text s => pure s
  | .object r => do
    match ((← getThe Store).object r).kind with
    | .boxed (.text s) => pure s
    | _ => raise .typeError "not a string"
  | _ => raise .typeError "not a string"

/-- The units of the longest text. -/
def longestText : Nat := 0x3FFFFFFF

/-- The greatest number of repetitions that can be asked for. -/
def greatestCount : Int := 0x7FFFFFFF

/-- A text repeated, if it is not too long and fits into memory. -/
def repetition (s : Units) (count : Nat) : Routine Units := do
  if longestText < s.length * count then raise .rangeError "invalid string length"
  else if fitsMemory (← getThe Store).memory (s.length * count) then
    pure (Nat.repeat (s ++ ·) count [])
  else raise .internalError "out of memory"

/-- A text repeated as often as a value says. -/
def repeated (s : Units) (count : Value) : Routine Value := do
  match ← toInteger? count with
  | some n =>
    if 0 ≤ n && n ≤ greatestCount then
      let t ← repetition s n.toNat
      pure (.text t)
    else raise .rangeError "invalid repeat count"
  | none => raise .rangeError "invalid repeat count"

/-- The first position from `start` on at which a part stands. -/
def findPart (s part : Units) : Nat → Nat → Option Nat
  | 0, _ => none
  | fuel + 1, start =>
    if s.length < start + part.length then none
    else if part.isPrefixOf (s.drop start) then some start
    else findPart s part fuel (start + 1)

/-- The first position from `start` on at which a part stands. -/
def positionOf (s part : Units) (start : Nat) : Option Nat := findPart s part (s.length + 1) start

/-- The last position up to `start` at which a part stands. -/
def lastPositionOf (s part : Units) : Nat → Option Nat
  | 0 => if part.isPrefixOf s then some 0 else none
  | start + 1 =>
    if part.isPrefixOf (s.drop (start + 1)) && start + 1 + part.length ≤ s.length then
      some (start + 1)
    else lastPositionOf s part start

/-- A position from zero to `length`; negative ones count as zero. -/
def clamped (length : Nat) (v : Value) (missing : Nat) : Routine Nat := do
  match v with
  | .undefined => pure missing
  | _ => do
    let n ← toNumber v
    pure (match n.integerPart? with
      | some i => min i.toNat length
      | none => if n.isNegative then 0 else length)

/-- A text cut at every occurrence of a part that is not empty. -/
def cutAt (part : Units) : Nat → Units → List Units
  | 0, s => [s]
  | fuel + 1, s =>
    match positionOf s part 0 with
    | some k => s.take k :: cutAt part fuel (s.drop (k + part.length))
    | none => [s]

/-- A text cut at a separator. -/
def split (s : Units) (separator limit : Value) : Routine Value := do
  let most ← match limit with
    | .undefined => pure 0xFFFFFFFF
    | l => do
      let n ← toNumber l
      pure n.toWord32
  match separator with
  | .undefined => if most = 0 then makeList [] else makeList [.text s]
  | _ => do
    let sep ← toText separator
    let parts :=
      if sep.isEmpty then s.map fun u => [u]
      else cutAt sep s.length s
    makeList ((parts.take most).map .text)

/-- What a replacement puts in place of a part. The marks for the part and for what stands before
and after it are filled in. -/
def filledIn (part before after : Units) : Units → Units
  | 0x24 :: 0x24 :: rest => 0x24 :: filledIn part before after rest
  | 0x24 :: 0x26 :: rest => part ++ filledIn part before after rest
  | 0x24 :: 0x60 :: rest => before ++ filledIn part before after rest
  | 0x24 :: 0x27 :: rest => after ++ filledIn part before after rest
  | u :: rest => u :: filledIn part before after rest
  | [] => []

/-- What takes the place of a part of a text: a text with marks, or what a function gives. -/
inductive Substitute where
  | text (s : Units)
  | function (f : Value)

/-- The substitute that an argument stands for. -/
def substituteOf (v : Value) : Routine Substitute := do
  if ← isCallable v then pure (.function v) else .text <$> toText v

/-- The text that replaces a part at a position. -/
def replacement (s part : Units) (place : Nat) : Substitute → Routine Units
  | .function f => do
    let r ← call f .undefined [.text part, .ofNat place, .text s]
    toText r
  | .text t => pure (filledIn part (s.take place) (s.drop (place + part.length)) t)

/-- The text with the first or every occurrence of a part replaced, from a position on. -/
def replaced (s part : Units) (all : Bool) (form : Substitute) : Nat → Nat → Routine Units
  | 0, start => pure (s.drop start)
  | fuel + 1, start => do
    match positionOf s part start with
    | none => pure (s.drop start)
    | some k => do
      let t ← replacement s part k form
      let kept := (s.take k).drop start ++ t
      if !all then pure (kept ++ s.drop (k + part.length))
      else if !part.isEmpty then
        let rest ← replaced s part all form fuel (k + part.length)
        pure (kept ++ rest)
      else if s.length ≤ k then pure kept
      else
        let rest ← replaced s part all form fuel (k + 1)
        pure (kept ++ (s.drop k).take 1 ++ rest)

/-- `replace` and `replaceAll`. -/
def replacing (s : Units) (all : Bool) (args : List Value) : Routine Value := do
  let part ← toText (argument args 0)
  let substitute ← substituteOf (argument args 1)
  let t ← replaced s part all substitute (s.length + 1) 0
  pure (.text t)

/-- What fills a text up to a length. -/
def padding (s : Units) (args : List Value) : Routine Units := do
  let n ← toNumber (argument args 0)
  let wanted := (n.integerPart?.getD (if n.isNegative then 0 else greatestCount)).toNat
  if wanted ≤ s.length then pure []
  else
    let filler ← match argument args 1 with
      | .undefined => pure [0x20]
      | f => toText f
    if filler.isEmpty then pure []
    else if longestText < wanted then raise .rangeError "invalid string length"
    else
      let missing := wanted - s.length
      let t ← repetition filler (missing / filler.length + 1)
      pure (t.take missing)

/-! ### Methods -/

/-- The code of the character at the start of units. -/
def codeAtStart (s : Units) : Option Nat := (Units.codes (s.take 2)).head?

/-- Whether no surrogate stands alone. -/
def isWellFormed (s : Units) : Bool := s.toString?.toOption.isSome

/-- Surrogates that stand alone replaced. -/
def wellFormed (s : Units) : Units :=
  s.characters.flatMap fun part => if isWellFormed part then part else [0xFFFD]

/-- How two lists of codes are ordered: negative if the first one comes first, and positive if it
comes last. -/
def compareCodes : List Nat → List Nat → Int
  | [], [] => 0
  | [], _ :: _ => -1
  | _ :: _, [] => 1
  | a :: as, b :: bs => if a < b then -1 else if b < a then 1 else compareCodes as bs

/-- The methods of texts that pick or compare parts. -/
def partMethod (name : String) (s : Units) (args : List Value) : Routine Value := do
  match name with
  | "at" => do
    let n ← toInteger? (argument args 0)
    let k := (n.getD (-1 - s.length)) + (if n.getD 0 < 0 then (s.length : Int) else 0)
    pure (if k < 0 then .undefined else (s[k.toNat]?).elim .undefined fun u => .text [u])
  | "charAt" => do
    let n ← toInteger? (argument args 0)
    let k := n.getD (-1)
    pure (.text (if k < 0 then [] else (s[k.toNat]?).toList))
  | "charCodeAt" => do
    let n ← toInteger? (argument args 0)
    let k := n.getD (-1)
    pure (if k < 0 then .number .nan
      else (s[k.toNat]?).elim (.number .nan) fun u => .ofNat u.toNat)
  | "codePointAt" => do
    let n ← toInteger? (argument args 0)
    let k := n.getD (-1)
    pure (if k < 0 then .undefined else (codeAtStart (s.drop k.toNat)).elim .undefined .ofNat)
  | "indexOf" => do
    let part ← toText (argument args 0)
    let start ← clamped s.length (argument args 1) 0
    pure ((positionOf s part start).elim (.ofInt (-1)) .ofNat)
  | "lastIndexOf" => do
    let part ← toText (argument args 0)
    let n ← toNumber (argument args 1)
    let start :=
      if n = .nan then s.length
      else
        match n.integerPart? with
        | some i => min i.toNat s.length
        | none => if n.isNegative then 0 else s.length
    pure ((lastPositionOf s part start).elim (.ofInt (-1)) .ofNat)
  | "includes" => do
    let part ← toText (argument args 0)
    let start ← clamped s.length (argument args 1) 0
    pure (.bool (positionOf s part start).isSome)
  | "startsWith" => do
    let part ← toText (argument args 0)
    let start ← clamped s.length (argument args 1) 0
    pure (.bool (part.isPrefixOf (s.drop start)))
  | "endsWith" => do
    let part ← toText (argument args 0)
    let stop ← clamped s.length (argument args 1) s.length
    pure (.bool (part.isSuffixOf (s.take stop)))
  | "slice" => do
    let start ← position s.length (argument args 0) 0
    let stop ← position s.length (argument args 1) s.length
    pure (.text ((s.take stop).drop start))
  | "substring" => do
    let a ← clamped s.length (argument args 0) 0
    let b ← clamped s.length (argument args 1) s.length
    pure (.text ((s.take (max a b)).drop (min a b)))
  | "substr" => do
    let start ← position s.length (argument args 0) 0
    let count ← clamped (s.length - start) (argument args 1) (s.length - start)
    pure (.text ((s.drop start).take count))
  | "localeCompare" => do
    let t ← toText (argument args 0)
    pure (.ofInt (compareCodes s.codes t.codes))
  | _ => pure .undefined

/-- The names of the methods that pick or compare parts. -/
def partNames : List String :=
  ["at", "charAt", "charCodeAt", "codePointAt", "indexOf", "lastIndexOf", "includes", "startsWith",
   "endsWith", "slice", "substring", "substr", "localeCompare"]

/-- The methods of texts that make a new text or a list. -/
def makingMethod (name : String) (s : Units) (args : List Value) : Routine Value := do
  match name with
  | "repeat" => repeated s (argument args 0)
  | "trim" => pure (.text s.trim)
  | "trimStart" => pure (.text (s.dropWhile Units.isScriptBlank))
  | "trimEnd" => pure (.text ((s.reverse.dropWhile Units.isScriptBlank).reverse))
  | "concat" => do
    let parts ← mapIn toText args
    pure (.text (s ++ parts.flatten))
  | "split" => split s (argument args 0) (argument args 1)
  | "padStart" => do
    let p ← padding s args
    pure (.text (p ++ s))
  | "padEnd" => do
    let p ← padding s args
    pure (.text (s ++ p))
  | "replace" => replacing s false args
  | "replaceAll" => replacing s true args
  | "toUpperCase" | "toLocaleUpperCase" => pure (.text s.upper)
  | "toLowerCase" | "toLocaleLowerCase" => pure (.text s.lower)
  | "isWellFormed" => pure (.bool (isWellFormed s))
  | "toWellFormed" => pure (.text (wellFormed s))
  | "normalize" => pure (.text s)
  | _ => pure .undefined

/-- The methods of texts. -/
def textMethod (name : String) (this : Value) (args : List Value) : Routine Value := do
  if name = "toString" || name = "valueOf" then
    let s ← ownText this
    pure (.text s)
  else
    let s ← thisText this
    if partNames.contains name then partMethod name s args else makingMethod name s args

/-- The units of a character code. -/
def unitsOfCode (v : Value) : Routine Units := do
  let n ← toNumber v
  match n.toInt? with
  | some i =>
    if 0 ≤ i && i ≤ 0x10FFFF then pure (Units.ofCode i.toNat)
    else raise .rangeError "invalid code point"
  | none => raise .rangeError "invalid code point"

/-- The functions of `String`. -/
def textFunction (name : String) (args : List Value) : Routine Value := do
  match name with
  | "fromCharCode" => do
    let ns ← mapIn toNumber args
    pure (.text (ns.map fun n => n.toWord32.toUInt16))
  | "fromCodePoint" => do
    let parts ← mapIn unitsOfCode args
    pure (.text parts.flatten)
  | _ => pure .undefined

end Routine

end DecompilerBridge.Script
