import DecompilerBridge.Script.Library.Objects

/-!
# Functions of lists

The functions of `Array` and the methods of lists. The methods work on every object that has a
length; an index at which nothing stands is passed over by those that call a function.
-/

set_option autoImplicit false

namespace DecompilerBridge.Script

open Text (Units)

namespace Routine

/-- The item at an index, if something stands there. -/
def item? (v : Value) (k : Nat) : Routine (Option Value) := do
  if ← hasMember v (.ofNat k) then some <$> get v (.ofNat k) else pure none

/-- The text of an item: nothing for `null` and `undefined`. -/
def itemText (v : Value) : Routine Units := if v.isNothing then pure [] else toText v

/-- The items of an object joined with a separator. -/
def join (v : Value) (separator : Value) : Routine Value := do
  let length ← lengthOf v
  let sep ← match separator with
    | .undefined => pure (Units.ofString ",")
    | s => toText s
  let parts ← walk (fun k (acc : List Units) => do
    let x ← get v (.ofNat k)
    let s ← itemText x
    pure (.inl (s :: acc))) List.reverse length 0 []
  pure (.text (Units.join sep parts))

/-- The text of a list: its items joined, if it can join them. -/
def listText (v : Value) : Routine Value := do
  let f ← getNamed v "join"
  if ← isCallable f then call f v [] else tagText v

/-- The first index from `start` on at which a value stands. -/
def indexFrom (v x : Value) (length start : Nat) : Routine (Option Nat) :=
  walk (fun k (_ : Unit) => do
    match ← item? v k with
    | some y => pure (if y.strictEq x then .inr (some k) else .inl ())
    | none => pure (.inl ())) (fun _ => none) (length - start) start ()

/-- The last index before `stop` at which a value stands. -/
def lastIndexBefore (v x : Value) : Nat → Routine (Option Nat)
  | 0 => pure none
  | k + 1 => do
    match ← item? v k with
    | some y => if y.strictEq x then pure (some k) else lastIndexBefore v x k
    | none => lastIndexBefore v x k

/-- An index as a value, with −1 for none. -/
def indexValue (k : Option Nat) : Value := k.elim (.ofInt (-1)) .ofNat

/-- Call a function for every item, from the first on, until a call decides. -/
def visit {γ : Type} (v : Value) (args : List Value)
    (decide : Nat → Value → Value → Option γ) (otherwise : γ) : Routine γ := do
  let length ← lengthOf v
  let f := argument args 0
  expectCallable f
  walk (fun k (_ : Unit) => do
    match ← item? v k with
    | some x => do
      let r ← call f (argument args 1) [x, .ofNat k, v]
      pure (match decide k x r with
        | some c => .inr c
        | none => .inl ())
    | none => pure (.inl ())) (fun _ => otherwise) length 0 ()

/-- Look for an item that a function accepts. Holes count as `undefined`. -/
def search (v : Value) (args : List Value) (fromEnd : Bool) : Routine (Option (Nat × Value)) := do
  let length ← lengthOf v
  let f := argument args 0
  expectCallable f
  walk (fun n (_ : Unit) => do
    let k := if fromEnd then length - 1 - n else n
    let x ← get v (.ofNat k)
    let r ← call f (argument args 1) [x, .ofNat k, v]
    pure (if r.truthy then .inr (some (k, x)) else .inl ())) (fun _ => none) length 0 ()

/-- What a function makes of every item, in order, with holes kept. -/
def mapped (v : Value) (args : List Value) : Routine (List (Nat × Value × Value)) := do
  let length ← lengthOf v
  let f := argument args 0
  expectCallable f
  walk (fun k (acc : List (Nat × Value × Value)) => do
    match ← item? v k with
    | some x => do
      let r ← call f (argument args 1) [x, .ofNat k, v]
      pure (.inl ((k, x, r) :: acc))
    | none => pure (.inl acc)) List.reverse length 0 []

/-- Fold a function over the items. -/
def reduce (v : Value) (args : List Value) (fromEnd : Bool) : Routine Value := do
  let length ← lengthOf v
  let f := argument args 0
  expectCallable f
  let start : Option Value := if args.length < 2 then none else some (argument args 1)
  let result ← walk (fun n (acc : Option Value) => do
    let k := if fromEnd then length - 1 - n else n
    match ← item? v k with
    | some x =>
      match acc with
      | some a => do
        let r ← call f .undefined [a, x, .ofNat k, v]
        pure (.inl (some r))
      | none => pure (.inl (some x))
    | none => pure (.inl acc)) id length 0 start
  match result with
  | some r => pure r
  | none => raise .typeError "empty array"

/-- The items from one position to another, with holes as `undefined`. -/
def itemsBetween (v : Value) (start stop : Nat) : Routine (List Value) :=
  walk (fun k (acc : List Value) => do
    let x ← get v (.ofNat k)
    pure (.inl (x :: acc))) List.reverse (stop - start) start []

/-- Write items from an index on. -/
def writeItems (r : Ref) (start : Nat) : List Value → Routine Unit
  | [] => pure ()
  | x :: rest => do
    assignStrictly r (.ofNat start) x
    writeItems r (start + 1) rest

/-- Set the length of an object. -/
def writeLength (r : Ref) (length : Nat) : Routine Unit :=
  assignStrictly r (.name "length") (.ofNat length)

/-- Replace all items of an object. -/
def replaceItems (r : Ref) (items : List Value) : Routine Unit := do
  writeItems r 0 items
  writeLength r items.length

/-- The order that a function gives to two items. `undefined` comes last, and without a function
texts are compared. -/
def comesBefore (f : Value) (a b : Value) : Routine Bool := do
  match a, b with
  | .undefined, _ => pure false
  | _, .undefined => pure true
  | _, _ =>
    match f with
    | .undefined => do
      let s ← toText a
      let t ← toText b
      pure (textLess s t)
    | _ => do
      let r ← toNumber (← call f .undefined [a, b])
      pure r.isNegative

/-- Put an item in front of the first one that comes after it. -/
def insertSorted (f : Value) (x : Value) : List Value → Routine (List Value)
  | [] => pure [x]
  | y :: rest => do
    if ← comesBefore f x y then pure (x :: y :: rest)
    else
      let more ← insertSorted f x rest
      pure (y :: more)

/-- The items in order; equal ones keep theirs. -/
def sorted (f : Value) (items : List Value) : Routine (List Value) :=
  items.foldlM (fun acc x => insertSorted f x acc) []

/-- The items of an object, with those of lists inside it to a depth in place of these lists. -/
def flattened : Nat → Value → Routine (List Value)
  | depth, v => do
    let length ← lengthOf v
    walk (fun k (acc : List Value) => do
      match ← item? v k with
      | none => pure (.inl acc)
      | some x =>
        match depth with
        | 0 => pure (.inl (acc ++ [x]))
        | d + 1 => do
          if (← getThe Store).isList x then
            let inner ← flattened d x
            pure (.inl (acc ++ inner))
          else pure (.inl (acc ++ [x]))) id length 0 []

/-- The items that an argument adds to a list: its own if it is a list, else itself. -/
def spread (v : Value) : Routine (List Value) := do
  if (← getThe Store).isList v then itemsOf v else pure [v]

/-- The number of items that a change at a position removes. -/
def removedCount (length start : Nat) (args : List Value) : Routine Nat := do
  match args with
  | [] => pure 0
  | [_] => pure (length - start)
  | _ => do
    let n ← toNumber (argument args 1)
    pure (match n.integerPart? with
      | some i => min i.toNat (length - start)
      | none => if n.isNegative then 0 else length - start)

/-- The list after a change at a position, and the removed items. -/
def spliced (v : Value) (args : List Value) : Routine (List Value × List Value) := do
  let length ← lengthOf v
  let start ← position length (argument args 0) 0
  let count ← removedCount length start args
  let items ← itemsBetween v 0 length
  pure (items.take start ++ args.drop 2 ++ items.drop (start + count),
    (items.drop start).take count)

/-- The methods of lists that change them. -/
def changingMethod (name : String) (r : Ref) (args : List Value) : Routine Value := do
  let v : Value := .object r
  match name with
  | "push" => do
    let length ← lengthOf v
    writeItems r length args
    writeLength r (length + args.length)
    pure (.ofNat (length + args.length))
  | "pop" => do
    let length ← lengthOf v
    let last ← if length = 0 then pure .undefined else get v (.ofNat (length - 1))
    writeLength r (length - 1)
    pure last
  | "shift" => do
    let items ← itemsOf v
    replaceItems r items.tail
    pure (items.headD .undefined)
  | "unshift" => do
    let items ← itemsOf v
    replaceItems r (args ++ items)
    pure (.ofNat (args.length + items.length))
  | "reverse" => do
    let items ← itemsOf v
    writeItems r 0 items.reverse
    pure v
  | "sort" => do
    let f := argument args 0
    if f != .undefined && !(← isCallable f) then raise .typeError "not a function"
    else
      let items ← itemsOf v
      let ordered ← sorted f items
      writeItems r 0 ordered
      pure v
  | "splice" => do
    let (items, removed) ← spliced v args
    replaceItems r items
    makeList removed
  | "fill" => do
    let length ← lengthOf v
    let start ← position length (argument args 1) 0
    let stop ← position length (argument args 2) length
    writeItems r start (List.replicate (stop - start) (argument args 0))
    pure v
  | "copyWithin" => do
    let length ← lengthOf v
    let target ← position length (argument args 0) 0
    let start ← position length (argument args 1) 0
    let stop ← position length (argument args 2) length
    let items ← itemsBetween v start stop
    writeItems r target (items.take (length - target))
    pure v
  | _ => pure .undefined

/-- The item at a position that may count from the end. -/
def itemAt (v : Value) (i : Value) : Routine (Nat × Option Nat) := do
  let length ← lengthOf v
  let n ← toInteger? i
  pure (length, n.bind fun k =>
    let place := if k < 0 then k + length else k
    if 0 ≤ place && place < length then some place.toNat else none)

/-- Where a search towards the front begins: just after the position that an argument names. -/
def lastStop (length : Nat) (v : Value) : Routine Nat := do
  let n ← toNumber v
  pure (match n.integerPart? with
    | some i => if i < 0 then (i + length + 1).toNat else min (i.toNat + 1) length
    | none => if n.isNegative then 0 else length)

/-- The methods of lists that look for items. An empty list is not searched, and the arguments are
left alone then. -/
def lookingMethod (name : String) (v : Value) (args : List Value) : Routine Value := do
  match name with
  | "indexOf" => do
    let length ← lengthOf v
    if length = 0 then pure (indexValue none)
    else
      let start ← position length (argument args 1) 0
      let k ← indexFrom v (argument args 0) length start
      pure (indexValue k)
  | "lastIndexOf" => do
    let length ← lengthOf v
    if length = 0 then pure (indexValue none)
    else
      let stop ← if args.length < 2 then pure length else lastStop length (argument args 1)
      let k ← lastIndexBefore v (argument args 0) stop
      pure (indexValue k)
  | "includes" => do
    let length ← lengthOf v
    if length = 0 then pure (.bool false)
    else
      let start ← position length (argument args 1) 0
      let items ← itemsBetween v start length
      pure (.bool (items.any fun x => x.sameOrNan (argument args 0)))
  | "find" => do
    let found ← search v args false
    pure (found.elim .undefined (·.2))
  | "findIndex" => do
    let found ← search v args false
    pure (indexValue (found.map (·.1)))
  | "findLast" => do
    let found ← search v args true
    pure (found.elim .undefined (·.2))
  | "findLastIndex" => do
    let found ← search v args true
    pure (indexValue (found.map (·.1)))
  | "every" => do
    let r ← visit v args (fun _ _ r => if r.truthy then none else some false) true
    pure (.bool r)
  | "some" => do
    let r ← visit v args (fun _ _ r => if r.truthy then some true else none) false
    pure (.bool r)
  | "at" => do
    let (_, k) ← itemAt v (argument args 0)
    match k with
    | some i => get v (.ofNat i)
    | none => pure .undefined
  | _ => pure .undefined

/-- The methods of lists that make a new list. -/
def copyingMethod (name : String) (v : Value) (args : List Value) : Routine Value := do
  match name with
  | "map" => do
    let length ← lengthOf v
    let results ← mapped v args
    let r ← allocate
      { Object.ofItems [] with
        kind := .list length false
        properties := results.map fun e => (.ofNat e.1, .plain e.2.2) }
    pure (.object r)
  | "filter" => do
    let results ← mapped v args
    makeList ((results.filter fun e => e.2.2.truthy).map fun e => e.2.1)
  | "flatMap" => do
    let results ← mapped v args
    let parts ← mapIn (fun (e : Nat × Value × Value) => spread e.2.2) results
    makeList parts.flatten
  | "flat" => do
    let depth ← match argument args 0 with
      | .undefined => pure 1
      | d => do
        let n ← toInteger? d
        pure (n.elim 100 Int.toNat)
    let items ← flattened depth v
    makeList items
  | "slice" => do
    let length ← lengthOf v
    let start ← position length (argument args 0) 0
    let stop ← position length (argument args 1) length
    let items ← itemsBetween v start stop
    makeList items
  | "concat" => do
    let parts ← mapIn spread (v :: args)
    makeList parts.flatten
  | "toReversed" => do
    let items ← itemsOf v
    makeList items.reverse
  | "toSorted" => do
    let f := argument args 0
    if f != .undefined && !(← isCallable f) then raise .typeError "not a function"
    else
      let items ← itemsOf v
      let ordered ← sorted f items
      makeList ordered
  | "toSpliced" => do
    let (items, _) ← spliced v args
    makeList items
  | "with" => do
    let (_, k) ← itemAt v (argument args 0)
    match k with
    | some i => do
      let items ← itemsOf v
      makeList (items.set i (argument args 1))
    | none => raise .rangeError "invalid array index"
  | _ => pure .undefined

/-- The names of the methods that change a list. -/
def changingNames : List String :=
  ["push", "pop", "shift", "unshift", "reverse", "sort", "splice", "fill", "copyWithin"]

/-- The names of the methods that look for items. -/
def lookingNames : List String :=
  ["indexOf", "lastIndexOf", "includes", "find", "findIndex", "findLast", "findLastIndex", "every",
   "some", "at"]

/-- What gives values one after the other. -/
def makeIterator (items : List Value) : Routine Value := do
  let r ← allocate { kind := .iterator items, prototype := some (.prototype .iterator) }
  pure (.object r)

/-- The methods of lists that give what they hold one after the other. -/
def iteratingMethod (name : String) (v : Value) : Routine Value := do
  let items ← itemsOf v
  match name with
  | "keys" => makeIterator ((List.range items.length).map .ofNat)
  | "entries" => do
    let pairs ← mapIn (fun (e : Value × Nat) => makeList [.ofNat e.2, e.1]) items.zipIdx
    makeIterator pairs
  | _ => makeIterator items

/-- The next value of an iterator. -/
def nextOf (this : Value) : Routine Value := do
  let answer (v : Value) (done : Bool) : Routine Value :=
    makeObject [(.name "value", .plain v), (.name "done", .plain (.bool done))]
  match this with
  | .object r => do
    match ((← getThe Store).object r).kind with
    | .iterator (v :: rest) => do
      alter r fun o => { o with kind := .iterator rest }
      answer v false
    | .iterator [] => answer .undefined true
    | _ => raise .typeError "not an Array Iterator"
  | _ => raise .typeError "not an Array Iterator"

/-- The methods of lists. -/
def listMethod (name : String) (this : Value) (args : List Value) : Routine Value := do
  let r ← toObject this
  let v : Value := .object r
  match name with
  | "join" => join v (argument args 0)
  | "toString" => listText v
  | "toLocaleString" => join v .undefined
  | "forEach" => do
    visit v args (fun _ _ _ => (none : Option Unit)) ()
    pure .undefined
  | "reduce" => reduce v args false
  | "reduceRight" => reduce v args true
  | "keys" | "values" | "entries" => iteratingMethod name v
  | _ =>
    if changingNames.contains name then changingMethod name r args
    else if lookingNames.contains name then lookingMethod name v args
    else copyingMethod name v args

/-- A new list: of a length if one number is given, else of the arguments. -/
def newList (args : List Value) : Routine Value := do
  match args with
  | [.number n] => do
    let length ← toLength (.number n)
    let r ← allocate { Object.ofItems [] with kind := .list length false }
    pure (.object r)
  | _ => makeList args

/-- The items that a value is made of: those that it gives one by one, or those under its indices.
-/
def sourceItems (v : Value) : Routine (List Value) := do
  match ← iterated? v with
  | some items => pure items
  | none => itemsOf v

/-- The functions of `Array`. -/
def listFunction (name : String) (args : List Value) : Routine Value := do
  match name with
  | "isArray" => pure (.bool ((← getThe Store).isList (argument args 0)))
  | "of" => makeList args
  | "from" => do
    let items ← sourceItems (argument args 0)
    match argument args 1 with
    | .undefined => makeList items
    | f => do
      expectCallable f
      let results ← mapIn (fun (e : Value × Nat) =>
        call f (argument args 2) [e.1, .ofNat e.2]) items.zipIdx
      makeList results
  | _ => pure .undefined

end Routine

end DecompilerBridge.Script
