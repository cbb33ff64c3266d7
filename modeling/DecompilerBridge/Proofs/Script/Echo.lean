import DecompilerBridge.Proofs.Run.Descriptions
import DecompilerBridge.Proofs.Script.EntryFunction

/-!
# A function that prints its argument

The body `console.log(JSON.stringify(args))` prints the array of the literals of its argument, if
that is a list of texts and nothing of what the body reads has been replaced (`Engine.Echoes`). The
proof follows a call from the inside out: the JSON text of a list of texts (`stringify_run`), the
call of the console (`consoleLog_shows`), the body in the frame of its call (`echoBody_shows`), the
call itself (`entry_shows`), and the entry script, whose list of texts is the words of the argument
text (`entryScript_shows`). Ticks, new objects and new frames leave an engine an echoing one. The
bridge makes one request of all this: the array is printed (`Invocation.entry_echoes`).

A package echoes (`Interpreter.Echoes`) if its driver makes a new engine an echoing one.
`Interpreter.hasEchoDriver` decides this of packages with the simplest such driver.
-/

set_option autoImplicit false

namespace DecompilerBridge.Script

open Text (Units)

/-! ## Members -/

/-- The function that the language or the bridge provides as an object, if it is one. -/
def Object.builtin? (o : Object) : Option Intrinsic :=
  match o.kind with
  | .builtin i => some i
  | _ => none

/-- An object that provides a builtin is of this kind. -/
theorem Object.kind_of_builtin {o : Object} {i : Intrinsic} (provided : o.builtin? = some i) :
    o.kind = .builtin i := by
  unfold Object.builtin? at provided
  split at provided
  · next j kind =>
    cases provided
    exact kind
  · cases provided

namespace Store

variable {store : Store}

/-- The value that an object holds under a name. -/
def held? (store : Store) (r : Ref) (name : String) : Option Value :=
  ((store.object r).own? (.name name)).bind Property.value?

/-- A property that is held is the object's own. -/
theorem slot_of_held {r : Ref} {name : String} {v : Value} (held : store.held? r name = some v) :
    ∃ p, (store.object r).own? (.name name) = some p ∧ p.slot = .data v := by
  obtain ⟨p, own, value⟩ := Option.bind_eq_some_iff.1 held
  refine ⟨p, own, ?_⟩
  unfold Property.value? at value
  split at value
  · next x slot =>
    cases value
    exact slot
  · cases value

/-- An object of a new engine is as it was, as long as none has been altered. -/
theorem object_intrinsic (unaltered : store.altered = []) {i : Intrinsic}
    (notGlobal : i ≠ .holder .global) : store.object (.intrinsic i) = i.initial := by
  unfold object
  split
  · next same => cases same; exact absurd rfl notGlobal
  · next same => cases same; rw [unaltered]; rfl
  · next same => cases same

end Store

namespace Routine

variable {store : Store} {scope : Scope} {name : String} {v : Value}

/-- A variable of the innermost frame is read. -/
theorem readVariable_local {frame : Nat} {outer : List Nat} {strict : Bool}
    (cell : Store.cell? name (store.frames.getD frame []) = some v) :
    (readVariable ⟨frame :: outer, strict⟩ name).run store = .done (.ok v, store) := by
  have found : store.findLocal name (frame :: outer) = some (frame, v) := by
    rw [Store.findLocal, cell]
  have read : (readVariable? ⟨frame :: outer, strict⟩ name).run store =
      .done (.ok (some v), store) := by
    refine (run_get_bind _ store).trans ?_
    rw [found]
    rfl
  exact (run_bind_of_done read).trans rfl

/-- A member that an object holds itself is read. -/
theorem memberNamed_own {r : Ref} {p : Property}
    (own : (store.object r).own? (.name name) = some p) (slot : p.slot = .data v) :
    (memberNamed (.object r) name).run store = .done (.ok v, store) := by
  refine (run_get_bind _ store).trans ?_
  show (readSlot _ (store.property? r (.name name))).run store = _
  rw [Store.property?_of_own own, readSlot, slot]
  rfl

/-- A member that an object of a new engine holds is read. -/
theorem memberNamed_run (unaltered : store.altered = []) {i : Intrinsic}
    (notGlobal : i ≠ .holder .global) {p : Property} (own : i.initial.own? (.name name) = some p)
    (slot : p.slot = .data v) :
    (memberNamed (.object (.intrinsic i)) name).run store = .done (.ok v, store) :=
  memberNamed_own (by rw [Store.object_intrinsic unaltered notGlobal, own]) slot

end Routine

/-! ## The JSON text of a list of texts -/

/-- A list has no members by name. -/
theorem Properties.find?_ofItems_name (name : String) (start : Nat) (items : List Value) :
    find? (.name name) (ofItems start items) = none := by
  induction items generalizing start with
  | nil => rfl
  | cons v items ih => simpa [ofItems, find?] using ih (start + 1)

/-- The members of a list are its items. -/
theorem Properties.find?_ofItems_index (start k : Nat) (items : List Value) :
    find? (.index (start + k)) (ofItems start items) = items[k]?.map .plain := by
  induction items generalizing start k with
  | nil => rfl
  | cons v items ih =>
    rw [ofItems, find?]
    cases k with
    | zero => simp
    | succ k =>
      rw [if_neg (by simp), show start + (k + 1) = start + 1 + k by omega, ih]
      simp

namespace Store

variable {store : Store} {r : Ref} {items : List Value}

/-- A list of a script has no method that writes it as JSON, nor has anything that it inherits
from. -/
theorem property?_toJSON (unaltered : store.altered = [])
    (listed : store.object r = .ofItems items) :
    store.property? r (.name "toJSON") = none := by
  have own : (Object.ofItems items).own? (.name "toJSON") = none :=
    Properties.find?_ofItems_name "toJSON" 0 items
  have ofLists : store.object (.prototype .list) = Intrinsic.initial (.holder (.prototype .list)) :=
    object_intrinsic unaltered nofun
  have ofObjects : store.object (.prototype .object) =
      Intrinsic.initial (.holder (.prototype .object)) :=
    object_intrinsic unaltered nofun
  have ownOfLists : (Intrinsic.initial (.holder (.prototype .list))).own? (.name "toJSON") = none :=
    rfl
  have ownOfObjects :
      (Intrinsic.initial (.holder (.prototype .object))).own? (.name "toJSON") = none := rfl
  -- the list, its prototype, the prototype of all objects, and then there is nothing left
  show store.along (.name "toJSON") (store.heap.size + 4 * store.altered.length + 4 + 1 + 1 + 1 + 1)
    (some r) = none
  rw [along, listed]
  simp only [own]
  show store.along _ _ (some (.prototype .list)) = none
  rw [along, ofLists]
  simp only [ownOfLists]
  show store.along _ _ (some (.prototype .object)) = none
  rw [along, ofObjects]
  simp only [ownOfObjects]
  rfl

/-- The items of a list are found under their indices. -/
theorem property?_item (listed : store.object r = .ofItems items) {k : Nat} {v : Value}
    (item : items[k]? = some v) : store.property? r (.index k) = some (.plain v) := by
  refine property?_of_own ?_
  rw [listed]
  show Properties.find? (.index k) (Properties.ofItems 0 items) = _
  have found := Properties.find?_ofItems_index 0 k items
  rw [Nat.zero_add, item] at found
  exact found

end Store

namespace Routine

variable {store : Store} {r : Ref} {texts : List Units}

/-- The JSON text of a text, at every depth that is left. -/
theorem jsonWithin_text (levels : Nat) (place : JsonPlace) (s : Units) :
    (jsonWithin {} (levels + 1) place (.text s)).run store =
      .done (.ok (some (Text.jsonUnits s)), store) := rfl

/-- The JSON texts of the items of a list of texts, from an index on. -/
theorem walk_jsonItems (listed : store.object r = .ofItems (texts.map .text)) (levels : Nat)
    (place : JsonPlace) (n k : Nat) (acc : List Units) (total : k + n = texts.length) :
    (walk (fun k (acc : List Units) => do
        let v ← get (.object r) (.index k)
        let s ← jsonWithin {} (levels + 1) (JsonPlace.member place {} r (.index k)) v
        pure (.inl (s.getD (Units.ofString "null") :: acc))) List.reverse n k acc).run store =
      .done (.ok (acc.reverse ++ (texts.drop k).map Text.jsonUnits), store) := by
  -- the literals of the items before `k` are in the accumulator, last first
  induction n generalizing k acc with
  | zero =>
    rw [List.drop_eq_nil_of_le (by omega), List.map_nil, List.append_nil]
    rfl
  | succ n ih =>
    have inside : k < texts.length := by omega
    have item : (texts.map Value.text)[k]? = some (.text texts[k]) := by simp [inside]
    have read : (get (.object r) (.index k)).run store = .done (.ok (.text texts[k]), store) := by
      refine (run_get_bind _ store).trans ?_
      show (readSlot _ (store.property? r (.index k))).run store = _
      rw [Store.property?_item listed item]
      rfl
    rw [walk, run_bind, run_bind_of_done read, run_bind_of_done (jsonWithin_text levels _ _)]
    refine (ih (k + 1) _ (by omega)).trans ?_
    rw [List.drop_eq_getElem_cons inside]
    simp only [Option.getD_some, List.reverse_cons, List.append_assoc, List.singleton_append,
      List.map_cons]

/-- The JSON text of a list of texts. -/
theorem jsonList_run (listed : store.object r = .ofItems (texts.map .text)) (levels : Nat)
    (place : JsonPlace) :
    (jsonList {} (jsonWithin {} (levels + 1)) place r).run store =
      .done (.ok (jsonBracketed {} place.indent "[" "]" (texts.map Text.jsonUnits)), store) := by
  have length : (lengthOf (.object r)).run store = .done (.ok texts.length, store) := by
    refine (run_get_bind _ store).trans ?_
    have known : store.listLength? (.object r) = some texts.length := by
      rw [Store.listLength?, listed]
      simp [Object.ofItems]
    rw [known]
    rfl
  have items := walk_jsonItems listed levels place texts.length 0 [] (Nat.zero_add _)
  rw [jsonList, run_bind_of_done length, run_bind_of_done items]
  rfl

/-- A list of texts is written as it is. -/
theorem jsonReplaced_run (unaltered : store.altered = [])
    (listed : store.object r = .ofItems (texts.map .text)) (place : JsonPlace) :
    (jsonReplaced {} place (.object r)).run store = .done (.ok (.object r), store) := by
  have method : (getNamed (.object r) "toJSON").run store = .done (.ok .undefined, store) := by
    refine (run_get_bind _ store).trans ?_
    show (readSlot _ (store.property? r (.name "toJSON"))).run store = _
    rw [Store.property?_toJSON unaltered listed]
    rfl
  exact (run_bind_of_done method).trans rfl

/-- The JSON text of a list of texts that stands in no other object. -/
theorem jsonWithin_list (unaltered : store.altered = [])
    (listed : store.object r = .ofItems (texts.map .text)) (levels : Nat) {place : JsonPlace}
    (outermost : place.around = []) :
    (jsonWithin {} (levels + 2) place (.object r)).run store =
      .done (.ok (some (jsonBracketed {} place.indent "[" "]" (texts.map Text.jsonUnits))),
        store) := by
  have compound : (jsonCompound {} (jsonWithin {} (levels + 1)) place r).run store =
      .done (.ok (some (jsonBracketed {} place.indent "[" "]" (texts.map Text.jsonUnits))),
        store) := by
    rw [jsonCompound, outermost, if_neg (by simp)]
    refine (run_get_bind _ store).trans ?_
    have isList : (Object.ofItems (texts.map Value.text)).isList = true := rfl
    rw [listed, if_pos isList, run_bind_of_done (jsonList_run listed levels place)]
    rfl
  rw [jsonWithin, jsonStep, run_bind_of_done (jsonReplaced_run unaltered listed place)]
  refine (run_get_bind _ store).trans ?_
  rw [listed]
  exact compound

/-- `JSON.stringify` writes a list of texts as the array of their literals. -/
theorem stringify_run (unaltered : store.altered = [])
    (listed : store.object r = .ofItems (texts.map .text)) :
    (stringify [.object r]).run store =
      .done (.ok (.text (jsonBracketed {} [] "[" "]" (texts.map Text.jsonUnits))), store) := by
  have style : (jsonStyle .undefined .undefined).run store = .done (.ok {}, store) := rfl
  have form : (jsonWithin {} jsonLevels {} (.object r)).run store =
      .done (.ok (some (jsonBracketed {} [] "[" "]" (texts.map Text.jsonUnits))), store) :=
    jsonWithin_list unaltered listed 998 rfl
  rw [stringify]
  refine (run_bind_of_done style).trans ?_
  exact (run_bind_of_done form).trans rfl

/-- The array of the literals of script texts is that of the literals of the texts. -/
theorem jsonBracketed_texts (ws : List (List Char)) :
    jsonBracketed {} [] "[" "]" ((ws.map Units.ofChars).map Text.jsonUnits) =
      Units.ofString (String.ofList (Text.jsonStrings ws)) := by
  have literals : (ws.map Units.ofChars).map Text.jsonUnits =
      (ws.map Text.jsonString).map Units.ofChars := by
    simp [Text.jsonUnits_ofChars]
  rw [literals, Text.Units.ofString_ofList, Text.jsonStrings, jsonBracketed]
  split
  · next empty =>
    have none : ws = [] := by simpa using empty
    rw [none]
    rfl
  · have compact : ({} : JsonStyle).gap.isEmpty = true := rfl
    rw [if_pos compact, Text.join_ofChars]
    simp [Units.ofString]

end Routine

/-! ## The echo -/

/-- The body of a function that prints its argument as JSON. -/
def echoBody : List Stmt :=
  [.expr (.call (.member (.read "console") "log")
    [.call (.member (.read "JSON") "stringify") [.read "args"]])]

/-- Whether a file only defines the entry function, with that body. -/
def isEcho : Statements → Bool
  | [.define entry [.expr (.call (.member (.read space) method)
      [.call (.member (.read inner) innerMethod) [.read argument]])]] =>
    decide ([entry, space, method, inner, innerMethod, argument] =
      [Entry.functionName, "console", "log", "JSON", "stringify", "args"])
  | _ => false

/-- A program that is found to be the echoing one is equal to it. -/
theorem eq_of_isEcho {program : Statements} (echo : isEcho program = true) :
    program = [.define Entry.functionName echoBody] := by
  unfold isEcho at echo
  split at echo
  · obtain ⟨rfl, rfl, rfl, rfl, rfl, rfl⟩ : _ ∧ _ ∧ _ ∧ _ ∧ _ ∧ _ := by
      simpa only [decide_eq_true_eq, List.cons.injEq, and_true] using echo
    rfl
  · cases echo

/-- The object of a new engine that holds functions together. -/
def Space.value (s : Space) : Value := .object (.intrinsic (.holder (.space s)))

/-- An engine with an entry function that prints its argument as JSON, with everything that the
function uses as it is in a new engine, and with stack for the function and for what it calls. -/
structure Engine.Echoes (engine : Engine) : Prop where
  unbounded : engine.Unbounded
  room : 2 ≤ engine.left
  unaltered : engine.altered = []
  console : engine.Holds "console" Space.console.value
  json : engine.Holds "JSON" Space.json.value
  entry : Eval.DefinesEntry engine echoBody

namespace Engine.Echoes

variable {engine : Engine}

/-- An engine that looks at the clock still echoes. -/
theorem tick (echoes : engine.Echoes) : engine.tick.Echoes :=
  ⟨⟨echoes.unbounded.untimed, echoes.unbounded.unstacked⟩, echoes.room, echoes.unaltered,
    echoes.console, echoes.json, echoes.entry⟩

/-- So does one at any depth of files. -/
theorem atLevel (echoes : engine.Echoes) (level : Nat) :
    Engine.Echoes { engine with nesting := level } :=
  ⟨⟨echoes.unbounded.untimed, echoes.unbounded.unstacked⟩, echoes.room, echoes.unaltered,
    echoes.console, echoes.json, echoes.entry⟩

/-- So does one inside a call. -/
theorem pushFrame (echoes : engine.Echoes) (frame : Frame) :
    (engine.withStore (engine.toStore.pushFrame frame).2).Echoes :=
  ⟨⟨echoes.unbounded.untimed, echoes.unbounded.unstacked⟩, echoes.room, echoes.unaltered,
    echoes.console, echoes.json, echoes.entry⟩

/-- So does one with a new object. -/
theorem allocate (echoes : engine.Echoes) (o : Object) :
    (engine.withStore (engine.toStore.allocate o).2).Echoes :=
  ⟨⟨echoes.unbounded.untimed, echoes.unbounded.unstacked⟩, echoes.room, echoes.unaltered,
    echoes.console, echoes.json, Eval.DefinesEntry.allocate echoes.entry o⟩

/-- A driver that only defines the echo makes a new engine echo. -/
theorem of_onlyDefines {i : Interpreter} (room : 2 ≤ i.levels)
    (defines : engine.OnlyDefines i echoBody) : engine.Echoes :=
  ⟨defines.unbounded, defines.whole ▸ room, defines.unaltered,
    defines.others (by decide) ⟨_, rfl, rfl⟩, defines.others (by decide) ⟨_, rfl, rfl⟩,
    defines.entry⟩

end Engine.Echoes

namespace Eval

/-! ## Showing a text -/

section

variable {α β : Type} {engine : Engine}

/-- A computation calls the console with a text, as the only native that it calls. If the engine is
left as it is, the computation comes to a value of which, with the engine then, `Q` holds. -/
def Shows (x : Eval α) (engine : Engine) (text : String) (Q : α → Engine → Prop) : Prop :=
  ∃ state a after, Calls x engine .console [Value.ofString text] state (.value .undefined, state)
    (.ok a, after) ∧ Q a after

namespace Shows

variable {text : String}

/-- A run that is equal to another one shows what that does. -/
theorem of_run_eq {x y : Eval α} {later : Engine} {Q : α → Engine → Prop}
    (same : x.run engine = y.run later) (shows' : Shows y later text Q) :
    Shows x engine text Q := by
  obtain ⟨state, a, after, calls, holds⟩ := shows'
  exact ⟨state, a, after, calls.of_run_eq same, holds⟩

/-- The text is shown by the second part of a sequence. -/
theorem step {x : Eval α} {f : α → Eval β} {a : α} {after : Engine} {Q : β → Engine → Prop}
    (given : x.run engine = .done (.ok a, after)) (shows' : Shows (f a) after text Q) :
    Shows (x >>= f) engine text Q := shows'.of_run_eq (run_bind_of_done given)

/-- The text is shown by the first part of a sequence, and the second calls nothing. -/
theorem bind {x : Eval α} {f : α → Eval β} {P : α → Engine → Prop} {Q : β → Engine → Prop}
    (shows' : Shows x engine text P)
    (rest : ∀ a after, P a after → ∃ b last, (f a).run after = .done (.ok b, last) ∧ Q b last) :
    Shows (x >>= f) engine text Q := by
  obtain ⟨state, a, after, calls, holds⟩ := shows'
  obtain ⟨b, last, ran, holdsThen⟩ := rest a after holds
  exact ⟨state, b, last, calls.bind ran, holdsThen⟩

/-- The text is shown inside a file. -/
theorem nested {x : Eval α} {P Q : α → Engine → Prop}
    (shows' : Shows x { engine with nesting := engine.nesting + 1 } text P)
    (closed : ∀ a after, P a after → Q a { after with nesting := engine.nesting }) :
    Shows (Eval.nested x) engine text Q := by
  obtain ⟨state, a, after, calls, holds⟩ := shows'
  exact ⟨state, a, _, calls.nested, closed a after holds⟩

end Shows

end

variable {self : Evaluator} {engine : Engine}

/-- A call of a method of a global, up to what the method does. -/
theorem methodCall_run {scope : Scope} {space method : String} {object f : Value}
    {args : List Expr} {given : List Value} {later : Engine}
    (read : (Routine.readVariable scope space).run engine.toStore =
      .done (.ok object, engine.toStore))
    (member : (Routine.memberNamed object method).run engine.toStore =
      .done (.ok f, engine.toStore))
    (evaluated : ((Expr.evalAll scope args).eval self).run engine = .done (.ok given, later)) :
    (((Expr.call (.member (.read space) method) args).eval scope).eval self).run engine =
      (self.call f object given).run later := by
  rw [Expr.eval, Expr.eval, Routine.eval_bind, run_bind_of_done (Routine.eval_reads read),
    Routine.eval_bind, run_bind_of_done (Routine.eval_reads member), Routine.eval_bind,
    run_bind_of_done evaluated, Routine.eval_call]

/-- A function that a new engine has is what it was, as long as nothing has been altered. -/
theorem kind_intrinsic (unaltered : engine.altered = []) (o : Owner) (name : String) :
    (engine.object (.intrinsic (.method o name))).kind = .builtin (.method o name) :=
  congrArg Object.kind (Store.object_intrinsic (i := .method o name) unaltered nofun)

/-- A call of a function that the language or the bridge provides, up to what the function does. -/
theorem callStep_builtin (untimed : engine.timeout = none) {r : Ref} {i : Intrinsic}
    (kind : (engine.object r).kind = .builtin i) (this : Value) (args : List Value) :
    (callStep self (.object r) this args).run engine =
      (callBuiltin self i this args).run engine.tick := by
  have kindThen : (engine.tick.object r).kind = .builtin i := kind
  rw [callStep, run_bind_of_done (poll_run untimed), run_get_bind, kindThen]

/-- A call of a function that a new engine has, up to what the function does. -/
theorem callStep_intrinsic (untimed : engine.timeout = none) {o : Owner} {name : String}
    (kind : (engine.object (.intrinsic (.method o name))).kind = .builtin (.method o name))
    (this : Value) (args : List Value) :
    (callStep self (o.method name) this args).run engine =
      (callBuiltin self (.method o name) this args).run engine.tick :=
  callStep_builtin untimed kind this args

/-- `JSON.stringify`, called with a list of texts. -/
theorem stringify_call (untimed : engine.timeout = none) (unaltered : engine.altered = [])
    {r : Ref} {texts : List Units} (listed : engine.object r = .ofItems (texts.map .text))
    (this : Value) :
    (callStep self ((Owner.space .json).method "stringify") this [.object r]).run engine =
      .done (.ok (.text (Routine.jsonBracketed {} [] "[" "]" (texts.map Text.jsonUnits))),
        engine.tick) := by
  rw [callStep_intrinsic untimed (kind_intrinsic unaltered _ _)]
  exact Routine.eval_reads (Routine.stringify_run unaltered listed)

/-- `console.log`, called with a text, shows it. -/
theorem consoleLog_shows (untimed : engine.timeout = none)
    (kind : (engine.object (.intrinsic (.method (.space .console) "log"))).kind =
      .builtin (.method (.space .console) "log")) (text : String) (this : Value) :
    Shows (callStep self ((Owner.space .console).method "log") this [Value.ofString text]) engine
      text
      fun _ after => after = engine.tick :=
  ⟨{ engine.tick with left := self.left }, .undefined, engine.tick,
    .of_run_eq (callStep_intrinsic untimed kind this _) (.callNative self.left .console _ _ _), rfl⟩

/-! ## The entry function -/

/-- The variables of a call of the echo: its argument is a list. -/
def echoFrame (receiver : Value) (r : Ref) (given : Ref) : Frame :=
  [("this", receiver), ("args", .object r), ("arguments", .object given)]

/-- The echo of a list of texts shows the array of their literals. -/
theorem echoBody_shows (echoes : engine.Echoes) {frame : Nat} {strict : Bool} {receiver : Value}
    {r given : Ref} (opened : engine.frames.getD frame [] = echoFrame receiver r given)
    {ws : List (List Char)}
    (listed : engine.object r = .ofItems ((ws.map Units.ofChars).map .text)) :
    Shows (runBlock (.deeper self) ⟨[frame], strict⟩ echoBody) engine
      (String.ofList (Text.jsonStrings ws)) fun ended after => ended = .normal ∧
        after.timeout = none := by
  have hidden : ∀ name, Store.cell? name (echoFrame receiver r given) = none →
      engine.findLocal name [frame] = none := fun _ missing =>
    Store.findLocal_of_missing (by rw [opened, missing])
  have console : (Routine.readVariable ⟨[frame], strict⟩ "console").run engine.toStore =
      .done (.ok Space.console.value, engine.toStore) :=
    Routine.readVariable_run (hidden _ rfl) echoes.console
  have log : (Routine.memberNamed Space.console.value "log").run engine.toStore =
      .done (.ok ((Owner.space .console).method "log"), engine.toStore) :=
    Routine.memberNamed_run echoes.unaltered (by simp) (p := .plain _) rfl rfl
  have json : (Routine.readVariable ⟨[frame], strict⟩ "JSON").run engine.toStore =
      .done (.ok Space.json.value, engine.toStore) :=
    Routine.readVariable_run (hidden _ rfl) echoes.json
  have stringify : (Routine.memberNamed Space.json.value "stringify").run engine.toStore =
      .done (.ok ((Owner.space .json).method "stringify"), engine.toStore) :=
    Routine.memberNamed_run echoes.unaltered (by simp) (p := .quiet _) rfl rfl
  have args : (Expr.evalAll ⟨[frame], strict⟩ [.read "args"]).run engine.toStore =
      .done (.ok [.object r], engine.toStore) := by
    rw [Expr.evalAll, Expr.eval, Routine.run_bind_of_done
      (Routine.readVariable_local (v := .object r) (by rw [opened]; rfl))]
    rfl
  -- the argument of the console is what the inner call gives
  have inner : (((Expr.call (.member (.read "JSON") "stringify") [.read "args"]).eval
      ⟨[frame], strict⟩).eval (.deeper self)).run engine =
        .done (.ok (Value.ofString (String.ofList (Text.jsonStrings ws))), engine.tick) := by
    refine (methodCall_run json stringify (Routine.eval_reads args)).trans ?_
    refine (stringify_call echoes.unbounded.untimed echoes.unaltered listed _).trans ?_
    rw [Routine.jsonBracketed_texts]
    rfl
  have texts : ((Expr.evalAll ⟨[frame], strict⟩
      [.call (.member (.read "JSON") "stringify") [.read "args"]]).eval (.deeper self)).run engine =
        .done (.ok [Value.ofString (String.ofList (Text.jsonStrings ws))], engine.tick) := by
    rw [Expr.evalAll, Routine.eval_bind, run_bind_of_done inner]
    rfl
  rw [echoBody, runBlock_expr]
  have installed := kind_intrinsic echoes.tick.unaltered (.space .console) "log"
  refine .bind (.of_run_eq (methodCall_run console log texts)
    (consoleLog_shows echoes.tick.unbounded.untimed installed _ _)) ?_
  rintro _ after rfl
  exact ⟨.normal, _, rfl, rfl, echoes.unbounded.untimed⟩

/-- The entry function, called with a list of texts, shows the array of their literals. -/
theorem entry_shows (echoes : engine.Echoes) {n : Nat} {name : String} {index : Nat}
    {strict : Bool}
    (kind : (engine.object (.made n)).kind = .function (.body name index) { strict := strict })
    (body : engine.bodies.getD index [] = echoBody) {k : Nat} (old : k < engine.heap.size)
    {ws : List (List Char)}
    (listed : engine.object (.made k) = .ofItems ((ws.map Units.ofChars).map .text)) :
    Shows (callStep (.deeper self) (.object (.made n)) .undefined [.object (.made k)]) engine
      (String.ofList (Text.jsonStrings ws)) fun _ after => after.timeout = none := by
  obtain ⟨receiver, entered⟩ := callStep_body echoes.unbounded.untimed kind body [.object (.made k)]
  -- the object of the arguments, and the frame of the call
  have echoesThen := (echoes.tick.allocate (.ofArguments (.object (.made n))
    [.object (.made k)])).pushFrame (echoFrame receiver (.made k) (.made engine.heap.size))
  have opened := (engine.allocate
    (.ofArguments (.object (.made n)) [.object (.made k)])).2.frame_pushFrame
    (echoFrame receiver (.made k) (.made engine.heap.size))
  have listedThen := (Store.object_allocate_of_lt engine.toStore (.ofArguments (.object (.made n))
    [.object (.made k)]) old).trans listed
  refine ((echoBody_shows echoesThen opened listedThen).bind ?_).of_run_eq entered
  rintro _ after ⟨rfl, untimed⟩
  exact ⟨.undefined, after, rfl, untimed⟩

/-- The entry script shows the array of its texts. -/
theorem entryScript_shows (echoes : engine.Echoes) (ws : List (List Char)) (message : String) :
    Shows (runScript (.deeper (.deeper self)) (.ok (entryScript (ws.map String.ofList) message)))
      engine (String.ofList (Text.jsonStrings ws)) fun _ _ => True := by
  obtain ⟨n, name, index, strict, old, holds, kind, body⟩ := echoes.entry
  have items : (ws.map String.ofList).map Value.ofString = (ws.map Units.ofChars).map .text := by
    simp [Value.ofString, Text.Units.ofString_ofList]
  -- the list of the texts is a new object, so the entry function is still the one it was
  have kindThen := (congrArg Object.kind (Store.object_allocate_of_lt engine.toStore
    (.ofItems ((ws.map String.ofList).map Value.ofString)) old)).trans kind
  have listed := (Store.object_allocate_self engine.toStore
    (.ofItems ((ws.map String.ofList).map Value.ofString))).trans (congrArg Object.ofItems items)
  have made : engine.heap.size <
      (engine.heap.push (.ofItems ((ws.map String.ofList).map Value.ofString))).size := by
    rw [Array.size_push]
    omega
  refine .of_run_eq
    (entryScript_calls echoes.unbounded.untimed holds kind (ws.map String.ofList) message)
    (.bind (entry_shows (echoes.tick.tick.allocate _) kindThen body made listed) ?_)
  intro _ after untimed
  exact ⟨(), after.tick, poll_run untimed, trivial⟩

end Eval

/-- The entry expression, evaluated in an echoing engine, shows the array of the words of the
argument text. -/
theorem Interpreter.evaluate_shows {i : Interpreter} {engine : Engine} (reads : i.ReadsEntry)
    (echoes : engine.Echoes) (shallow : engine.nesting < i.files) (args : String) :
    Eval.Shows (i.evaluate (Entry.expression args)) engine (String.ofList (Entry.literal args))
      fun _ _ => True := by
  obtain ⟨levels, room⟩ := Nat.exists_eq_add_of_le' echoes.room
  have evaluated := evaluate_run echoes.unbounded shallow (Entry.expression args)
  rw [reads.compile_expression, room] at evaluated
  have shown : Eval.Shows (Eval.runScript (.withStack i.rounds (levels + 2))
      (.ok (entryScript (Text.words args) Entry.missingText)))
      { engine with nesting := engine.nesting + 1 } (String.ofList (Entry.literal args))
      fun _ _ => True := Eval.entryScript_shows (echoes.atLevel _) _ _
  exact (shown.nested fun _ _ _ => trivial).of_run_eq evaluated

end DecompilerBridge.Script

namespace DecompilerBridge

open Bridge (Closes)
open Script (Interpreter Engine Value)

/-! ## The console -/

namespace Script.Interpreter

variable {i : Interpreter} {resolver : Resolver} {limits : Limits}

/-- The console, called with a text, has the text printed as one line. -/
theorem console_closes {serve : Natives Engine Value} {live : Live Engine} (text : String) :
    Closes ((i.machine resolver limits).nativeConsole serve [Value.ofString text]) live
      (.print (text ++ "\n")) (.granted ()) (.ok .undefined, live) := by
  have converted : (Bridge.within serve (i.engine.toText (Value.ofString text))).run live =
      .done (.ok (Value.ofString text), live) := Bridge.within_run_of_value rfl
  have spelled : (i.engine.textArgument serve "console" [Value.ofString text]).run live =
      .done (.ok text, live) := by
    refine (Bridge.run_state_bind _ live).trans ?_
    rw [(i.isText live.state text).spelled]
    rfl
  have texts : ((i.machine resolver limits).consoleTexts serve [Value.ofString text]).run live =
      .done (.ok [text], live) := by
    refine (Bridge.run_bind_of_done (Bridge.check_run_of_value converted)).trans ?_
    exact (Bridge.run_bind_of_done spelled).trans rfl
  refine .step texts ((Closes.ask _ _).bind rfl)

/-- What is shown in an engine is printed, where the stack has room for a native. -/
theorem within_closes (room : 0 < i.levels) {α : Type} {x : Eval α} {live : Live Engine}
    {text : String} {Q : α → Engine → Prop} (shown : Eval.Shows x live.state text Q) :
    ∃ a after, Closes (Bridge.within (i.machine resolver limits).natives x) live
      (.print (text ++ "\n")) (.granted ()) (.ok a, ⟨after, live.parked⟩) ∧ Q a after := by
  obtain ⟨state, a, after, ⟨next, calls, given⟩, holds⟩ := shown
  obtain ⟨depth, deep⟩ := Nat.exists_eq_succ_of_ne_zero (Nat.pos_iff_ne_zero.1 room)
  have natives : (i.machine resolver limits).natives .console [Value.ofString text] =
      (i.machine resolver limits).nativeConsole
        ((i.machine resolver limits).nativesWithin depth) [Value.ofString text] := by
    show (i.machine resolver limits).nativesWithin i.levels _ _ = _
    rw [deep]
    rfl
  have closes := (console_closes text).of_run_eq
    (congrArg (fun x : Bridge Engine Value Value => x.run ⟨state, live.parked⟩) natives)
  exact ⟨a, after, Closes.within calls closes given, holds⟩

end Script.Interpreter

/-! ## Packages with an echo -/

namespace Script.Interpreter

/-- A package without limits whose driver defines an entry function that prints its argument as
JSON, for an interpreter with stack for that. Loading the driver does nothing else that the host
could see. -/
structure Echoes (i : Interpreter) (resolver : Resolver) : Prop where
  reads : i.ReadsEntry
  room : 2 ≤ i.levels
  files : 0 < i.files
  driver : ∀ readings, Bridge.UnseenValue (Invocation.loadDriver (i.machine resolver))
    ⟨i.newEngine {} readings, none⟩ fun _ after => after.parked = none ∧
      after.state.nesting = 0 ∧ after.state.Echoes

/-- Whether the driver file of a package is there and only defines the echo. -/
def hasEchoDriver (i : Interpreter) (resolver : Resolver) : Bool :=
  match (resolver.read .load driverFile).1 with
  | .ok found =>
    (nulOffset? found.text).isNone &&
      match i.compile found.text with
      | .ok program => isEcho program
      | .error _ => false
  | .error _ => false

variable {i : Interpreter} {resolver : Resolver}

/-- A package whose driver is found to be the echoing one has it as its driver. -/
theorem program?_of_hasEchoDriver (driver : i.hasEchoDriver resolver = true) :
    i.program? resolver .load driverFile = some [.define Entry.functionName echoBody] := by
  unfold hasEchoDriver at driver
  split at driver
  · next found looked =>
    obtain ⟨plain, compiled⟩ := Bool.and_eq_true_iff.1 driver
    split at compiled
    · next program read =>
      simp only [program?, looked, read, if_pos plain, eq_of_isEcho compiled, Except.toOption]
    · cases compiled
  · cases driver

/-- A package that has such a driver file is one. -/
theorem echoes_of_hasEchoDriver (reads : i.ReadsEntry) (room : 2 ≤ i.levels) (files : 0 < i.files)
    (driver : i.hasEchoDriver resolver = true) : i.Echoes resolver where
  reads := reads
  room := room
  files := files
  driver readings := (Invocation.loadDriver_defines files (program?_of_hasEchoDriver driver)
    readings).mono fun _ _ ⟨a, given, unparked, defines⟩ =>
      ⟨a, given, unparked, defines.outermost, .of_onlyDefines room defines⟩

end Script.Interpreter

namespace Invocation

/-- The entry expression of a package with an echo makes one request: that the array of the words of
the argument text is printed. -/
theorem entry_echoes {i : Interpreter} {resolver : Resolver} (echo : i.Echoes resolver)
    {live : Live Engine} (outermost : live.state.nesting = 0) (echoes : live.state.Echoes)
    (args : String) : ∃ after, Closes (Bridge.within (i.machine resolver).natives
      (i.engine.evaluate (Entry.expression args))) live
        (.print (String.ofList (Entry.literal args) ++ "\n")) (.granted ())
        (.ok (), ⟨after, live.parked⟩) := by
  have shown := Interpreter.evaluate_shows echo.reads echoes (outermost ▸ echo.files) args
  obtain ⟨_, after, closes, -⟩ := Interpreter.within_closes (Nat.lt_of_succ_lt echo.room) shown
  exact ⟨after, closes⟩

end Invocation

end DecompilerBridge
