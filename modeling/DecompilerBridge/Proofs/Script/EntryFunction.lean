import DecompilerBridge.Proofs.Run.EntryCall
import DecompilerBridge.Proofs.Script.Runs

/-!
# The entry function of a package

An interpreter reads an entry expression as what it is in the language, the call of a function with
a list of texts (`Interpreter.ReadsEntry`). The array literal of an entry expression spells the
words of the argument text, so it is the list of the words that the entry function is called with
(`ReadsEntry.compile_expression`).

A driver file that only defines the entry function leaves an engine that differs from a new one in
that function alone (`Engine.OnlyDefines`, `loadDriver_defines`).

In an engine without a deadline, the entry script is taken apart by equations, each of which says
how a computation goes on: the script as the call of the entry function with the list of the words,
if there is such a function, and as the message that it is missing otherwise (`entryScript_run`,
`entryScript_calls`), and the call of a function as its body in the frame of the call
(`callStep_body`). They hold whatever the body does, so they go before every rule for how it ends.
-/

set_option autoImplicit false

namespace DecompilerBridge.Script

/-! ## The entry expression -/

/-- An interpreter reads entry expressions: code around an array literal and a string literal is
read as the entry script with what the literals spell. -/
def Interpreter.ReadsEntry (i : Interpreter) : Prop :=
  ∀ {array said : List Char} {tokens : List String} {message : String},
    Json.Spells array (.array (tokens.map .string)) → Json.StringLiteral said message →
      i.compile (Entry.opening ++ String.ofList array ++
        (Entry.between ++ String.ofList said ++ Entry.ending)) = .ok (entryScript tokens message)

/-- What is read of the entry expression is the call with the words of the argument text. -/
theorem Interpreter.ReadsEntry.compile_expression {i : Interpreter} (reads : i.ReadsEntry)
    (args : String) :
    i.compile (Entry.expression args) = .ok (entryScript (Text.words args) Entry.missingText) := by
  have spelled := Json.spells_jsonStrings (Text.wordLists args.toList)
  have items : (Text.wordLists args.toList).map (fun cs => Json.Written.string (String.ofList cs)) =
      (Text.words args).map .string := (List.map_map ..).symm
  rw [items] at spelled
  have said := Json.StringLiteral.jsonString Entry.missingText.toList
  rw [String.ofList_toList] at said
  exact reads spelled said

/-- A value that stands behind fixed letters is read with them. -/
theorem valueAfter?_append (lead : String) {cs : List Char} {v : Json} {rest : List Char}
    (read : Json.scanValue (2 * cs.length + 2) cs = .ok (v, rest)) :
    valueAfter? lead (lead.toList ++ cs) = some (v, rest) := by
  rw [valueAfter?, List.isPrefixOf?_eq_some_iff_append_eq.2 rfl]
  show (Json.scanValue (2 * cs.length + 2) cs).toOption = _
  rw [read]
  rfl

/-- Items that are all texts are read as texts. -/
theorem mapM_jsonText? (tokens : List String) :
    (tokens.map Json.string).mapM jsonText? = some tokens := by
  induction tokens with
  | nil => rfl
  | cons s rest ih =>
    rw [List.map_cons, List.mapM_cons, ih]
    rfl

/-- The interpreter of scripts that are written as JSON reads entry expressions. -/
theorem jsonInterpreter_readsEntry : jsonInterpreter.ReadsEntry := by
  intro array said tokens message spelled literal
  have chars : Text.chars (Entry.opening ++ String.ofList array ++
      (Entry.between ++ String.ofList said ++ Entry.ending)) =
        Entry.opening.toList ++
          (array ++ (Entry.between.toList ++ (said ++ Entry.ending.toList))) := by
    simp [Text.chars_eq_toList]
  have first := valueAfter?_append Entry.opening (spelled.scanValue_texts
    (show array.length < 2 * (array ++ (Entry.between.toList ++
      (said ++ Entry.ending.toList))).length + 1 by simp; omega)
    (Entry.between.toList ++ (said ++ Entry.ending.toList)))
  have second := valueAfter?_append Entry.between
    (literal.scanValue .nil (2 * (said ++ Entry.ending.toList).length + 1) Entry.ending.toList)
  have entry : readEntry? (Entry.opening.toList ++ (array ++ (Entry.between.toList ++
      (said ++ Entry.ending.toList)))) = some (entryScript tokens message) := by
    rw [ readEntry?, first]
    show (valueAfter? Entry.between _ >>= _) = _
    rw [second]
    show ((if Entry.ending.toList = Entry.ending.toList then
      (tokens.map Json.string).mapM jsonText? >>= fun items => some (entryScript items message)
      else none) : Option Statements) = _
    rw [if_pos rfl, mapM_jsonText?]
    rfl
  show compile _ = _
  rw [compile, chars, entry]

/-! ## Globals -/

namespace Store

variable {store : Store}

/-- A property of the global object holds a value. -/
def Holds (store : Store) (name : String) (v : Value) : Prop :=
  ∃ p, store.global.own? (.name name) = some p ∧ p.slot = .data v

/-- An own property is found first. -/
theorem property?_of_own {r : Ref} {key : Key} {p : Property}
    (own : (store.object r).own? key = some p) : store.property? r key = some p := by
  show store.along key (store.heap.size + 4 * store.altered.length + 7 + 1) (some r) = _
  rw [along]
  simp only [own]

/-- Making an object changes no other. -/
theorem object_allocate_of_lt (store : Store) (o : Object) {n : Nat} (old : n < store.heap.size) :
    (store.allocate o).2.object (.made n) = store.object (.made n) := by
  simp only [allocate, object, Array.getD_eq_getD_getElem?]
  rw [Array.getElem?_push_lt old]
  simp [old]

/-- The object that was made last. -/
theorem object_allocate_self (store : Store) (o : Object) :
    (store.allocate o).2.object (store.allocate o).1 = o := by
  simp [allocate, object, Array.getD_eq_getD_getElem?]

/-- The frame that was opened last. -/
theorem frame_pushFrame (store : Store) (frame : Frame) :
    (store.pushFrame frame).2.frames.getD store.frames.size [] = frame := by
  simp [pushFrame, Array.getD_eq_getD_getElem?]

/-- What the only frame around lacks is no local variable. -/
theorem findLocal_of_missing {name : String} {frame : Nat}
    (missing : cell? name (store.frames.getD frame []) = none) :
    store.findLocal name [frame] = none := by
  rw [findLocal, missing]
  rfl

/-- A variable is not found in a new frame that does not have it. -/
theorem findLocal_pushFrame (store : Store) (frame : Frame) {name : String}
    (missing : cell? name frame = none) :
    (store.pushFrame frame).2.findLocal name [store.frames.size] = none :=
  findLocal_of_missing (by rw [frame_pushFrame, missing])

end Store

namespace Routine

variable {store : Store} {scope : Scope} {name : String} {v : Value}

/-- A global that no variable hides is found. -/
theorem readVariable?_run (hidden : store.findLocal name scope.frames = none)
    (holds : store.Holds name v) :
    (readVariable? scope name).run store = .done (.ok (some v), store) := by
  obtain ⟨p, own, slot⟩ := holds
  have found : store.property? .global (.name name) = some p := Store.property?_of_own own
  have read : (readSlot (.object .global) (some p)).run store = .done (.ok v, store) := by
    rw [readSlot, slot]
    rfl
  refine (run_get_bind _ store).trans ?_
  rw [hidden, found]
  exact (run_bind_of_done read).trans rfl

/-- So it is read. -/
theorem readVariable_run (hidden : store.findLocal name scope.frames = none)
    (holds : store.Holds name v) :
    (readVariable scope name).run store = .done (.ok v, store) :=
  (run_bind_of_done (readVariable?_run hidden holds)).trans rfl

end Routine

/-- Putting one property leaves the others alone. -/
theorem Properties.find?_put_of_ne {key other : Key} (ne : key ≠ other) (p : Property)
    (properties : Properties) : find? other (put key p properties) = find? other properties := by
  induction properties with
  | nil => simp [put, find?, ne]
  | cons entry rest ih =>
    obtain ⟨k, q⟩ := entry
    rw [put]
    split
    · next same =>
      subst same
      rw [find?, find?, if_neg ne, if_neg ne]
    · rw [find?, find?, ih]

/-- Texts are strictly equal exactly if they are equal. -/
theorem Value.strictEq_ofString (a b : String) :
    (Value.ofString a).strictEq (Value.ofString b) = decide (a = b) := by
  show decide (Value.ofString a = Value.ofString b) = _
  refine decide_eq_decide.2 ⟨fun same => ?_, fun same => same ▸ rfl⟩
  have units : Text.Units.ofString a = Text.Units.ofString b := Value.text.inj same
  have texts := congrArg Text.Units.toString? units
  rw [Text.Units.toString?_ofString, Text.Units.toString?_ofString] at texts
  exact Except.ok.inj texts

/-! ## The entry script -/

namespace Eval

variable {self : Evaluator} {engine : Engine}

/-- Texts in an expression are the values that they denote. -/
theorem evalAll_texts (scope : Scope) (ws : List String) (store : Store) :
    (Expr.evalAll scope (ws.map fun w => .ofString w)).run store =
      .done (.ok (ws.map Value.ofString), store) := by
  induction ws with
  | nil => rfl
  | cons s ws ih =>
    have here : (Expr.eval scope (.ofString s)).run store = .done (.ok (Value.ofString s), store) :=
      by rw [Expr.ofString, Expr.eval]; rfl
    rw [List.map_cons, Expr.evalAll, Routine.run_bind_of_done here, Routine.run_bind_of_done ih]
    rfl

/-- A block of one expression. -/
theorem runBlock_expr (scope : Scope) (e : Expr) :
    runBlock self scope [.expr e] = (e.eval scope).eval self >>= fun _ => pure .normal := by
  rw [runBlock, Stmt.run, bind_assoc]
  rfl

/-- A script is hoisted, and then its statements run. -/
theorem runScript_run (untimed : engine.timeout = none) (statements : Statements) :
    (runScript self (.ok statements)).run engine = (do
      hoist self (opensStrict statements) statements
      let _ ← runBlock self { strict := opensStrict statements } statements
      pure () : Eval Unit).run engine.tick :=
  run_bind_of_done (poll_run untimed)

/-- The condition of the entry call asks for the kind of value that the entry function is. -/
theorem entryCondition_eval : (Expr.eval {} (.strictEq (.typeOf (.read Entry.functionName))
    (.ofString "function"))).eval self = (do
      let found ← (Routine.readVariable? {} Entry.functionName).eval self
      pure (.bool (decide (found.elim "undefined" (← get).typeOf = "function"))) : Eval Value) := by
  rw [Expr.eval, Expr.eval, Routine.eval_bind, Routine.eval_bind, bind_assoc]
  refine congrArg _ (funext fun found => funext fun engine => ?_)
  have kind : ((Routine.typeOf found).eval self).run engine =
      .done (.ok (Value.ofString (found.elim "undefined" engine.typeOf)), engine) := rfl
  have word : ((Expr.eval {} (.ofString "function")).eval self).run engine =
      .done (.ok (Value.ofString "function"), engine) := by
    rw [Expr.ofString, Expr.eval]
    rfl
  refine (run_bind_of_done kind).trans ?_
  rw [Routine.eval_bind]
  refine (run_bind_of_done word).trans ?_
  rw [Value.strictEq_ofString]
  rfl

/-- The entry script looks for the entry function, which may run code, and then calls it or shows
that it is missing. -/
theorem entryScript_run (untimed : engine.timeout = none) (tokens : List String)
    (message : String) :
    (runScript self (.ok (entryScript tokens message))).run engine = (do
      let found ← (Routine.readVariable? {} Entry.functionName).eval self
      let kind := found.elim "undefined" (← get).typeOf
      poll
      if kind = "function" then
        let _ ← ((Expr.call (.read Entry.functionName)
          [.list (tokens.map fun w => .ofString w)]).eval {}).eval self
        poll
      else
        let _ ← ((Expr.call (.member (.read "console") "log")
          [.ofString message]).eval {}).eval self
        pure () : Eval Unit).run engine.tick := by
  have strict : opensStrict (entryScript tokens message) = false := rfl
  rw [runScript_run untimed]
  -- nothing is hoisted, and the conditional is the only statement
  refine (run_bind_of_done rfl).trans ?_
  rw [strict, entryScript, runBlock, Stmt.run, entryCondition_eval]
  simp only [bind_assoc, pure_bind, runBlock_expr, pollAfter, Value.truthy, decide_eq_true_eq,
    List.isEmpty_cons]
  refine congrArg (fun x : Eval Unit => x.run engine.tick) ?_
  refine congrArg _ (funext fun found => congrArg _ (funext fun looked => ?_))
  refine congrArg _ (funext fun _ => ?_)
  split
  · rw [if_neg (by decide)]
    simp only [bind_assoc, pure_bind, runBlock, bind_pure_unit]
  · simp only [bind_assoc, pure_bind, runBlock]

/-- The entry call hands the list of the words, which is a new object, to the entry function. -/
theorem entryCall_run {f : Value} (holds : engine.Holds Entry.functionName f)
    (words : List String) :
    (((Expr.call (.read Entry.functionName) [.list (words.map fun w => .ofString w)]).eval {}).eval
      self).run engine = (self.call f .undefined [.object (.made engine.heap.size)]).run
        (engine.withStore (engine.allocate (.ofItems (words.map Value.ofString))).2) := by
  have read : (Routine.readVariable {} Entry.functionName).run engine.toStore =
      .done (.ok f, engine.toStore) := Routine.readVariable_run rfl holds
  have listed : (Expr.evalAll {} [.list (words.map fun w => .ofString w)]).run engine.toStore =
      .done (.ok [.object (.made engine.heap.size)],
        (engine.allocate (.ofItems (words.map Value.ofString))).2) := by
    rw [Expr.evalAll, Expr.eval, Routine.run_bind, Routine.run_bind_of_done (evalAll_texts ..)]
    rfl
  rw [Expr.eval, Expr.eval, Routine.eval_bind, run_bind_of_done (Routine.eval_reads read),
    Routine.eval_bind, run_bind_of_done (Routine.eval_run listed), Routine.eval_call]
  exact nofun

/-- Where the entry function is a function of a script, the entry script calls it with the list of
its texts. -/
theorem entryScript_calls (untimed : engine.timeout = none) {n : Nat} {code : Code} {scope : Scope}
    (holds : engine.Holds Entry.functionName (.object (.made n)))
    (kind : (engine.object (.made n)).kind = .function code scope) (tokens : List String)
    (message : String) :
    (runScript self (.ok (entryScript tokens message))).run engine =
      (self.call (.object (.made n)) .undefined [.object (.made engine.heap.size)] >>= fun _ =>
        poll).run (engine.tick.tick.withStore
          (engine.allocate (.ofItems (tokens.map Value.ofString))).2) := by
  have found : (Routine.readVariable? {} Entry.functionName).run engine.tick.toStore =
      .done (.ok (some (.object (.made n))), engine.tick.toStore) :=
    Routine.readVariable?_run rfl holds
  have callable : (some (Value.object (.made n))).elim "undefined" engine.tick.typeOf =
      "function" := by
    have kindThen : (engine.tick.object (.made n)).kind = .function code scope := kind
    rw [Option.elim, Store.typeOf, if_pos]
    rw [Object.isCallable, kindThen]
  have untimedThen : engine.tick.timeout = none := untimed
  have holdsThen : engine.tick.tick.Holds Entry.functionName (.object (.made n)) := holds
  rw [entryScript_run untimed, run_bind_of_done (Routine.eval_reads found),
    run_get_bind, run_bind_of_done (poll_run untimedThen), if_pos callable, run_bind,
    entryCall_run holdsThen, run_bind]
  rfl

end Eval

/-! ## Calls of a function -/

/-- The engine in which the body of a function runs: the object of its arguments is made, and the
frame of its variables is opened. -/
def Engine.entered (engine : Engine) (f receiver : Value) (args : List Value) (body : List Stmt) :
    Engine :=
  let given := engine.allocate (.ofArguments f args)
  engine.withStore
    (given.2.pushFrame (Eval.callVariables (Eval.givenVariables receiver args given.1) body)).2

namespace Eval

variable {self : Evaluator} {engine : Engine}

/-- A call of a function of a script, up to what its body does. -/
theorem callStep_body (untimed : engine.timeout = none) {n : Nat} {name : String} {index : Nat}
    {strict : Bool} {body : List Stmt}
    (kind : (engine.object (.made n)).kind = .function (.body name index) { strict := strict })
    (kept : engine.bodies.getD index [] = body) (args : List Value) :
    ∃ receiver, (callStep self (.object (.made n)) .undefined args).run engine =
      (do match ← runBlock self ⟨[engine.frames.size], strict || opensStrict body⟩ body with
          | .returned v => pure v
          | .normal => pure .undefined : Eval Value).run
        (engine.tick.entered (.object (.made n)) receiver args body) := by
  have kindThen : (engine.tick.object (.made n)).kind =
      .function (.body name index) { strict := strict } := kind
  have keptThen : engine.tick.bodies.getD index [] = body := kept
  obtain ⟨receiver, received⟩ : ∃ receiver,
      ((functionThis (strict || opensStrict body) .undefined).eval self).run engine.tick =
        .done (.ok receiver, engine.tick) := by
    cases strict || opensStrict body with
    | true => exact ⟨_, rfl⟩
    | false => exact ⟨_, rfl⟩
  refine ⟨receiver, ?_⟩
  -- the function is looked up in the engine, and then its body
  rw [callStep, run_bind_of_done (poll_run untimed), run_get_bind, kindThen]
  refine (run_get_bind _ _).trans ?_
  rw [keptThen]
  refine (run_bind_of_done received).trans ((run_bind_of_done (Routine.eval_run rfl)).trans ?_)
  exact run_bind_of_done rfl

/-- The entry function is there, with a body. -/
def DefinesEntry (engine : Engine) (body : List Stmt) : Prop :=
  ∃ n name index strict, n < engine.heap.size ∧
    engine.Holds Entry.functionName (.object (.made n)) ∧
    (engine.object (.made n)).kind = .function (.body name index) { strict := strict } ∧
    engine.bodies.getD index [] = body

/-- The entry function is still defined once there is a new object. -/
theorem DefinesEntry.allocate {body : List Stmt} (defines : DefinesEntry engine body) (o : Object) :
    DefinesEntry (engine.withStore (engine.allocate o).2) body := by
  obtain ⟨n, name, index, strict, old, holds, kind, kept⟩ := defines
  refine ⟨n, name, index, strict, ?_, holds, ?_, kept⟩
  · show n < (engine.heap.push o).size
    rw [Array.size_push]
    omega
  · exact (congrArg Object.kind (engine.toStore.object_allocate_of_lt o old)).trans kind

end Eval

/-! ## Files -/

/-- An engine without a deadline and without a bound on its stack. -/
structure Engine.Unbounded (engine : Engine) : Prop where
  untimed : engine.timeout = none
  unstacked : engine.stack = none

namespace Interpreter

variable {i : Interpreter} {engine : Engine}

/-- A computation with the stack that is left is one with as many levels as there are calls left. -/
theorem onStack_run {α : Type} (x : Evaluator → Eval α) :
    (i.onStack x).run engine = (x (.withStack i.rounds engine.left)).run engine := rfl

/-- Where one more file can be opened, a text is evaluated as the script that is read of it. -/
theorem evaluate_run (unbounded : engine.Unbounded) (shallow : engine.nesting < i.files)
    (text : String) : (i.evaluate text).run engine =
      (Eval.nested (Eval.runScript (.withStack i.rounds engine.left) (i.compile text))).run
        engine := by
  have room : (hasRoom i.leastStack engine.stack && decide (engine.nesting < i.files)) = true := by
    rw [unbounded.unstacked, decide_eq_true shallow]
    rfl
  rw [evaluate, Eval.run_get_bind, if_pos room]
  show Interaction.bind ((i.onStack fun self => Eval.runScript self (i.compile text)).run _) _ =
    Interaction.bind _ _
  rw [onStack_run]

/-- The program in a file of a package, if the file is there and is one. -/
def program? (i : Interpreter) (resolver : Resolver) (kind : ModuleKind) (name : String) :
    Option Statements :=
  match (resolver.read kind name).1 with
  | .ok found => if (nulOffset? found.text).isNone then (i.compile found.text).toOption else none
  | .error _ => none

/-- A module with a program has a file without a NUL that is compiled to it. -/
theorem file_of_program? {resolver : Resolver} {kind : ModuleKind} {name : String}
    {program : Statements} (has : i.program? resolver kind name = some program) :
    ∃ found, (resolver.read kind name).1 = .ok found ∧ nulOffset? found.text = none ∧
      i.compile found.text = .ok program := by
  unfold program? at has
  split at has
  · next found looked =>
    split at has
    · next clean =>
      cases compiled : i.compile found.text with
      | error fault =>
        rw [compiled] at has
        cases has
      | ok statements =>
        rw [compiled] at has
        cases has
        exact ⟨found, looked, Option.isNone_iff_eq_none.1 clean, compiled⟩
    · cases has
  · cases has

end Interpreter

/-! ## Drivers that define the entry function -/

/-- An engine in which nothing but the entry function is other than in a new one. -/
structure Engine.OnlyDefines (i : Interpreter) (engine : Engine) (body : List Stmt) : Prop where
  unbounded : engine.Unbounded
  whole : engine.left = i.levels
  unaltered : engine.altered = []
  outermost : engine.nesting = 0
  entry : Eval.DefinesEntry engine body
  others : ∀ {name : String} {v : Value}, Entry.functionName ≠ name →
    Store.Holds {} name v → engine.Holds name v

section

variable {i : Interpreter} {body : List Stmt}

/-- A file that only defines the entry function, in a new engine. -/
theorem evaluate_defines {text : String} (files : 0 < i.files)
    (compiled : i.compile text = .ok [.define Entry.functionName body]) (readings : Readings) :
    ∃ engine, Engine.OnlyDefines i engine body ∧
      (i.evaluate text).run (i.newEngine {} readings) = .done (.ok (), engine) := by
  let opened : Engine := { i.newEngine {} readings with nesting := 1 }
  let self : Evaluator := .withStack i.rounds i.levels
  have checked : ((Routine.checkDeclarations (hoisted [.define Entry.functionName body])).eval
      self).run opened.tick = .done (.ok (), opened.tick) := Routine.eval_reads rfl
  obtain ⟨engine, declared, defines⟩ : ∃ engine : Engine,
      (Eval.declareAll self false (hoisted [.define Entry.functionName body])).run opened.tick =
        .done (.ok (), engine) ∧ Engine.OnlyDefines i { engine with nesting := 0 } body := by
    refine ⟨_, rfl, ⟨rfl, rfl⟩, rfl, rfl, rfl, ?_, ?_⟩
    · exact ⟨0, Entry.functionName, 0, false, Nat.zero_lt_two, ⟨_, rfl, rfl⟩, rfl, rfl⟩
    · rintro name v ne ⟨p, own, slot⟩
      exact ⟨p, (Properties.find?_put_of_ne (fun same => ne (Key.name.inj same)) _ _).trans own,
        slot⟩
  have defined : (Eval.hoist self false [.define Entry.functionName body]).run opened.tick =
      .done (.ok (), engine) := (Eval.run_bind_of_done checked).trans declared
  have ran : (Eval.runScript self (.ok [.define Entry.functionName body])).run opened =
      .done (.ok (), engine) := by
    rw [Eval.runScript_run rfl]
    exact (Eval.run_bind_of_done defined).trans rfl
  refine ⟨_, defines, ?_⟩
  rw [Interpreter.evaluate_run ⟨rfl, rfl⟩ files, compiled]
  exact Eval.nested_run_of_value ran

end

end DecompilerBridge.Script

namespace DecompilerBridge.Script.Interpreter

open Bridge (UnseenValue)
open Invocation (Opens)

variable (i : Interpreter) (resolver : Resolver)

/-- A package that an interpreter runs without limits. -/
def package (policy : FatalPolicy) (clock : Nat) : Setup where
  machine := i.machine resolver
  policy := policy
  clock := clock

/-- A run of such a package has an engine. -/
theorem package_opens (policy : FatalPolicy) (clock : Nat) (readings : Readings) :
    Opens (i.package resolver policy clock) readings (i.newEngine {} readings) where
  deadline := rfl
  context := ⟨i.newEngine {} readings, rfl, rfl⟩

variable {i : Interpreter} {resolver : Resolver} {limits : Limits}

/-- Nothing is left to do when the natives are added. -/
theorem defineAll_run (natives : Natives Engine Value) (added : List Native) (live : Live Engine) :
    (i.engine.defineAll natives added).run live = .done (.ok (.ok ()), live) := by
  induction added with
  | nil => rfl
  | cons n rest ih =>
    have defined : (Bridge.within natives (i.engine.define n)).run live = .done (.ok (), live) :=
      Bridge.within_run_of_value rfl
    exact (Bridge.run_bind_of_done (Bridge.attempt_run_of_value defined)).trans ih

/-- The natives are added out of the host's sight. -/
theorem register_unseen (live : Live Engine) :
    UnseenValue (Invocation.register (i.machine resolver limits)) live fun added after =>
      added = .ok () ∧ after = live := by
  refine .step (defineAll_run _ _ live) (.bind (.log _ ⟨(), rfl, ?_⟩))
  exact .of_run rfl ⟨_, rfl, rfl, rfl⟩

/-- If the host does not see the driver file being loaded, it sees nothing before the entry call. -/
theorem opening_unseen {live : Live Engine} {Q : Live Engine → Prop}
    (loads : UnseenValue (Invocation.loadDriver (i.machine resolver limits)) live fun _ => Q) :
    UnseenValue (Invocation.opening (i.machine resolver limits)) live fun opened after =>
      opened = .ok () ∧ Q after := by
  have prepares : UnseenValue (Invocation.preparation (i.machine resolver limits)) live
      fun added after => added = .ok () ∧ after = live :=
    .bind (.ask trivial fun _ => ⟨_, rfl, .bind (.ask trivial fun _ => ⟨_, rfl,
      .bind (.log _ ⟨(), rfl, register_unseen live⟩)⟩)⟩)
  have phase : UnseenValue (Invocation.driverPhase (i.machine resolver limits)) live
      fun _ => Q := by
    refine .bind (.ask trivial fun _ => ⟨_, rfl, .bind (loads.mono ?_)⟩)
    rintro _ after ⟨_, rfl, holds⟩
    exact ⟨_, rfl, .bind (.ask trivial fun _ => ⟨_, rfl, .of_run rfl ⟨_, rfl, holds⟩⟩)⟩
  refine .bind (prepares.mono ?_)
  rintro _ _ ⟨_, rfl, rfl, rfl⟩
  refine ⟨_, rfl, .bind (phase.mono ?_)⟩
  rintro _ after ⟨_, rfl, holds⟩
  exact ⟨_, rfl, .of_run rfl ⟨_, rfl, rfl, holds⟩⟩

end DecompilerBridge.Script.Interpreter

namespace DecompilerBridge.Invocation

open Bridge (UnseenValue)
open Script (Interpreter Engine Stmt)

/-- Loading a driver file that only defines the entry function does no more than that. -/
theorem loadDriver_defines {i : Interpreter} {resolver : Resolver} {body : List Stmt}
    (files : 0 < i.files)
    (driver : i.program? resolver .load driverFile = some [.define Entry.functionName body])
    (readings : Readings) :
    UnseenValue (loadDriver (i.machine resolver)) ⟨i.newEngine {} readings, none⟩ fun _ after =>
      after.parked = none ∧ Engine.OnlyDefines i after.state body := by
  obtain ⟨found, looked, clean, compiled⟩ := Interpreter.file_of_program? driver
  obtain ⟨engine, defines, ran⟩ := Script.evaluate_defines files compiled readings
  have evaluated : UnseenValue ((i.machine resolver).engine.evaluateText
      (i.machine resolver).natives found.text) ⟨i.newEngine {} readings, none⟩ fun ended after =>
        ended = .ok () ∧ after.parked = none ∧ Engine.OnlyDefines i after.state body :=
    ScriptEngine.evaluateText_unseen clean
      (.of_run (Bridge.within_run_of_value ran) ⟨(), rfl, rfl, defines⟩)
  refine .bind (Machine.lookUp_unseen _ _ ⟨_, rfl, ?_⟩)
  rw [show ((i.machine resolver).resolver.read .load driverFile).1 = .ok found from looked]
  refine .bind (.log _ ⟨(), rfl, .bind (evaluated.mono ?_)⟩)
  rintro _ after ⟨_, rfl, rfl, holds⟩
  exact ⟨_, rfl, .of_run rfl ⟨_, rfl, holds⟩⟩

end DecompilerBridge.Invocation
