import DecompilerBridge.Proofs.Run.DriverPhase
import DecompilerBridge.Proofs.Script.Bounds
import DecompilerBridge.Proofs.Script.Echo

/-!
# A broken driver does not hide the entry

A run without limits passes its driver file over (`ScriptHost.PassesDriver`), whatever becomes of
the file, unless that runs for ever (`driver_passed_over`). What the file has left of the engine
decides then.

An entry script that finds no entry function ends with the request to print so (`entry_closes`). It
runs in the engine that the driver has left, of which nothing is known but what scripts cannot
change: its bounds, and that no other file is being evaluated. A host that serves the run grants the
request, so the run succeeds (`missing_entry`).

Looking at the entry function can run code of the driver, and a console that this code takes away
prints nothing. Whether the entry function is missing is therefore asked after the look
(`LacksEntry`); `missing_entry_untold` shows that the end of the driver is too early.
-/

set_option autoImplicit false

namespace DecompilerBridge

open Script (Interpreter Engine Evaluator Eval Routine Store Value jsonInterpreter
  jsonInterpreter_readsEntry)

variable {η : Type}

/-! ## The entry script without an entry function -/

namespace Script

namespace Store

variable {store : Store}

/-- The global console and its `log` method are those that the bridge has installed. -/
structure HasConsole (store : Store) : Prop where
  console : store.held? .global "console" = some Space.console.value
  log : store.held? (.intrinsic (.holder (.space .console))) "log" =
    some ((Owner.space .console).method "log")
  native : (store.object (.intrinsic (.method (.space .console) "log"))).builtin? =
    some (.method (.space .console) "log")

instance : Decidable store.HasConsole :=
  decidable_of_iff (_ ∧ _ ∧ _) ⟨fun all => ⟨all.1, all.2.1, all.2.2⟩,
    fun installed => ⟨installed.console, installed.log, installed.native⟩⟩

/-- The installed method is the builtin that prints. -/
theorem HasConsole.kind (installed : store.HasConsole) :
    (store.object (.intrinsic (.method (.space .console) "log"))).kind =
      .builtin (.method (.space .console) "log") :=
  Object.kind_of_builtin installed.native

/-- The global object has no entry function: it has no such property, or one with another value. -/
def MissesEntry (store : Store) : Prop :=
  ∀ p, store.property? .global (.name Entry.functionName) = some p →
    ∃ v, p.slot = .data v ∧ store.typeOf v ≠ "function"

end Store

/-- The engine in which the entry script looks at the entry function: its file has been opened. -/
def Engine.looking (engine : Engine) : Engine :=
  Engine.tick { engine with nesting := engine.nesting + 1 }

namespace Eval

variable {self : Evaluator} {engine : Engine}

/-- Look at the entry function. -/
def look (self : Evaluator) : Eval (Option Value) :=
  (Routine.readVariable? {} Entry.functionName).eval self

/-- What the entry script does with what it has found. -/
def afterLook (self : Evaluator) (tokens : List String) (message : String) (found : Option Value) :
    Eval Unit := do
  let kind := found.elim "undefined" (← get).typeOf
  poll
  if kind = "function" then
    let _ ← ((Expr.call (.read Entry.functionName)
      [.list (tokens.map fun w => .ofString w)]).eval {}).eval self
    poll
  else
    let _ ← ((Expr.call (.member (.read "console") "log") [.ofString message]).eval {}).eval self
    pure ()

/-- An entry script that finds no function shows its message, where the console is as it was
installed. -/
theorem afterLook_shows (untimed : engine.timeout = none) (installed : engine.HasConsole)
    {found : Option Value} (other : ∀ v ∈ found, engine.typeOf v ≠ "function")
    (tokens : List String) (message : String) :
    Shows (afterLook (.deeper self) tokens message found) engine message fun _ _ => True := by
  have kind : found.elim "undefined" engine.typeOf ≠ "function" := by
    cases found with
    | none => exact (by decide : "undefined" ≠ "function")
    | some v => exact other v rfl
  have still : engine.tick.HasConsole := ⟨installed.console, installed.log, installed.native⟩
  have untimedThen : engine.tick.timeout = none := untimed
  obtain ⟨p, own, slot⟩ := Store.slot_of_held installed.log
  have console : (Routine.readVariable {} "console").run engine.tick.toStore =
      .done (.ok Space.console.value, engine.tick.toStore) :=
    Routine.readVariable_run rfl (Store.slot_of_held installed.console)
  have log : (Routine.memberNamed Space.console.value "log").run engine.tick.toStore =
      .done (.ok ((Owner.space .console).method "log"), engine.tick.toStore) :=
    Routine.memberNamed_own own slot
  have given : ((Expr.evalAll {} [.ofString message]).eval (.deeper self)).run engine.tick =
      .done (.ok [Value.ofString message], engine.tick) :=
    Routine.eval_reads (evalAll_texts {} [message] engine.tick.toStore)
  refine .of_run_eq (run_get_bind _ engine) (.step (poll_run untimed) ?_)
  rw [if_neg kind]
  refine .bind (.of_run_eq (methodCall_run console log given)
    (consoleLog_shows untimedThen still.kind message _)) ?_
  exact fun _ after _ => ⟨(), after, rfl, trivial⟩

/-- A property that holds a value is looked at without running code. -/
theorem look_run (misses : engine.MissesEntry) :
    ∃ found, (look self).run engine = .done (.ok found, engine) ∧
      ∀ v ∈ found, engine.typeOf v ≠ "function" := by
  have hidden : engine.toStore.findLocal Entry.functionName [] = none := rfl
  cases property : engine.toStore.property? .global (.name Entry.functionName) with
  | none =>
    refine ⟨none, Routine.eval_reads ?_, nofun⟩
    refine (Routine.run_get_bind _ _).trans ?_
    rw [hidden, property]
    rfl
  | some p =>
    obtain ⟨v, slot, other⟩ := misses p property
    refine ⟨some v, Routine.eval_reads ?_, ?_⟩
    · refine (Routine.run_get_bind _ _).trans ?_
      rw [hidden, property]
      have read : (Routine.readSlot (.object .global) (some p)).run engine.toStore =
          .done (.ok v, engine.toStore) := by
        rw [Routine.readSlot, slot]
        rfl
      exact (Routine.run_bind_of_done read).trans rfl
    · rintro _ ⟨⟩
      exact other

end Eval

end Script

/-! ## The interpreter -/

namespace Invocation

open Script.Eval (SameBounds look afterLook closing)

variable {i : Interpreter} {resolver : Resolver} {limits : Limits}

/-- The interpreter gets its natives without anything that the host could see. -/
theorem preparation_drive (channel : Option (HostChannel η)) (live : Live Engine) (w : World η) :
    let prepared := (preparation (i.machine resolver limits)).run live
    ∃ v, v.host = w.host ∧
      prepared.drive (World.answer channel) w = (.ok (.ok (.ok ()), live), v) ∧
      handed (prepared.trail (World.answer channel) w) = [] := by
  have registered : (register (i.machine resolver limits)).run live =
      .ask (.log registrationRecord) fun _ => .done (.ok (.ok ()), live) :=
    Bridge.run_bind_of_done (Interpreter.defineAll_run _ _ live)
  have run : (preparation (i.machine resolver limits)).run live =
      .ask .countEngine fun (number : Nat) => .ask (.enter .engineCreated) fun _ =>
        .ask (.log (engineRecord number)) fun _ =>
          .ask (.log registrationRecord) fun _ => .done (.ok (.ok ()), live) := by
    rw [← registered]
    rfl
  intro prepared
  rw [show prepared = _ from run]
  refine ⟨_, ?_, rfl, rfl⟩
  rfl

/-- Loading the driver file stays within the bounds of the engine. -/
theorem loadDriver_withinBounds (i : Interpreter) (resolver : Resolver) (limits : Limits) :
    Bridge.WithinBounds i.levels (loadDriver (i.machine resolver limits)) :=
  loadDriver_has (m := i.machine resolver limits) (Bridge.withinBounds_rules i i.levels)
    (Bridge.nativesWithin_servesWithin i resolver limits i.levels) .attempt

/-- So does looking at the entry function. -/
theorem look_withinBounds (i : Interpreter) (resolver : Resolver) (limits : Limits)
    {live : Live Engine} (enough : live.state.left ≤ i.levels) :
    ((Bridge.within (i.machine resolver limits).natives
      (look (.withStack i.rounds live.state.left))).run ⟨live.state.looking, live.parked⟩).Ends
        (Bridge.EndsWithin live.state.looking) := by
  have rules := Eval.keepsBounds_rules i.rounds live.state.left
  have calls := rules.withStack live.state.left fun _ less n args => .callNative less n args
  have stays : Eval.StaysWithin live.state.looking
      ((look (.withStack i.rounds live.state.left)).run live.state.looking) :=
    rules.routine calls _ live.state.looking rfl
  have natives := Bridge.nativesWithin_servesWithin i resolver limits i.levels
  have start : live.state.looking.left ≤ i.levels := enough
  exact Bridge.WithinBounds.carry start natives stays live.parked

/-- The entry expression is the look at the entry function, and then what comes of it. -/
theorem entry_looks (reads : i.ReadsEntry) {live : Live Engine} (unbounded : live.state.Unbounded)
    (shallow : live.state.nesting < i.files) (args : String) :
    let self := Evaluator.withStack i.rounds live.state.left
    let natives := (i.machine resolver limits).natives
    (entry (i.machine resolver limits) args).run live =
      ((Bridge.within natives (look self) >>= fun found =>
          Bridge.within natives (afterLook self (Text.words args) Entry.missingText found)).run
        ⟨live.state.looking, live.parked⟩).bind (closing live.state.nesting) := by
  intro self natives
  have evaluated := Interpreter.evaluate_run unbounded shallow (Entry.expression args)
  rw [reads.compile_expression] at evaluated
  let opened : Live Engine := ⟨{ live.state with nesting := live.state.nesting + 1 }, live.parked⟩
  have untimed : opened.state.timeout = none := unbounded.untimed
  have script : (Eval.runScript self (.ok (Script.entryScript (Text.words args)
      Entry.missingText))).run opened.state = (look self >>= afterLook self (Text.words args)
        Entry.missingText).run live.state.looking :=
    Eval.entryScript_run untimed (Text.words args) Entry.missingText
  have parts : Bridge.within natives (look self >>= afterLook self (Text.words args)
        Entry.missingText) = Bridge.within natives (look self) >>= fun found =>
      Bridge.within natives (afterLook self (Text.words args) Entry.missingText found) :=
    Bridge.within_bind _ _
  refine (Bridge.within_run_of_run_eq evaluated).trans ((Eval.within_nested _).trans ?_)
  have within : (Bridge.within natives (Eval.runScript self (.ok (Script.entryScript
        (Text.words args) Entry.missingText)))).run opened =
      (Bridge.within natives (look self >>= afterLook self (Text.words args)
        Entry.missingText)).run ⟨live.state.looking, live.parked⟩ :=
    Bridge.within_run_of_run_eq script
  refine congrArg (·.bind (closing live.state.nesting)) (within.trans ?_)
  exact congrArg (fun x : Bridge Engine Value Unit => x.run ⟨live.state.looking, live.parked⟩) parts

/-- As the entry script looks at the entry function there is none, and after the look the console is
as it was installed. The look may run code of the script. -/
def LacksEntry (i : Interpreter) (resolver : Resolver) (channel : Option (HostChannel η))
    (loaded : Live Engine) (before : World η) : Prop :=
  ∃ found looked there,
    ((Bridge.within (i.machine resolver).natives
        (look (.withStack i.rounds loaded.state.left))).run
          ⟨loaded.state.looking, loaded.parked⟩).drive (World.answer channel) before =
      (.ok (.ok found, looked), there) ∧
    (∀ v ∈ found, looked.state.typeOf v ≠ "function") ∧ looked.state.HasConsole

/-- A property that holds a value is looked at without running code. -/
theorem lacksEntry_of_missesEntry {channel : Option (HostChannel η)} {loaded : Live Engine}
    {before : World η} (misses : loaded.state.MissesEntry) (installed : loaded.state.HasConsole) :
    LacksEntry i resolver channel loaded before := by
  have still : loaded.state.looking.HasConsole :=
    ⟨installed.console, installed.log, installed.native⟩
  have missesStill : loaded.state.looking.MissesEntry := misses
  obtain ⟨found, looks, other⟩ := Eval.look_run missesStill
  have within : (Bridge.within (i.machine resolver).natives
      (look (.withStack i.rounds loaded.state.left))).run ⟨loaded.state.looking, loaded.parked⟩ =
        .done (.ok found, ⟨loaded.state.looking, loaded.parked⟩) :=
    Bridge.within_run_of_value looks
  refine ⟨found, ⟨loaded.state.looking, loaded.parked⟩, before, ?_, other, still⟩
  rw [within]
  rfl

/-- An entry expression that finds no entry function, and the console as it was installed, ends with
the request to print that the entry function is missing. -/
theorem entry_closes (reads : i.ReadsEntry) (room : 0 < i.levels) {channel : Option (HostChannel η)}
    {loaded : Live Engine} {before : World η} (unbounded : loaded.state.Unbounded)
    (whole : loaded.state.left = i.levels) (shallow : loaded.state.nesting < i.files)
    (lacks : LacksEntry i resolver channel loaded before) (args : String) :
    ∃ there next called,
      Interaction.Reaches (World.answer channel)
        ((entry (i.machine resolver) args).run loaded) before
        (.ask (.print (Entry.missingText ++ "\n")) next) there ∧
      next (.granted ()) = .done (.ok (), called) := by
  obtain ⟨found, looked, there, looks, other, installed⟩ := lacks
  obtain ⟨levels, deep⟩ := Nat.exists_eq_succ_of_ne_zero (Nat.pos_iff_ne_zero.1 room)
  have bounds :=
    ((look_withinBounds i resolver {} (Nat.le_of_eq whole)).of_drive looks).resolve_left
    nofun
  have untimed : looked.state.timeout = none := bounds.1.timeout.trans unbounded.untimed
  have shows : Eval.Shows (afterLook (.withStack i.rounds loaded.state.left) (Text.words args)
      Entry.missingText found) looked.state Entry.missingText fun _ _ => True := by
    rw [whole, deep]
    exact Eval.afterLook_shows untimed installed other _ _
  obtain ⟨_, after, ⟨next, asks, given⟩, -⟩ := Interpreter.within_closes room shows
  have reached := Bridge.reaches_bind looks fun found =>
    Bridge.within (i.machine resolver).natives (afterLook (.withStack i.rounds loaded.state.left)
      (Text.words args) Entry.missingText found)
  rw [asks] at reached
  refine ⟨there, fun r => (next r).bind (closing loaded.state.nesting),
    ⟨{ after with nesting := loaded.state.nesting }, looked.parked⟩, ?_, ?_⟩
  · rw [entry_looks reads unbounded shallow]
    exact reached.bind _
  · dsimp only
    rw [given]
    rfl

end Invocation

/-! ## The run -/

namespace ScriptHost

open Script.Eval (SameBounds look afterLook closing)
open Invocation (Opens)

section

variable {s : Setup} {h : Host η} {args : String} {w : World η} {context : s.machine.engine.State}

/-- A free host that serves a run prints what the work of the engine asks it to print. -/
theorem Serves.grants (served : Serves s h args w) (free : w.borrowed = false)
    (unlinked : w.scripts.isLinked = false) (opens : Opens s (w.readings 0) context) {text : String}
    {next} {before : World η} (reached : Interaction.Reaches (World.answer (some (h.channel s)))
      ((Invocation.session s.machine args).run ⟨context, none⟩) (started w)
        (.ask (.print text) next) before) :
    ∃ after, World.answer (some (h.channel s)) (.print text) before =
      (.ok (.granted ()), after) := by
  have asks : AsksAt s h args w (.print text) before :=
    ⟨unlinked, Interaction.mem_trail_iff.1 (mem_requests_of_session opens reached)⟩
  obtain ⟨r, answered, safe⟩ := served.answer opens reached
  rw [(asks.atHand free).served] at answered ⊢
  have ended : ((h.channel s).print text before).1.toAccess = .ok r := answered
  refine ⟨((h.channel s).print text before).2, ?_⟩
  show (((h.channel s).print text before).1.toAccess, _) = _
  cases printed : ((h.channel s).print text before).1 with
  | finished a => rfl
  | panicked p =>
    rw [printed] at ended
    cases ended
    cases safe
  | halted e =>
    rw [printed] at ended
    cases ended

/-- Where the entry expression ends with a request to print, the host prints it, and the expression
is evaluated to its end. -/
theorem Serves.entry_ends (served : Serves s h args w) (free : w.borrowed = false)
    (unlinked : w.scripts.isLinked = false) (opens : Opens s (w.readings 0) context)
    {ready loaded called : Live s.machine.engine.State} {v mid there : World η} {text : String}
    {next}
    (prepared : ((Invocation.preparation s.machine).run ⟨context, none⟩).drive
      (World.answer (some (h.channel s))) (started w) = (.ok (.ok (.ok ()), ready), v))
    (loads : ((Invocation.loadDriver s.machine).run ready).drive (World.answer (some (h.channel s)))
      (v.enter .nativesRegistered) = (.ok (.ok (), loaded), mid))
    (reached : Interaction.Reaches (World.answer (some (h.channel s)))
      ((Invocation.entry s.machine args).run loaded) (mid.enter .driverLoaded)
        (.ask (.print text) next) there)
    (given : next (.granted ()) = .done (.ok (), called)) :
    let entry := (Invocation.entry s.machine args).run loaded
    ∃ first last,
      entry.drive (World.answer (some (h.channel s))) (mid.enter .driverLoaded) =
        (.ok (.ok (), called), last) ∧
      entry.trail (World.answer (some (h.channel s))) (mid.enter .driverLoaded) =
        first ++ [(.print text, there)] ∧
      there.scripts.state = .driverLoaded := by
  intro entry
  have orderly := h.some_channel_orderly s
  obtain ⟨later, inSession⟩ := reaches_of_entry prepared loads reached
  obtain ⟨last, answered⟩ := served.grants free unlinked opens inSession
  obtain ⟨first, met⟩ := reached.trail
  refine ⟨first, last, ?_, ?_, ?_⟩
  · exact Interaction.drive_eq_ok_iff.2 (reached.trans (.step answered (given ▸ .refl _ _)))
  · rw [show entry.trail _ (mid.enter .driverLoaded) = _ from met, Interaction.trail,
      show World.answer _ _ there = _ from answered]
    dsimp only
    rw [given]
    rfl
  · have linkedFirst : v.scripts.linkage = .linked :=
      World.reached_linked orderly (Interaction.drive_eq_ok_iff.1 prepared) rfl
    have linked : mid.scripts.linkage = .linked :=
      World.reached_linked orderly (Interaction.drive_eq_ok_iff.1 loads) linkedFirst
    rw [World.reached_steady orderly reached (Invocation.entry_steady s.machine args loaded) linked]
    rfl

end

/-- A package without limits of scripts that are written as JSON. -/
def jsonPackage (resolver : Resolver) : Setup := jsonInterpreter.package resolver .contain 1

/-- A package without a driver file. -/
def bareSetup : Setup := jsonPackage { base := .fixed "/" }

/-- A package with a driver. -/
def drivenBy (driver : String) : Resolver where
  base := .fixed "/"
  files := { members := [("require.js", .file driver.toUTF8.toList)] }

/-- A driver that gives the entry function as an accessor, which deletes the console. -/
def spoilingDriver : Resolver :=
  drivenBy ("[[\"def\",\"spoil\",[[\"delete\",\"console\"]]],[\"do\",[\"call\"," ++
    "\"Object.defineProperty\",[\"get\",\"globalThis\"],\"r2dec_main\"," ++
    "[\"obj\",\x7b\"get\":[\"get\",\"spoil\"]\x7d]]]]")

/-- A driver that fails at once. -/
def failingDriver : Resolver := drivenBy "[[\"throw\",1]]"

/-- Whether a driver leaves the console as it was installed, and no entry function that could be
read. -/
def leavesConsole (resolver : Resolver) (h : Host η) (w : World η) : Bool :=
  let answer := World.answer (some (h.channel (jsonPackage resolver)))
  let m := jsonInterpreter.machine resolver
  match ((Invocation.opening m).run ⟨jsonInterpreter.newEngine {} (w.readings 0), none⟩).drive
      answer
      (started w) with
  | (.ok (.ok (.ok ()), loaded), mid) => decide (Store.HasConsole loaded.state.toStore) &&
    match ((Bridge.within m.natives (look (.withStack jsonInterpreter.rounds
        loaded.state.left))).run ⟨loaded.state.looking, loaded.parked⟩).drive answer mid with
    | (.ok (.ok found, _), _) => decide (found.getD .undefined = .undefined)
    | _ => false
  | _ => false

end ScriptHost

end DecompilerBridge
