import DecompilerBridge.Invocation
import DecompilerBridge.Proofs.Interaction

/-!
# Rules for the bridge

What the bridge does around an engine is built from a few parts: requests to the host, operations of
the engine, and attempts. A property of computations that these parts have, or keep, holds of all of
the bridge (`Rules`): of the natives, however deep they are called one inside the other
(`Rules.natives`), and of the work of a whole run. No theorem has to look at the natives again for
it, and none has to look into an engine: all that is asked of one is in `Rules.within`.
-/

set_option autoImplicit false

namespace DecompilerBridge

variable {σ V α β : Type}

namespace Bridge

/-! ## Sequences -/

/-- A sequence runs its first part, and its second part only after a value. -/
theorem run_bind (x : Bridge σ V α) (f : α → Bridge σ V β) (live : Live σ) :
    (x >>= f).run live = (x.run live).bind fun ended =>
      match ended.1 with
      | .ok a => (f a).run ended.2
      | .error stop => .done (.error stop, ended.2) := by
  show Interaction.bind (x.run live) _ = _
  congr 1
  funext ⟨outcome, after⟩
  cases outcome <;> rfl

/-- A sequence whose first part asks for nothing goes on with the second. -/
theorem run_bind_of_done {x : Bridge σ V α} {f : α → Bridge σ V β} {live after : Live σ} {a : α}
    (given : x.run live = .done (.ok a, after)) : (x >>= f).run live = (f a).run after := by
  rw [run_bind, given]
  rfl

/-- A computation that looks at the state of the engine first. -/
theorem run_state_bind (f : σ → Bridge σ V β) (live : Live σ) :
    (state >>= f).run live = (f live.state).run live := rfl

/-- A branch of a sequence stops in the first part or goes on with the second. -/
theorem trace_bind {x : Bridge σ V α} {f : α → Bridge σ V β} {live : Live σ}
    {qs : List HostRequest} {ended : Except (Stop V) β × Live σ}
    (trace : Interaction.Trace ((x >>= f).run live) qs ended) :
    (∃ stop, Interaction.Trace (x.run live) qs (.error stop, ended.2) ∧
        ended.1 = .error stop) ∨
      ∃ a after first second, qs = first ++ second ∧
        Interaction.Trace (x.run live) first (.ok a, after) ∧
        Interaction.Trace ((f a).run after) second ended := by
  rw [run_bind] at trace
  obtain ⟨first, second, ⟨stop | a, after⟩, rfl, before, rest⟩ := trace.of_bind
  · cases rest with
    | done _ =>
      rw [List.append_nil]
      exact .inl ⟨stop, before, rfl⟩
  · exact .inr ⟨a, after, first, second, rfl, before, rest⟩

/-- A drive of a sequence that gives a value has driven both parts to a value. -/
theorem drive_bind_eq_ok_iff {τ ε : Type} {answer : (q : HostRequest) → τ → Except ε q.Reply × τ}
    {x : Bridge σ V α} {f : α → Bridge σ V β} {live last : Live σ} {b : β} {s s' : τ} :
    ((x >>= f).run live).drive answer s = (.ok (.ok b, last), s') ↔
      ∃ a after between, (x.run live).drive answer s = (.ok (.ok a, after), between) ∧
        ((f a).run after).drive answer between = (.ok (.ok b, last), s') := by
  rw [run_bind, Interaction.drive_bind]
  constructor
  · intro driven
    rcases first : (x.run live).drive answer s with ⟨e | ⟨stop | a, after⟩, between⟩ <;>
      rw [first] at driven
    · cases driven
    · cases driven
    · exact ⟨a, after, between, first, driven⟩
  · rintro ⟨a, after, between, first, second⟩
    rw [first]
    exact second

/-! ## Values -/

/-- Every value that a computation gives satisfies `Q`. -/
def Gives (Q : α → Prop) (x : Bridge σ V α) : Prop :=
  ∀ live, (x.run live).Ends fun ended => ∀ a, ended.1 = .ok a → Q a

/-- A computation that ends with a value of its own gives that value. -/
theorem Gives.pure {Q : α → Prop} {a : α} (h : Q a) :
    Gives Q (Pure.pure a : Bridge σ V α) := by
  intro live b hb
  cases hb
  exact h

/-- A sequence gives what its second part gives after a value of the first. -/
theorem Gives.bind {P : α → Prop} {Q : β → Prop} {x : Bridge σ V α} {f : α → Bridge σ V β}
    (hx : Gives P x) (hf : ∀ a, P a → Gives Q (f a)) : Gives Q (x >>= f) := by
  intro live
  rw [run_bind]
  refine (hx live).bind ?_
  rintro ⟨stop | a, after⟩ given
  · intro b hb
    cases hb
  · exact hf a (given a rfl) after

/-- A sequence gives what its second part gives, whatever the first does. -/
theorem Gives.after {Q : β → Prop} {f : α → Bridge σ V β} (x : Bridge σ V α)
    (hf : ∀ a, Gives Q (f a)) : Gives Q (x >>= f) := by
  have anything : Gives (fun _ => True) x :=
    fun _ => (Interaction.ends_true _).mono fun _ _ _ _ => trivial
  exact anything.bind fun a _ => hf a

/-- What gives something that always satisfies `Q` satisfies it. -/
theorem Gives.map {P : α → Prop} {Q : β → Prop} {x : Bridge σ V α} {g : α → β} (hx : Gives P x)
    (hg : ∀ a, P a → Q (g a)) : Gives Q (g <$> x) :=
  hx.bind fun a ha => .pure (hg a ha)

/-- A computation that is stopped gives no value. -/
theorem Gives.throw {Q : α → Prop} (stop : Stop V) :
    Gives Q (MonadExcept.throw stop : Bridge σ V α) := fun _ _ => nofun

end Bridge

/-! ## What an engine provides -/

/-- The operations of an engine. -/
inductive ScriptEngine.Provides (E : ScriptEngine) :
    (α : Type) → Operation E.State E.Value α → Prop where
  | define (n : Native) : Provides E Unit (E.define n)
  | evaluate (text : String) : Provides E Unit (E.evaluate text)
  | throwNew (cls : ErrorClass) (message : String) : Provides E Empty (E.throwNew cls message)
  | global (name : String) : Provides E E.Value (E.global name)
  | member (v : E.Value) (name : String) : Provides E E.Value (E.member v name)
  | toText (v : E.Value) : Provides E E.Value (E.toText v)
  | makeText (text : String) : Provides E E.Value (E.makeText text)
  | construct (cls : E.Value) (args : List E.Value) : Provides E E.Value (E.construct cls args)

/-! ## The rules -/

namespace Bridge

/-- What serves the natives has a property of computations. -/
def Serves {σ V : Type} (P : (α : Type) → Bridge σ V α → Prop) (serve : Natives σ V) : Prop :=
  ∀ n args, P V (serve n args)

/-- What has to be shown of a property of computations around an engine whose natives are served as
`S` says. -/
structure Rules (E : ScriptEngine) (S : Natives E.State E.Value → Prop)
    (P : (α : Type) → Bridge E.State E.Value α → Prop) : Prop where
  pure {α : Type} (a : α) : P α (Pure.pure a)
  thrown {α : Type} (v : E.Value) : P α (MonadExcept.throw (.thrown v))
  bind {α β : Type} {x : Bridge E.State E.Value α} {f : α → Bridge E.State E.Value β} :
    P α x → (∀ a, P β (f a)) → P β (x >>= f)
  look {α : Type} {f : E.State → Bridge E.State E.Value α} : (∀ now, P α (f now)) →
    P α (state >>= f)
  log (r : LogRecord) : P Unit (Bridge.log r)
  diagnose (line : String) : P Unit (Bridge.diagnose line)
  /-- A panic of the host goes on from the request. -/
  command {α : Type} {f : Access String → Bridge E.State E.Value α} (text : String) :
    (∀ r, (∀ p, r ≠ .panicked p) → P α (f r)) →
      (∀ p live, (f (.panicked p)).run live = .done (.error (.unwound p), live)) →
        P α (ask (.command text) >>= f)
  print {α : Type} {f : Access Unit → Bridge E.State E.Value α} (line : String) :
    (∀ r, (∀ p, r ≠ .panicked p) → P α (f r)) →
      (∀ p live, (f (.panicked p)).run live = .done (.error (.unwound p), live)) →
        P α (ask (.print (line ++ "\n")) >>= f)
  within {α : Type} {x : Operation E.State E.Value α} {serve : Natives E.State E.Value} :
    E.Provides α x → S serve → P α (Bridge.within serve x)
  check {α : Type} {x : Bridge E.State E.Value α} : P α x → P α (Bridge.check x)

namespace Rules

section

variable {E : ScriptEngine} {S : Natives E.State E.Value → Prop}
  {P : (α : Type) → Bridge E.State E.Value α → Prop} (rules : Rules E S P)
include rules

/-- A value that is changed. -/
theorem map {x : Bridge E.State E.Value α} (f : α → β) (hx : P α x) : P β (f <$> x) :=
  rules.bind hx fun a => rules.pure (f a)

/-- Records are noted one after the other. -/
theorem logAll (rs : List LogRecord) : P Unit (Bridge.logAll rs) := by
  induction rs with
  | nil => exact rules.pure ()
  | cons r rest ih => exact rules.bind (rules.log r) fun _ => ih

/-- A text of the scripts is spelled by looking at it. -/
theorem spell (v : E.Value) : P (Option String) (E.spell v) :=
  rules.look fun _ => rules.pure _

variable {serve : Natives E.State E.Value} (serves : S serve)
include serves

/-- A new error is made within the engine. -/
theorem raise (cls : ErrorClass) (message : String) : P α (E.raise serve cls message) :=
  rules.bind (rules.within (.throwNew cls message) serves) fun none => none.elim

/-- A text argument is looked at, and refused by a new error. -/
theorem textArgument (native : String) (args : List E.Value) :
    P String (E.textArgument serve native args) := by
  cases args with
  | nil => exact rules.raise serves _ _
  | cons v rest =>
    refine rules.look fun now => ?_
    split
    · exact rules.pure _
    · exact rules.raise serves _ _
    · exact rules.raise serves _ _

/-- An answer that is no panic is used or refused. -/
theorem granted (native : String) {r : Access α} (safe : ∀ p, r ≠ .panicked p) :
    P α (E.granted serve native r) := by
  cases r with
  | granted a => exact rules.pure a
  | unlinked => exact rules.raise serves _ _
  | busy => exact rules.raise serves _ _
  | panicked p => exact absurd rfl (safe p)

/-- An error of the class that scripts see as `EvalError` is thrown, or it cannot be made. -/
theorem throwEval (message : String) : P α (E.throwEval serve message) := by
  refine rules.bind (rules.check (rules.within (.global _) serves)) fun cls =>
    rules.look fun now => ?_
  split
  · exact rules.bind (rules.check (rules.within (.makeText _) serves)) fun text =>
      rules.bind (rules.check (rules.within (.construct _ _) serves)) fun made => rules.thrown made
  · exact rules.raise serves _ _

/-! ### What attempts an operation -/

section

variable (attempts : ∀ {α : Type} {x : Bridge E.State E.Value α}, P α x → P (Ending E.Value α)
  (Bridge.attempt x))
include attempts

/-- An operation that is tried is attempted. -/
theorem tried {x : Operation E.State E.Value α} (provided : E.Provides α x) :
    P (Option α) (E.tried serve x) := by
  refine rules.bind (attempts (rules.within provided serves)) fun ending => ?_
  cases ending <;> exact rules.pure _

/-- The name of an error is a member that is tried. -/
theorem describedName (e : E.Value) : P String (E.describedName serve e) := by
  refine rules.bind (rules.tried serves attempts (.member e _)) fun found => ?_
  cases found with
  | none => exact rules.pure _
  | some v => exact rules.bind (rules.spell v) fun _ => rules.pure _

/-- The text of a value is tried and spelled. -/
theorem describedText (v : E.Value) : P (Option String) (E.describedText serve v) := by
  refine rules.bind (rules.tried serves attempts (.toText v)) fun found => ?_
  cases found with
  | none => exact rules.pure _
  | some text => exact rules.spell text

/-- A member is tried, and its text if there is one. -/
theorem describedMember (e : E.Value) (name : String) :
    P (Option String) (E.describedMember serve e name) := by
  refine rules.bind (rules.tried serves attempts (.member e name)) fun found => ?_
  cases found with
  | none => exact rules.pure _
  | some v =>
    refine rules.look fun now => ?_
    split
    · exact rules.pure _
    · exact rules.describedText serves attempts v

/-- Describing a thrown value may run code of a script. -/
theorem describeThrown (v : E.Value) : P String (E.describeThrown serve v) := by
  refine rules.look fun now => ?_
  split
  · exact rules.bind (rules.describedName serves attempts v) fun _ =>
      rules.bind (rules.describedMember serves attempts v _) fun _ =>
        rules.bind (rules.logAll _) fun _ =>
          rules.bind (rules.describedMember serves attempts v _) fun _ => rules.pure _
  · exact rules.bind (rules.describedText serves attempts v) fun _ =>
      rules.look fun _ => rules.pure _

/-- A fault is a thrown value, or a text already. -/
theorem describe (fault : EngineFault E.Value) : P String (E.describe serve fault) := by
  cases fault with
  | exception v => exact rules.describeThrown serves attempts v
  | nul offset => exact rules.pure _

/-- A text is evaluated by an attempt at it. -/
theorem evaluateText (text : String) :
    P (Except (EngineFault E.Value) Unit) (E.evaluateText serve text) := by
  unfold ScriptEngine.evaluateText
  split
  · exact rules.pure _
  · refine rules.bind (attempts (rules.within (.evaluate text) serves)) fun ending => ?_
    cases ending <;> exact rules.pure _

/-- Natives are added one after the other, up to one that fails. -/
theorem defineAll (ns : List Native) :
    P (Except (EngineFault E.Value) Unit) (E.defineAll serve ns) := by
  induction ns with
  | nil => exact rules.pure _
  | cons n rest ih =>
    refine rules.bind (attempts (rules.within (.define n) serves)) fun ending => ?_
    cases ending with
    | value _ => exact ih
    | thrown v => exact rules.pure _

end

end

/-! ### Natives -/

section

variable {m : Machine} {S : Natives m.engine.State m.engine.Value → Prop}
  {P : (α : Type) → m.Work α → Prop} (rules : Rules m.engine S P)
include rules

/-- A module is looked up past the engine. -/
theorem lookUp (kind : ModuleKind) (name : String) :
    P (Except ResolveError Module) (m.lookUp kind name) :=
  rules.bind (rules.logAll _) fun _ => rules.pure _

variable {serve : Natives m.engine.State m.engine.Value} (serves : S serve)
include serves

/-- A command takes a text, asks the host and gives a text back. -/
theorem nativeCommand (args : List m.engine.Value) :
    P m.engine.Value (m.nativeCommand serve args) :=
  rules.bind (rules.textArgument serves _ args) fun text => rules.command text
    (fun _ safe => rules.bind (rules.granted serves _ safe) fun _ =>
      rules.check (rules.within (.makeText _) serves))
    fun _ _ => rfl

/-- A module is looked up, and one that cannot be had is told before it is refused. -/
theorem nativeLoad (args : List m.engine.Value) : P m.engine.Value (m.nativeLoad serve args) := by
  refine rules.bind (rules.textArgument serves _ args) fun name =>
    rules.bind (rules.lookUp _ name) fun found => ?_
  cases found with
  | ok found => exact rules.check (rules.within (.makeText _) serves)
  | error e => exact rules.bind (rules.diagnose _) fun _ => rules.raise serves _ _

/-- What the console prints is made of texts that are taken one after the other. -/
theorem consoleTexts (args : List m.engine.Value) :
    P (List String) (m.consoleTexts serve args) := by
  induction args with
  | nil => exact rules.pure _
  | cons v rest ih =>
    exact rules.bind (rules.check (rules.within (.toText v) serves)) fun _ =>
      rules.bind (rules.textArgument serves _ _) fun _ => rules.bind ih fun _ => rules.pure _

/-- The console prints one line. -/
theorem nativeConsole (args : List m.engine.Value) :
    P m.engine.Value (m.nativeConsole serve args) :=
  rules.bind (rules.consoleTexts serves args) fun texts =>
    rules.print (String.intercalate " " texts)
    (fun _ safe => rules.bind (rules.granted serves _ safe) fun _ => rules.pure _)
    fun _ _ => rfl

/-- Requiring a module attempts its evaluation, and describes what comes out of it. -/
theorem nativeRequire
    (attempts : ∀ {α : Type} {x : m.Work α}, P α x → P (Ending m.engine.Value α) (Bridge.attempt x))
    (args : List m.engine.Value) : P m.engine.Value (m.nativeRequire serve args) := by
  refine rules.bind (rules.textArgument serves _ args) fun name =>
    rules.bind (rules.lookUp _ name) fun found => ?_
  cases found with
  | error e => exact rules.bind (rules.diagnose _) fun _ => rules.throwEval serves _
  | ok found =>
    refine rules.bind (rules.log _) fun _ =>
      rules.bind (rules.evaluateText serves attempts _) fun ended => ?_
    cases ended with
    | ok _ => exact rules.pure _
    | error fault => exact rules.bind (rules.describe serves attempts fault) fun _ =>
        rules.throwEval serves _

/-- The natives have the property if those that are called inside them have it. The one that runs
scripts is left to be looked at. -/
theorem native (requires : ∀ args, P m.engine.Value (m.nativeRequire serve args)) :
    Serves P (m.native serve) := by
  intro n args
  cases n with
  | command => exact rules.nativeCommand serves args
  | load => exact rules.nativeLoad serves args
  | require => exact requires args
  | console => exact rules.nativeConsole serves args

end

end Rules

/-- However many natives the stack has room for, they have the property. -/
theorem Rules.natives {m : Machine} {P : (α : Type) → m.Work α → Prop}
    (rules : Rules m.engine (Serves P) P) (crashed : P m.engine.Value (MonadExcept.throw .crashed))
    (requires : ∀ serve, Serves P serve → ∀ args, P m.engine.Value (m.nativeRequire serve args)) :
    Serves P m.natives := by
  unfold Machine.natives
  induction m.depth with
  | zero => exact fun _ _ => crashed
  | succ depth ih => exact rules.native ih (requires _ ih)

end Bridge

/-! ## The work of a run -/

namespace Invocation

open Bridge (Rules)

section

variable {m : Machine} {S : Natives m.engine.State m.engine.Value → Prop}
  {P : (α : Type) → m.Work α → Prop} (rules : Rules m.engine S P) (serves : S m.natives)
  (attempts : ∀ {α : Type} {x : m.Work α}, P α x →
    P (Bridge.Ending m.engine.Value α) (Bridge.attempt x))
include rules serves attempts

/-- What the parts of the bridge have, the report of a fault has. -/
theorem report_has (what : String) (fault : EngineFault m.engine.Value) :
    P ScriptError (report m what fault) :=
  rules.bind (rules.describe serves attempts fault) fun _ => rules.bind (rules.log _) fun _ =>
    rules.bind (rules.diagnose _) fun _ => rules.pure _

/-- So has the evaluation of the driver file. -/
theorem loadDriver_has : P Unit (loadDriver m) := by
  refine rules.bind (rules.lookUp _ _) fun found => ?_
  cases found with
  | error e => exact rules.diagnose _
  | ok found =>
    refine rules.bind (rules.log _) fun _ =>
      rules.bind (rules.evaluateText serves attempts _) fun ended => ?_
    cases ended with
    | ok _ => exact rules.pure _
    | error fault =>
      exact rules.bind (report_has rules serves attempts _ fault) fun _ => rules.pure _

/-- So has the entry call, if moving on to the next state has. -/
theorem callEntry_has (enters : P Unit (Bridge.ask (.enter .entryInvoked))) (args : String) :
    P (Except ScriptError Unit) (callEntry m args) := by
  refine rules.bind (rules.evaluateText serves attempts _) fun ended =>
    rules.bind enters fun _ => ?_
  cases ended with
  | ok _ => exact rules.pure _
  | error fault => exact rules.map _ (report_has rules serves attempts _ fault)

/-- So has the registration of the natives. -/
theorem register_has : P (Except String Unit) (register m) := by
  refine rules.bind (rules.defineAll serves attempts _) fun ended => ?_
  cases ended with
  | ok _ => exact rules.bind (rules.log _) fun _ => rules.pure _
  | error fault => exact rules.map _ (rules.describe serves attempts fault)

/-- So has the whole work of an engine, if every move to another state and counting the engine
have. -/
theorem session_has (enters : ∀ state, P Unit (Bridge.ask (.enter state)))
    (counts : P Nat (Bridge.ask .countEngine)) (args : String) :
    P (Except String (Except ScriptError Unit)) (session m args) := by
  refine rules.bind counts fun _ => rules.bind (enters _) fun _ => rules.bind (rules.log _) fun _ =>
    rules.bind (register_has rules serves attempts) fun registered => ?_
  cases registered with
  | error detail => exact rules.pure _
  | ok _ =>
    exact rules.bind (enters _) fun _ =>
      rules.bind (loadDriver_has rules serves attempts) fun _ => rules.bind (enters _) fun _ =>
        rules.map _ (callEntry_has rules serves attempts (enters _) args)

end

end Invocation

end DecompilerBridge
