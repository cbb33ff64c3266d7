import DecompilerBridge.Proofs.Bridge.Rules

/-!
# Panics of the host on their way through an engine

A panic of the host is parked and thrown into the script that asked. Whoever has called the engine
resumes it when an exception comes out, and so it goes from one evaluation to the one around it. The
engine alone can stop it: something in there can intercept the exception that stands for it.

That an engine lets every exception out which nothing intercepts is the one thing that has to be
known of it (`ScriptEngine.LetsExceptionsOut`). Then the rest of a program is at its end as soon as
the host has panicked, and no further request is made (`Direct`), unless the engine tells of an
interception first.

Without a panic of the host none comes out of a program, whatever the engine does (`Quiet`). And
nothing that an engine throws ever leaves the work of a run (`session_attempted`).
-/

set_option autoImplicit false

namespace DecompilerBridge

variable {σ V α β : Type}

/-! ## The panics of a host -/

/-- The panic that the host answers a native with, if it does. -/
def Access.panic? : Access α → Option Panic
  | .panicked p => some p
  | _ => none

/-- The panic that the host answers a request with, if it does. -/
def HostRequest.panic? : (q : HostRequest) → q.Reply → Option Panic
  | .command _, reply => Access.panic? reply
  | .print _, reply => Access.panic? reply
  | .diagnose _, .error p => some p
  | _, _ => none

/-- An answer without a panic is none. -/
theorem Access.ne_panicked {r : Access α} (safe : r.panic? = none) (p : Panic) :
    r ≠ .panicked p := by
  rintro rfl
  cases safe

/-! ## Engines that let exceptions out -/

/-- Whether a native ends with an exception in the engine. -/
def NativeEnd.throws : NativeEnd V → Bool
  | .value _ => false
  | .thrown _ => true
  | .panicked => true

/-- An operation lets exceptions out. While one is on its way, because a native has thrown it or the
deadline has struck, the operation asks for nothing and ends with an exception, unless it tells that
something has intercepted it. -/
def Operation.LetsOut : (leaving : Bool) →
    Interaction (engineSignature σ V) (Except (EngineStop V) α × σ) → Prop
  | leaving, .done ended => leaving = true → ∃ v, ended.1 = .error (.thrown v)
  | leaving, .ask (.native _ _ _) next =>
    leaving = false ∧ ∀ (r : NativeEnd V) (after : σ), LetsOut r.throws (next (r, after))
  | leaving, .ask (.event .interrupted) next => leaving = false ∧ LetsOut true (next ())
  | _, .ask (.event .intercepted) next => LetsOut false (next ())

/-- The operations of an engine let exceptions out. -/
def ScriptEngine.LetsExceptionsOut (E : ScriptEngine) : Prop :=
  ∀ {α : Type} {x : Operation E.State E.Value α}, E.Provides α x →
    ∀ now, Operation.LetsOut false (x.run now)

/-! ## Programs that pass panics on -/

/-- The work around an engine as a program. -/
abbrev LiveWork (σ V α : Type) := Interaction hostSignature (Except (Stop V) α × Live σ)

/-- A computation has ended with no panic on its way. -/
structure Calm (ended : Except (Stop V) α × Live σ) : Prop where
  parked : ended.2.parked = none
  still : ∀ p, ended.1 ≠ .error (.unwound p)

/-- A computation has ended with a panic on its way: through the bridge, or through an engine, and
then it is parked. -/
inductive Carries (p : Panic) : Except (Stop V) α × Live σ → Prop where
  | unwound (live : Live σ) : Carries p (.error (.unwound p), live)
  | thrown (v : V) {live : Live σ} : live.parked = some p → Carries p (.error (.thrown v), live)

/-- After a panic, the rest of a program is at its end, unless something intercepts the exception
that stands for the panic. -/
inductive PassesOn (p : Panic) : LiveWork σ V α → Prop where
  | ended {ended : Except (Stop V) α × Live σ} : Carries p ended → PassesOn p (.done ended)
  | intercepted (next : Unit → LiveWork σ V α) : PassesOn p (.ask (.event .intercepted) next)

/-- What comes after a program that passes a panic on has to pass it on. -/
theorem PassesOn.bind {p : Panic} {t : LiveWork σ V α}
    {f : Except (Stop V) α × Live σ → LiveWork σ V β} (ht : PassesOn p t)
    (hf : ∀ ended, Carries p ended → PassesOn p (f ended)) : PassesOn p (t.bind f) := by
  cases ht with
  | ended carried => exact hf _ carried
  | intercepted next => exact .intercepted _

/-- Whenever the host panics for the first time, the program passes the panic on. -/
def Direct : LiveWork σ V α → Prop
  | .done ended => Calm ended
  | .ask q next => ∀ r, match q.panic? r with
    | none => Direct (next r)
    | some p => PassesOn p (next r)

/-- A sequence passes panics on if its parts do. -/
theorem Direct.bind {t : LiveWork σ V α} {f : Except (Stop V) α × Live σ → LiveWork σ V β}
    (ht : Direct t) (calm : ∀ ended, Calm ended → Direct (f ended))
    (carry : ∀ p ended, Carries p ended → PassesOn p (f ended)) : Direct (t.bind f) := by
  induction t with
  | done ended => exact calm ended ht
  | ask q next ih =>
    intro r
    have answer := ht r
    cases panic : q.panic? r with
    | none =>
      rw [panic] at answer
      exact ih r answer
    | some p =>
      rw [panic] at answer
      exact answer.bind (carry p)

namespace Bridge

/-! ## Computations that pass panics on -/

/-- A computation passes panics on, from every point at which none is parked. -/
def Direct (x : Bridge σ V α) : Prop :=
  ∀ live : Live σ, live.parked = none → DecompilerBridge.Direct (x.run live)

namespace Direct

/-- A sequence passes panics on if its parts do. -/
theorem bind {x : Bridge σ V α} {f : α → Bridge σ V β} (hx : Direct x) (hf : ∀ a, Direct (f a)) :
    Direct (x >>= f) := by
  intro live calm
  rw [run_bind]
  refine (hx live calm).bind ?_ ?_
  · rintro ⟨stop | a, after⟩ ended
    · exact ⟨ended.parked, fun p same => ended.still p (by cases same; rfl)⟩
    · exact hf a after ended.parked
  · rintro p _ (⟨after⟩ | ⟨v, parked⟩)
    · exact .ended (.unwound after)
    · exact .ended (.thrown v parked)

/-- A panic that comes out of what is attempted goes on. -/
theorem attempt {x : Bridge σ V α} (hx : Direct x) : Direct (Bridge.attempt x) := by
  intro live calm
  refine (hx live calm).bind ?_ ?_
  · rintro ⟨(v | p | _ | _) | a, after⟩ ended
    · have parked : after.parked = none := ended.parked
      simp only [parked]
      exact ⟨parked, nofun⟩
    · exact absurd rfl (ended.still p)
    · exact ⟨ended.parked, nofun⟩
    · exact ⟨ended.parked, nofun⟩
    · exact ⟨ended.parked, nofun⟩
  · rintro p _ (⟨after⟩ | ⟨v, parked⟩)
    · exact .ended (.unwound after)
    · -- what was thrown is looked up among what is parked, and resumed as a panic
      simp only [parked]
      exact .ended (.unwound _)

/-- So does a check, which passes on what the attempt has met. -/
theorem check {x : Bridge σ V α} (hx : Direct x) : Direct (Bridge.check x) := by
  refine hx.attempt.bind fun ending => ?_
  cases ending <;> exact fun _ calm => ⟨calm, nofun⟩

/-- A request that cannot be answered with a panic. -/
theorem ask {q : HostRequest} (safe : ∀ r, q.panic? r = none) :
    Direct (Bridge.ask q : Bridge σ V q.Reply) := by
  intro live calm r
  dsimp only
  rw [safe r]
  exact ⟨calm, nofun⟩

/-- A request whose answer is looked at: a panic has to be passed on at once. -/
theorem ask_bind {q : HostRequest} {f : q.Reply → Bridge σ V α}
    (safe : ∀ r, q.panic? r = none → Direct (f r))
    (panics : ∀ r p, q.panic? r = some p → ∀ live,
      (f r).run live = .done (.error (.unwound p), live)) :
    Direct (Bridge.ask q >>= f) := by
  intro live calm r
  cases panic : q.panic? r with
  | none => exact safe r panic live calm
  | some p =>
    show PassesOn p ((f r).run live)
    rw [panics r p panic live]
    exact .ended (.unwound live)

/-- A record is noted past the host. -/
theorem log (r : LogRecord) : Direct (Bridge.log r : Bridge σ V Unit) :=
  (ask (q := .log r) fun _ => rfl).bind fun _ _ calm => ⟨calm, nofun⟩

/-- A diagnostic can panic, and the panic unwinds the run. -/
theorem diagnose (line : String) : Direct (Bridge.diagnose line : Bridge σ V Unit) := by
  refine ask_bind (q := .diagnose line) ?_ ?_
  · rintro (p | _) safe
    · cases safe
    · exact fun _ calm => ⟨calm, nofun⟩
  · rintro (q | _) p panicked live
    · cases panicked
      rfl
    · cases panicked

/-- What an operation does that lets exceptions out passes on the panics of the natives that it is
carried out with. -/
theorem carried {natives : Natives σ V} (serves : Serves (fun _ x => Direct x) natives)
    {t : Interaction (engineSignature σ V) (Except (EngineStop V) α × σ)} {leaving : Bool}
    (lets : Operation.LetsOut leaving t) :
    DecompilerBridge.Direct (carry natives t none) ∧
      (leaving = true → ∀ p, PassesOn p (carry natives t (some p))) := by
  -- over what the operation asks for; an exception that is leaving it stays on its way
  induction t generalizing leaving with
  | done ended =>
    refine ⟨?_, fun left p => ?_⟩
    · rcases ended with ⟨(v | _ | _) | a, now⟩ <;> exact ⟨rfl, nofun⟩
    · obtain ⟨outcome, now⟩ := ended
      obtain ⟨v, rfl⟩ := lets left
      exact .ended (.thrown v rfl)
  | ask q next ih =>
    cases q with
    | native n args now =>
      obtain ⟨staying, after⟩ := lets
      refine ⟨?_, fun left => absurd (staying.symm.trans left) nofun⟩
      rw [carry]
      refine (serves n args ⟨now, none⟩ rfl).bind ?_ ?_
      · rintro ⟨(v | p | _ | _) | v, live⟩ ended
        · have parked : live.parked = none := ended.parked
          simp only [parked]
          exact (ih _ (after (.thrown v) live.state)).1
        · exact absurd rfl (ended.still p)
        · exact ⟨ended.parked, nofun⟩
        · exact ⟨ended.parked, nofun⟩
        · have parked : live.parked = none := ended.parked
          simp only [parked]
          exact (ih _ (after (.value v) live.state)).1
      · rintro p _ (⟨live⟩ | ⟨v, parked⟩)
        · exact (ih _ (after .panicked live.state)).2 rfl p
        · simp only [parked]
          exact (ih _ (after (.thrown v) _)).2 rfl p
    | event e =>
      cases e with
      | interrupted =>
        obtain ⟨staying, after⟩ := lets
        exact ⟨fun _ => (ih () after).1, fun left => absurd (staying.symm.trans left) nofun⟩
      | intercepted => exact ⟨fun _ => (ih () lets).1, fun _ _ => .intercepted _⟩

/-- An operation passes on the panics of its natives, if it lets exceptions out. -/
theorem within {natives : Natives σ V} (serves : Serves (fun _ x => Direct x) natives)
    {x : Operation σ V α} (law : ∀ now, Operation.LetsOut false (x.run now)) :
    Direct (Bridge.within natives x) := by
  intro live calm
  show DecompilerBridge.Direct (carry natives (x.run live.state) live.parked)
  rw [calm]
  exact (carried serves (law live.state)).1

end Direct

/-- The parts of the bridge pass panics on, around an engine that lets exceptions out. -/
theorem direct_rules {E : ScriptEngine} (law : E.LetsExceptionsOut) :
    Rules E (Serves fun _ x => Direct x) fun _ x => Direct x where
  pure _ := fun _ calm => ⟨calm, nofun⟩
  thrown _ := fun _ calm => ⟨calm, nofun⟩
  bind := .bind
  look hf := fun live calm => hf live.state live calm
  log := .log
  diagnose := .diagnose
  command _ safe panics := Direct.ask_bind (fun r quiet => safe r (Access.ne_panicked quiet))
    fun r p panicked => by
      cases r <;> cases panicked
      exact panics p
  print _ safe panics := Direct.ask_bind (fun r quiet => safe r (Access.ne_panicked quiet))
    fun r p panicked => by
      cases r <;> cases panicked
      exact panics p
  within provided serves := .within serves (law provided)
  check := .check

/-- The natives of a run pass panics on. -/
theorem natives_direct {m : Machine} (law : m.engine.LetsExceptionsOut) :
    Serves (fun _ x => Direct x) m.natives :=
  (direct_rules law).natives (fun _ calm => ⟨calm, nofun⟩) fun _ serves =>
    (direct_rules law).nativeRequire serves .attempt

end Bridge

/-! ## Programs on a host that does not panic -/

/-- A program ends without a panic if the host answers all its requests without one. -/
def Quiet : LiveWork σ V α → Prop
  | .done ended => Calm ended
  | .ask q next => ∀ r, q.panic? r = none → Quiet (next r)

/-- A program is quiet if what follows its calm ends is quiet. -/
theorem Quiet.bind {t : LiveWork σ V α} {f : Except (Stop V) α × Live σ → LiveWork σ V β}
    (ht : Quiet t) (hf : ∀ ended, Calm ended → Quiet (f ended)) : Quiet (t.bind f) := by
  induction t with
  | done ended => exact hf ended ht
  | ask q next ih => exact fun r safe => ih r (ht r safe)

/-- A drive in which the host does not panic ends without a panic. -/
theorem Quiet.of_drive {τ ε : Type} {answer : (q : HostRequest) → τ → Except ε q.Reply × τ}
    {t : LiveWork σ V α} {s s' : τ} {ended : Except (Stop V) α × Live σ} (quiet : Quiet t)
    (calm : ∀ q next before r, Interaction.Reaches answer t s (.ask q next) before →
      (answer q before).1 = .ok r → q.panic? r = none)
    (driven : t.drive answer s = (.ok ended, s')) : Calm ended := by
  induction t generalizing s with
  | done last =>
    simp only [Interaction.drive_done, Prod.mk.injEq, Except.ok.injEq] at driven
    rw [← driven.1]
    exact quiet
  | ask q next ih =>
    rcases answered : answer q s with ⟨_ | r, after⟩ <;>
      simp only [Interaction.drive, answered] at driven
    · cases driven
    · have safe := calm q next s r (.refl _ _) (by rw [answered])
      exact ih r (quiet r safe) (fun q' next' before r' reached =>
        calm q' next' before r' (.step answered reached)) driven

namespace Bridge

/-- A computation is quiet from every point at which no panic is parked. -/
def Quiet (x : Bridge σ V α) : Prop :=
  ∀ live : Live σ, live.parked = none → DecompilerBridge.Quiet (x.run live)

namespace Quiet

/-- Sequences of quiet computations are quiet. -/
theorem bind {x : Bridge σ V α} {f : α → Bridge σ V β} (hx : Quiet x) (hf : ∀ a, Quiet (f a)) :
    Quiet (x >>= f) := by
  intro live calm
  rw [run_bind]
  refine (hx live calm).bind ?_
  rintro ⟨stop | a, after⟩ ended
  · exact ⟨ended.parked, fun p same => ended.still p (by cases same; rfl)⟩
  · exact hf a after ended.parked

/-- No panic comes of a request by itself. -/
theorem ask (q : HostRequest) : Quiet (Bridge.ask q : Bridge σ V q.Reply) :=
  fun _ calm _ _ => ⟨calm, nofun⟩

/-- Only an answer without a panic has to be looked at. -/
theorem ask_bind {q : HostRequest} {f : q.Reply → Bridge σ V α}
    (safe : ∀ r, q.panic? r = none → Quiet (f r)) : Quiet (Bridge.ask q >>= f) :=
  fun live calm r unharmed => safe r unharmed live calm

/-- An attempt at something quiet finds no panic parked. -/
theorem attempt {x : Bridge σ V α} (hx : Quiet x) : Quiet (Bridge.attempt x) := by
  intro live calm
  refine (hx live calm).bind ?_
  rintro ⟨(v | p | _ | _) | a, after⟩ ended
  · have parked : after.parked = none := ended.parked
    simp only [parked]
    exact ⟨parked, nofun⟩
  · exact absurd rfl (ended.still p)
  · exact ⟨ended.parked, nofun⟩
  · exact ⟨ended.parked, nofun⟩
  · exact ⟨ended.parked, nofun⟩

/-- So does a check. -/
theorem check {x : Bridge σ V α} (hx : Quiet x) : Quiet (Bridge.check x) := by
  refine hx.attempt.bind fun ending => ?_
  cases ending <;> exact fun _ calm => ⟨calm, nofun⟩

/-- An operation is quiet if the natives are, whatever it does with their exceptions. -/
theorem within {natives : Natives σ V} (serves : Serves (fun _ x => Quiet x) natives)
    (x : Operation σ V α) : Quiet (Bridge.within natives x) := by
  have carried : ∀ t : Interaction (engineSignature σ V) (Except (EngineStop V) α × σ),
      DecompilerBridge.Quiet (carry natives t none) := by
    intro t
    induction t with
    | done ended => rcases ended with ⟨(v | _ | _) | a, now⟩ <;> exact ⟨rfl, nofun⟩
    | ask q next ih =>
      cases q with
      | native n args now =>
        rw [carry]
        refine (serves n args ⟨now, none⟩ rfl).bind ?_
        rintro ⟨(v | p | _ | _) | v, live⟩ ended
        · have parked : live.parked = none := ended.parked
          simp only [parked]
          exact ih _
        · exact absurd rfl (ended.still p)
        · exact ⟨ended.parked, nofun⟩
        · exact ⟨ended.parked, nofun⟩
        · have parked : live.parked = none := ended.parked
          simp only [parked]
          exact ih _
      | event e => exact fun _ _ => ih _
  intro live calm
  show DecompilerBridge.Quiet (carry natives (x.run live.state) live.parked)
  rw [calm]
  exact carried _

end Quiet

/-- The parts of the bridge are quiet, around every engine. -/
theorem quiet_rules (E : ScriptEngine) :
    Rules E (Serves fun _ x => Quiet x) fun _ x => Quiet x where
  pure _ := fun _ calm => ⟨calm, nofun⟩
  thrown _ := fun _ calm => ⟨calm, nofun⟩
  bind := .bind
  look hf := fun live calm => hf live.state live calm
  log r := (Quiet.ask (.log r)).bind fun _ _ calm => ⟨calm, nofun⟩
  diagnose line := by
    refine Quiet.ask_bind fun r safe => ?_
    cases r with
    | ok _ => exact fun _ calm => ⟨calm, nofun⟩
    | error p => cases safe
  command _ safe _ := Quiet.ask_bind fun r quiet => safe r (Access.ne_panicked quiet)
  print _ safe _ := Quiet.ask_bind fun r quiet => safe r (Access.ne_panicked quiet)
  within _ serves := .within serves _
  check := .check

/-- The natives that are called inside others are quiet, however deep. -/
theorem nativesWithin_quiet (m : Machine) (depth : Nat) :
    Serves (fun _ x => Quiet x) (m.nativesWithin depth) := by
  have rules := quiet_rules m.engine
  induction depth with
  | zero => exact fun _ _ _ calm => ⟨calm, nofun⟩
  | succ depth ih => exact rules.native ih (rules.nativeRequire ih .attempt)

/-- The natives of a run are quiet. -/
theorem natives_quiet (m : Machine) : Serves (fun _ x => Quiet x) m.natives :=
  nativesWithin_quiet m m.depth

/-! ## Nothing that an engine throws leaves the bridge -/

/-- How the bridge ends around an engine: with a value, with a panic, or with a process that goes no
further. What the engine throws stays inside. -/
def IsOwnEnd : Except (Stop V) α → Prop
  | .error (.thrown _) => False
  | _ => True

/-- A computation that has attempted whatever may throw. -/
def Attempted (x : Bridge σ V α) : Prop := ∀ live, (x.run live).Ends fun ended => IsOwnEnd ended.1

namespace Attempted

/-- A value is no exception. -/
theorem pure (a : α) : Attempted (Pure.pure a : Bridge σ V α) := fun _ => trivial

/-- To look at the state throws nothing. -/
theorem look {f : σ → Bridge σ V α} (hf : ∀ now, Attempted (f now)) : Attempted (state >>= f) :=
  fun live => hf live.state live

/-- A request throws nothing. -/
theorem ask (q : HostRequest) : Attempted (Bridge.ask q : Bridge σ V q.Reply) := fun _ _ => trivial

/-- A sequence of such computations. -/
theorem bind {x : Bridge σ V α} {f : α → Bridge σ V β} (hx : Attempted x)
    (hf : ∀ a, Attempted (f a)) : Attempted (x >>= f) := by
  intro live
  rw [run_bind]
  refine (hx live).bind ?_
  rintro ⟨(v | p | _ | _) | a, after⟩ own
  · exact own
  · trivial
  · trivial
  · trivial
  · exact hf a after

/-- A value that is changed is a value. -/
theorem map {x : Bridge σ V α} (f : α → β) (hx : Attempted x) : Attempted (f <$> x) :=
  hx.bind fun a => .pure (f a)

/-- An attempt lets no thrown value out. -/
theorem attempt (x : Bridge σ V α) : Attempted (Bridge.attempt x) := by
  intro live
  refine (Interaction.ends_true (x.run live)).bind ?_
  rintro ⟨(v | p | _ | _) | a, after⟩ -
  · dsimp only
    cases after.parked <;> trivial
  · trivial
  · trivial
  · trivial
  · trivial

/-- To note a record throws nothing. -/
theorem log (r : LogRecord) : Attempted (Bridge.log r : Bridge σ V Unit) :=
  (ask _).bind fun _ => .pure ()

/-- So does noting several. -/
theorem logAll (rs : List LogRecord) : Attempted (Bridge.logAll rs : Bridge σ V Unit) := by
  induction rs with
  | nil => exact .pure ()
  | cons r rest ih => exact (log r).bind fun _ => ih

/-- A diagnostic can unwind the run, but throws nothing. -/
theorem diagnose (line : String) : Attempted (Bridge.diagnose line : Bridge σ V Unit) := by
  refine (ask (.diagnose line)).bind fun r => ?_
  cases r with
  | ok _ => exact .pure ()
  | error p => exact fun _ => trivial

section

variable {E : ScriptEngine} {serve : Natives E.State E.Value}

/-- What is tried ends with a value or with none. -/
theorem tried (x : Operation E.State E.Value α) : Attempted (E.tried serve x) := by
  refine (attempt _).bind fun ending => ?_
  cases ending <;> exact .pure _

/-- A description asks an engine for texts by trying alone, so it throws nothing. -/
theorem describedText (v : E.Value) : Attempted (E.describedText serve v) := by
  refine (tried _).bind fun found => ?_
  cases found with
  | none => exact .pure _
  | some text => exact .look fun _ => .pure _

/-- So does the description of a member. -/
theorem describedMember (e : E.Value) (name : String) :
    Attempted (E.describedMember serve e name) := by
  refine (tried _).bind fun found => ?_
  cases found with
  | none => exact .pure _
  | some v =>
    refine .look fun now => ?_
    split
    · exact .pure _
    · exact describedText v

/-- So does the name of an error. -/
theorem describedName (e : E.Value) : Attempted (E.describedName serve e) := by
  refine (tried _).bind fun found => ?_
  cases found with
  | none => exact .pure _
  | some v => exact Attempted.bind (.look fun _ => .pure _) fun _ => .pure _

/-- A description is given, whatever is thrown while it is made. -/
theorem describe (fault : EngineFault E.Value) : Attempted (E.describe serve fault) := by
  cases fault with
  | nul offset => exact .pure _
  | exception v =>
    refine .look fun now => ?_
    split
    · exact (describedName v).bind fun _ => (describedMember v _).bind fun _ =>
        (logAll _).bind fun _ => (describedMember v _).bind fun _ => .pure _
    · exact (describedText v).bind fun _ => .look fun _ => .pure _

/-- Evaluating a text gives its fault as a value. -/
theorem evaluateText (text : String) : Attempted (E.evaluateText serve text) := by
  unfold ScriptEngine.evaluateText
  split
  · exact .pure _
  · refine (attempt _).bind fun ending => ?_
    cases ending <;> exact .pure _

/-- So does adding natives. -/
theorem defineAll (ns : List Native) : Attempted (E.defineAll serve ns) := by
  induction ns with
  | nil => exact .pure _
  | cons n rest ih =>
    refine (attempt _).bind fun ending => ?_
    cases ending with
    | value _ => exact ih
    | thrown v => exact .pure _

end

/-- Looking a module up gives its failure as a value. -/
theorem lookUp (m : Machine) (kind : ModuleKind) (name : String) :
    Attempted (m.lookUp kind name) :=
  (logAll _).bind fun _ => .pure _

end Attempted

end Bridge

/-! ## The work of a run -/

namespace Invocation

open Bridge (Attempted)

/-- The work of an engine passes panics on. -/
theorem session_direct {m : Machine} (law : m.engine.LetsExceptionsOut) (args : String) :
    Bridge.Direct (session m args) :=
  session_has (Bridge.direct_rules law) (Bridge.natives_direct law) .attempt
    (fun _ => Bridge.Direct.ask fun _ => rfl) (Bridge.Direct.ask fun _ => rfl) args

/-- The work of an engine is quiet. -/
theorem session_quiet (m : Machine) (args : String) : Bridge.Quiet (session m args) :=
  session_has (Bridge.quiet_rules m.engine) (Bridge.natives_quiet m) .attempt (fun _ => .ask _)
    (.ask _) args

/-- A report describes, prints, and throws nothing. -/
theorem report_attempted (m : Machine) (what : String) (fault : EngineFault m.engine.Value) :
    Attempted (report m what fault) :=
  (Attempted.describe fault).bind fun _ => (Attempted.log _).bind fun _ =>
    (Attempted.diagnose _).bind fun _ => .pure _

/-- A driver file that fails is reported, and nothing is thrown. -/
theorem loadDriver_attempted (m : Machine) : Attempted (loadDriver m) := by
  refine (Attempted.lookUp m _ _).bind fun found => ?_
  cases found with
  | error e => exact .diagnose _
  | ok found =>
    refine (Attempted.log _).bind fun _ => (Attempted.evaluateText _).bind fun ended => ?_
    cases ended with
    | ok _ => exact .pure _
    | error fault => exact (report_attempted m _ fault).bind fun _ => .pure _

/-- Nor is anything thrown by the entry call. -/
theorem callEntry_attempted (m : Machine) (args : String) : Attempted (callEntry m args) := by
  refine (Attempted.evaluateText _).bind fun ended => (Attempted.ask _).bind fun _ => ?_
  cases ended with
  | ok _ => exact .pure _
  | error fault => exact .map _ (report_attempted m _ fault)

/-- The work of an engine lets nothing out that the engine throws. -/
theorem session_attempted (m : Machine) (args : String) : Attempted (session m args) := by
  have registers : Attempted (register m) := by
    refine (Attempted.defineAll _).bind fun ended => ?_
    cases ended with
    | ok _ => exact (Attempted.log _).bind fun _ => .pure _
    | error fault => exact .map _ (Attempted.describe fault)
  refine (Attempted.ask _).bind fun _ => (Attempted.ask _).bind fun _ =>
    (Attempted.log _).bind fun _ => registers.bind fun registered => ?_
  cases registered with
  | error detail => exact .pure _
  | ok _ =>
    exact (Attempted.ask _).bind fun _ => (loadDriver_attempted m).bind fun _ =>
      (Attempted.ask _).bind fun _ => .map _ (callEntry_attempted m args)

end Invocation

end DecompilerBridge
