import DecompilerBridge.Proofs.Bridge.Panics

/-!
# Interruptions on their way through an engine

The deadline interrupts whatever script is running. An interruption does not stay one: a module that
is interrupted inside a native is described and thrown as an ordinary error at the script that
needed it, and code of scripts may run meanwhile. From then on something in the engine can intercept
it, and the engine tells so.

So the list of all requests along a branch says whether an interruption is still on its way at the
end (`interrupted`), and then the computation gives no value (`Heeds`), around an engine that lets
exceptions out. The native that runs scripts is looked at on its own, since an attempt makes an
ordinary value of an interruption: whoever attempts something has to fail after one.

The deadline also keeps what is done about an interruption from going on for ever: whatever is run
once it has passed is interrupted again (`ScriptEngine.EndsOnceLate`, `EndsOnceLate`).
-/

set_option autoImplicit false

namespace DecompilerBridge

variable {σ V α β : Type}

/-! ## Interruptions among requests -/

/-- Whether an interruption is on its way after a request, if one was before it or not. -/
def HostRequest.interrupts (before : Bool) : HostRequest → Bool
  | .event .interrupted => true
  | .event .intercepted => false
  | _ => before

/-- Whether an interruption is on its way after some requests, if one was before them or not. -/
def interruptedFrom (before : Bool) (qs : List HostRequest) : Bool :=
  qs.foldl HostRequest.interrupts before

/-- Whether a list of requests has an interruption after which nothing was intercepted. -/
def interrupted (qs : List HostRequest) : Bool := interruptedFrom false qs

/-- Requests are gone through in order. -/
theorem interruptedFrom_append (before : Bool) (first second : List HostRequest) :
    interruptedFrom before (first ++ second) =
      interruptedFrom (interruptedFrom before first) second := List.foldl_append

/-- An interruption that was there before makes no difference for the worse. -/
theorem interruptedFrom_true {before : Bool} {qs : List HostRequest}
    (hit : interruptedFrom before qs = true) : interruptedFrom true qs = true := by
  induction qs generalizing before with
  | nil => rfl
  | cons q rest ih =>
    have later : interruptedFrom (q.interrupts before) rest = true := hit
    show interruptedFrom (q.interrupts true) rest = true
    cases q with
    | event e => cases e <;> exact later
    | _ => exact ih later

/-- Requests that are interrupted were so from the start, or become so later. -/
theorem interrupted_append {first second : List HostRequest}
    (hit : interrupted (first ++ second) = true) :
    interrupted first = true ∨ interrupted second = true := by
  unfold interrupted at hit ⊢
  rw [interruptedFrom_append] at hit
  cases before : interruptedFrom false first with
  | true => exact .inl rfl
  | false =>
    rw [before] at hit
    exact .inr hit

/-- Requests that tell of no exception leave an interruption as it is. -/
theorem interruptedFrom_of_forall {before : Bool} {qs : List HostRequest}
    (silent : ∀ q ∈ qs, ∀ e, q ≠ .event e) : interruptedFrom before qs = before := by
  induction qs generalizing before with
  | nil => rfl
  | cons q rest ih =>
    have same : q.interrupts before = before := by
      cases q with
      | event e => exact absurd rfl (silent _ List.mem_cons_self e)
      | _ => rfl
    show interruptedFrom (q.interrupts before) rest = before
    rw [same]
    exact ih fun q mem => silent q (List.mem_cons_of_mem _ mem)

namespace Bridge

/-! ## Computations that heed interruptions -/

/-- A computation that is interrupted gives only values that satisfy `Q`. -/
def HeedsTo (Q : α → Prop) (x : Bridge σ V α) : Prop :=
  ∀ live qs ended, Interaction.Trace (x.run live) qs ended → interrupted qs = true →
    ∀ a, ended.1 = .ok a → Q a

/-- A computation that is interrupted gives no value. -/
def Heeds (x : Bridge σ V α) : Prop := HeedsTo (fun _ => False) x

/-- A computation whose values are all admitted, whatever has happened before, need not look at
interruptions. -/
theorem HeedsTo.of_gives {Q : α → Prop} {x : Bridge σ V α} (gives : Gives Q x) : HeedsTo Q x :=
  fun live _ _ trace _ => trace.ends (gives live)

/-- A computation that asks for nothing is not interrupted. -/
theorem HeedsTo.of_done {Q : α → Prop} {x : Bridge σ V α}
    (silent : ∀ live, ∃ ended, x.run live = .done ended) : HeedsTo Q x := by
  intro live qs ended trace hit
  obtain ⟨last, run⟩ := silent live
  rw [run] at trace
  cases trace
  cases hit

/-- A request that tells of no exception. -/
theorem HeedsTo.ask {q : HostRequest} {Q : q.Reply → Prop} (other : ∀ e, q ≠ .event e) :
    HeedsTo Q (Bridge.ask q : Bridge σ V q.Reply) := by
  intro live qs ended trace hit
  cases trace with
  | ask r rest =>
    cases rest
    have uninterrupted : interrupted [q] = false :=
      interruptedFrom_of_forall fun q' mem => by
        rw [List.mem_singleton.1 mem]
        exact other
    exact absurd (uninterrupted.symm.trans hit) nofun

/-- A sequence gives what its second part gives when interrupted, and after a first part that was
interrupted what the second part always gives. -/
theorem HeedsTo.bind {A : α → Prop} {Q : β → Prop} {x : Bridge σ V α} {f : α → Bridge σ V β}
    (hx : HeedsTo A x) (after : ∀ a, A a → Gives Q (f a)) (hf : ∀ a, HeedsTo Q (f a)) :
    HeedsTo Q (x >>= f) := by
  intro live qs ended trace hit b given
  rcases trace_bind trace with ⟨stop, -, stopped⟩ | ⟨a, between, first, second, rfl, before, rest⟩
  · rw [given] at stopped
    cases stopped
  · -- an interruption of the first part that has become a value is heeded by the second
    rcases interrupted_append hit with earlier | later
    · have value := hx live first _ before earlier a rfl
      exact rest.ends (after a value between) b given
    · exact hf a between second ended rest later b given

namespace Heeds

/-- A sequence heeds interruptions if both parts do. -/
theorem bind {x : Bridge σ V α} {f : α → Bridge σ V β} (hx : Heeds x) (hf : ∀ a, Heeds (f a)) :
    Heeds (x >>= f) :=
  HeedsTo.bind hx (fun _ never => never.elim) hf

/-- A value comes of no request, so of no interruption. -/
theorem pure (a : α) : Heeds (Pure.pure a : Bridge σ V α) := .of_done fun _ => ⟨_, rfl⟩

/-- What is thrown is no value. -/
theorem throw (stop : Stop V) : Heeds (MonadExcept.throw stop : Bridge σ V α) :=
  .of_gives (.throw stop)

/-- An interruption before or after a computation that has given a value was after it. -/
theorem later {x : Bridge σ V α} (hx : Heeds x) {live after : Live σ} {a : α}
    {first second : List HostRequest} (trace : Interaction.Trace (x.run live) first (.ok a, after))
    (hit : interrupted (first ++ second) = true) : interrupted second = true :=
  (interrupted_append hit).resolve_left fun earlier => hx live first _ trace earlier a rfl

/-- What an attempt makes of a computation that is interrupted is no value of it. -/
theorem attempt {x : Bridge σ V α} (hx : Heeds x) :
    HeedsTo (fun ending => ∀ a, ending ≠ .value a) (Bridge.attempt x) := by
  intro live qs ended trace hit
  obtain ⟨first, second, ⟨outcome, after⟩, rfl, before, rest⟩ := trace.of_bind
  rcases outcome with (v | p | _ | _) | a
  -- of a thrown value, a parked panic is made, or an ending without a value
  · cases parked : after.parked <;> simp only [parked] at rest <;> cases rest <;> simp
  · cases rest
    exact nofun
  · cases rest
    exact nofun
  · cases rest
    exact nofun
  · cases rest
    rw [List.append_nil] at hit
    exact (hx live first _ before hit a rfl).elim

/-- A check throws what it has caught, so it heeds what it checks. -/
theorem check {x : Bridge σ V α} (hx : Heeds x) : Heeds (Bridge.check x) := by
  refine HeedsTo.bind hx.attempt (fun ending cut => ?_) fun ending => ?_
  · cases ending with
    | value a => exact absurd rfl (cut a)
    | thrown v => exact .throw _
  · cases ending with
    | value a => exact pure a
    | thrown v => exact throw _

/-- What an operation does that lets exceptions out heeds its interruptions, when it is carried out
with natives that heed theirs. -/
theorem carried {natives : Natives σ V} (serves : Serves (fun _ x => Heeds x) natives)
    {t : Interaction (engineSignature σ V) (Except (EngineStop V) α × σ)} {leaving : Bool}
    {parked : Option Panic} {qs : List HostRequest} {ended : Except (Stop V) α × Live σ}
    (lets : Operation.LetsOut leaving t)
    (trace : Interaction.Trace (carry natives t parked) qs ended)
    (hit : interruptedFrom leaving qs = true) (a : α) : ended.1 ≠ .ok a := by
  intro given
  -- over what the operation asks for
  induction t generalizing leaving parked qs ended with
  | done last =>
    obtain ⟨outcome, now⟩ := last
    have silent : qs = [] := by
      rcases outcome with stop | b <;> cases trace <;> rfl
    subst silent
    obtain ⟨v, rfl⟩ := lets hit
    cases trace
    cases given
  | ask q next ih =>
    cases q with
    | native n args now =>
      obtain ⟨staying, after⟩ := lets
      subst staying
      rw [carry] at trace
      obtain ⟨first, second, ⟨outcome, live⟩, rfl, before, rest⟩ := trace.of_bind
      rw [interruptedFrom_append] at hit
      rcases outcome with (v | p | _ | _) | v
      · exact ih _ (after (.thrown v) live.state) rest (interruptedFrom_true hit) given
      · exact ih _ (after .panicked live.state) rest (interruptedFrom_true hit) given
      · cases rest
        cases given
      · cases rest
        cases given
      · -- a native that gives a value has not been interrupted
        cases cut : interruptedFrom false first with
        | true => exact serves n args _ first _ before cut v rfl
        | false =>
          rw [cut] at hit
          exact ih _ (after (.value v) live.state) rest hit given
    | event e =>
      rw [carry] at trace
      cases trace with
      | @ask _ _ qs _ r rest =>
        cases e with
        | interrupted => exact ih () lets.2 rest hit given
        | intercepted => exact ih () lets rest hit given

/-- An operation heeds the interruptions of its own and of its natives, if it lets exceptions out.
-/
theorem within {natives : Natives σ V} (serves : Serves (fun _ x => Heeds x) natives)
    {x : Operation σ V α} (law : ∀ now, Operation.LetsOut false (x.run now)) :
    Heeds (Bridge.within natives x) :=
  fun live _ _ trace hit => carried serves (law live.state) trace hit

end Heeds

/-- The parts of the bridge heed interruptions, around an engine that lets exceptions out. -/
theorem heeds_rules {E : ScriptEngine} (law : E.LetsExceptionsOut) :
    Rules E (Serves fun _ x => Heeds x) fun _ x => Heeds x where
  pure := .pure
  thrown _ := .throw _
  bind := .bind
  look hf := fun live => hf live.state live
  log r := Heeds.bind (HeedsTo.ask (q := .log r) nofun) fun _ => .pure ()
  diagnose line := by
    refine Heeds.bind (HeedsTo.ask (q := .diagnose line) nofun) fun r => ?_
    cases r with
    | ok _ => exact .pure _
    | error p => exact .throw _
  command text hf panics := Heeds.bind (HeedsTo.ask (q := .command text) nofun) fun r => by
    cases r with
    | panicked p => exact .of_done fun live => ⟨_, panics p live⟩
    | _ => exact hf _ nofun
  print line hf panics := Heeds.bind (HeedsTo.ask (q := .print _) nofun) fun r => by
    cases r with
    | panicked p => exact .of_done fun live => ⟨_, panics p live⟩
    | _ => exact hf _ nofun
  within provided serves := .within serves (law provided)
  check := .check

section

variable {E : ScriptEngine} {serve : Natives E.State E.Value}

/-- Throwing a new error gives no value. -/
theorem raise_gives (cls : ErrorClass) (message : String) :
    Gives (fun _ => False) (E.raise serve cls message : Bridge E.State E.Value α) :=
  Gives.after _ fun none => none.elim

/-- The error for a module is thrown, and no value comes of it. -/
theorem throwEval_gives (message : String) :
    Gives (fun _ => False) (E.throwEval serve message : Bridge E.State E.Value α) := by
  refine Gives.after _ fun cls => Gives.after _ fun now => ?_
  split
  · exact Gives.after _ fun _ => Gives.after _ fun _ => .throw _
  · exact raise_gives _ _

/-- The evaluation of a text that is interrupted fails. -/
theorem evaluateText_heeds (law : E.LetsExceptionsOut) (serves : Serves (fun _ x => Heeds x) serve)
    (text : String) : HeedsTo (fun ended => ended ≠ .ok ()) (E.evaluateText serve text) := by
  unfold ScriptEngine.evaluateText
  split
  · exact .of_gives (.pure nofun)
  · have attempted := ((heeds_rules law).within (.evaluate text) serves).attempt
    refine HeedsTo.bind attempted (fun ending cut => ?_) fun ending => ?_
    · cases ending with
      | value a => exact absurd rfl (cut a)
      | thrown v => exact .pure nofun
    · cases ending with
      | value a => exact .of_done fun _ => ⟨_, rfl⟩
      | thrown v => exact .of_gives (.pure nofun)

end

/-- A module that is interrupted gives no value to the script that needs it. -/
theorem nativeRequire_heeds {m : Machine} (law : m.engine.LetsExceptionsOut)
    {serve : Natives m.engine.State m.engine.Value} (serves : Serves (fun _ x => Heeds x) serve)
    (args : List m.engine.Value) : Heeds (m.nativeRequire serve args) := by
  have rules := heeds_rules law
  refine (rules.textArgument serves _ args).bind fun name =>
    (rules.lookUp _ name).bind fun found => ?_
  cases found with
  | error e => exact (rules.diagnose _).bind fun _ => .of_gives (throwEval_gives _)
  | ok found =>
    have failure : ∀ fault, Gives (fun _ => False) (do
        let detail ← m.engine.describe serve fault
        m.engine.throwEval serve (found.file ++ ": " ++ detail) : m.Work m.engine.Value) :=
      fun fault => Gives.after _ fun _ => throwEval_gives _
    refine (rules.log _).bind fun _ =>
      HeedsTo.bind (evaluateText_heeds law serves found.text) (fun ended failed => ?_)
        fun ended => ?_
    · cases ended with
      | ok _ => exact absurd rfl failed
      | error fault => exact failure fault
    · cases ended with
      | ok _ => exact Heeds.pure _
      | error fault => exact .of_gives (failure fault)

/-- The natives of a run heed interruptions. -/
theorem natives_heed {m : Machine} (law : m.engine.LetsExceptionsOut) :
    Serves (fun _ x => Heeds x) m.natives :=
  (heeds_rules law).natives (.throw _) fun _ serves => nativeRequire_heeds law serves

end Bridge

/-! ## Engines past their deadline -/

/-- An operation ends in a late state, and does not run for ever, if an interruption is still on its
way at the end: one from before it, when the state was late already, or one of its own. -/
def Operation.EndsOnceLate (Late : σ → Prop) : (interrupted : Bool) →
    Interaction (engineSignature σ V) (Except (EngineStop V) α × σ) → Prop
  | hit, .done ended => hit = true → Late ended.2 ∧ ended.1 ≠ .error .hung
  | hit, .ask (.native _ _ state) next => (hit = true → Late state) ∧
    ∀ (r : NativeEnd V) (after : σ) (still : Bool), (still = true → Late after) →
      EndsOnceLate Late still (next (r, after))
  | _, .ask (.event .interrupted) next => EndsOnceLate Late true (next ())
  | _, .ask (.event .intercepted) next => EndsOnceLate Late false (next ())

/-- Late states are those past the deadline: once an engine has told of an interruption its state is
late and stays so, and no operation runs for ever in it unless something intercepts what the
deadline throws. -/
def ScriptEngine.EndsOnceLate (E : ScriptEngine) (Late : E.State → Prop) : Prop :=
  ∀ {α : Type} {x : Operation E.State E.Value α}, E.Provides α x →
    ∀ now hit, (hit = true → Late now) → Operation.EndsOnceLate Late hit (x.run now)

namespace Bridge

section

variable (Late : σ → Prop)

/-- A computation ends in a late state, and does not run for ever, if an interruption is still on
its way at the end. -/
def EndsOnceLate (x : Bridge σ V α) : Prop :=
  ∀ (live : Live σ) hit qs ended, (hit = true → Late live.state) →
    Interaction.Trace (x.run live) qs ended → interruptedFrom hit qs = true →
      Late ended.2.state ∧ ended.1 ≠ .error .hung

namespace EndsOnceLate

variable {Late}

/-- A computation that asks for nothing, leaves the state as it is and does not run for ever. -/
theorem of_done {x : Bridge σ V α}
    (silent : ∀ live, ∃ outcome, x.run live = .done (outcome, live) ∧ outcome ≠ .error .hung) :
    EndsOnceLate Late x := by
  intro live hit qs ended late trace on
  obtain ⟨outcome, run, ends⟩ := silent live
  rw [run] at trace
  cases trace
  exact ⟨late on, ends⟩

/-- So does a request that tells of no exception. -/
theorem ask {q : HostRequest} (other : ∀ e, q ≠ .event e) :
    EndsOnceLate Late (Bridge.ask q : Bridge σ V q.Reply) := by
  intro live hit qs ended late trace on
  cases trace with
  | ask r rest =>
    cases rest
    refine ⟨late ?_, nofun⟩
    rwa [interruptedFrom_of_forall fun q' mem => by
      rw [List.mem_singleton.1 mem]
      exact other] at on

/-- A sequence ends late if its second part starts late, which it does after a first part that ended
so. -/
theorem bind {x : Bridge σ V α} {f : α → Bridge σ V β} (hx : EndsOnceLate Late x)
    (hf : ∀ a, EndsOnceLate Late (f a)) : EndsOnceLate Late (x >>= f) := by
  intro live hit qs ended late trace on
  rcases trace_bind trace with
    ⟨stop, stopped, last⟩ | ⟨a, between, first, second, rfl, before, rest⟩
  · obtain ⟨isLate, ends⟩ := hx live hit qs _ late stopped on
    rw [last]
    exact ⟨isLate, fun same => ends (by cases same; rfl)⟩
  · rw [interruptedFrom_append] at on
    exact hf a between _ second ended
      (fun still => (hx live hit first _ late before still).1) rest on

/-- An attempt ends in the state that it has come to, and runs for ever only if that does. -/
theorem attempt {x : Bridge σ V α} (hx : EndsOnceLate Late x) :
    EndsOnceLate Late (Bridge.attempt x) := by
  intro live hit qs ended late trace on
  obtain ⟨first, second, ⟨outcome, after⟩, rfl, before, rest⟩ := trace.of_bind
  have reached := hx live hit first _ late before
  rcases outcome with (v | p | _ | _) | a
  · -- a panic that was parked is taken out, and the state of the engine is what it was
    cases parked : after.parked <;> simp only [parked] at rest <;> cases rest <;>
      rw [List.append_nil] at on <;> exact ⟨(reached on).1, nofun⟩
  all_goals
    cases rest
    rw [List.append_nil] at on
    obtain ⟨isLate, ends⟩ := reached on
  · exact ⟨isLate, nofun⟩
  · exact absurd rfl ends
  · exact ⟨isLate, nofun⟩
  · exact ⟨isLate, nofun⟩

/-- A check is an attempt after which nothing runs. -/
theorem check {x : Bridge σ V α} (hx : EndsOnceLate Late x) :
    EndsOnceLate Late (Bridge.check x) := by
  refine hx.attempt.bind fun ending => ?_
  cases ending <;> exact .of_done fun live => ⟨_, rfl, nofun⟩

/-- What an operation does that ends once it is late ends so when it is carried out with natives
that do. -/
theorem carried {natives : Natives σ V} (serves : Serves (fun _ x => EndsOnceLate Late x) natives)
    {t : Interaction (engineSignature σ V) (Except (EngineStop V) α × σ)} {hit : Bool}
    {parked : Option Panic} {qs : List HostRequest} {ended : Except (Stop V) α × Live σ}
    (ends : Operation.EndsOnceLate Late hit t)
    (trace : Interaction.Trace (carry natives t parked) qs ended)
    (on : interruptedFrom hit qs = true) : Late ended.2.state ∧ ended.1 ≠ .error .hung := by
  -- over what the operation asks for
  induction t generalizing hit parked qs ended with
  | done last =>
    rcases last with ⟨(v | _ | _) | a, now⟩ <;> cases trace <;> obtain ⟨isLate, going⟩ := ends on
    · exact ⟨isLate, by rintro ⟨⟩⟩
    · exact absurd rfl going
    · exact ⟨isLate, by rintro ⟨⟩⟩
    · exact ⟨isLate, by rintro ⟨⟩⟩
  | ask q next ih =>
    cases q with
    | native n args now =>
      obtain ⟨late, after⟩ := ends
      rw [carry] at trace
      obtain ⟨first, second, ⟨outcome, live⟩, rfl, before, rest⟩ := trace.of_bind
      rw [interruptedFrom_append] at on
      have reached := serves n args ⟨now, parked⟩ hit first _ late before
      have goes := fun r => after r live.state _ fun still => (reached still).1
      rcases outcome with (v | p | _ | _) | v
      · exact ih _ (goes (.thrown v)) rest on
      · exact ih _ (goes .panicked) rest on
      · cases rest
        exact absurd rfl (reached on).2
      · cases rest
        exact ⟨(reached on).1, by rintro ⟨⟩⟩
      · exact ih _ (goes (.value v)) rest on
    | event e =>
      rw [carry] at trace
      cases trace with
      | @ask _ _ qs _ r rest =>
        cases e with
        | interrupted => exact ih () ends rest on
        | intercepted => exact ih () ends rest on

/-- An operation does so if its natives do, around an engine that does. -/
theorem within {natives : Natives σ V} (serves : Serves (fun _ x => EndsOnceLate Late x) natives)
    {x : Operation σ V α}
    (law : ∀ now hit, (hit = true → Late now) → Operation.EndsOnceLate Late hit (x.run now)) :
    EndsOnceLate Late (Bridge.within natives x) :=
  fun live hit _ _ late trace on => carried serves (law live.state hit late) trace on

end EndsOnceLate

end

/-- The parts of the bridge end once they are late, around an engine that does. -/
theorem endsOnceLate_rules {E : ScriptEngine} {Late : E.State → Prop} (law : E.EndsOnceLate Late) :
    Rules E (Serves fun _ x => EndsOnceLate Late x) fun _ x => EndsOnceLate Late x where
  pure _ := .of_done fun _ => ⟨_, rfl, nofun⟩
  thrown _ := .of_done fun _ => ⟨_, rfl, nofun⟩
  bind := .bind
  look hf := fun live => hf live.state live
  log r := (EndsOnceLate.ask (q := .log r) nofun).bind fun _ =>
    .of_done fun _ => ⟨_, rfl, nofun⟩
  diagnose line := by
    refine (EndsOnceLate.ask (q := .diagnose line) nofun).bind fun r => ?_
    cases r <;> exact .of_done fun _ => ⟨_, rfl, nofun⟩
  command text hf panics := by
    refine (EndsOnceLate.ask (q := .command text) nofun).bind fun r => ?_
    cases r with
    | panicked p => exact .of_done fun live => ⟨_, panics p live, nofun⟩
    | _ => exact hf _ nofun
  print line hf panics := by
    refine (EndsOnceLate.ask (q := .print _) nofun).bind fun r => ?_
    cases r with
    | panicked p => exact .of_done fun live => ⟨_, panics p live, nofun⟩
    | _ => exact hf _ nofun
  within provided serves := .within serves (law provided)
  check := .check

/-- The natives of a run end once they are late. -/
theorem natives_endOnceLate {m : Machine} {Late : m.engine.State → Prop}
    (law : m.engine.EndsOnceLate Late) : Serves (fun _ x => EndsOnceLate Late x) m.natives :=
  (endsOnceLate_rules law).natives (.of_done fun _ => ⟨_, rfl, nofun⟩) fun _ serves =>
    (endsOnceLate_rules law).nativeRequire serves .attempt

end Bridge

namespace Invocation

variable {m : Machine} {Late : m.engine.State → Prop}

/-- The driver phase ends once it is late. -/
theorem loadDriver_endsOnceLate (law : m.engine.EndsOnceLate Late) :
    Bridge.EndsOnceLate Late (loadDriver m) :=
  loadDriver_has (Bridge.endsOnceLate_rules law) (Bridge.natives_endOnceLate law) .attempt

/-- So does the entry call. -/
theorem callEntry_endsOnceLate (law : m.engine.EndsOnceLate Late) (args : String) :
    Bridge.EndsOnceLate Late (callEntry m args) :=
  callEntry_has (Bridge.endsOnceLate_rules law) (Bridge.natives_endOnceLate law) .attempt
    (Bridge.EndsOnceLate.ask nofun) args

end Invocation

end DecompilerBridge
