import DecompilerBridge.Proofs.Bridge.Interruptions
import DecompilerBridge.Proofs.Script.Layers

/-!
# What the bridge relies on in the interpreter

Two laws that the bridge relies on, proved of the interpreter: it lets out every exception that
nothing intercepts (`Interpreter.engine_letsExceptionsOut`), and once its deadline has passed it
does not run for ever (`Interpreter.engine_endsOnceLate`). Both go up the layers of the interpreter.
-/

set_option autoImplicit false

namespace DecompilerBridge

/-! ## Exceptions on their way out -/

namespace Operation

variable {σ V α β : Type}

/-- A sequence lets exceptions out if its first part does, and nothing goes on after one. -/
theorem LetsOut.bind {leaving : Bool}
    {t : Interaction (engineSignature σ V) (Except (EngineStop V) α × σ)}
    {f : Except (EngineStop V) α × σ →
      Interaction (engineSignature σ V) (Except (EngineStop V) β × σ)}
    (lets : LetsOut leaving t) (thrown : ∀ v now, LetsOut true (f (.error (.thrown v), now)))
    (goes : ∀ ended, LetsOut false (f ended)) : LetsOut leaving (t.bind f) := by
  induction t generalizing leaving with
  | done ended =>
    cases leaving with
    | false => exact goes ended
    | true =>
      obtain ⟨outcome, now⟩ := ended
      obtain ⟨v, rfl⟩ := lets rfl
      exact thrown v now
  | ask q next ih =>
    cases q with
    | native n args now => exact ⟨lets.1, fun r after => ih _ (lets.2 r after)⟩
    | event e =>
      cases e with
      | interrupted => exact ⟨lets.1, ih () lets.2⟩
      | intercepted => exact ih () lets

/-- A sequence ends once it is late if its parts do. -/
theorem EndsOnceLate.bind {Late : σ → Prop} {hit : Bool}
    {t : Interaction (engineSignature σ V) (Except (EngineStop V) α × σ)}
    {f : Except (EngineStop V) α × σ →
      Interaction (engineSignature σ V) (Except (EngineStop V) β × σ)}
    (ends : EndsOnceLate Late hit t)
    (goes : ∀ ended hit, (hit = true → Late ended.2 ∧ ended.1 ≠ .error .hung) →
      EndsOnceLate Late hit (f ended)) : EndsOnceLate Late hit (t.bind f) := by
  induction t generalizing hit with
  | done ended => exact goes ended hit ends
  | ask q next ih =>
    cases q with
    | native n args now =>
      exact ⟨ends.1, fun r after still late => ih _ (ends.2 r after still late)⟩
    | event e => cases e <;> exact ih () ends

end Operation

namespace Script

variable {α β : Type}

/-- An engine is past its deadline. -/
def Engine.IsLate (engine : Engine) : Prop :=
  ∃ deadline, engine.timeout = some deadline ∧ deadline ≤ engine.clock

namespace Eval

/-- Looking at the clock goes unnoticed before the deadline, and throws an exception after it. -/
theorem lookAtClock_cases (engine : Engine) :
    (∃ after, lookAtClock.run engine = .done (.ok (), after) ∧ ¬engine.IsLate) ∨
      ∃ v after, lookAtClock.run engine =
        (.ask (.event .interrupted) fun _ => .done (.error (.thrown v), after)) ∧ after.IsLate := by
  cases timed : engine.timeout with
  | none =>
    refine .inl ⟨_, lookAtClock_run_of_untimed timed, ?_⟩
    rintro ⟨deadline, timed', -⟩
    cases timed.symm.trans timed'
  | some deadline =>
    have looked := lookAtClock_run_of_timed timed
    by_cases passed : deadline ≤ engine.clock + engine.delays 0
    · rw [if_pos passed] at looked
      exact .inr ⟨_, _, looked, deadline, timed, passed⟩
    · rw [if_neg passed] at looked
      refine .inl ⟨_, looked, ?_⟩
      rintro ⟨other, timed', late⟩
      cases timed.symm.trans timed'
      exact passed (Nat.le_add_right_of_le late)

/-- With a deadline, an engine with nothing else to do looks at the clock. -/
theorem idle_succ_run (looks : Nat) {engine : Engine} (timed : engine.timeout ≠ none) :
    (idle (looks + 1) : Eval α).run engine = (lookAtClock >>= fun _ => idle looks).run engine := by
  have chosen : (idle (looks + 1) : Eval α).run engine =
      (if engine.timeout.isNone then (throw .hung : Eval α)
        else lookAtClock >>= fun _ => idle looks).run engine := rfl
  rw [chosen, if_neg]
  simpa using timed

/-- Without one it runs for ever. -/
theorem idle_run_of_untimed (looks : Nat) {engine : Engine} (untimed : engine.timeout = none) :
    (idle looks : Eval α).run engine = .done (.error .hung, engine) := by
  cases looks with
  | zero => rfl
  | succ looks =>
    have chosen : (idle (looks + 1) : Eval α).run engine =
        (if engine.timeout.isNone then (throw .hung : Eval α)
          else lookAtClock >>= fun _ => idle looks).run engine := rfl
    rw [chosen, if_pos (by rw [untimed]; rfl)]
    rfl

/-! ## Exceptions on their way out -/

/-- A computation lets exceptions out. -/
def LetsOut (x : Eval α) : Prop := ∀ engine, Operation.LetsOut false (x.run engine)

namespace LetsOut

/-- A computation that asks for nothing. -/
theorem of_done {x : Eval α} (silent : ∀ engine, ∃ ended, x.run engine = .done ended) :
    LetsOut x := by
  intro engine
  obtain ⟨ended, run⟩ := silent engine
  rw [run]
  exact nofun

/-- Sequences let exceptions out if both parts do. -/
theorem bind {x : Eval α} {f : α → Eval β} (hx : LetsOut x) (hf : ∀ a, LetsOut (f a)) :
    LetsOut (x >>= f) := by
  intro engine
  rw [run_bind]
  refine (hx engine).bind (fun v now _ => ⟨v, rfl⟩) ?_
  rintro ⟨stop | a, after⟩
  · exact nofun
  · exact hf a after

/-- A look at the clock tells of an interruption before it throws one. -/
theorem lookAtClock : LetsOut Eval.lookAtClock := by
  intro engine
  rcases lookAtClock_cases engine with ⟨after, run, -⟩ | ⟨v, after, run, -⟩
  · rw [run]
    exact nofun
  · rw [run]
    exact ⟨rfl, fun _ => ⟨v, rfl⟩⟩

/-- So does waiting for the deadline. -/
theorem idle (looks : Nat) : LetsOut (Eval.idle looks : Eval α) := by
  induction looks with
  | zero => exact of_done fun _ => ⟨_, rfl⟩
  | succ looks ih =>
    intro engine
    cases timeout : engine.timeout with
    | none =>
      rw [idle_run_of_untimed _ timeout]
      exact nofun
    | some deadline =>
      rw [idle_succ_run looks (by simp [timeout])]
      exact lookAtClock.bind (fun _ => ih) engine

/-- A handler tells of what it takes in before it goes on. -/
theorem catching (ofScript : Bool) {x : Eval α} {handler : Value → Eval α} (hx : LetsOut x)
    (hh : ∀ v, LetsOut (handler v)) : LetsOut (Eval.catching ofScript x handler) := by
  have handled : ∀ v now leaving, Operation.LetsOut leaving
      (if ofScript && now.isUncatchable v then
          (.done (.error (.thrown v), now) : Interaction (engineSignature Engine Value) _)
        else (tell .intercepted >>= fun _ => handler v).run now) := by
    intro v now leaving
    split
    · exact fun _ => ⟨v, rfl⟩
    · cases leaving <;> exact hh v now
  intro engine
  refine (hx engine).bind (fun v now => handled v now true) ?_
  rintro ⟨(v | _ | _) | a, now⟩
  · exact handled v now false
  · exact nofun
  · exact nofun
  · exact nofun

/-- Code that is evaluated one level deeper lets out what it throws. -/
theorem nested {x : Eval α} (hx : LetsOut x) : LetsOut (Eval.nested x) := by
  intro engine
  refine (hx { engine with nesting := engine.nesting + 1 }).bind (fun v _ _ => ⟨v, rfl⟩) ?_
  rintro ⟨(_ | _ | _) | _, after⟩ <;> exact nofun

/-- What a native throws goes on its way, and so does what is thrown for a panic. -/
theorem callNative (left : Nat) (n : Native) (args : List Value) :
    LetsOut (Eval.callNative left n args) := by
  refine fun engine => ⟨rfl, fun r after => ?_⟩
  cases r with
  | value v => exact nofun
  | thrown v => exact fun _ => ⟨v, rfl⟩
  | panicked => exact fun _ => ⟨.undefined, rfl⟩

end LetsOut

/-- The parts of the interpreter let exceptions out. -/
theorem letsOut_rules (rounds : Nat) : Rules rounds (fun _ => True) fun _ x => LetsOut x where
  pure _ := .of_done fun _ => ⟨_, rfl⟩
  thrown _ := .of_done fun _ => ⟨_, rfl⟩
  bind := .bind
  look hf := fun engine => hf engine trivial engine
  change _ := .of_done fun _ => ⟨_, rfl⟩
  lookAtClock := .lookAtClock
  idle := .idle _
  catching := .catching
  nested := .nested

/-! ## Engines past their deadline -/

/-- A computation ends in a late engine, and does not run for ever, if an interruption is still on
its way at the end. -/
def EndsOnceLate (x : Eval α) : Prop :=
  ∀ engine hit, (hit = true → engine.IsLate) →
    Operation.EndsOnceLate Engine.IsLate hit (x.run engine)

namespace EndsOnceLate

/-- A computation that asks for nothing, and does not run for ever. -/
theorem of_done {x : Eval α} (silent : ∀ engine : Engine, ∃ outcome after,
    x.run engine = .done (outcome, after) ∧ outcome ≠ .error .hung ∧
      (engine.IsLate → after.IsLate)) : EndsOnceLate x := by
  intro engine hit late
  obtain ⟨outcome, after, run, ends, keeps⟩ := silent engine
  rw [run]
  exact fun on => ⟨keeps (late on), ends⟩

/-- Sequences end once it is late if both parts do. -/
theorem bind {x : Eval α} {f : α → Eval β} (hx : EndsOnceLate x) (hf : ∀ a, EndsOnceLate (f a)) :
    EndsOnceLate (x >>= f) := by
  intro engine hit late
  rw [run_bind]
  refine (hx engine hit late).bind ?_
  rintro ⟨stop | a, after⟩ hit' reached
  · exact fun on => ⟨(reached on).1, fun same => (reached on).2 (by cases same; rfl)⟩
  · exact hf a after hit' fun on => (reached on).1

/-- Looking at the clock of a late engine throws. -/
theorem lookAtClock : EndsOnceLate Eval.lookAtClock := by
  intro engine hit late
  rcases lookAtClock_cases engine with ⟨after, run, early⟩ | ⟨v, after, run, isLate⟩
  · rw [run]
    exact fun on => absurd (late on) early
  · rw [run]
    exact fun _ => ⟨isLate, nofun⟩

/-- Where nothing else goes on, a late engine is interrupted at once. -/
theorem idle {looks : Nat} (some : 0 < looks) : EndsOnceLate (Eval.idle looks : Eval α) := by
  -- an engine that is not late may look in vain until the looks run out
  have unhurried : ∀ looks engine, Operation.EndsOnceLate Engine.IsLate false
      ((Eval.idle looks : Eval α).run engine) := by
    intro looks
    induction looks with
    | zero => exact fun engine => nofun
    | succ looks ih =>
      intro engine
      cases timeout : engine.timeout with
      | none =>
        rw [idle_run_of_untimed _ timeout]
        exact nofun
      | some deadline =>
        rw [idle_succ_run looks (by simp [timeout]), run_bind]
        rcases lookAtClock_cases engine with ⟨after, run, -⟩ | ⟨v, after, run, isLate⟩
        · rw [run]
          exact ih after
        · rw [run]
          exact fun _ => ⟨isLate, nofun⟩
  intro engine hit late
  cases hit with
  | false => exact unhurried looks engine
  | true =>
    obtain ⟨looks, rfl⟩ := Nat.exists_eq_add_of_lt some
    obtain ⟨deadline, timed, -⟩ := late rfl
    rw [Nat.zero_add, idle_succ_run _ (by simp [timed]), run_bind]
    rcases lookAtClock_cases engine with ⟨after, run, early⟩ | ⟨v, after, run, isLate⟩
    · exact absurd (late rfl) early
    · rw [run]
      exact fun _ => ⟨isLate, nofun⟩

/-- What catches ends once it is late if the caught part and the handler do. -/
theorem catching (ofScript : Bool) {x : Eval α} {handler : Value → Eval α} (hx : EndsOnceLate x)
    (hh : ∀ v, EndsOnceLate (handler v)) : EndsOnceLate (Eval.catching ofScript x handler) := by
  intro engine hit late
  refine (hx engine hit late).bind ?_
  rintro ⟨(v | _ | _) | a, now⟩ hit' reached
  · dsimp only
    split
    · exact fun on => ⟨(reached on).1, nofun⟩
    · exact hh v now false nofun
  · exact reached
  · exact reached
  · exact reached

/-- So does code that is evaluated one level deeper. -/
theorem nested {x : Eval α} (hx : EndsOnceLate x) : EndsOnceLate (Eval.nested x) := by
  intro engine hit late
  refine (hx { engine with nesting := engine.nesting + 1 } hit late).bind ?_
  rintro ⟨(_ | _ | _) | _, after⟩ hit' reached <;> exact reached

/-- A native is called in the state that it is late in. -/
theorem callNative (left : Nat) (n : Native) (args : List Value) :
    EndsOnceLate (Eval.callNative left n args) := by
  refine fun engine hit late => ⟨late, fun r after still later => ?_⟩
  cases r with
  | value v => exact fun on => ⟨later on, nofun⟩
  | thrown v => exact fun on => ⟨later on, nofun⟩
  | panicked => exact fun on => ⟨later on, nofun⟩

end EndsOnceLate

/-- The parts of the interpreter end once they are late. -/
theorem endsOnceLate_rules {rounds : Nat} (some : 0 < rounds) :
    Rules rounds (fun _ => True) fun _ x => EndsOnceLate x where
  pure _ := .of_done fun _ => ⟨_, _, rfl, nofun, id⟩
  thrown _ := .of_done fun _ => ⟨_, _, rfl, nofun, id⟩
  bind := .bind
  look hf := fun engine => hf engine trivial engine
  change keeps := .of_done fun engine => ⟨_, _, rfl, nofun, fun ⟨deadline, timed, passed⟩ =>
    ⟨deadline, (keeps engine).timeout.trans timed, (keeps engine).clock ▸ passed⟩⟩
  lookAtClock := .lookAtClock
  idle := .idle some
  catching := .catching
  nested := .nested

end Eval

/-! ## The laws -/

namespace Interpreter

variable (i : Interpreter)

/-- The interpreter lets out every exception that nothing intercepts. -/
theorem engine_letsExceptionsOut : i.engine.LetsExceptionsOut :=
  fun provided => (Eval.letsOut_rules i.rounds).operation (fun _ _ _ _ => .callNative _) provided

/-- Once its deadline has passed, an interpreter that follows loops does not run for ever. -/
theorem engine_endsOnceLate (follows : 0 < i.rounds) : i.engine.EndsOnceLate Engine.IsLate :=
  fun provided =>
    (Eval.endsOnceLate_rules follows).operation (fun _ _ _ _ => .callNative _) provided

end Interpreter

end Script

end DecompilerBridge
