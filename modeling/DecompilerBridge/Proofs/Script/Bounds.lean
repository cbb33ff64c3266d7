import DecompilerBridge.Proofs.Script.Laws

/-!
# The bounds of an engine

The bounds that an engine is made with stay with it: the deadline, the stack, the calls that can be
made one inside the other, and the files that are open. A native is always called with less stack
than its caller has, so natives are never nested deeper than the stack of the process has room for,
and the interpreter does not take the process down (`Invocation.session_withinBounds`).

`StaysWithin` says this of what an operation does, up the layers of the interpreter, and
`Bridge.WithinBounds` of what the bridge does around it, by induction on the room that is left.
-/

set_option autoImplicit false

namespace DecompilerBridge

open Script (Engine Value Interpreter Eval)
open Script.Eval (SameBounds)

variable {α β : Type}

namespace Script.Eval

/-! ## Operations -/

/-- How work ends that was started in an engine: it runs for ever, or the bounds are the same at its
end and the process is still there. -/
def EndsWithin (start : Engine) (ended : Except (EngineStop Value) α × Engine) : Prop :=
  ended.1 = .error .hung ∨ SameBounds start ended.2 ∧ ended.1 ≠ .error .crashed

/-- What an operation does that was started in an engine stays within the bounds of the engine:
every native has less stack, and it ends within the bounds if every native does. -/
def StaysWithin (start : Engine) :
    Interaction (engineSignature Engine Value) (Except (EngineStop Value) α × Engine) → Prop
  | .done ended => EndsWithin start ended
  | .ask (.native _ _ now) next => now.left < start.left ∧
    ∀ r after, SameBounds now after → StaysWithin start (next (r, after))
  | .ask (.event _) next => StaysWithin start (next ())

/-- What follows stays within the bounds of the engine that the operation was started in. -/
theorem StaysWithin.bind {start first : Engine}
    {t : Interaction (engineSignature Engine Value) (Except (EngineStop Value) α × Engine)}
    {f : Except (EngineStop Value) α × Engine →
      Interaction (engineSignature Engine Value) (Except (EngineStop Value) β × Engine)}
    (stays : StaysWithin first t) (same : first.left = start.left)
    (goes : ∀ ended, EndsWithin first ended → StaysWithin start (f ended)) :
    StaysWithin start (t.bind f) := by
  induction t with
  | done ended => exact goes ended stays
  | ask q next ih =>
    cases q with
    | native n args now =>
      exact ⟨same ▸ stays.1, fun r after kept => ih (r, after) (stays.2 r after kept)⟩
    | event e => exact ih () stays

/-- The bounds are those of any engine that has the same. -/
theorem StaysWithin.of_same {start first : Engine}
    {t : Interaction (engineSignature Engine Value) (Except (EngineStop Value) α × Engine)}
    (stays : StaysWithin first t) (same : SameBounds start first) : StaysWithin start t := by
  rw [← Interaction.bind_done t]
  exact stays.bind same.left fun ended ends =>
    ends.imp_right fun kept => ⟨same.trans kept.1, kept.2⟩

/-- A computation stays within the bounds of every engine with some stack left. -/
def KeepsBounds (left : Nat) (x : Eval α) : Prop :=
  ∀ engine : Engine, engine.left = left → StaysWithin engine (x.run engine)

namespace KeepsBounds

variable {left : Nat}

/-- A computation that asks for nothing. -/
theorem of_done {x : Eval α} (silent : ∀ engine : Engine, ∃ ended after,
    x.run engine = .done (ended, after) ∧ SameBounds engine after ∧ ended ≠ .error .crashed) :
    KeepsBounds left x := by
  intro engine _
  obtain ⟨ended, after, run, same, up⟩ := silent engine
  rw [run]
  exact .inr ⟨same, up⟩

/-- A value leaves the engine as it is. -/
theorem pure (a : α) : KeepsBounds left (Pure.pure a) :=
  of_done fun _ => ⟨_, _, rfl, ⟨rfl, rfl, rfl, rfl⟩, nofun⟩

/-- Sequences keep the bounds if both parts do. -/
theorem bind {x : Eval α} {f : α → Eval β} (hx : KeepsBounds left x)
    (hf : ∀ a, KeepsBounds left (f a)) : KeepsBounds left (x >>= f) := by
  intro engine same
  rw [run_bind]
  refine (hx engine same).bind rfl ?_
  rintro ⟨(v | _ | _) | a, after⟩ ended
  · exact .inr ⟨(ended.resolve_left nofun).1, nofun⟩
  · exact .inl rfl
  · exact absurd rfl (ended.resolve_left nofun).2
  · have kept := (ended.resolve_left nofun).1
    exact (hf a after (kept.left.trans same)).of_same kept

/-- A change of the engine keeps the bounds if the changed engine has the same. -/
theorem change {g : Engine → α × Engine} (keeps : ∀ engine, SameBounds engine (g engine).2) :
    KeepsBounds left (modifyGet g) := of_done fun engine => ⟨_, _, rfl, keeps engine, nofun⟩

/-- The engine can be looked at. -/
theorem look {f : Engine → Eval α} (hf : ∀ engine : Engine, engine.left = left →
    KeepsBounds left (f engine)) : KeepsBounds left (MonadState.get >>= f) :=
  fun engine same => hf engine same engine same

/-- Telling of an exception changes nothing. -/
theorem tell (e : EngineEvent) : KeepsBounds left (Eval.tell e) :=
  fun _ _ => .inr ⟨⟨rfl, rfl, rfl, rfl⟩, nofun⟩

/-- Looking at the clock changes nothing but the time. -/
theorem lookAtClock : KeepsBounds left Eval.lookAtClock := by
  refine (change fun _ => ⟨rfl, rfl, rfl, rfl⟩).bind fun _ => look fun engine _ => ?_
  cases engine.timeout with
  | none => exact pure ()
  | some deadline =>
    refine (change fun _ => ⟨rfl, rfl, rfl, rfl⟩).bind fun now => ?_
    split
    · refine (tell _).bind fun _ => (change fun _ => ⟨rfl, rfl, rfl, rfl⟩).bind fun made =>
        (change fun _ => ⟨rfl, rfl, rfl, rfl⟩).bind fun _ => ?_
      exact of_done fun _ => ⟨_, _, rfl, ⟨rfl, rfl, rfl, rfl⟩, nofun⟩
    · exact pure ()

/-- Waiting for the deadline ends or runs for ever. -/
theorem idle (looks : Nat) : KeepsBounds left (Eval.idle looks : Eval α) := by
  induction looks with
  | zero => exact of_done fun _ => ⟨_, _, rfl, ⟨rfl, rfl, rfl, rfl⟩, nofun⟩
  | succ looks ih =>
    refine look fun engine _ => ?_
    split
    · exact of_done fun _ => ⟨_, _, rfl, ⟨rfl, rfl, rfl, rfl⟩, nofun⟩
    · exact lookAtClock.bind fun _ => ih

/-- What catches keeps the bounds if the caught part and the handler do. -/
theorem catching (ofScript : Bool) {x : Eval α} {handler : Value → Eval α}
    (hx : KeepsBounds left x) (hh : ∀ v, KeepsBounds left (handler v)) :
    KeepsBounds left (Eval.catching ofScript x handler) := by
  intro engine same
  refine (hx engine same).bind rfl ?_
  rintro ⟨(v | _ | _) | a, after⟩ ended
  · have kept := (ended.resolve_left nofun).1
    dsimp only
    split
    · exact .inr ⟨kept, nofun⟩
    · exact ((tell _).bind (fun _ => hh v) after (kept.left.trans same)).of_same kept
  · exact .inl rfl
  · exact absurd rfl (ended.resolve_left nofun).2
  · exact .inr ⟨(ended.resolve_left nofun).1, nofun⟩

/-- A file that is over is no longer open. -/
theorem nested {x : Eval α} (hx : KeepsBounds left x) : KeepsBounds left (Eval.nested x) := by
  intro engine same
  refine (hx { engine with nesting := engine.nesting + 1 } same).bind rfl ?_
  have closed : ∀ {after : Engine}, SameBounds { engine with nesting := engine.nesting + 1 } after →
      SameBounds engine { after with nesting := engine.nesting } :=
    fun kept => ⟨kept.timeout, kept.stack, kept.left, rfl⟩
  rintro ⟨(v | _ | _) | a, after⟩ ended
  · exact .inr ⟨closed (ended.resolve_left nofun).1, nofun⟩
  · exact .inl rfl
  · exact absurd rfl (ended.resolve_left nofun).2
  · exact .inr ⟨closed (ended.resolve_left nofun).1, nofun⟩

/-- A caller has its own stack again when a native is done. -/
theorem callNative {room : Nat} (less : room < left) (n : Native) (args : List Value) :
    KeepsBounds left (Eval.callNative room n args) := by
  intro engine same
  refine ⟨same ▸ less, fun r after kept => ?_⟩
  have restored : SameBounds engine { after with left := engine.left } :=
    ⟨kept.timeout, kept.stack, rfl, kept.nesting⟩
  cases r with
  | value v => exact .inr ⟨restored, nofun⟩
  | thrown v => exact .inr ⟨restored, nofun⟩
  | panicked => exact .inr ⟨restored, nofun⟩

end KeepsBounds

/-- The parts of the interpreter keep the bounds. -/
theorem keepsBounds_rules (rounds left : Nat) :
    Rules rounds (fun engine => engine.left = left) fun _ x => KeepsBounds left x where
  pure := .pure
  thrown _ := .of_done fun _ => ⟨_, _, rfl, ⟨rfl, rfl, rfl, rfl⟩, nofun⟩
  bind := .bind
  look := .look
  change keeps := .change fun engine => (keeps engine).toSameBounds
  lookAtClock := .lookAtClock
  idle := .idle _
  catching := .catching
  nested := .nested

/-- Every operation of the interpreter stays within the bounds of its engine. -/
theorem operation_staysWithin (i : Interpreter) {x : Operation i.engine.State i.engine.Value α}
    (provided : i.engine.Provides α x) (engine : Engine) :
    StaysWithin engine (x.run engine) :=
  (keepsBounds_rules i.rounds engine.left).operation
    (fun _ same _ less => .callNative (same ▸ less)) provided engine rfl

end Script.Eval

/-! ## The bridge -/

namespace Bridge

/-- How work of the bridge ends that was started in an engine: it runs for ever, or the bounds are
the same at its end and the process is still there. -/
def EndsWithin (start : Engine) (ended : Except (Stop Value) α × Live Engine) : Prop :=
  ended.1 = .error .hung ∨ SameBounds start ended.2.state ∧ ended.1 ≠ .error .crashed

/-- A computation of the bridge stays within the bounds of an engine with no more stack left than
there is room for. -/
def WithinBounds (room : Nat) (x : Bridge Engine Value α) : Prop :=
  ∀ live, live.state.left ≤ room → (x.run live).Ends (EndsWithin live.state)

/-- What serves the natives stays within the bounds where less stack is left than there is room for.
-/
def ServesWithin (room : Nat) (serve : Natives Engine Value) : Prop :=
  ∀ n args live, live.state.left < room → ((serve n args).run live).Ends (EndsWithin live.state)

namespace WithinBounds

variable {room : Nat}

/-- A computation that asks for nothing and leaves the engine alone. -/
theorem of_done {x : Bridge Engine Value α} (silent : ∀ live, ∃ ended,
    x.run live = .done (ended, live) ∧ ended ≠ .error .crashed) : WithinBounds room x := by
  intro live _
  obtain ⟨ended, run, up⟩ := silent live
  rw [run]
  exact .inr ⟨⟨rfl, rfl, rfl, rfl⟩, up⟩

/-- Sequences stay within the bounds if both parts do. -/
theorem bind {x : Bridge Engine Value α} {f : α → Bridge Engine Value β} (hx : WithinBounds room x)
    (hf : ∀ a, WithinBounds room (f a)) : WithinBounds room (x >>= f) := by
  intro live enough
  rw [run_bind]
  refine (hx live enough).bind ?_
  rintro ⟨(v | p | _ | _) | a, after⟩ ended
  · exact .inr ⟨(ended.resolve_left nofun).1, nofun⟩
  · exact .inr ⟨(ended.resolve_left nofun).1, nofun⟩
  · exact .inl rfl
  · exact absurd rfl (ended.resolve_left nofun).2
  · have same := (ended.resolve_left nofun).1
    exact (hf a after (same.left ▸ enough)).mono fun _ ends =>
      ends.imp_right fun later => ⟨same.trans later.1, later.2⟩

/-- A request leaves the engine alone. -/
theorem ask (q : HostRequest) : WithinBounds room (Bridge.ask q) :=
  fun _ _ _ => .inr ⟨⟨rfl, rfl, rfl, rfl⟩, nofun⟩

/-- What the host has answered is gone on with, and its panic leaves the engine alone. -/
theorem access {r : Access β} {f : Access β → Bridge Engine Value α}
    (safe : ∀ r, (∀ p, r ≠ .panicked p) → WithinBounds room (f r))
    (unwinds : ∀ p live, (f (.panicked p)).run live = .done (.error (.unwound p), live)) :
    WithinBounds room (f r) := by
  cases r with
  | panicked p => exact of_done fun live => ⟨_, unwinds p live, nofun⟩
  | granted b => exact safe _ nofun
  | unlinked => exact safe _ nofun
  | busy => exact safe _ nofun

/-- So does a diagnostic. -/
theorem diagnose (line : String) : WithinBounds room (Bridge.diagnose line) := by
  refine (ask _).bind fun r => ?_
  cases r with
  | ok _ => exact of_done fun _ => ⟨_, rfl, nofun⟩
  | error p => exact of_done fun _ => ⟨_, rfl, nofun⟩

/-- What an operation has come to is carried out within its bounds, if the natives stay within
theirs. -/
theorem carry {start : Engine} (enough : start.left ≤ room) {serve : Natives Engine Value}
    (serves : ServesWithin room serve)
    {t : Interaction (engineSignature Engine Value) (Except (EngineStop Value) α × Engine)}
    (stays : Eval.StaysWithin start t) (parked : Option Panic) :
    (Bridge.carry serve t parked).Ends (EndsWithin start) := by
  induction t generalizing parked with
  | done ended =>
    obtain ⟨outcome, after⟩ := ended
    rcases stays with hung | ⟨kept, present⟩
    · obtain rfl : outcome = .error .hung := hung
      exact .inl rfl
    · rcases outcome with (v | _ | _) | a
      · exact .inr ⟨kept, by rintro ⟨⟩⟩
      · exact .inl rfl
      · exact absurd rfl present
      · exact .inr ⟨kept, by rintro ⟨⟩⟩
  | ask q next ih =>
    cases q with
    | event e => exact fun _ => ih () stays parked
    | native n args now =>
      obtain ⟨less, goes⟩ := stays
      rw [Bridge.carry]
      refine (serves n args ⟨now, parked⟩ (Nat.lt_of_lt_of_le less enough)).bind ?_
      rintro ⟨outcome, after⟩ (hung | ⟨kept, present⟩)
      · obtain rfl : outcome = .error .hung := hung
        exact .inl rfl
      · rcases outcome with (v | p | _ | _) | v
        · exact ih _ (goes _ _ kept) _
        · exact ih _ (goes _ _ kept) _
        · exact .inl rfl
        · exact absurd rfl present
        · exact ih _ (goes _ _ kept) _

/-- An attempt ends where the attempted part does. -/
theorem attempt {x : Bridge Engine Value α} (hx : WithinBounds room x) :
    WithinBounds room (Bridge.attempt x) := by
  intro live enough
  refine (hx live enough).bind ?_
  rintro ⟨(v | p | _ | _) | a, after⟩ ended
  · have same := (ended.resolve_left nofun).1
    dsimp only
    split
    · exact .inr ⟨{ same with }, nofun⟩
    · exact .inr ⟨same, nofun⟩
  · exact .inr ⟨(ended.resolve_left nofun).1, nofun⟩
  · exact .inl rfl
  · exact absurd rfl (ended.resolve_left nofun).2
  · exact .inr ⟨(ended.resolve_left nofun).1, nofun⟩

/-- So does a check. -/
theorem check {x : Bridge Engine Value α} (hx : WithinBounds room x) :
    WithinBounds room (Bridge.check x) := by
  refine hx.attempt.bind fun ending => ?_
  cases ending with
  | value a => exact of_done fun _ => ⟨_, rfl, nofun⟩
  | thrown v => exact of_done fun _ => ⟨_, rfl, nofun⟩

end WithinBounds

/-- The parts of the bridge around the interpreter stay within the bounds. -/
theorem withinBounds_rules (i : Interpreter) (room : Nat) :
    Rules i.engine (ServesWithin room) fun _ x => WithinBounds room x where
  pure _ := .of_done fun _ => ⟨_, rfl, nofun⟩
  thrown _ := .of_done fun _ => ⟨_, rfl, nofun⟩
  bind := .bind
  look hf := fun live enough => hf live.state live enough
  log _ := (WithinBounds.ask _).bind fun _ => .of_done fun _ => ⟨_, rfl, nofun⟩
  diagnose := .diagnose
  command _ safe unwinds := (WithinBounds.ask _).bind fun _ => .access safe unwinds
  print _ safe unwinds := (WithinBounds.ask _).bind fun _ => .access safe unwinds
  within provided serves := fun live enough =>
    WithinBounds.carry enough serves (Eval.operation_staysWithin i provided live.state) live.parked
  check := .check

variable (i : Interpreter) (resolver : Resolver) (limits : Limits)

/-- However many natives there is room for, they stay within the bounds where less stack is left. -/
theorem nativesWithin_servesWithin (depth : Nat) :
    ServesWithin depth ((i.machine resolver limits).nativesWithin depth) := by
  induction depth with
  | zero => exact fun _ _ _ less => absurd less (Nat.not_lt_zero _)
  | succ depth ih =>
    have rules := withinBounds_rules i depth
    exact fun n args live less =>
      rules.native (m := i.machine resolver limits) ih (rules.nativeRequire ih .attempt) n args live
        (Nat.le_of_lt_succ less)

end Bridge

namespace Invocation

variable (i : Interpreter) (resolver : Resolver) (limits : Limits)

/-- The work of an interpreter stays within its bounds, and does not take the process down. -/
theorem session_withinBounds (args : String) :
    Bridge.WithinBounds i.levels (session (i.machine resolver limits) args) :=
  session_has (m := i.machine resolver limits) (Bridge.withinBounds_rules i i.levels)
    (Bridge.nativesWithin_servesWithin i resolver limits i.levels) .attempt (fun _ => .ask _)
    (.ask _)
    args

end Invocation

end DecompilerBridge
