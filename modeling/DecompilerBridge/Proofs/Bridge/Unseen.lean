import DecompilerBridge.Proofs.Bridge.Runs

/-!
# What the host does not see

Most of what a run asks for goes past the host: records, states, readings, the number of an engine,
and what an engine tells of its exceptions. `Bridge.Unseen` says of a computation that it asks for
nothing else, together with how it ends: with a value, with an exception, or otherwise. The rules go
through a computation from front to back.
-/

set_option autoImplicit false

namespace DecompilerBridge

/-- A request that hands nothing to the host. -/
def HostRequest.IsUnseen : HostRequest → Prop
  | .command _ | .print _ | .diagnose _ => False
  | _ => True

namespace Bridge

variable {σ V α β : Type} {live : Live σ}

/-- A computation asks for nothing that the host could see, and ends as `Q` says. -/
def Unseen (x : Bridge σ V α) (live : Live σ) (Q : Except (Stop V) α → Live σ → Prop) : Prop :=
  (x.run live).Asks HostRequest.IsUnseen ∧ (x.run live).Ends fun ended => Q ended.1 ended.2

/-- It gives a value. -/
abbrev UnseenValue (x : Bridge σ V α) (live : Live σ) (Q : α → Live σ → Prop) : Prop :=
  Unseen x live fun ended after => ∃ a, ended = .ok a ∧ Q a after

/-- It throws a value. -/
abbrev UnseenThrow (x : Bridge σ V α) (live : Live σ) (Q : V → Live σ → Prop) : Prop :=
  Unseen x live fun ended after => ∃ v, ended = .error (.thrown v) ∧ Q v after

namespace Unseen

/-- A computation that asks for nothing. -/
theorem of_run {x : Bridge σ V α} {ended : Except (Stop V) α} {after : Live σ}
    {Q : Except (Stop V) α → Live σ → Prop} (given : x.run live = .done (ended, after))
    (holds : Q ended after) : Unseen x live Q := by
  unfold Unseen
  rw [given]
  exact ⟨trivial, holds⟩

/-- A computation that goes on as another. -/
theorem of_run_eq {x y : Bridge σ V α} {later : Live σ} {Q : Except (Stop V) α → Live σ → Prop}
    (same : x.run live = y.run later) (unseen : Unseen y later Q) : Unseen x live Q := by
  unfold Unseen
  rw [same]
  exact unseen

/-- What is known of the end can be weakened. -/
theorem mono {x : Bridge σ V α} {Q R : Except (Stop V) α → Live σ → Prop} (unseen : Unseen x live Q)
    (weaker : ∀ ended after, Q ended after → R ended after) : Unseen x live R :=
  ⟨unseen.1, unseen.2.mono fun ended => weaker ended.1 ended.2⟩

/-- What follows a part that ends one way or another. -/
theorem andThen {x : Bridge σ V α} {y : Bridge σ V β} {later : Live σ}
    {next : Except (Stop V) α × Live σ → Interaction hostSignature (Except (Stop V) β × Live σ)}
    {Q : Except (Stop V) β → Live σ → Prop} (split : y.run live = (x.run later).bind next)
    (unseen : Unseen x later fun ended after =>
      (next (ended, after)).Asks HostRequest.IsUnseen ∧
        (next (ended, after)).Ends fun ended => Q ended.1 ended.2) : Unseen y live Q := by
  unfold Unseen at unseen ⊢
  rw [split]
  obtain ⟨asks, ends⟩ := unseen
  generalize x.run later = t at asks ends
  induction t with
  | done ended => exact ends
  | ask q k ih =>
    exact ⟨⟨asks.1, fun r => (ih r (asks.2 r) (ends r)).1⟩, fun r => (ih r (asks.2 r) (ends r)).2⟩

/-- A sequence goes on after a value. -/
theorem bind {x : Bridge σ V α} {f : α → Bridge σ V β} {Q : Except (Stop V) β → Live σ → Prop}
    (unseen : UnseenValue x live fun a after => Unseen (f a) after Q) :
    Unseen (x >>= f) live Q := by
  refine andThen (run_bind x f live) (unseen.mono ?_)
  rintro _ after ⟨a, rfl, rest⟩
  exact rest

/-- A sequence throws what its first part throws. -/
theorem bind_throw {x : Bridge σ V α} {f : α → Bridge σ V β} {Q : V → Live σ → Prop}
    (throws : UnseenThrow x live Q) : UnseenThrow (x >>= f) live Q := by
  refine andThen (run_bind x f live) (throws.mono ?_)
  rintro _ after ⟨v, rfl, holds⟩
  exact ⟨trivial, v, rfl, holds⟩

/-- A first part that asks for nothing. -/
theorem step {x : Bridge σ V α} {f : α → Bridge σ V β} {a : α} {after : Live σ}
    {Q : Except (Stop V) β → Live σ → Prop} (given : x.run live = .done (.ok a, after))
    (rest : Unseen (f a) after Q) : Unseen (x >>= f) live Q :=
  bind (of_run given ⟨a, rfl, rest⟩)

/-- A request that goes past the host. -/
theorem ask {q : HostRequest} {Q : Except (Stop V) q.Reply → Live σ → Prop} (unseen : q.IsUnseen)
    (holds : ∀ r, Q (.ok r) live) : Unseen (Bridge.ask q) live Q :=
  ⟨⟨unseen, fun _ => trivial⟩, holds⟩

/-- A record goes past the host. -/
theorem log (r : LogRecord) {Q : Except (Stop V) Unit → Live σ → Prop} (holds : Q (.ok ()) live) :
    Unseen (Bridge.log r) live Q :=
  ⟨⟨trivial, fun _ => trivial⟩, fun _ => holds⟩

/-- So do several. -/
theorem logAll (rs : List LogRecord) {Q : Except (Stop V) Unit → Live σ → Prop}
    (holds : Q (.ok ()) live) : Unseen (Bridge.logAll rs) live Q := by
  induction rs with
  | nil => exact of_run rfl holds
  | cons r rest ih => exact bind (log r ⟨(), rfl, ih⟩)

/-- A value is there after the attempt. -/
theorem attempt {x : Bridge σ V α} {Q : Except (Stop V) (Ending V α) → Live σ → Prop}
    (gives : UnseenValue x live fun a after => Q (.ok (.value a)) after) :
    Unseen (Bridge.attempt x) live Q := by
  refine andThen rfl (gives.mono ?_)
  rintro _ after ⟨a, rfl, holds⟩
  exact ⟨trivial, holds⟩

/-- What is thrown while no panic is parked is there after the attempt. -/
theorem attempt_throw {x : Bridge σ V α} {Q : Except (Stop V) (Ending V α) → Live σ → Prop}
    (throws : UnseenThrow x live fun v after => after.parked = none ∧ Q (.ok (.thrown v)) after) :
    Unseen (Bridge.attempt x) live Q := by
  refine andThen rfl (throws.mono ?_)
  rintro _ after ⟨v, rfl, unparked, holds⟩
  dsimp only at unparked ⊢
  rw [unparked]
  exact ⟨trivial, holds⟩

/-! ### Operations -/

section

variable {natives : Natives σ V}

/-- An operation that goes on as another. -/
theorem within_of_run_eq {x y : Operation σ V α} {state : σ} {Q : Except (Stop V) α → Live σ → Prop}
    (same : x.run live.state = y.run state)
    (unseen : Unseen (within natives y) ⟨state, live.parked⟩ Q) :
    Unseen (within natives x) live Q :=
  of_run_eq (within_run_of_run_eq same) unseen

/-- The first part of an operation, if it calls no native. -/
theorem within_step {x : Operation σ V α} {f : α → Operation σ V β} {a : α} {after : σ}
    {Q : Except (Stop V) β → Live σ → Prop} (given : x.run live.state = .done (.ok a, after))
    (rest : Unseen (within natives (f a)) ⟨after, live.parked⟩ Q) :
    Unseen (within natives (x >>= f)) live Q := by
  rw [within_bind]
  exact step (within_run_of_value given) rest

/-- An operation throws what its first part throws. -/
theorem within_bind_throw {x : Operation σ V α} {f : α → Operation σ V β} {Q : V → Live σ → Prop}
    (throws : UnseenThrow (within natives x) live Q) :
    UnseenThrow (within natives (x >>= f)) live Q := by
  rw [within_bind]
  exact bind_throw throws

/-- An operation that passes on what the native throws that it calls. -/
theorem within_native_throw {x : Operation σ V α} {n : Native} {args : List V} {state : σ}
    {next : (engineSignature σ V).Reply (.native n args state) →
      Interaction (engineSignature σ V) (Except (EngineStop V) α × σ)}
    {Q : V → Live σ → Prop} (calls : x.run live.state = .ask (.native n args state) next)
    (throws : UnseenThrow (natives n args) ⟨state, live.parked⟩ fun v after =>
      ∃ last, next (NativeEnd.thrown v, after.state) = .done (.error (.thrown v), last) ∧
        Q v ⟨last, after.parked⟩) : UnseenThrow (within natives x) live Q := by
  have carried : (within natives x).run live =
      carry natives (.ask (.native n args state) next) live.parked :=
    congrArg (carry natives · _) calls
  rw [carry] at carried
  refine andThen carried (throws.mono ?_)
  rintro _ after ⟨v, rfl, last, ended, holds⟩
  dsimp only
  rw [ended, carry]
  exact ⟨trivial, v, rfl, holds⟩

end

end Unseen

end Bridge

/-! ## Evaluations -/

namespace ScriptEngine

open Bridge (Unseen UnseenValue UnseenThrow)

variable {E : ScriptEngine} {serve : Natives E.State E.Value} {live : Live E.State} {text : String}

/-- A text without a NUL is evaluated. -/
theorem evaluateText_unseen (clean : nulOffset? text = none) {Q : Live E.State → Prop}
    (gives : UnseenValue (Bridge.within serve (E.evaluate text)) live fun _ => Q) :
    UnseenValue (E.evaluateText serve text) live fun ended after => ended = .ok () ∧ Q after := by
  rw [evaluateText, clean]
  refine .bind (.attempt (gives.mono ?_))
  rintro _ after ⟨_, rfl, holds⟩
  exact ⟨_, rfl, _, rfl, .of_run rfl ⟨_, rfl, rfl, holds⟩⟩

/-- What it throws while no panic is parked is the fault. -/
theorem evaluateText_unseen_throw (clean : nulOffset? text = none)
    {Q : E.Value → Live E.State → Prop}
    (throws : UnseenThrow (Bridge.within serve (E.evaluate text)) live fun v after =>
      after.parked = none ∧ Q v after) :
    UnseenValue (E.evaluateText serve text) live fun ended after =>
      ∃ v, ended = .error (.exception v) ∧ Q v after := by
  rw [evaluateText, clean]
  refine .bind (.attempt_throw (throws.mono ?_))
  rintro _ after ⟨v, rfl, unparked, holds⟩
  exact ⟨v, rfl, unparked, _, rfl, .of_run rfl ⟨_, rfl, v, rfl, holds⟩⟩

end ScriptEngine

/-! ## Natives -/

namespace Machine

open Bridge (Unseen UnseenValue)

variable {m : Machine} {live : Live m.engine.State}

/-- The lookup of a module leaves records. -/
theorem lookUp_unseen (kind : ModuleKind) (name : String)
    {Q : Except (Stop m.engine.Value) (Except ResolveError Module) → Live m.engine.State → Prop}
    (holds : Q (.ok (m.resolver.read kind name).1) live) : Unseen (m.lookUp kind name) live Q :=
  .bind (.logAll _ ⟨(), rfl, .of_run rfl holds⟩)

end Machine

end DecompilerBridge
