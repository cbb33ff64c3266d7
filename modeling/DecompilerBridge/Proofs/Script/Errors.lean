import DecompilerBridge.Proofs.Bridge.Errors
import DecompilerBridge.Proofs.Script.Echo

/-!
# Errors of the interpreter

The interpreter makes errors as it should (`errorView_lawful`): a new error has the prototype of its
class, and nothing but the new object has been added to the store. An `EvalError` for a module takes
one call of its constructor, so there has to be stack for that, and the deadline must not strike at
it (`Engine.CanCall`). Memory is never short for an error.
-/

set_option autoImplicit false

namespace DecompilerBridge.Script

/-! ## New errors -/

/-- A new error of a class, with a message. -/
def Object.newError (cls : ErrorClass) (message : String) : Object :=
  .ofError (.prototype (.error cls)) (some (Value.ofString message))

/-- The class of an error: the one whose prototype it has. -/
def Store.errorClass? (store : Store) : Value → Option ErrorClass
  | .object r =>
    match (store.object r).kind, (store.object r).prototype with
    | .error, some (.intrinsic (.holder (.prototype (.error cls)))) => some cls
    | _, _ => none
  | _ => none

/-- A new error has its class. -/
theorem Store.errorClass?_allocate (store : Store) (cls : ErrorClass) (message : String) :
    (store.allocate (.newError cls message)).2.errorClass?
      (.object (store.allocate (.newError cls message)).1) = some cls := by
  have made := store.object_allocate_self (.newError cls message)
  simp only [Store.errorClass?, made]
  rfl

/-- A new error is thrown, and is all that is new. -/
theorem Eval.raise_run {α : Type} (cls : ErrorClass) (message : String) (engine : Engine) :
    (Eval.raise cls message : Eval α).run engine =
      .done (.error (.thrown (.object (engine.allocate (.newError cls message)).1)),
        engine.withStore (engine.allocate (.newError cls message)).2) := rfl

/-! ## Calls -/

/-- One more call can be made: there is stack for it, and the deadline does not strike at it. -/
def Engine.CanCall (engine : Engine) : Prop :=
  0 < engine.left ∧ (1 < engine.countdown ∨
    ∀ deadline, engine.timeout = some deadline → engine.clock + engine.delays 0 < deadline)

/-- A call that the deadline does not strike at goes on. -/
theorem Eval.poll_run_of_canCall {engine : Engine} (ready : engine.CanCall) :
    ∃ after, poll.run engine = .done (.ok (), after) ∧ after.toStore = engine.toStore := by
  rw [poll_run_eq]
  split
  · next due =>
    have early := ready.2.resolve_left (Nat.not_lt.2 due)
    rcases Option.eq_none_or_eq_some engine.timeout with untimed | ⟨deadline, timed⟩
    · exact ⟨_, lookAtClock_run_of_untimed untimed, rfl⟩
    · have looked : lookAtClock.run { engine with countdown := engine.countdown - 1 } = _ :=
        lookAtClock_run_of_timed timed
      rw [if_neg (Nat.not_le.2 (early deadline timed))] at looked
      exact ⟨_, looked, rfl⟩
  · exact ⟨_, rfl, rfl⟩

/-! ## The constructor of the language -/

/-- The global `EvalError` is the constructor that the language provides. -/
structure Store.HasEvalError (store : Store) : Prop where
  held : store.held? .global "EvalError" = some (.object (.constructor (.error .evalError)))
  builtin : (store.object (.constructor (.error .evalError))).builtin? =
    some (.holder (.constructor (.error .evalError)))

instance (store : Store) : Decidable store.HasEvalError :=
  decidable_of_iff (_ ∧ _) ⟨fun both => ⟨both.1, both.2⟩,
    fun installed => ⟨installed.held, installed.builtin⟩⟩

namespace Eval

variable {engine : Engine}

/-- The constructor makes a new error of its class. -/
theorem constructStep_evalError (self : Evaluator) {after : Engine}
    (polled : poll.run engine = .done (.ok (), after)) (installed : after.HasEvalError)
    (message : String) :
    (constructStep self (.object (.constructor (.error .evalError))) [Value.ofString message]).run
        engine =
      .done (.ok (.object (after.allocate (.newError .evalError message)).1),
        after.withStore (after.allocate (.newError .evalError message)).2) := by
  have kind : (after.object (.constructor (.error .evalError))).kind =
      .builtin (.holder (.constructor (.error .evalError))) :=
    Object.kind_of_builtin installed.builtin
  have made : ((Class.error .evalError).constructed [Value.ofString message]).run after.toStore =
      .done (.ok (.object (after.allocate (.newError .evalError message)).1),
        (after.allocate (.newError .evalError message)).2) := rfl
  rewrite [constructStep, run_bind_of_done polled, run_get_bind, kind]
  exact Routine.eval_run made

/-- The global is read as it is. -/
theorem evalError_run (self : Evaluator) (installed : engine.HasEvalError) :
    ((Routine.getNamed (.object .global) "EvalError").eval self).run engine =
      .done (.ok (.object (.constructor (.error .evalError))), engine) := by
  obtain ⟨p, own, slot⟩ := Store.slot_of_held installed.held
  exact Routine.eval_reads (Routine.memberNamed_own own slot)

end Eval

namespace Interpreter

variable (i : Interpreter)

/-- What scripts see of errors. -/
def errorView : ErrorView i.engine where
  classOf engine v := Store.errorClass? (Engine.toStore engine) v
  SameGlobals before after := ∃ o : Object,
    Engine.toStore after = ((Engine.toStore before).allocate o).2
  CanMake engine := Engine.CanCall engine
  Installed engine v := v = (.object (.constructor (.error .evalError)) : Value) ∧
    Store.HasEvalError (Engine.toStore engine)

variable {i : Interpreter} {engine : Engine}

/-- The global is read as it is, and is a constructor. -/
theorem evalError_read (installed : engine.HasEvalError) :
    (i.engine.global "EvalError").run engine =
        .done (.ok (.object (.constructor (.error .evalError)) : Value), engine) ∧
      i.engine.isConstructor engine (.object (.constructor (.error .evalError)) : Value) =
        true := by
  refine ⟨Eval.evalError_run _ installed, ?_⟩
  show (Store.object _ _).constructs = true
  rw [Object.constructs, Object.kind_of_builtin installed.builtin]

/-- With stack for one more call, the constructor makes a new error of its class. -/
theorem evalError_made {after : Engine} (room : 0 < engine.left)
    (polled : Eval.poll.run engine = .done (.ok (), after)) (installed : after.HasEvalError)
    (message : String) :
    (i.engine.construct (.object (.constructor (.error .evalError)) : Value)
        [Value.ofString message]).run engine =
      .done (.ok (.object (after.allocate (.newError .evalError message)).1 : Value),
        after.withStore (after.allocate (.newError .evalError message)).2) := by
  obtain ⟨levels, left⟩ := Nat.exists_eq_add_of_lt room
  show (Evaluator.construct (.withStack i.rounds engine.left) _ _).run engine = _
  rw [left, Nat.zero_add]
  exact Eval.constructStep_evalError (.withStack i.rounds levels) polled installed message

/-- The interpreter makes errors as it should. -/
theorem errorView_lawful (i : Interpreter) : i.errorView.Lawful where
  throwNew cls message now _ := ⟨_, _, Eval.raise_run cls (keptMessage message) now,
    Store.errorClass?_allocate _ _ _, _, rfl⟩
  reads now cls := by
    rintro ⟨rfl, installed⟩
    exact evalError_read installed
  construct now cls message := by
    rintro ⟨rfl, installed⟩ ready
    obtain ⟨after, polled, same⟩ := Eval.poll_run_of_canCall ready
    have installedThen : after.HasEvalError := by
      show after.toStore.HasEvalError
      rw [same]
      exact installed
    exact ⟨Value.ofString message, now, _, _, rfl,
      evalError_made ready.1 polled installedThen message, Store.errorClass?_allocate ..⟩

end Interpreter

end DecompilerBridge.Script
