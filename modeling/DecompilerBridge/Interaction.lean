/-!
# Interactions

Programs that stop to ask their surroundings a question and continue with the answer.

A program is a finite tree: it is either finished or waits at a request, with one continuation for
every possible reply. Whoever runs it supplies a handler. Facts that hold whatever a program asks
are proved by induction over the tree, without looking at how the program was written.
-/

set_option autoImplicit false

namespace DecompilerBridge

/-- The questions a program may ask and the type of the answer to each. -/
structure Signature where
  Request : Type
  Reply : Request → Type

/-- A program over the requests of `S` that ends with a value of type `α`. -/
inductive Interaction (S : Signature) (α : Type) : Type where
  | done (result : α)
  | ask (request : S.Request) (next : S.Reply request → Interaction S α)

namespace Interaction

variable {S : Signature} {α β γ : Type}

/-- Run `t`, then continue with its result. -/
def bind (t : Interaction S α) (f : α → Interaction S β) : Interaction S β :=
  match t with
  | done a => f a
  | ask q k => ask q fun r => (k r).bind f

instance : Monad (Interaction S) where
  pure := done
  bind := bind

/-- Run a program on a state `σ`, answering every request with the handler. The handler may give up
for good instead, and then the program goes no further. -/
def drive {σ ε : Type} (answer : (q : S.Request) → σ → Except ε (S.Reply q) × σ) :
    Interaction S α → σ → Except ε α × σ
  | done a, s => (.ok a, s)
  | ask q k, s =>
    match answer q s with
    | (.ok r, after) => drive answer (k r) after
    | (.error e, after) => (.error e, after)

/-- A program without a request is its result. -/
@[simp] theorem pure_eq_done (a : α) : (pure a : Interaction S α) = done a := rfl

/-- The sequence of programs is `Interaction.bind`. -/
@[simp] theorem bind_eq (t : Interaction S α) (f : α → Interaction S β) : t >>= f = t.bind f := rfl

/-- Nothing comes before what follows a result. -/
@[simp] theorem done_bind (a : α) (f : α → Interaction S β) : (done a).bind f = f a := rfl

/-- What follows a program comes after its first request too. -/
@[simp] theorem ask_bind (q : S.Request) (k : S.Reply q → Interaction S α)
    (f : α → Interaction S β) : (ask q k).bind f = ask q fun r => (k r).bind f := rfl

/-- A program after which nothing follows. -/
@[simp] theorem bind_done (t : Interaction S α) : t.bind done = t := by
  induction t with
  | done a => rfl
  | ask q k ih => simp [ih]

/-- Sequences can be put together in either order. -/
theorem bind_assoc (t : Interaction S α) (f : α → Interaction S β) (g : β → Interaction S γ) :
    (t.bind f).bind g = t.bind fun a => (f a).bind g := by
  induction t with
  | done a => rfl
  | ask q k ih => simp [ih]

/-- A result needs no answer. -/
@[simp] theorem drive_done {σ ε : Type} (answer : (q : S.Request) → σ → Except ε (S.Reply q) × σ)
    (a : α) (s : σ) : (done a : Interaction S α).drive answer s = (.ok a, s) := rfl

/-- Driving a sequence is driving its parts in order, unless the first is given up. -/
theorem drive_bind {σ ε : Type} (answer : (q : S.Request) → σ → Except ε (S.Reply q) × σ)
    (t : Interaction S α) (f : α → Interaction S β) (s : σ) :
    (t.bind f).drive answer s =
      match t.drive answer s with
      | (.ok a, after) => (f a).drive answer after
      | (.error e, after) => (.error e, after) := by
  induction t generalizing s with
  | done a => rfl
  | ask q k ih =>
    simp only [ask_bind, drive]
    rcases answer q s with ⟨_ | r, after⟩
    · rfl
    · exact ih r after

end Interaction

end DecompilerBridge
