import Mathlib.Data.List.Forall2
import DecompilerBridge.Proofs.Run.Received
import DecompilerBridge.Proofs.Run.Teardown

/-!
# Runs do not depend on earlier runs

All that a script host remembers between runs is the number of its engines. So a run after any
history is the first run of a new script host, with the engines numbered on, if both engines read
the same: the same time at every look, and the same random numbers.

A history ends with the scripts idle and unlinked (`Reached.idle`), which makes its world look like
a new one but for the count. The two runs are then compared step by step (`run_alike`).
-/

set_option autoImplicit false

namespace DecompilerBridge

variable {η : Type}

/-- A record is the same as another, or tells of the same engine with a number that is `d` more. -/
inductive LogRecord.SameButNumber (d : Nat) : LogRecord → LogRecord → Prop where
  | same (r : LogRecord) : SameButNumber d r r
  | engine (n : Nat) :
      SameButNumber d (Invocation.engineRecord (n + d)) (Invocation.engineRecord n)

/-- Logs that are the same but for the numbers of engines stay so. -/
theorem sameButNumber_relation (d : Nat) :
    LogRelation (List.Forall₂ (LogRecord.SameButNumber d)) d where
  note r related := List.rel_append related (.cons (.same r) .nil)
  engine n related := List.rel_append related (.cons (.engine n) .nil)

namespace ScriptHost

/-- The same world with a new script host. -/
def afresh (w : World η) : World η := { w with scripts := {} }

/-- After any history a world looks like one with a new script host, but for the count of engines.
-/
theorem Reached.alike_afresh {θ : Type} {w : World η} (reached : Reached w.scripts) (x : θ) :
    (w.withHost x).Alike Eq (List.Forall₂ (LogRecord.SameButNumber w.scripts.invocations))
      w.scripts.invocations ((afresh w).withHost x) where
  linkage := reached.idle.1
  state := reached.idle.2
  invocations := (Nat.zero_add _).symm
  host := rfl
  borrowed := rfl
  log := List.forall₂_same.2 fun r _ => .same r
  readings := rfl

/-- A run after any history has the outcome of the first run of a new script host whose engine reads
the same time and the same random numbers, hands the host the same commands and texts, and leaves
the host in the same state. The scripts differ in the count of engines alone, and the logs in the
numbers noted from it. -/
theorem run_forgets_history (s : Setup) (h : Host η) (args : String) {w : World η}
    (reached : Reached w.scripts) :
    let later := run s (some (h.channel s)) args w
    let first := run s (some (h.channel s)) args (afresh w)
    later.1 = first.1 ∧ received s h args w = received s h args (afresh w) ∧
      later.2.host = first.2.host ∧ later.2.borrowed = first.2.borrowed ∧
      later.2.scripts = { first.2.scripts with
        invocations := first.2.scripts.invocations + w.scripts.invocations } ∧
      List.Forall₂ (LogRecord.SameButNumber w.scripts.invocations) later.2.log first.2.log := by
  intro later first
  have logs := sameButNumber_relation w.scripts.invocations
  have compared : ∀ {θ : Type} (g : Host θ) (x : θ),
      World.EndAlike Eq (List.Forall₂ (LogRecord.SameButNumber w.scripts.invocations))
        w.scripts.invocations (run s (some (g.channel s)) args (w.withHost x))
        (run s (some (g.channel s)) args ((afresh w).withHost x)) := by
    intro θ g x
    have hosts := (Host.Mirrors.refl (fun _ => False) g).agree logs nofun s
    exact run_alike logs (.some hosts) s args (reached.alike_afresh x)
  obtain ⟨outcome, alike⟩ := compared h w.host
  obtain ⟨-, recorded⟩ := compared h.recorded (w.host, [])
  exact ⟨outcome, congrArg Prod.snd recorded.host, alike.host, alike.borrowed, alike.scripts,
    alike.log⟩

/-- A history of one run in which the host panicked is forgotten, but for its engine. -/
theorem run_forgets_history_troubled :
    let past := (run oneCommand (some (troubledHost.channel oneCommand)) "" { host := () }).2
    Reached past.scripts ∧ past.scripts.invocations = 1 ∧
      (run oneCommand (some (troubledHost.channel oneCommand)) "again" past).1 =
        (run oneCommand (some (troubledHost.channel oneCommand)) "again" (afresh past)).1 ∧
      received oneCommand troubledHost "again" past =
        received oneCommand troubledHost "again" (afresh past) := by
  intro past
  have going : (run oneCommand (some (troubledHost.channel oneCommand)) ""
      { host := () }).1.halt? = none := by
    decide +kernel
  have counted : past.scripts.invocations = 1 := by
    decide +kernel
  have reached : Reached past.scripts := .run oneCommand troubledHost "" { host := () } .new going
  have forgets := run_forgets_history oneCommand troubledHost "again" reached
  exact ⟨reached, counted, forgets.1, forgets.2.1⟩

end ScriptHost

end DecompilerBridge
