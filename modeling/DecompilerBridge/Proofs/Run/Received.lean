import DecompilerBridge.Proofs.Run.Alike

/-!
# What a host receives

The commands and texts that a host receives during a run, in order, each with the state that the
scripts are in. A host is made to write them down (`Host.recorded`), which changes nothing else
(`run_recorded`).
-/

set_option autoImplicit false

namespace DecompilerBridge

variable {η θ : Type}

/-- A request that a host received, with the state of the scripts at that moment. -/
inductive Received where
  | command (text : String) (state : EngineState)
  | print (text : String) (state : EngineState)
deriving DecidableEq, Repr

/-- The same world with another host. -/
def World.withHost (w : World η) (host : θ) : World θ :=
  { scripts := w.scripts, host := host, borrowed := w.borrowed, log := w.log,
    readings := w.readings }

/-- Worlds that look alike, with the same log and the same engines, differ in the host alone. -/
theorem World.Alike.eq_withHost {H : η → θ → Prop} {w : World η} {u : World θ}
    (alike : w.Alike H Eq 0 u) : u = w.withHost u.host := by
  have scripts : w.scripts = u.scripts := alike.scripts
  rw [World.withHost, scripts, alike.borrowed, alike.log, alike.readings]

namespace Host

/-- A host that also writes down what it receives. -/
def recorded (h : Host η) : Host (η × List Received) where
  command text state x := HostAction.thenSet (h.command text state x.1) fun after =>
    (after, x.2 ++ [.command text state])
  print text state x := HostAction.thenSet (h.print text state x.1) fun after =>
    (after, x.2 ++ [.print text state])
  preferences x := h.preferences x.1
  setPreferences p x := (h.setPreferences p x.1, x.2)
  addCompletion e x := (h.addCompletion e x.1, x.2)

/-- Hosts that do the same receive the same. -/
theorem Mirrors.recorded {omits : Reentry → Prop} {H : η → θ → Prop} {h : Host η} {h' : Host θ}
    (mirrors : Mirrors omits H h h') :
    Mirrors omits (fun x y => H x.1 y.1 ∧ x.2 = y.2) h.recorded h'.recorded where
  command text state x y related := by
    obtain ⟨hosts, written⟩ := related
    have served := mirrors.command text state x.1 y.1 hosts
    simp only [Host.recorded, written]
    exact served.thenSet fun _ _ after => ⟨after, rfl⟩
  print text state x y related := by
    obtain ⟨hosts, written⟩ := related
    have served := mirrors.print text state x.1 y.1 hosts
    simp only [Host.recorded, written]
    exact served.thenSet fun _ _ after => ⟨after, rfl⟩

/-- A host that writes down what it receives does what it did before. -/
theorem recorded_mirrors (omits : Reentry → Prop) (h : Host η) :
    Mirrors omits (fun x y => x.1 = y) h.recorded h where
  command text state x y same := by
    subst same
    rw [← HostAction.thenSet_id (h.command text state x.1)]
    simp only [Host.recorded]
    exact (HostAction.Mirrors.refl (h.command text state x.1)).thenSet fun _ _ same => same
  print text state x y same := by
    subst same
    rw [← HostAction.thenSet_id (h.print text state x.1)]
    simp only [Host.recorded]
    exact (HostAction.Mirrors.refl (h.print text state x.1)).thenSet fun _ _ same => same

end Host

namespace ScriptHost

/-- A host that writes down what it receives gets the same run: the same outcome, and the same world
apart from what is written down. -/
theorem run_recorded (s : Setup) (h : Host η) (args : String) (w : World η)
    (before : List Received) :
    let written := run s (some (h.recorded.channel s)) args (w.withHost (w.host, before))
    run s (some (h.channel s)) args w = (written.1, written.2.withHost written.2.host.1) := by
  intro written
  have logs : LogRelation Eq 0 := ⟨fun _ same => same ▸ rfl, fun _ same => same ▸ rfl⟩
  have hosts : (h.recorded.channel s).Agree (fun x y => x.1 = y) Eq 0 (h.channel s) :=
    (h.recorded_mirrors fun _ => False).agree logs nofun s
  obtain ⟨same, alike⟩ := run_alike logs (.some hosts) s args
    (w := w.withHost (w.host, before)) (u := w) ⟨rfl, rfl, rfl, rfl, rfl, rfl, rfl⟩
  have host : written.2.host.1 = (run s (some (h.channel s)) args w).2.host := alike.host
  refine Prod.ext same.symm ?_
  rw [host]
  exact alike.eq_withHost

/-- What a host receives during a run. -/
def received (s : Setup) (h : Host η) (args : String) (w : World η) : List Received :=
  (run s (some (h.recorded.channel s)) args (w.withHost (w.host, []))).2.host.2

end ScriptHost

end DecompilerBridge
