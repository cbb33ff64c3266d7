import DecompilerBridge.Proofs.Run.DriverPhase
import DecompilerBridge.Proofs.Shell.PipeStep
import DecompilerBridge.Shell.Program

/-!
# Timeouts and the clock

The deadline of a run is the reading of the clock when the run starts plus the timeout. A shell
takes every number of seconds of 64 bits as a timeout, on its command line and in its configuration
file (`Shell.stopsAfter_of_given`), and a clock counts to half of that range only.

A run whose deadline the clock can reach creates its engine, whatever the package, the host and the
arguments are: once the deadline is there, the first thing that an invocation asks for is that its
engine is counted. A run whose deadline lies beyond the range has nothing but the report of a fault:
no engine is counted, no state is set, and no script is looked at. So a timeout is usable exactly if
it fits behind the reading of the clock (`timeout_usable_iff`).
-/

set_option autoImplicit false

namespace DecompilerBridge

open Script (jsonInterpreter)

variable {η : Type}

/-- A setup that stops its runs after some seconds, and for whose next run an engine can be made. -/
structure Setup.StopsAfter (s : Setup) (seconds : Nat) (readings : Readings) : Prop where
  timeout : s.machine.limits.timeout = some (seconds * 1000)
  made : ∃ runtime context, s.machine.engine.newRuntime readings = .ok runtime ∧
    s.machine.engine.newContext s.machine.limits runtime = .ok context

/-- The clock reaches the deadline exactly if the timeout fits behind its reading. -/
theorem Setup.StopsAfter.deadlineExists_iff {s : Setup} {seconds : Nat}
    {readings : Readings} (stops : s.StopsAfter seconds readings) :
    s.machine.limits.deadlineExists s.clock = true ↔ s.clock + seconds < Limits.clockRange := by
  have whole : seconds * 1000 / 1000 = seconds := Nat.mul_div_cancel seconds (by decide)
  rw [Limits.deadlineExists, stops.timeout]
  simp only [whole, decide_eq_true_eq]

/-- The text of the fault when the clock cannot count to the deadline. -/
def overflowText : String := "overflow when adding duration to instant"

namespace Invocation

variable {s : Setup} {seconds : Nat} {readings : Readings}

/-- With time for its deadline, an invocation has an engine. -/
theorem opens_of_stopsAfter (stops : s.StopsAfter seconds readings)
    (fits : s.clock + seconds < Limits.clockRange) : ∃ context, Opens s readings context := by
  obtain ⟨runtime, context, made⟩ := stops.made
  exact ⟨context, stops.deadlineExists_iff.2 fits, runtime, made⟩

/-- An invocation is over at the computation of its deadline exactly if that lies beyond the clock.
-/
theorem start_eq_deadlinePanic_iff (stops : s.StopsAfter seconds readings) (args : String) :
    start s args readings = .done (.panicked deadlinePanic) ↔
      Limits.clockRange ≤ s.clock + seconds := by
  by_cases fits : s.clock + seconds < Limits.clockRange
  · obtain ⟨context, opens⟩ := opens_of_stopsAfter stops fits
    have started : start s args readings ≠ .done (.panicked deadlinePanic) := by
      rw [start_of_opens opens, session_run]
      intro same
      cases same
    exact iff_of_false started (Nat.not_le_of_lt fits)
  · have clock : s.machine.limits.deadlineExists s.clock = false :=
      Bool.eq_false_iff.2 fun exists_ => fits (stops.deadlineExists_iff.1 exists_)
    obtain ⟨runtime, -, made, -⟩ := stops.made
    refine iff_of_true ?_ (Nat.le_of_not_lt fits)
    simp only [start, made, clock, Bool.not_false, if_true]

/-- What is left then is the report of the fault. -/
theorem begun_of_overflow {args : String}
    (overflow : start s args readings = .done (.panicked deadlinePanic)) :
    begun s args readings = fatal s.policy overflowText := by
  rw [begun, overflow]
  rfl

end Invocation

namespace ScriptHost

variable {s : Setup} {h : Host η} {args : String} {w : World η} {seconds : Nat}

/-- A run with time for its deadline counts one engine. -/
theorem engines_of_deadline (stops : s.StopsAfter seconds (w.readings 0))
    (fits : s.clock + seconds < Limits.clockRange) (unlinked : w.scripts.isLinked = false) :
    (run s (some (h.channel s)) args w).2.scripts.invocations = w.scripts.invocations + 1 := by
  obtain ⟨context, opens⟩ := Invocation.opens_of_stopsAfter stops fits
  have works := Invocation.begun_of_opens opens args
  rw [(run_status args unlinked).2, (requests_of_engine works).2]

/-- A run without a deadline to go by counts no engine and sets no state. -/
theorem engines_of_overflow
    (overflow : Invocation.start s args (w.readings 0) = .done (.panicked deadlinePanic))
    (unlinked : w.scripts.isLinked = false) :
    (run s (some (h.channel s)) args w).2.scripts.invocations = w.scripts.invocations ∧
      entered (requests s h args w) = [] := by
  have steady : (Invocation.begun s args (w.readings 0)).Asks HostRequest.Steady := by
    rw [Invocation.begun_of_overflow overflow]
    exact Invocation.fatal_asks Invocation.logs_steady Invocation.diagnoses_steady _ _
  obtain ⟨states, engines⟩ := trail_steady (some (h.channel s)) steady (started w)
  have none : enginesCounted (requests s h args w) = 0 := by
    rw [requests_eq]
    exact engines
  constructor
  · rw [(run_status args unlinked).2, none, Nat.add_zero]
  · rw [requests_eq]
    exact states

/-- If faults are contained, such a run prints one line on a host that serves it, and returns a
fatal fault. -/
theorem outcome_of_overflow
    (overflow : Invocation.start s args (w.readings 0) = .done (.panicked deadlinePanic))
    (contain : s.policy = .contain) (unlinked : w.scripts.isLinked = false)
    (served : Serves s h args w) :
    (run s (some (h.channel s)) args w).1 = .finished (.error (.fatal overflowText)) ∧
      (w.borrowed = false → received s h args w =
        [.print (Invocation.fatalLine overflowText ++ "\n") w.scripts.state]) := by
  have whole : Invocation.begun s args (w.readings 0) = Invocation.fatal .contain overflowText := by
    rw [Invocation.begun_of_overflow overflow, contain]
  let noted := (started w).note (.error (Invocation.fatalLead ++ overflowText))
  let line := Invocation.fatalLine overflowText
  have asked : requests s h args w = [(.readings, w.withLinkage .linked),
      (.log (.error (Invocation.fatalLead ++ overflowText)), started w),
      (.diagnose line, noted)] := by
    rw [requests_eq, whole]
    simp only [Invocation.fatal, Interaction.trail, World.answer]
    split
    · split <;> rfl
    · rfl
  -- the line is the only thing that the host is asked for
  have serves : servesAt s h (.diagnose line, noted) = true := served _ (by simp [asked])
  constructor
  · rw [run_of_unlinked s _ args unlinked, finish_fst, drive, drive_reported]
    show Outcome.ofDriven ((Invocation.begun s args (w.readings 0)).drive _ (started w)).1 = _
    rw [whole]
    simp only [Invocation.fatal, Interaction.drive, World.answer]
    simp only [servesAt, World.answer] at serves
    rcases told : noted.diagnose (some (h.channel s)) line with ⟨e | (p | ⟨⟩), after⟩ <;>
      rw [told] at serves
    · cases serves
    · cases serves
    · rfl
  · intro free
    rw [served.received free unlinked, asked]
    rfl

/-- With a timeout in seconds, a run for which an engine can be made counts one exactly if the clock
can count to the deadline, and is ended by the computation of the deadline exactly if it cannot. In
the second case no engine is counted and no state is set, and if faults are contained the run
returns a fatal fault, after one line about it, on a host that serves the run. -/
theorem timeout_usable_iff (s : Setup) (h : Host η) (args : String) (w : World η) {seconds : Nat}
    (stops : s.StopsAfter seconds (w.readings 0)) (unlinked : w.scripts.isLinked = false) :
    let ended := run s (some (h.channel s)) args w
    (ended.2.scripts.invocations = w.scripts.invocations + 1 ↔
        s.clock + seconds < Limits.clockRange) ∧
      (Invocation.start s args (w.readings 0) = .done (.panicked deadlinePanic) ↔
        ¬ s.clock + seconds < Limits.clockRange) ∧
      (¬ s.clock + seconds < Limits.clockRange →
        ended.2.scripts.invocations = w.scripts.invocations ∧
          entered (requests s h args w) = [] ∧
          (s.policy = .contain → Serves s h args w →
            ended.1 = .finished (.error (.fatal overflowText)) ∧
              (w.borrowed = false → received s h args w =
                [.print (Invocation.fatalLine overflowText ++ "\n") w.scripts.state]))) := by
  intro ended
  have ends := Invocation.start_eq_deadlinePanic_iff stops args
  rw [← Nat.not_lt] at ends
  have beyond : ¬ s.clock + seconds < Limits.clockRange →
      ended.2.scripts.invocations = w.scripts.invocations ∧ entered (requests s h args w) = [] :=
    fun late => engines_of_overflow (ends.2 late) unlinked
  refine ⟨⟨fun counted => ?_, fun fits => engines_of_deadline stops fits unlinked⟩, ends,
    fun late => ⟨(beyond late).1, (beyond late).2, fun contain served =>
      outcome_of_overflow (ends.2 late) contain unlinked served⟩⟩
  refine Decidable.byContradiction fun late => ?_
  rw [(beyond late).1] at counted
  omega

end ScriptHost

namespace Shell

/-- Every number of seconds that a shell is given stops its runs, if engines can be made. -/
theorem stopsAfter_of_given {config : ShellConfig} {flags : Flags} {seconds : Nat}
    (given : (flags.timeout <|> config.timeout) = some seconds) (around : Surroundings)
    {readings : Readings}
    (made : ∃ runtime context, around.engine.newRuntime readings = .ok runtime ∧
      around.engine.newContext (config.resolve flags).limits runtime = .ok context) :
    ((config.resolve flags).setup around).StopsAfter seconds readings where
  timeout := by
    show (flags.timeout <|> config.timeout).map (· * 1000) = _
    rw [given]
    rfl
  made := made

/-- The package whose entry function prints its arguments, in the directory of a shell. -/
def echoingSurroundings : Surroundings where
  files := { members := [("require.js", .file
    "[[\"def\",\"r2dec_main\",[[\"log\",[\"json\",[\"args\"]]]]]]".toUTF8.toList)] }
  engine := jsonInterpreter.engine
  depth := jsonInterpreter.levels

/-- The setup of a shell in that directory with a timeout on its command line. -/
def echoingUnder (flag : String) : Setup :=
  (({} : ShellConfig).resolve { home := some ".", timeout := readWord64? flag }).setup
    echoingSurroundings

/-- When the clock reads one second, the greatest timeout that is usable is two less than the range
of the clock, and with two seconds more, which the command line takes too, no engine is created. -/
theorem timeout_usable_iff_last :
    let last := echoingUnder "9223372036854775806"
    let excess := echoingUnder "9223372036854775808"
    last.StopsAfter (Limits.clockRange - 2) {} ∧ excess.StopsAfter Limits.clockRange {} ∧
      ({ host := () } : World Unit).scripts.isLinked = false ∧
      (ScriptHost.run last (some (ScriptHost.calmHost.channel last)) "a"
        { host := () }).2.scripts.invocations = 1 ∧
      excess.policy = .contain ∧ ScriptHost.Serves excess ScriptHost.calmHost "a" { host := () } ∧
      (ScriptHost.run excess (some (ScriptHost.calmHost.channel excess)) "a"
        { host := () }).2.scripts.invocations = 0 ∧
      (ScriptHost.run excess (some (ScriptHost.calmHost.channel excess)) "a" { host := () }).1 =
        .finished (.error (.fatal "overflow when adding duration to instant")) ∧
      ScriptHost.received excess ScriptHost.calmHost "a" { host := () } =
        [.print "*** FATAL ERROR: overflow when adding duration to instant\n" .idle] := by
  intro last excess
  have stopsLast : last.StopsAfter (Limits.clockRange - 2) {} :=
    stopsAfter_of_given (by decide +kernel) _ ⟨_, _, rfl, rfl⟩
  have stopsExcess : excess.StopsAfter Limits.clockRange {} :=
    stopsAfter_of_given (by decide +kernel) _ ⟨_, _, rfl, rfl⟩
  have answered : (ScriptHost.requests excess ScriptHost.calmHost "a" { host := () }).all
      (ScriptHost.servesAt excess ScriptHost.calmHost) = true := by
    decide +kernel
  have served : ScriptHost.Serves excess ScriptHost.calmHost "a" { host := () } :=
    List.all_eq_true.1 answered
  obtain ⟨usable, -, -⟩ :=
    ScriptHost.timeout_usable_iff last ScriptHost.calmHost "a" { host := () } stopsLast rfl
  obtain ⟨-, -, beyond⟩ :=
    ScriptHost.timeout_usable_iff excess ScriptHost.calmHost "a" { host := () } stopsExcess rfl
  obtain ⟨none, -, ends⟩ := beyond (by decide +kernel)
  obtain ⟨fatal, told⟩ := ends rfl served
  exact ⟨stopsLast, stopsExcess, rfl, usable.2 (by decide +kernel), rfl, served, none, fatal,
    told rfl⟩

/-- A shell accepts timeouts that no run can use: from the command line and from a configuration
file they lead to a fatal fault without an engine. -/
theorem timeout_accepted_unusable :
    let flagged := run countingPeer echoingSurroundings
      ["f", "--timeout=9223372036854775808", "-c", "pdd a", "--home", "."]
    let configured := run countingPeer
      { echoingSurroundings with
        files := { members := ("c.json", .file
          "\x7b\"timeout_secs\":18446744073709551615\x7d".toUTF8.toList) ::
            echoingSurroundings.files.members } }
      ["f", "--config", "c.json", "-c", "pdd a", "--home", "."]
    flagged.stdout = "*** FATAL ERROR: overflow when adding duration to instant\n" ∧
      flagged.world.map (fun w => w.scripts.invocations) = some 0 ∧
      configured.stdout = "*** FATAL ERROR: overflow when adding duration to instant\n" ∧
      configured.world.map (fun w => w.scripts.invocations) = some 0 := by
  decide +kernel

end Shell

end DecompilerBridge
