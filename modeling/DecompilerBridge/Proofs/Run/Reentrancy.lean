import DecompilerBridge.Proofs.Run.Received
import DecompilerBridge.Proofs.Run.Teardown

/-!
# Runs inside a run

A host may run the scripts again while it serves a request of a run. Such a run is refused at once,
whatever the host wants to run and on whichever host, and the run around it does not notice: it is
the same run as on a host that does not ask (`sameRun_of_mirrors`).

The moments at which a host serves a request are `InUse`: the run has got to a request for the host,
and the host has got to some point of what it does about it. That the link is set there is the
invariant of a run, followed by that of the host's own requests.

The comparison of the two runs is `run_alike`. It needs a log relation that does not see the notes
of a refusal, and the moves between states are such a view of the log.
-/

set_option autoImplicit false

namespace DecompilerBridge

variable {η θ : Type}

/-! ## Hosts that do not ask -/

namespace HostAction

variable {α : Type}

/-- What a host does to serve a request, without the requests that are refused during a run. -/
def silenced (state : EngineState) : HostAction η α → HostAction η α
  | .done ended => .done ended
  | .ask q next =>
    match q.refusal state with
    | some r => silenced state (next r)
    | none => .ask q fun r => silenced state (next r)

/-- Leaving the refused requests out makes no other difference. -/
theorem silenced_mirrors (state : EngineState) (t : HostAction η α) :
    Mirrors (fun _ => True) Eq state t (silenced state t) := by
  induction t with
  | done ended => exact .done ended.1 rfl
  | ask q next ih =>
    rw [silenced]
    cases refused : q.refusal state with
    | some r => exact .skip trivial refused (ih r)
    | none => exact .ask ih

/-- No request is left that would be refused. -/
theorem silenced_asks (state : EngineState) (t : HostAction η α) :
    (silenced state t).Asks fun q : Reentry => q.refusal state = none := by
  induction t with
  | done ended => trivial
  | ask q next ih =>
    rw [silenced]
    cases refused : q.refusal state with
    | some r => exact ih r
    | none => exact ⟨refused, ih⟩

end HostAction

namespace Host

/-- The host that does what another does, but never runs the scripts or calls the plugin again. -/
def silenced (h : Host η) : Host η :=
  { h with
    command := fun text state x => HostAction.silenced state (h.command text state x)
    print := fun text state x => HostAction.silenced state (h.print text state x) }

/-- Every host has one that does the same without running the scripts again. -/
theorem silenced_mirrors (h : Host η) : h.Mirrors (fun _ => True) Eq h.silenced where
  command _ _ _ _ same := same ▸ HostAction.silenced_mirrors _ _
  print _ _ _ _ same := same ▸ HostAction.silenced_mirrors _ _

/-- A host that never asks during a run what is refused then. -/
structure Silent (h : Host η) : Prop where
  command : ∀ text state x, (h.command text state x).Asks fun q : Reentry => q.refusal state = none
  print : ∀ text state x, (h.print text state x).Asks fun q : Reentry => q.refusal state = none

/-- That host is silent. -/
theorem silenced_silent (h : Host η) : h.silenced.Silent where
  command _ state _ := HostAction.silenced_asks state _
  print _ state _ := HostAction.silenced_asks state _

end Host

/-! ## The moves between states -/

/-- Whether a record tells of a move of the scripts between states. -/
def LogRecord.isTransition (r : LogRecord) : Bool :=
  decide (r.level = .trace) && Text.startsWith r.message "engine state: "

/-- The moves between states that a log tells of, in order. -/
def transitions (log : List LogRecord) : List LogRecord := log.filter LogRecord.isTransition

/-- A refusal is noted, but is no move between states. -/
theorem Reentry.transitions_refusalRecords (q : Reentry) : transitions q.refusalRecords = [] := by
  have untold : ∀ c, transitions (Plugin.refusalRecords c) = [] := by
    intro c
    cases c <;> rfl
  cases q with
  | run args => rfl
  | call line =>
    simp only [Reentry.refusalRecords, Plugin.nestedRecords]
    split
    · rfl
    · cases Text.stripLead Command.lead line with
      | none => rfl
      | some rest => exact untold (.ofRest rest)
  | other args => rfl
  | note record => rfl

/-- Notes of a refusal tell of no more moves between states. -/
theorem transitions_append_refusalRecords (l : List LogRecord) (q : Reentry) :
    transitions (l ++ q.refusalRecords) = transitions l := by
  have untold := q.transitions_refusalRecords
  simp only [transitions, List.filter_append] at untold ⊢
  rw [untold, List.append_nil]

/-- Logs that tell of the same moves between states still do so after the same note. -/
theorem transitions_relation : LogRelation (fun l l' => transitions l = transitions l') 0 where
  note r same := by
    simp only [transitions, List.filter_append] at same ⊢
    rw [same]
  engine n same := by
    simp only [transitions, List.filter_append] at same ⊢
    rw [same, Nat.add_zero]

/-! ## The moments inside a run -/

namespace ScriptHost

/-- A run of a host, from a world in which none is in progress, gets to a request. -/
def AsksAt (s : Setup) (h : Host η) (args : String) (w : World η) (q : HostRequest)
    (before : World η) : Prop :=
  w.scripts.isLinked = false ∧ ∃ next, Interaction.Reaches (World.answer (some (h.channel s)))
    (Invocation.reported s args) (w.withLinkage .linked) (.ask q next) before

/-- A host that starts to serve a request in one world gets to another. -/
def WorksTo {α : Type} (s : Setup) (action : HostAction η α) (before v : World η) : Prop :=
  ∃ rest, Interaction.Reaches (Host.reenter s) action { before with borrowed := true } rest v

/-- The worlds in which a host is serving a command, a text or a diagnostic of a run. -/
inductive InUse (s : Setup) (h : Host η) (args : String) (w v : World η) : Prop where
  | command {text : String} {before : World η} : AsksAt s h args w (.command text) before →
      before.borrowed = false →
      WorksTo s (h.command text before.scripts.state before.host) before v → InUse s h args w v
  | print {text : String} {before : World η} : AsksAt s h args w (.print text) before →
      before.borrowed = false →
      WorksTo s (h.print text before.scripts.state before.host) before v → InUse s h args w v
  | diagnose {line : String} {before : World η} : AsksAt s h args w (.diagnose line) before →
      before.borrowed = false →
      WorksTo s (h.print (line ++ "\n") before.scripts.state before.host) before v →
        InUse s h args w v

/-- At every request of a run the link is set. -/
theorem AsksAt.linked {s : Setup} {h : Host η} {args : String} {w before : World η}
    {q : HostRequest} (asks : AsksAt s h args w q before) : before.scripts.linkage = .linked := by
  obtain ⟨-, next, reached⟩ := asks
  exact World.reached_linked (h.some_channel_orderly s) reached rfl

/-- Nothing that a host does while it serves a request of a run changes the scripts. -/
theorem WorksTo.scripts {α : Type} {s : Setup} {action : HostAction η α} {before v : World η}
    (works : WorksTo s action before v) (linked : before.scripts.linkage = .linked) :
    v.scripts = before.scripts := by
  obtain ⟨rest, reached⟩ := works
  exact Host.reached_scripts (w := { before with borrowed := true }) reached
    (ScriptStatus.isLinked_of_linked linked)

/-- While a host serves a request of a run, the link is set. -/
theorem InUse.linked {s : Setup} {h : Host η} {args : String} {w v : World η}
    (inUse : InUse s h args w v) : v.scripts.linkage = .linked := by
  cases inUse with
  | command asks _ works => rw [works.scripts asks.linked, asks.linked]
  | print asks _ works => rw [works.scripts asks.linked, asks.linked]
  | diagnose asks _ works => rw [works.scripts asks.linked, asks.linked]

/-! ## The run around -/

/-- The same run on two hosts: it has the same outcome, leaves the scripts with the same link, state
and number of engines, goes through the same states, and hands the hosts the same commands and
texts. -/
structure SameRun (s : Setup) (args : String) (h : Host η) (w : World η) (h' : Host θ)
    (u : World θ) : Prop where
  outcome : (run s (some (h.channel s)) args w).1 = (run s (some (h'.channel s)) args u).1
  scripts : (run s (some (h.channel s)) args w).2.scripts =
    (run s (some (h'.channel s)) args u).2.scripts
  states : transitions (run s (some (h.channel s)) args w).2.log =
    transitions (run s (some (h'.channel s)) args u).2.log
  received : received s h args w = received s h' args u

/-- A host that runs the scripts again gets the same run as one that does not ask. -/
theorem sameRun_of_mirrors {H : η → θ → Prop} {h : Host η} {h' : Host θ}
    (mirrors : h.Mirrors (fun _ => True) H h') (s : Setup) (args : String) {w : World η} {x : θ}
    (hosts : H w.host x) : SameRun s args h w h' (w.withHost x) := by
  have silent : ∀ (q : Reentry) l l', True → transitions l = transitions l' →
      transitions (l ++ q.refusalRecords) = transitions l' := by
    intro q l l' _ same
    rw [transitions_append_refusalRecords, same]
  obtain ⟨outcome, alike⟩ := run_alike transitions_relation
    (.some (mirrors.agree transitions_relation silent s)) s args
    (w := w) (u := w.withHost x) ⟨rfl, rfl, rfl, hosts, rfl, rfl, rfl⟩
  obtain ⟨-, recorded⟩ := run_alike transitions_relation
    (.some (mirrors.recorded.agree transitions_relation silent s)) s args
    (w := w.withHost (w.host, [])) (u := w.withHost (x, []))
    ⟨rfl, rfl, rfl, ⟨hosts, rfl⟩, rfl, rfl, rfl⟩
  exact ⟨outcome, alike.scripts, alike.log, recorded.host.2⟩

/-- At every moment of a run at which its host serves a request, the link is set, and a run of the
same script host is refused: on any host, with any files, limits and arguments it changes nothing
but the log. The run around it is the same if the host leaves out the requests that are refused, and
the same on every host that does what this one does without running the scripts again. The engine of
the run may be any: it reads the same in the runs that are compared. -/
theorem run_undisturbed (s : Setup) (h : Host η) (args : String) (w : World η) :
    (∀ v, InUse s h args w v → v.scripts.linkage = .linked ∧
        ∀ (ζ : Type) (nested : Setup) (channel : Option (HostChannel ζ)) (again : String)
          (u : World ζ), u.scripts = v.scripts →
            run nested channel again u = (.finished (.error .busy), u.note rejection)) ∧
      (h.silenced.Silent ∧ SameRun s args h w h.silenced w) ∧
      ∀ (θ : Type) (H : η → θ → Prop) (h' : Host θ) (x : θ), h.Mirrors (fun _ => True) H h' →
        H w.host x → SameRun s args h w h' (w.withHost x) := by
  refine ⟨fun v inUse => ⟨inUse.linked, ?_⟩, ?_, ?_⟩
  · intro ζ nested channel again u same
    refine run_of_linked nested channel again ?_
    rw [same]
    exact ScriptStatus.isLinked_of_linked inUse.linked
  · exact ⟨h.silenced_silent, sameRun_of_mirrors h.silenced_mirrors s args rfl⟩
  · intro θ H h' x mirrors hosts
    exact sameRun_of_mirrors mirrors s args hosts

/-- A host that runs the scripts again from inside every request, tells a script what came of it,
and counts how often it asked. -/
def nestingHost : Host Nat where
  command _ _ n := .ask (.run "again") fun r => .done (.ok (match r.1 with
    | .ok (.error e) => e.message
    | _ => "done"), n + 1)
  print _ _ n := .ask (.run "first") fun _ => .ask (.call "pdd second") fun _ =>
    .done (.ok (), n + 2)
  preferences _ := {}
  setPreferences _ n := n
  addCompletion _ n := n

/-- A host that gives the same answers without asking. -/
def calmHost : Host Unit where
  command _ _ _ := .done (.ok ScriptError.busy.message, ())
  print _ _ _ := .done (.ok (), ())
  preferences _ := {}
  setPreferences _ _ := ()
  addCompletion _ _ := ()

/-- The nesting host is refused while it prints a diagnostic, and a script that runs a command on it
has the same run as on the calm host. -/
theorem run_undisturbed_nesting :
    nestingHost.Mirrors (fun _ => True) (fun _ _ => True) calmHost ∧
      (∃ v : World Nat, InUse crampedSetup nestingHost "" { host := 0 } v ∧
        run crampedSetup none "first" v = (.finished (.error .busy), v.note rejection)) ∧
      SameRun oneCommand "" nestingHost { host := 0 } calmHost { host := () } := by
  have mirrors : nestingHost.Mirrors (fun _ => True) (fun _ _ => True) calmHost :=
    { command := fun _ _ _ _ _ => .skip trivial rfl (.done _ trivial)
      print := fun _ _ _ _ _ => .skip trivial rfl (.skip trivial rfl (.done _ trivial)) }
  have inUse : ∃ v : World Nat, InUse crampedSetup nestingHost "" { host := 0 } v :=
    ⟨_, .diagnose ⟨rfl, _, .step rfl (.step rfl (.refl _ _))⟩ rfl ⟨_, .refl _ _⟩⟩
  obtain ⟨v, serving⟩ := inUse
  have refused := (run_undisturbed crampedSetup nestingHost "" { host := 0 }).1 v serving
  have same := (run_undisturbed oneCommand nestingHost "" { host := 0 }).2.2
  exact ⟨mirrors, ⟨v, serving, refused.2 Nat crampedSetup none "first" v rfl⟩,
    same Unit _ calmHost () mirrors trivial⟩

end ScriptHost

end DecompilerBridge
