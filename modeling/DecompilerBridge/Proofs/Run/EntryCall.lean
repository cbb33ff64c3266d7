import DecompilerBridge.Proofs.Entry
import DecompilerBridge.Proofs.Run.HostAccess

/-!
# The entry call decides the result

The work of an engine has two phases: what comes before the entry call (`Invocation.opening`), in
which the natives are added and the driver file is evaluated, and the entry call itself. Whatever
the first phase prints, a run succeeds exactly if the entry expression was evaluated to its end
(`succeeds_iff`).

A part of a run is followed with the handler that drives it. A sequence has given a value if its
parts have (`Bridge.drive_bind_eq_ok_iff`), so a run that has succeeded can be taken apart down to
the evaluation of the entry expression.
-/

set_option autoImplicit false

namespace DecompilerBridge

variable {η : Type}

namespace Bridge

variable {σ V α β τ ε : Type} {answer : (q : HostRequest) → τ → Except ε q.Reply × τ}

/-- A sequence that was stopped was stopped in its first part, or in its second. -/
theorem drive_bind_of_eq_stop {x : Bridge σ V α} {f : α → Bridge σ V β} {live ended : Live σ}
    {s s' : τ} {stop : Stop V}
    (driven : ((x >>= f).run live).drive answer s = (.ok (.error stop, ended), s')) :
    (x.run live).drive answer s = (.ok (.error stop, ended), s') ∨
      ∃ a between there, (x.run live).drive answer s = (.ok (.ok a, between), there) ∧
        ((f a).run between).drive answer there = (.ok (.error stop, ended), s') := by
  rw [run_bind, Interaction.drive_bind] at driven
  rcases first : (x.run live).drive answer s with ⟨e | ⟨halt | a, between⟩, there⟩ <;>
    rw [first] at driven
  · cases driven
  · cases driven
    exact .inl first
  · exact .inr ⟨a, between, there, first, driven⟩

/-- After a first part that has given a value, a sequence is its second part. -/
theorem drive_bind_of_value {x : Bridge σ V α} {live between : Live σ} {s there : τ} {a : α}
    (driven : (x.run live).drive answer s = (.ok (.ok a, between), there))
    (f : α → Bridge σ V β) :
    ((x >>= f).run live).drive answer s = ((f a).run between).drive answer there ∧
      Interaction.trail answer ((x >>= f).run live) s =
        Interaction.trail answer (x.run live) s ++
          Interaction.trail answer ((f a).run between) there := by
  rw [run_bind, Interaction.drive_bind, driven]
  exact ⟨rfl, Interaction.trail_bind driven⟩

/-- After a first part that the host does not see, a sequence is its second part, for all that the
host can see. -/
theorem Unseen.drive_bind {x : Bridge σ V α} {live : Live σ} {Q : α → Live σ → Prop}
    (unseen : UnseenValue x live Q) (f : α → Bridge σ V β) (channel : Option (HostChannel η))
    (w : World η) :
    ∃ a after there, Q a after ∧ w.SameHost there ∧
      ((x >>= f).run live).drive (World.answer channel) w =
        ((f a).run after).drive (World.answer channel) there ∧
      handed (((x >>= f).run live).trail (World.answer channel) w) =
        handed (((f a).run after).trail (World.answer channel) there) := by
  obtain ⟨asks, ends⟩ := unseen
  obtain ⟨⟨ended, after⟩, there, driven, same, nothing⟩ := asks.drive_unseen channel w
  obtain ⟨a, rfl, holds⟩ := ends.of_drive driven
  obtain ⟨goesOn, parts⟩ := drive_bind_of_value driven f
  exact ⟨a, after, there, holds, same, goesOn,
    by rw [parts, handed_append, nothing, List.nil_append]⟩

/-- After a first part that has given a value, a sequence gets to its second part. -/
theorem reaches_bind {x : Bridge σ V α} {live between : Live σ} {s there : τ} {a : α}
    (driven : (x.run live).drive answer s = (.ok (.ok a, between), there))
    (f : α → Bridge σ V β) :
    Interaction.Reaches answer ((x >>= f).run live) s ((f a).run between) there := by
  rw [run_bind]
  exact (Interaction.drive_eq_ok_iff.1 driven).bind _

/-- After a first part that has given no value, nothing comes, and no value either. -/
theorem drive_bind_of_stop {x : Bridge σ V α} {live : Live σ} {s : τ}
    (stopped : ∀ a between there,
      (x.run live).drive answer s ≠ (.ok (.ok a, between), there)) (f : α → Bridge σ V β) :
    (∀ b ended s', ((x >>= f).run live).drive answer s ≠ (.ok (.ok b, ended), s')) ∧
      Interaction.trail answer ((x >>= f).run live) s =
        Interaction.trail answer (x.run live) s := by
  constructor
  · intro b ended s' driven
    obtain ⟨a, between, there, first, -⟩ := drive_bind_eq_ok_iff.1 driven
    exact stopped a between there first
  · rw [run_bind]
    rcases driven : (x.run live).drive answer s with ⟨e | ⟨stop | a, between⟩, there⟩
    · exact Interaction.trail_bind_of_error driven _
    · rw [Interaction.trail_bind driven]
      exact List.append_nil _
    · exact absurd driven (stopped a between there)

/-- A value is changed when the computation has come to its end. -/
theorem map_run (f : α → β) (x : Bridge σ V α) (live : Live σ) :
    (f <$> x).run live = (x.run live).bind fun ended => .done (f <$> ended.1, ended.2) := by
  show Interaction.bind (x.run live) _ = _
  congr 1
  funext ⟨outcome, after⟩
  cases outcome <;> rfl

/-- What is made of a value asks for nothing else. -/
theorem trail_map (f : α → β) (x : Bridge σ V α) (live : Live σ) (s : τ) :
    Interaction.trail answer ((f <$> x).run live) s = Interaction.trail answer (x.run live) s := by
  rw [map_run]
  exact Interaction.trail_bind_of_done _ (fun _ => ⟨_, rfl⟩) s

/-- What is made of a value changes nothing else. -/
theorem drive_map (f : α → β) {x : Bridge σ V α} {live last : Live σ} {s s' : τ}
    {ended : Except (Stop V) α}
    (driven : (x.run live).drive answer s = (.ok (ended, last), s')) :
    ((f <$> x).run live).drive answer s = (.ok (f <$> ended, last), s') := by
  rw [map_run, Interaction.drive_bind, driven]
  rfl

/-- An attempt has given a value if what it attempts has. -/
theorem drive_attempt_eq_value_iff {x : Bridge σ V α} {live ended : Live σ} {s s' : τ} {a : α} :
    ((attempt x).run live).drive answer s = (.ok (.ok (.value a), ended), s') ↔
      (x.run live).drive answer s = (.ok (.ok a, ended), s') := by
  show (Interaction.bind (x.run live) _).drive answer s = _ ↔ _
  rw [Interaction.drive_bind]
  generalize (x.run live).drive answer s = driven
  rcases driven with ⟨e | ⟨(v | p | _ | _) | b, after⟩, there⟩
  · simp
  · cases parked : after.parked <;> simp [parked]
  · simp
  · simp
  · simp
  · simp

/-- What an attempt has given tells how what it attempts has ended. After a thrown value no panic is
parked, since the attempt would have gone on with it. -/
theorem attempt_cases {x : Bridge σ V α} {live called : Live σ} {s there : τ} {ending : Ending V α}
    (driven : ((attempt x).run live).drive answer s = (.ok (.ok ending, called), there)) :
    (∃ a, ending = .value a ∧ (x.run live).drive answer s = (.ok (.ok a, called), there)) ∨
      ∃ v, ending = .thrown v ∧ called.parked = none ∧
        (x.run live).drive answer s = (.ok (.error (.thrown v), called), there) := by
  change (Interaction.bind (x.run live) _).drive answer s = _ at driven
  rw [Interaction.drive_bind] at driven
  generalize (x.run live).drive answer s = first at driven ⊢
  rcases first with ⟨e | ⟨(v | p | _ | _) | b, after⟩, there'⟩
  · cases driven
  · cases parked : after.parked with
    | some p => simp [parked] at driven
    | none =>
      simp only [parked, Interaction.drive_done, Prod.mk.injEq, Except.ok.injEq] at driven
      obtain ⟨⟨rfl, rfl⟩, rfl⟩ := driven
      exact .inr ⟨v, rfl, parked, rfl⟩
  · cases driven
  · cases driven
  · cases driven
  · simp only [Interaction.drive_done, Prod.mk.injEq, Except.ok.injEq] at driven
    obtain ⟨⟨rfl, rfl⟩, rfl⟩ := driven
    exact .inl ⟨b, rfl, rfl⟩

/-- An attempt asks for what it attempts. -/
theorem trail_attempt (x : Bridge σ V α) (live : Live σ) (s : τ) :
    Interaction.trail answer ((attempt x).run live) s =
      Interaction.trail answer (x.run live) s := by
  refine Interaction.trail_bind_of_done _ ?_ s
  rintro ⟨(v | p | _ | _) | a, after⟩ <;> dsimp only
  · cases after.parked <;> exact ⟨_, rfl⟩
  · exact ⟨_, rfl⟩
  · exact ⟨_, rfl⟩
  · exact ⟨_, rfl⟩
  · exact ⟨_, rfl⟩

/-- An attempt runs for ever if what it attempts does. -/
theorem hung_of_attempt {x : Bridge σ V α} {live called : Live σ} {s there : τ}
    (driven : ((attempt x).run live).drive answer s = (.ok (.error .hung, called), there)) :
    (x.run live).drive answer s = (.ok (.error .hung, called), there) := by
  change (Interaction.bind (x.run live) _).drive answer s = _ at driven
  rw [Interaction.drive_bind] at driven
  generalize (x.run live).drive answer s = first at driven ⊢
  rcases first with ⟨e | ⟨(v | p | _ | _) | b, after⟩, there'⟩
  · cases driven
  · cases parked : after.parked <;> simp [parked] at driven
  · cases driven
  · cases driven
    rfl
  · cases driven
  · cases driven

end Bridge

namespace Invocation

open Bridge (Gives)

/-- What an engine does before it has its natives. -/
def preparation (m : Machine) : m.Work (Except String Unit) := do
  let number : Nat ← Bridge.ask .countEngine
  let _ ← Bridge.ask (.enter .engineCreated)
  Bridge.log (engineRecord number)
  register m

/-- What an engine does with its natives before the entry call. -/
def driverPhase (m : Machine) : m.Work Unit := do
  let _ ← Bridge.ask (.enter .nativesRegistered)
  loadDriver m
  let _ ← Bridge.ask (.enter .driverLoaded)
  pure ()

/-- What an engine does before the entry call. -/
def opening (m : Machine) : m.Work (Except String Unit) := do
  match ← preparation m with
  | .error detail => pure (.error ("cannot register natives: " ++ detail))
  | .ok () => .ok <$> driverPhase m

/-- What an engine does with its natives, or with the fault that it could not get them. -/
def afterPreparation (m : Machine) : Except String Unit → m.Work (Except String Unit)
  | .error detail => pure (.error ("cannot register natives: " ++ detail))
  | .ok () => .ok <$> driverPhase m

/-- What an engine does after that: the entry call, where nothing has failed. -/
def afterOpening (m : Machine) (args : String) :
    Except String Unit → m.Work (Except String (Except ScriptError Unit))
  | .error message => pure (.error message)
  | .ok () => .ok <$> callEntry m args

/-- The work of an engine is what comes before the entry call, and the entry call. -/
theorem session_eq (m : Machine) (args : String) :
    session m args = opening m >>= afterOpening m args := by
  have prepared : session m args = (do
      match ← preparation m with
      | .error detail => pure (.error ("cannot register natives: " ++ detail))
      | .ok () =>
        let _ ← Bridge.ask (.enter .nativesRegistered)
        loadDriver m
        let _ ← Bridge.ask (.enter .driverLoaded)
        .ok <$> callEntry m args) := by
    rw [preparation]
    rfl
  rw [prepared, opening, bind_assoc]
  refine congrArg (preparation m >>= ·) (funext fun registered => ?_)
  cases registered with
  | error detail => rfl
  | ok _ => simp only [driverPhase, afterOpening, bind_assoc, pure_bind, map_bind, map_pure]

/-- The evaluation of the entry expression. -/
def entry (m : Machine) (args : String) : m.Work Unit :=
  Bridge.within m.natives (m.engine.evaluate (Entry.expression args))

/-- What the report of a fault prints, once the fault is described. -/
def printed (m : Machine) (shown : String) : m.Work ScriptError := do
  Bridge.log (.error ("script failed: " ++ shown))
  Bridge.diagnose ("Error: " ++ shown)
  pure (.evaluation shown)

/-- A report is a description, and then what is printed of it. -/
theorem report_eq (m : Machine) (what : String) (fault : EngineFault m.engine.Value) :
    report m what fault = m.engine.describe m.natives fault >>= fun detail =>
      printed m (what ++ ": " ++ detail) := rfl

/-- A failure is noted, and then handed to the host as one line. -/
theorem printed_run (m : Machine) (shown : String) (live : Live m.engine.State) :
    (printed m shown).run live =
      .ask (.log (.error ("script failed: " ++ shown))) fun _ =>
        .ask (.diagnose ("Error: " ++ shown)) fun
          | .ok () => .done (.ok (.evaluation shown), live)
          | .error p => .done (.error (.unwound p), live) := by
  show Interaction.ask _ _ = _
  congr 1
  funext _
  show Interaction.ask _ _ = _
  congr 1
  funext r
  cases r <;> rfl

/-- The line of a failure is handed to the host, and is all there is. -/
theorem printed_handed (m : Machine) (shown : String) (live : Live m.engine.State)
    (channel : Option (HostChannel η)) (w : World η) :
    handed (((printed m shown).run live).trail (World.answer channel) w) =
      [.print ("Error: " ++ shown ++ "\n") w.scripts.state] := by
  rw [printed_run]
  simp only [Interaction.trail, World.answer]
  rcases World.diagnose channel ("Error: " ++ shown) _ with ⟨e | (p | ⟨⟩), after⟩ <;> rfl

/-- A line that is taken leaves the engine as it is. -/
theorem printed_ends {m : Machine} {shown : String} {live last : Live m.engine.State}
    {e : ScriptError}
    {channel : Option (HostChannel η)} {w after : World η}
    (driven : ((printed m shown).run live).drive (World.answer channel) w =
      (.ok (.ok e, last), after)) : last = live := by
  have ends : ((printed m shown).run live).Ends fun ended => ended.2 = live := by
    rw [printed_run]
    intro _ r
    cases r <;> rfl
  exact ends.of_drive driven

/-- What an entry call makes of the end of the entry expression. -/
def verdict (m : Machine) : Bridge.Ending m.engine.Value Unit → m.Work (Except ScriptError Unit)
  | .value () => pure (.ok ())
  | .thrown v => .error <$> report m Entry.functionName (.exception v)

/-- What the parts of the bridge have, the verdict has. -/
theorem verdict_has {m : Machine} {S : Natives m.engine.State m.engine.Value → Prop}
    {P : (α : Type) → m.Work α → Prop} (rules : Bridge.Rules m.engine S P) (serves : S m.natives)
    (attempts : ∀ {α : Type} {x : m.Work α}, P α x →
      P (Bridge.Ending m.engine.Value α) (Bridge.attempt x))
    (ending : Bridge.Ending m.engine.Value Unit) :
    P (Except ScriptError Unit) (verdict m ending) := by
  cases ending with
  | value a => exact rules.pure _
  | thrown v => exact rules.map _ (report_has rules serves attempts _ _)

/-- The entry call attempts the entry expression, and makes its result of how that has ended. -/
theorem callEntry_eq (m : Machine) (args : String) :
    callEntry m args = Bridge.attempt (entry m args) >>= fun ending =>
      Bridge.ask (.enter .entryInvoked) >>= fun _ => verdict m ending := by
  unfold callEntry ScriptEngine.evaluateText
  rw [Entry.nulOffset?_expression]
  simp only [bind_assoc]
  refine congrArg (Bridge.attempt (entry m args) >>= ·) (funext fun ending => ?_)
  cases ending <;> rfl

/-- What an engine does once the entry expression has ended. -/
def afterCall (m : Machine) (ending : Bridge.Ending m.engine.Value Unit) :
    m.Work (Except String (Except ScriptError Unit)) := do
  let _ ← Bridge.ask (.enter .entryInvoked)
  .ok <$> verdict m ending

/-- With its driver loaded, an engine attempts the entry expression, and goes on from there. -/
theorem afterOpening_ok (m : Machine) (args : String) :
    afterOpening m args (.ok ()) = Bridge.attempt (entry m args) >>= afterCall m := by
  simp only [afterOpening, callEntry_eq, map_bind]
  rfl

/-- An entry expression that has not been evaluated to its end makes the entry call fail. -/
theorem verdict_fails (m : Machine) {ending : Bridge.Ending m.engine.Value Unit}
    (cut : ending ≠ .value ()) : Gives (fun result => result ≠ .ok ()) (verdict m ending) := by
  cases ending with
  | value a => exact absurd rfl cut
  | thrown v => exact Gives.after _ fun e => .pure nofun

/-- After an entry expression that is evaluated to its end, the entry call moves to the last state
and succeeds. -/
theorem callEntry_of_entry {channel : Option (HostChannel η)} {m : Machine} {args : String}
    {live ended : Live m.engine.State} {w v : World η}
    (driven : ((entry m args).run live).drive (World.answer channel) w = (.ok (.ok (), ended), v)) :
    ((callEntry m args).run live).drive (World.answer channel) w =
      (.ok (.ok (.ok ()), ended), v.enter .entryInvoked) := by
  rw [callEntry_eq, (Bridge.drive_bind_of_value (Bridge.drive_attempt_eq_value_iff.2 driven) _).1]
  rfl

/-- The entry call succeeds if the entry expression is evaluated to its end, and not otherwise. -/
theorem callEntry_succeeds_iff {channel : Option (HostChannel η)} {m : Machine} {args : String}
    {live : Live m.engine.State} {w : World η} :
    (∃ ended v, ((callEntry m args).run live).drive (World.answer channel) w =
        (.ok (.ok (.ok ()), ended), v)) ↔
      ∃ ended v, ((entry m args).run live).drive (World.answer channel) w =
        (.ok (.ok (), ended), v) := by
  constructor
  · rintro ⟨ended, v, driven⟩
    rw [callEntry_eq] at driven
    obtain ⟨ending, attempted, there, first, rest⟩ := Bridge.drive_bind_eq_ok_iff.1 driven
    obtain ⟨_, moved, here, -, last⟩ := Bridge.drive_bind_eq_ok_iff.1 rest
    by_cases whole : ending = .value ()
    · subst whole
      exact ⟨attempted, there, Bridge.drive_attempt_eq_value_iff.1 first⟩
    · have failed := (verdict_fails m whole moved).of_drive last
      exact absurd rfl (failed _ rfl)
  · rintro ⟨ended, v, driven⟩
    exact ⟨ended, v.enter .entryInvoked, callEntry_of_entry driven⟩

/-- The report of a fatal fault is no success. -/
theorem fatal_fails (policy : FatalPolicy) (message : String) :
    (fatal policy message).Ends fun outcome => outcome ≠ .finished (.ok ()) := by
  cases policy with
  | abort => exact nofun
  | contain =>
    intro _ r
    cases r <;> exact nofun

/-- Nor is the report of a panic, or what ended otherwise. -/
theorem reportPanic_fails (s : Setup) {ended : Outcome (Except ScriptError Unit)}
    (failed : ended ≠ .finished (.ok ())) :
    (reportPanic s ended).Ends fun outcome => outcome ≠ .finished (.ok ()) := by
  cases ended with
  | finished result => exact failed
  | panicked p => exact fatal_fails _ _
  | halted h => exact nofun

/-- What follows the work of an engine makes no success of anything else. -/
theorem conclusion_fails {V σ : Type} (s : Setup)
    {result : Except (Stop V) (Except String (Except ScriptError Unit))} (live : Live σ)
    (failed : result ≠ .ok (.ok (.ok ()))) :
    (conclusion s (result, live)).Ends fun outcome => outcome ≠ .finished (.ok ()) := by
  rcases result with (v | p | _ | _) | message | (e | _)
  · exact fatal_fails _ _
  · exact fatal_fails _ _
  · exact nofun
  · exact nofun
  · exact (fatal_fails _ _).bind fun _ => reportPanic_fails s
  · exact nofun
  · exact absurd rfl failed

/-- An invocation for which no engine can be made is no success. -/
theorem begun_fails {s : Setup} {readings : Readings}
    (missing : ∀ context, ¬Opens s readings context) (args : String) :
    (begun s args readings).Ends fun outcome => outcome ≠ .finished (.ok ()) := by
  rcases begun_cases s args readings with ⟨context, opens, -⟩ | ⟨message, faulty⟩ | overflown
  · exact absurd opens (missing context)
  · rw [faulty]
    exact (fatal_fails _ _).bind fun _ => reportPanic_fails s
  · rw [overflown]
    exact fatal_fails _ _

end Invocation

namespace ScriptHost

open Invocation (Opens)

variable {s : Setup} {h : Host η} {args : String} {w : World η}

/-- The world in which the engine of a run starts its work: the run is linked and has its readings.
-/
def started (w : World η) : World η := (w.withLinkage .linked).handReadings

/-- During a run, the entry expression is evaluated and comes to an end, in an engine and a world.
-/
structure EntryEnds (s : Setup) (h : Host η) (args : String) (w : World η)
    (ending : Except (Stop s.machine.engine.Value) Unit) (live : Live s.machine.engine.State)
    (after : World η) : Prop where
  unlinked : w.scripts.isLinked = false
  reached : ∃ context loaded before, Opens s (w.readings 0) context ∧
    ((Invocation.opening s.machine).run ⟨context, none⟩).drive (World.answer (some (h.channel s)))
        (started w) = (.ok (.ok (.ok ()), loaded), before) ∧
    ((Invocation.entry s.machine args).run loaded).drive (World.answer (some (h.channel s)))
      before =
      (.ok (ending, live), after)

/-- A drive of a run hands out its readings and goes on with them. -/
theorem drive_reported (s : Setup) (channel : Option (HostChannel η)) (args : String)
    (w : World η) :
    (Invocation.reported s args).drive (World.answer channel) w =
      (Invocation.begun s args (w.readings 0)).drive (World.answer channel) w.handReadings := by
  rw [Invocation.reported_eq]
  rfl

/-- A run asks for its readings, and then for what an invocation asks that has them. -/
theorem requests_eq (s : Setup) (h : Host η) (args : String) (w : World η) :
    requests s h args w = (.readings, w.withLinkage .linked) ::
      (Invocation.begun s args (w.readings 0)).trail (World.answer (some (h.channel s)))
        (started w) := by
  rw [requests, Invocation.reported_eq]
  rfl

/-- The work of the engine of a run that has one, driven to its end. -/
theorem drive_reported_of_session {context : s.machine.engine.State}
    {channel : Option (HostChannel η)}
    {result : Except (Stop s.machine.engine.Value) (Except String (Except ScriptError Unit))}
    {live : Live s.machine.engine.State} {v after : World η}
    (opens : Opens s (v.readings 0) context)
    (driven : ((Invocation.session s.machine args).run ⟨context, none⟩).drive
      (World.answer channel) v.handReadings = (.ok (result, live), after)) :
    (Invocation.reported s args).drive (World.answer channel) v =
      (Invocation.conclusion s (result, live)).drive (World.answer channel) after := by
  rw [drive_reported, Invocation.begun_of_opens opens, Interaction.drive_bind, driven]

/-- If nothing is asked for after the work of an engine, the run ends as that says, and asks for its
readings and for what the work does. -/
theorem run_of_work {context : s.machine.engine.State}
    {result : Except (Stop s.machine.engine.Value) (Except String (Except ScriptError Unit))}
    {live : Live s.machine.engine.State} {after : World η}
    {outcome : Outcome (Except ScriptError Unit)} (unlinked : w.scripts.isLinked = false)
    (opens : Opens s (w.readings 0) context)
    (worked : ((Invocation.session s.machine args).run ⟨context, none⟩).drive
      (World.answer (some (h.channel s))) (started w) = (.ok (result, live), after))
    (nothing : Invocation.conclusion s (result, live) = .done outcome) :
    (run s (some (h.channel s)) args w).1 = outcome ∧
      requests s h args w = (.readings, w.withLinkage .linked) ::
        ((Invocation.session s.machine args).run ⟨context, none⟩).trail
          (World.answer (some (h.channel s))) (started w) := by
  constructor
  · rw [run_of_unlinked s _ args unlinked, finish_fst, drive,
      drive_reported_of_session (v := w.withLinkage .linked) opens worked, nothing]
    rfl
  · rw [requests_eq, Invocation.begun_of_opens opens, Interaction.trail_bind worked, nothing]
    exact congrArg _ (List.append_nil _)

/-- The work of an engine that ends with a result gives the run its result, and hands to the host
what the run does. -/
theorem run_of_session {context : s.machine.engine.State} {live : Live s.machine.engine.State}
    {result : Except ScriptError Unit} {after : World η} (unlinked : w.scripts.isLinked = false)
    (opens : Opens s (w.readings 0) context)
    (worked : ((Invocation.session s.machine args).run ⟨context, none⟩).drive
      (World.answer (some (h.channel s))) (started w) = (.ok (.ok (.ok result), live), after)) :
    (run s (some (h.channel s)) args w).1 = .finished result ∧
      handed (requests s h args w) =
        handed (((Invocation.session s.machine args).run ⟨context, none⟩).trail
          (World.answer (some (h.channel s))) (started w)) := by
  obtain ⟨outcome, asked⟩ := run_of_work unlinked opens worked rfl
  exact ⟨outcome, by rw [asked]; rfl⟩

/-- A run that succeeds has an engine whose work succeeds. -/
theorem session_of_succeeds
    (succeeded : (run s (some (h.channel s)) args w).1 = .finished (.ok ())) :
    w.scripts.isLinked = false ∧ ∃ context live after, Opens s (w.readings 0) context ∧
      ((Invocation.session s.machine args).run ⟨context, none⟩).drive
          (World.answer (some (h.channel s))) (started w) =
        (.ok (.ok (.ok (.ok ())), live), after) := by
  obtain ⟨unlinked, last, driven⟩ := drive_of_run succeeded nofun rfl
  rw [drive_reported] at driven
  by_cases made : ∃ context, Opens s (w.readings 0) context
  · obtain ⟨context, opens⟩ := made
    have begun := Invocation.begun_of_opens opens args
    rw [show (w.withLinkage .linked).readings 0 = w.readings 0 from rfl, begun,
      Interaction.drive_bind] at driven
    rcases worked : ((Invocation.session s.machine args).run ⟨context, none⟩).drive
        (World.answer (some (h.channel s))) (started w) with
      ⟨e | ⟨result, live⟩, after⟩ <;>
      rw [show (w.withLinkage .linked).handReadings = started w from rfl, worked] at driven
    · cases driven
    · by_cases whole : result = .ok (.ok (.ok ()))
      · subst whole
        exact ⟨unlinked, context, live, after, opens, worked⟩
      · -- of whatever else the work ends with, what follows makes no success
        exact absurd rfl ((Invocation.conclusion_fails s live whole).of_drive driven)
  · have missing : ∀ context, ¬Opens s (w.readings 0) context :=
      fun context opens => made ⟨context, opens⟩
    exact absurd rfl ((Invocation.begun_fails missing args).of_drive driven)

/-- A run succeeds if the entry expression is evaluated to its end, and not otherwise. -/
theorem succeeds_iff :
    (run s (some (h.channel s)) args w).1 = .finished (.ok ()) ↔
      ∃ live after, EntryEnds s h args w (.ok ()) live after := by
  constructor
  · intro succeeded
    obtain ⟨unlinked, context, live, after, opens, worked⟩ := session_of_succeeds succeeded
    rw [Invocation.session_eq] at worked
    obtain ⟨opened, loaded, before, first, called⟩ := Bridge.drive_bind_eq_ok_iff.1 worked
    cases opened with
    | error message => cases called
    | ok _ =>
      obtain ⟨result, ended', after', called, mapped⟩ := Bridge.drive_bind_eq_ok_iff.1 called
      cases mapped
      obtain ⟨ended, v, ends⟩ := Invocation.callEntry_succeeds_iff.1 ⟨_, _, called⟩
      exact ⟨ended, v, unlinked, context, loaded, before, opens, first, ends⟩
  · rintro ⟨live, after, unlinked, context, loaded, before, opens, first, ends⟩
    obtain ⟨ended, v, called⟩ := Invocation.callEntry_succeeds_iff.2 ⟨_, _, ends⟩
    have worked : ((Invocation.session s.machine args).run ⟨context, none⟩).drive
        (World.answer (some (h.channel s))) (started w) =
          (.ok (.ok (.ok (.ok ())), ended), v) := by
      rw [Invocation.session_eq]
      exact Bridge.drive_bind_eq_ok_iff.2 ⟨_, loaded, before, first,
        Bridge.drive_bind_eq_ok_iff.2 ⟨_, ended, v, called, rfl⟩⟩
    exact (run_of_session unlinked opens worked).1

end ScriptHost

end DecompilerBridge
