import DecompilerBridge.Proofs.Run.Invocation

/-!
# Two runs side by side

Runs of the same scripts on two worlds that look alike.

`World.Alike` relates the worlds: the scripts are in the same state with the same link, the hosts
are related, the logs are related, and one side may have counted more engines than the other. What
the two sides do with their hosts is a parameter, `HostChannel.Agree`; if the hosts are used alike,
then so are the worlds after a run, and the outcomes are equal (`run_alike`).

The engines of both sides read the same, so that an engine which looks at the time, or takes random
numbers, has no more to tell the two runs apart than any other.

The number of an engine is the one thing in which the two programs differ. It is counted and noted
at the start of an invocation and never looked at again (`reported_numbered`).
-/

set_option autoImplicit false

namespace DecompilerBridge

variable {η θ : Type}

/-! ## Worlds that look alike -/

/-- A relation between logs that stays when both sides note the same record, or the record of an
engine whose number is `d` more on the first side. -/
structure LogRelation (L : List LogRecord → List LogRecord → Prop) (d : Nat) : Prop where
  note : ∀ {l l'} (r : LogRecord), L l l' → L (l ++ [r]) (l' ++ [r])
  engine : ∀ {l l'} (n : Nat),
    L l l' → L (l ++ [Invocation.engineRecord (n + d)]) (l' ++ [Invocation.engineRecord n])

variable {L : List LogRecord → List LogRecord → Prop} {d : Nat}

/-- Such a relation stays where the numbers are the same. -/
theorem LogRelation.same (hL : LogRelation L d) : LogRelation L 0 :=
  ⟨hL.note, fun _ => hL.note _⟩

/-- Noting the same records in order keeps two logs related. -/
theorem LogRelation.noteAll (hL : LogRelation L d) {l l' : List LogRecord} (rs : List LogRecord)
    (related : L l l') : L (l ++ rs) (l' ++ rs) := by
  induction rs generalizing l l' with
  | nil => simpa using related
  | cons r rest ih => simpa using ih (hL.note r related)

/-- Two worlds that look alike: the hosts are related by `H` and the logs by `L`, the engines to
come are going to read the same, and the first has counted `d` engines more. -/
structure World.Alike (H : η → θ → Prop) (L : List LogRecord → List LogRecord → Prop) (d : Nat)
    (w : World η) (u : World θ) : Prop where
  linkage : w.scripts.linkage = u.scripts.linkage
  state : w.scripts.state = u.scripts.state
  invocations : w.scripts.invocations = u.scripts.invocations + d
  host : H w.host u.host
  borrowed : w.borrowed = u.borrowed
  log : L w.log u.log
  readings : w.readings = u.readings

variable {H : η → θ → Prop}

namespace World.Alike

variable {w : World η} {u : World θ}

/-- Worlds that look alike stay so when both note the same record. -/
theorem note (hL : LogRelation L d) (alike : w.Alike H L d u) (r : LogRecord) :
    (w.note r).Alike H L d (u.note r) :=
  { alike with log := hL.note r alike.log }

/-- Worlds that look alike stay so when both note the same records. -/
theorem noteAll (hL : LogRelation L d) (alike : w.Alike H L d u) (rs : List LogRecord) :
    (w.noteAll rs).Alike H L d (u.noteAll rs) :=
  { alike with log := hL.noteAll rs alike.log }

/-- Worlds that look alike stay so when both move to the same state. -/
theorem enter (hL : LogRelation L d) (alike : w.Alike H L d u) (state : EngineState) :
    (w.enter state).Alike H L d (u.enter state) := by
  have noted := alike.note hL
    (.trace ("engine state: " ++ w.scripts.state.name ++ " -> " ++ state.name))
  refine { noted with state := rfl, log := ?_ }
  simpa [World.enter, alike.state] using noted.log

/-- Worlds that look alike stay so when both set the same link. -/
theorem withLinkage (alike : w.Alike H L d u) (l : Linkage) :
    (w.withLinkage l).Alike H L d (u.withLinkage l) :=
  { alike with linkage := rfl }

/-- Worlds that look alike stay so when both count an engine. -/
theorem countEngine (alike : w.Alike H L d u) : w.countEngine.Alike H L d u.countEngine := by
  refine { alike with invocations := ?_ }
  have counted := alike.invocations
  show w.scripts.invocations + 1 = u.scripts.invocations + 1 + d
  omega

/-- Worlds that look alike stay so when both hand out what an engine is going to read. -/
theorem handReadings (alike : w.Alike H L d u) : w.handReadings.Alike H L d u.handReadings := by
  refine { alike with readings := ?_ }
  show (fun n => w.readings (n + 1)) = fun n => u.readings (n + 1)
  rw [alike.readings]

/-- Worlds that look alike stay so when both are torn down. -/
theorem tearDown (hL : LogRelation L d) (alike : w.Alike H L d u) :
    (ScriptHost.tearDown w).Alike H L d (ScriptHost.tearDown u) :=
  ((alike.withLinkage .unlinked).enter hL .idle).note hL _

/-- Worlds that look alike agree on whether the link is set. -/
theorem isLinked (alike : w.Alike H L d u) : w.scripts.isLinked = u.scripts.isLinked := by
  simp only [ScriptStatus.isLinked, alike.linkage]

/-- Scripts that look alike differ in the number of engines alone. -/
theorem scripts (alike : w.Alike H L d u) :
    w.scripts = { u.scripts with invocations := u.scripts.invocations + d } := by
  dsimp only
  rw [← alike.linkage, ← alike.state, ← alike.invocations]

end World.Alike

/-! ## Answers -/

/-- Two uses of a host end alike: with the same outcome, in worlds that look alike. -/
def World.EndAlike {α : Type} (H : η → θ → Prop) (L : List LogRecord → List LogRecord → Prop)
    (d : Nat) (ended : α × World η) (other : α × World θ) : Prop :=
  ended.1 = other.1 ∧ ended.2.Alike H L d other.2

/-- Two ways to a host agree: during a run, a free host is used alike through them. -/
structure HostChannel.Agree (H : η → θ → Prop) (L : List LogRecord → List LogRecord → Prop)
    (d : Nat) (p : HostChannel η) (q : HostChannel θ) : Prop where
  command : ∀ text (w : World η) (u : World θ), w.Alike H L d u → w.scripts.linkage = .linked →
    w.borrowed = false → World.EndAlike H L d (p.command text w) (q.command text u)
  print : ∀ text (w : World η) (u : World θ), w.Alike H L d u → w.scripts.linkage = .linked →
    w.borrowed = false → World.EndAlike H L d (p.print text w) (q.print text u)

/-- The two sides of a run have ways to their hosts that agree, or neither has one. -/
inductive ChannelsAgree (H : η → θ → Prop) (L : List LogRecord → List LogRecord → Prop) (d : Nat) :
    Option (HostChannel η) → Option (HostChannel θ) → Prop where
  | none : ChannelsAgree H L d none none
  | some {p : HostChannel η} {q : HostChannel θ} : p.Agree H L d q →
      ChannelsAgree H L d (some p) (some q)

namespace World

variable {channel : Option (HostChannel η)} {other : Option (HostChannel θ)} {w : World η}
  {u : World θ}

/-- A native gets the same answer on both sides, if the hosts are used alike for it. -/
theorem access_alike {α : Type} {use : HostChannel η → World η → Outcome α × World η}
    {use' : HostChannel θ → World θ → Outcome α × World θ}
    (agree : ChannelsAgree H L d channel other) (alike : w.Alike H L d u)
    (used : ∀ p q, p.Agree H L d q → w.scripts.linkage = .linked → w.borrowed = false →
      EndAlike H L d (use p w) (use' q u)) :
    EndAlike H L d (w.access channel use) (u.access other use') := by
  rw [access_eq, access_eq, ← alike.linkage, ← alike.borrowed]
  cases linkage : w.scripts.linkage with
  | unlinked => exact ⟨rfl, alike⟩
  | stale => exact ⟨rfl, alike⟩
  | linked =>
    cases agree with
    | none => exact ⟨rfl, alike⟩
    | @some p q hosts =>
      cases borrowed : w.borrowed with
      | true => exact ⟨rfl, alike⟩
      | false =>
        obtain ⟨same, after⟩ := used p q hosts linkage borrowed
        exact ⟨congrArg Outcome.toAccess same, after⟩

/-- A diagnostic ends alike on both sides. -/
theorem diagnose_alike (hL : LogRelation L d) (agree : ChannelsAgree H L d channel other)
    (alike : w.Alike H L d u) (line : String) :
    EndAlike H L d (w.diagnose channel line) (u.diagnose other line) := by
  rw [diagnose_eq, diagnose_eq, ← alike.linkage, ← alike.borrowed]
  cases linkage : w.scripts.linkage with
  | unlinked => exact ⟨rfl, alike.note hL _⟩
  | stale => exact ⟨rfl, alike.note hL _⟩
  | linked =>
    cases agree with
    | none => exact ⟨rfl, alike.note hL _⟩
    | some hosts =>
      cases borrowed : w.borrowed with
      | true => exact ⟨rfl, alike.note hL _⟩
      | false =>
        obtain ⟨same, after⟩ := hosts.print (line ++ "\n") w u alike linkage borrowed
        exact ⟨congrArg Outcome.toDiagnosis same, after⟩

/-- Every request that counts no engine is answered alike on both sides. -/
theorem answer_alike (hL : LogRelation L d) (agree : ChannelsAgree H L d channel other)
    (alike : w.Alike H L d u) {q : HostRequest} (uncounted : Invocation.IsUncounted q) :
    EndAlike H L d (answer channel q w) (answer other q u) := by
  cases q with
  | command text =>
    exact access_alike agree alike fun _ _ hosts => hosts.command text w u alike
  | print text => exact access_alike agree alike fun _ _ hosts => hosts.print text w u alike
  | diagnose line => exact diagnose_alike hL agree alike line
  | log record => exact ⟨rfl, alike.note hL record⟩
  | event e => exact ⟨rfl, alike⟩
  | enter state => exact ⟨rfl, alike.enter hL state⟩
  | countEngine => exact absurd rfl uncounted
  | readings =>
    refine ⟨?_, alike.handReadings⟩
    show Except.ok (w.readings 0) = .ok (u.readings 0)
    rw [alike.readings]

/-- Every request is answered alike on both sides, if both have counted the same engines. -/
theorem answer_agrees (hL : LogRelation L 0) (agree : ChannelsAgree H L 0 channel other)
    (alike : w.Alike H L 0 u) (q : HostRequest) :
    EndAlike H L 0 (answer channel q w) (answer other q u) := by
  by_cases counts : q = .countEngine
  · subst counts
    have number := alike.countEngine.invocations
    refine ⟨?_, alike.countEngine⟩
    show Except.ok w.countEngine.scripts.invocations = .ok u.countEngine.scripts.invocations
    rw [number, Nat.add_zero]
  · exact answer_alike hL agree alike counts

end World

/-! ## Runs -/

namespace Invocation

/-- A program that looks at the number of its engine only to note it: it counts no engine at all, or
counts one, notes the number, and counts none before or after that. -/
inductive Numbered {α : Type} : Progress α → Prop where
  | uncounted {t : Progress α} : t.Asks IsUncounted → Numbered t
  | counted {t : Progress α} : t.Asks IsUncounted →
      Numbered (.ask .countEngine fun (number : Nat) => .ask (.enter .engineCreated) fun _ =>
        .ask (.log (engineRecord number)) fun _ => t)
  | later {q : HostRequest} {next : q.Reply → Progress α} : IsUncounted q →
      (∀ r, Numbered (next r)) → Numbered (.ask q next)

/-- What follows a numbered program may not count. -/
theorem Numbered.bind {α β : Type} {t : Progress α} {f : α → Progress β} (ht : Numbered t)
    (hf : ∀ a, (f a).Asks IsUncounted) : Numbered (Interaction.bind t f) := by
  induction ht with
  | uncounted h => exact .uncounted (h.bind hf)
  | counted h => exact .counted (h.bind hf)
  | later uncounted _ ih => exact .later uncounted fun r => ih r

/-- An invocation looks at the number of its engine only to note it. -/
theorem start_numbered (s : Setup) (args : String) (readings : Readings) :
    Numbered (start s args readings) := by
  rcases start_cases s args readings with ⟨context, -, works⟩ | ⟨message, faulty⟩ | overflown
  · rw [works, session_run]
    have asks := work_asks isUncounted_of_isService (fun _ => nofun) s.machine args ⟨context, none⟩
    exact (Numbered.counted asks).bind fun _ => conclude_asks (fun _ => nofun) (fun _ => nofun) _ _
  · rw [faulty]
    exact .uncounted (fatal_asks (fun _ => nofun) (fun _ => nofun) _ _)
  · rw [overflown]
    exact .uncounted trivial

/-- So does an invocation with the report of a panic that comes out of it. -/
theorem reported_numbered (s : Setup) (args : String) : Numbered (reported s args) := by
  have numbered : ∀ readings, Numbered (begun s args readings) := fun readings =>
    (start_numbered s args readings).bind fun _ =>
      reportPanic_asks (fun _ => nofun) (fun _ => nofun) _ _
  rw [reported_eq]
  exact .later nofun numbered

end Invocation

namespace ScriptHost

variable {channel : Option (HostChannel η)} {other : Option (HostChannel θ)} {w : World η}
  {u : World θ}

/-- A program that looks at the number of its engine only to note it is driven alike on both sides.
-/
theorem drive_alike {α : Type} (hL : LogRelation L d) (agree : ChannelsAgree H L d channel other)
    {t : Invocation.Progress α} (numbered : Invocation.Numbered t) (alike : w.Alike H L d u) :
    World.EndAlike H L d (Interaction.drive (World.answer channel) t w)
      (Interaction.drive (World.answer other) t u) := by
  have answers : ∀ q (v : World η) (v' : World θ), Invocation.IsUncounted q → v.Alike H L d v' →
      World.EndAlike H L d (World.answer channel q v) (World.answer other q v') :=
    fun q v v' uncounted related => World.answer_alike hL agree related uncounted
  have uncounted : ∀ (t : Invocation.Progress α) (v : World η) (v' : World θ),
      t.Asks Invocation.IsUncounted → v.Alike H L d v' →
        World.EndAlike H L d (Interaction.drive (World.answer channel) t v)
          (Interaction.drive (World.answer other) t v') :=
    fun t v v' asks related => Interaction.drive_related answers asks related
  induction numbered generalizing w u with
  | uncounted asks => exact uncounted _ w u asks alike
  | @later q next uncountedFirst _ ih =>
    obtain ⟨same, related⟩ := World.answer_alike hL agree alike uncountedFirst
    rcases answered : World.answer channel q w with ⟨e | r, after⟩ <;>
      rcases answered' : World.answer other q u with ⟨e' | r', after'⟩ <;>
      rw [answered, answered'] at same related <;> cases same
    · simp only [Interaction.drive, answered, answered']
      exact ⟨rfl, related⟩
    · simp only [Interaction.drive, answered, answered']
      exact ih r related
  | @counted rest asks =>
    -- Both sides count, and the numbers they note differ; from there on they do the same.
    have created := alike.countEngine.enter hL .engineCreated
    have noted := hL.engine u.countEngine.scripts.invocations created.log
    rw [← alike.countEngine.invocations] at noted
    exact uncounted rest _ _ asks { created with log := noted }

/-- Work that ended alike on both sides ends alike as a run. -/
theorem finish_alike (hL : LogRelation L d) {ended : Outcome (Except ScriptError Unit) × World η}
    {ended' : Outcome (Except ScriptError Unit) × World θ}
    (alike : World.EndAlike H L d ended ended') :
    World.EndAlike H L d (finish ended) (finish ended') := by
  rcases ended with ⟨outcome, after⟩
  rcases ended' with ⟨outcome', after'⟩
  obtain ⟨same, related⟩ := alike
  cases same
  cases outcome with
  | finished result => exact ⟨rfl, related.tearDown hL⟩
  | panicked p => exact ⟨rfl, related.tearDown hL⟩
  | halted h => exact ⟨rfl, related⟩

/-- A run ends alike on both sides, if the hosts are used alike. -/
theorem run_alike (hL : LogRelation L d) (agree : ChannelsAgree H L d channel other) (s : Setup)
    (args : String) (alike : w.Alike H L d u) :
    World.EndAlike H L d (run s channel args w) (run s other args u) := by
  have sameLink := alike.isLinked
  cases linked : w.scripts.isLinked with
  | true =>
    rw [run_of_linked s channel args linked, run_of_linked s other args (sameLink ▸ linked)]
    exact ⟨rfl, alike.note hL _⟩
  | false =>
    rw [run_of_unlinked s channel args linked, run_of_unlinked s other args (sameLink ▸ linked)]
    obtain ⟨same, after⟩ := drive_alike hL agree (Invocation.reported_numbered s args)
      (alike.withLinkage .linked)
    exact finish_alike hL ⟨congrArg Outcome.ofDriven same, after⟩

end ScriptHost

/-! ## Hosts that serve a request -/

namespace Host

/-- Answers to a host are alike if what they report is. -/
theorem reply_alike {α : Type} {ended : Outcome α × World η} {other : Outcome α × World θ}
    (alike : World.EndAlike H L d ended other) :
    World.EndAlike H L d (reply ended) (reply other) := by
  rcases ended with ⟨outcome, after⟩
  rcases other with ⟨outcome', after'⟩
  obtain ⟨same, related⟩ := alike
  cases same
  have sameState : after.scripts.state = after'.scripts.state := related.state
  cases outcome with
  | finished a => exact ⟨by simp only [reply, sameState], related⟩
  | panicked p => exact ⟨by simp only [reply, sameState], related⟩
  | halted h => exact ⟨rfl, related⟩

/-- During a run, whatever a host asks for is answered alike on both sides. -/
theorem reenter_alike (hL : LogRelation L d) (s : Setup) (q : Reentry) {w : World η} {u : World θ}
    (alike : w.Alike H L d u) (linked : w.scripts.isLinked = true) :
    World.EndAlike H L d (reenter s q w) (reenter s q u) := by
  have linked' : u.scripts.isLinked = true := alike.isLinked ▸ linked
  cases q with
  | run args =>
    refine reply_alike ?_
    rw [ScriptHost.run_of_linked s none args linked, ScriptHost.run_of_linked s none args linked']
    exact ⟨rfl, alike.note hL _⟩
  | call line =>
    refine reply_alike ?_
    rw [Plugin.call_of_linked s line linked, Plugin.call_of_linked s line linked']
    exact ⟨rfl, alike.noteAll hL _⟩
  | other args =>
    -- The other script host is new on both sides, so it has counted the same engines.
    have start : ({ w with scripts := {} } : World η).Alike H L 0 { u with scripts := {} } :=
      { alike with linkage := rfl, state := rfl, invocations := rfl }
    obtain ⟨same, after⟩ := ScriptHost.run_alike hL.same .none s args start
    exact reply_alike ⟨same,
      { alike with
        host := after.host, borrowed := after.borrowed, log := after.log,
        readings := after.readings }⟩
  | note record => exact ⟨rfl, alike.note hL record⟩

end Host

/-- The answer to a request of a host that is refused during a run, in some state of the scripts. -/
def Reentry.refusal (state : EngineState) : (q : Reentry) → Option q.Reply
  | .run _ => some (.ok (.error .busy), state)
  | .call line => some (.ok (Plugin.owns line), state)
  | .other _ => none
  | .note _ => none

/-- What is noted when a request of a host is refused. -/
def Reentry.refusalRecords : Reentry → List LogRecord
  | .run _ => [ScriptHost.rejection]
  | .call line => Plugin.nestedRecords line
  | .other _ => []
  | .note _ => []

/-- A refused request leaves nothing behind but notes. -/
theorem Host.reenter_of_refusal (s : Setup) {q : Reentry} {r : q.Reply} {w : World η}
    (linked : w.scripts.isLinked = true) (refused : q.refusal w.scripts.state = some r) :
    Host.reenter s q w = (.ok r, w.noteAll q.refusalRecords) := by
  cases q with
  | run args =>
    cases refused
    rw [reenter, ScriptHost.run_of_linked s none args linked]
    rfl
  | call line =>
    cases refused
    rw [reenter, Plugin.call_of_linked s line linked]
    rfl
  | other args => cases refused
  | note record => cases refused

namespace HostAction

variable {α : Type}

/-- One host serves a request as another does, but leaves out some requests of its own: those that
`omits` allows and that are refused anyway, with the scripts in a state. Where the first host goes
on with the refusal, the second goes on without asking. -/
inductive Mirrors (omits : Reentry → Prop) (H : η → θ → Prop) (state : EngineState) :
    HostAction η α → HostAction θ α → Prop where
  | done {x : η} {y : θ} (result : Except Panic α) : H x y →
      Mirrors omits H state (.done (result, x)) (.done (result, y))
  | ask {q : Reentry} {next : q.Reply → HostAction η α} {next' : q.Reply → HostAction θ α} :
      (∀ r, Mirrors omits H state (next r) (next' r)) →
        Mirrors omits H state (.ask q next) (.ask q next')
  | skip {q : Reentry} {next : q.Reply → HostAction η α} {t : HostAction θ α} {r : q.Reply} :
      omits q → q.refusal state = some r → Mirrors omits H state (next r) t →
        Mirrors omits H state (.ask q next) t

/-- Every host serves a request as it does. -/
theorem Mirrors.refl {omits : Reentry → Prop} {state : EngineState} (t : HostAction η α) :
    Mirrors omits Eq state t t := by
  induction t with
  | done ended => exact .done ended.1 rfl
  | ask q next ih => exact .ask ih

/-- What a host does to serve a request, with a last change to the state that it ends with. -/
def thenSet (t : HostAction η α) (f : η → θ) : HostAction θ α :=
  Interaction.bind t fun ended => .done (ended.1, f ended.2)

/-- A last change that changes nothing can be left out. -/
theorem thenSet_id (t : HostAction η α) : thenSet t id = t := Interaction.bind_done t

/-- Hosts that serve a request alike still do so after a last change, if related states stay
related. -/
theorem Mirrors.thenSet {η' θ' : Type} {omits : Reentry → Prop} {state : EngineState}
    {t : HostAction η α} {t' : HostAction θ α} (mirrors : Mirrors omits H state t t')
    {K : η' → θ' → Prop} {f : η → η'} {f' : θ → θ'} (kept : ∀ x y, H x y → K (f x) (f' y)) :
    Mirrors omits K state (thenSet t f) (thenSet t' f') := by
  induction mirrors with
  | done result h => exact .done result (kept _ _ h)
  | ask _ ih => exact .ask ih
  | skip allowed refused _ ih => exact .skip allowed refused ih

/-- Two drives of what hosts do end alike: with the same result and related states, or given up for
the same reason. -/
inductive DrivenAlike (H : η → θ → Prop) (L : List LogRecord → List LogRecord → Prop) (d : Nat) :
    Except Halt (Except Panic α × η) × World η → Except Halt (Except Panic α × θ) × World θ →
      Prop where
  | done {x : η} {y : θ} {v : World η} {v' : World θ} (result : Except Panic α) : H x y →
      v.Alike H L d v' → DrivenAlike H L d (.ok (result, x), v) (.ok (result, y), v')
  | gaveUp {v : World η} {v' : World θ} (h : Halt) : v.Alike H L d v' →
      DrivenAlike H L d (.error h, v) (.error h, v')

/-- During a run, what two hosts do to serve a request alike is driven alike, if the logs stay
related where the second host leaves a request out. -/
theorem Mirrors.drive {omits : Reentry → Prop} {state : EngineState} {t : HostAction η α}
    {t' : HostAction θ α} (mirrors : Mirrors omits H state t t') (hL : LogRelation L d)
    (silent : ∀ q l l', omits q → L l l' → L (l ++ q.refusalRecords) l') (s : Setup) {w : World η}
    {u : World θ} (alike : w.Alike H L d u) (linked : w.scripts.isLinked = true)
    (here : w.scripts.state = state) :
    DrivenAlike H L d (Interaction.drive (Host.reenter s) t w)
      (Interaction.drive (Host.reenter s) t' u) := by
  induction mirrors generalizing w u with
  | done result h => exact .done result h alike
  | @ask q next next' _ ih =>
    have kept := (Host.reenter_undisturbed s q linked).scripts
    obtain ⟨same, after⟩ := Host.reenter_alike hL s q alike linked
    rcases answered : Host.reenter s q w with ⟨e | r, v⟩ <;>
      rcases answered' : Host.reenter s q u with ⟨e' | r', v'⟩ <;>
      rw [answered, answered'] at same after <;> cases same
    · simp only [Interaction.drive, answered, answered']
      exact .gaveUp e after
    · rw [answered] at kept
      simp only [Interaction.drive, answered, answered']
      exact ih r after (by rw [kept, linked]) (by rw [kept, here])
  | @skip q next t' r allowed refused _ ih =>
    rw [← here] at refused
    simp only [Interaction.drive, Host.reenter_of_refusal s linked refused]
    exact ih { alike with log := silent q _ _ allowed alike.log } linked here

end HostAction

namespace Host

/-- During a run, two hosts serve a request alike if what they do is alike. -/
theorem perform_alike {α : Type} {omits : Reentry → Prop} {t : HostAction η α}
    {t' : HostAction θ α} {w : World η} {u : World θ} (hL : LogRelation L d)
    (silent : ∀ q l l', omits q → L l l' → L (l ++ q.refusalRecords) l') (s : Setup)
    (alike : w.Alike H L d u) (linked : w.scripts.linkage = .linked)
    (mirrors : HostAction.Mirrors omits H w.scripts.state t t') :
    World.EndAlike H L d (perform s t w) (perform s t' u) := by
  have driven := mirrors.drive hL silent s (w := { w with borrowed := true })
    (u := { u with borrowed := true }) { alike with borrowed := rfl }
    (ScriptStatus.isLinked_of_linked linked) rfl
  unfold perform
  generalize Interaction.drive (reenter s) t { w with borrowed := true } = ended at driven
  generalize Interaction.drive (reenter s) t' { u with borrowed := true } = ended' at driven
  cases driven with
  | done result h after =>
    cases result with
    | ok a => exact ⟨rfl, { after with host := h, borrowed := rfl }⟩
    | error p => exact ⟨rfl, { after with host := h, borrowed := rfl }⟩
  | gaveUp h after => exact ⟨rfl, after⟩

/-- One host does what another does, from related states, but leaves out requests of its own that
are refused anyway. -/
structure Mirrors (omits : Reentry → Prop) (H : η → θ → Prop) (h : Host η) (h' : Host θ) :
    Prop where
  command : ∀ text state x y, H x y →
    HostAction.Mirrors omits H state (h.command text state x) (h'.command text state y)
  print : ∀ text state x y, H x y →
    HostAction.Mirrors omits H state (h.print text state x) (h'.print text state y)

/-- Every host does what it does. -/
theorem Mirrors.refl (omits : Reentry → Prop) (h : Host η) : Mirrors omits Eq h h where
  command _ _ _ _ same := same ▸ HostAction.Mirrors.refl _
  print _ _ _ _ same := same ▸ HostAction.Mirrors.refl _

/-- Hosts that do the same are used alike during a run. -/
theorem Mirrors.agree {omits : Reentry → Prop} {h : Host η} {h' : Host θ}
    (mirrors : Mirrors omits H h h') (hL : LogRelation L d)
    (silent : ∀ q l l', omits q → L l l' → L (l ++ q.refusalRecords) l') (s : Setup) :
    (h.channel s).Agree H L d (h'.channel s) where
  command text w u alike linked _ := by
    have same := mirrors.command text w.scripts.state w.host u.host alike.host
    refine perform_alike hL silent s alike linked ?_
    rw [← alike.state]
    exact same
  print text w u alike linked _ := by
    have same := mirrors.print text w.scripts.state w.host u.host alike.host
    refine perform_alike hL silent s alike linked ?_
    rw [← alike.state]
    exact same

end Host

end DecompilerBridge
