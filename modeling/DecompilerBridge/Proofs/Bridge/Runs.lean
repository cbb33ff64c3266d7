import DecompilerBridge.Proofs.Bridge.Rules

/-!
# Runs of the bridge

Equations for what the bridge does around an engine. An operation that calls no native is carried
out as it is; the parts of a longer one are carried out in order (`within_bind`), since what has to
be known of a panic is parked beside the engine. A computation whose only request is the last thing
that it does closes with that request (`Closes`).
-/

set_option autoImplicit false

namespace DecompilerBridge.Bridge

variable {σ V α β : Type} {natives : Natives σ V} {live : Live σ}

/-! ## Operations without a native -/

/-- An operation that calls no native and ends with a value does so within the bridge. -/
theorem within_run_of_value {x : Operation σ V α} {a : α} {after : σ}
    (given : x.run live.state = .done (.ok a, after)) :
    (within natives x).run live = .done (.ok a, ⟨after, live.parked⟩) := by
  show carry natives (x.run live.state) live.parked = _
  rw [given]
  rfl

/-- So does one that throws. -/
theorem within_run_of_thrown {x : Operation σ V α} {v : V} {after : σ}
    (thrown : x.run live.state = .done (.error (.thrown v), after)) :
    (within natives x).run live = .done (.error (.thrown v), ⟨after, live.parked⟩) := by
  show carry natives (x.run live.state) live.parked = _
  rw [thrown]
  rfl

/-- An attempt at a value. -/
theorem attempt_run_of_value {x : Bridge σ V α} {a : α} {after : Live σ}
    (given : x.run live = .done (.ok a, after)) :
    (attempt x).run live = .done (.ok (.value a), after) := by
  show Interaction.bind (x.run live) _ = _
  rw [given]
  rfl

/-- A check of a value. -/
theorem check_run_of_value {x : Bridge σ V α} {a : α} {after : Live σ}
    (given : x.run live = .done (.ok a, after)) : (check x).run live = .done (.ok a, after) :=
  run_bind_of_done (attempt_run_of_value given)

/-! ## Parts of an operation -/

/-- What an operation has come to is carried out first, and then what follows, if that passes on
what is neither a value nor an exception. -/
theorem carry_bind
    {f : Except (EngineStop V) α × σ →
      Interaction (engineSignature σ V) (Except (EngineStop V) β × σ)}
    {g : Except (Stop V) α × Live σ → Interaction hostSignature (Except (Stop V) β × Live σ)}
    (value : ∀ a state parked,
      carry natives (f (.ok a, state)) parked = g (.ok a, ⟨state, parked⟩))
    (thrown : ∀ v state parked, carry natives (f (.error (.thrown v), state)) parked =
      g (.error (.thrown v), ⟨state, parked⟩))
    (stopped : ∀ stop state, (∀ v, stop ≠ .thrown v) →
      f (.error stop, state) = .done (.error stop, state))
    (passed : ∀ stop after, (∀ v, stop ≠ .thrown v) →
      g (.error stop, after) = .done (.error stop, after))
    (t : Interaction (engineSignature σ V) (Except (EngineStop V) α × σ)) (parked : Option Panic) :
    carry natives (t.bind f) parked = (carry natives t parked).bind g := by
  induction t generalizing parked with
  | done ended =>
    rcases ended with ⟨(v | _ | _) | a, state⟩
    · exact thrown v state parked
    · rw [Interaction.done_bind, stopped .hung state nofun]
      exact (passed .hung ⟨state, parked⟩ nofun).symm
    · rw [Interaction.done_bind, stopped .crashed state nofun]
      exact (passed .crashed ⟨state, parked⟩ nofun).symm
    · exact value a state parked
  | ask q next ih =>
    cases q with
    | event e =>
      rw [Interaction.ask_bind, carry, carry, Interaction.ask_bind]
      exact congrArg _ (funext fun _ => ih () parked)
    | native n args state =>
      rw [Interaction.ask_bind, carry, carry, Interaction.bind_assoc]
      refine congrArg _ (funext fun ended => ?_)
      rcases ended with ⟨(v | p | _ | _) | v, after⟩
      · exact ih _ _
      · exact ih _ _
      · exact (passed .hung after nofun).symm
      · exact (passed .crashed after nofun).symm
      · exact ih _ _

/-- The parts of an operation are carried out in order. -/
theorem within_bind (x : Operation σ V α) (f : α → Operation σ V β) :
    within natives (x >>= f) = within natives x >>= fun a => within natives (f a) := by
  funext live
  refine Eq.trans ?_ (run_bind (within natives x) _ live).symm
  refine carry_bind ?_ ?_ ?_ ?_ (x.run live.state) live.parked
  · exact fun _ _ _ => rfl
  · exact fun _ _ _ => rfl
  · exact fun _ _ _ => rfl
  · exact fun _ _ _ => rfl

/-- An operation that goes on as another is carried out as that one is. -/
theorem within_run_of_run_eq {x y : Operation σ V α} {state : σ}
    (same : x.run live.state = y.run state) :
    (within natives x).run live = (within natives y).run ⟨state, live.parked⟩ :=
  congrArg (carry natives · live.parked) same

/-! ## A last request -/

/-- A computation makes one request, and ends when it is answered with some reply. -/
def Closes (x : Bridge σ V α) (live : Live σ) (q : HostRequest) (r : q.Reply)
    (ended : Except (Stop V) α × Live σ) : Prop :=
  ∃ next, x.run live = .ask q next ∧ next r = .done ended

namespace Closes

variable {q : HostRequest} {r : q.Reply}

/-- A run that is equal to another one closes as that does. -/
theorem of_run_eq {x y : Bridge σ V α} {later : Live σ} {ended : Except (Stop V) α × Live σ}
    (same : x.run live = y.run later) (closes : Closes y later q r ended) :
    Closes x live q r ended := by
  unfold Closes
  rw [same]
  exact closes

/-- A request closes with its reply. -/
theorem ask (q : HostRequest) (r : q.Reply) :
    Closes (Bridge.ask q : Bridge σ V q.Reply) live q r (.ok r, live) := ⟨_, rfl, rfl⟩

/-- The request is in the second part of a sequence. -/
theorem step {x : Bridge σ V α} {f : α → Bridge σ V β} {a : α} {after : Live σ}
    {ended : Except (Stop V) β × Live σ} (given : x.run live = .done (.ok a, after))
    (closes : Closes (f a) after q r ended) : Closes (x >>= f) live q r ended :=
  closes.of_run_eq (run_bind_of_done given)

/-- The request is in the first part of a sequence, and the second asks for nothing. -/
theorem bind {x : Bridge σ V α} {f : α → Bridge σ V β} {a : α} {after : Live σ}
    {ended : Except (Stop V) β × Live σ} (closes : Closes x live q r (.ok a, after))
    (rest : (f a).run after = .done ended) : Closes (x >>= f) live q r ended := by
  obtain ⟨next, asks, given⟩ := closes
  have split := run_bind x f live
  rw [asks] at split
  refine ⟨_, split, ?_⟩
  rw [given]
  exact rest

/-- An operation closes with the request of the native that it calls last. -/
theorem within {x : Operation σ V α} {n : Native} {args : List V} {state last : σ} {v : V}
    {parked : Option Panic} {a : α}
    {next : (engineSignature σ V).Reply (.native n args state) →
      Interaction (engineSignature σ V) (Except (EngineStop V) α × σ)}
    (calls : x.run live.state = .ask (.native n args state) next)
    (closes : Closes (natives n args) ⟨state, live.parked⟩ q r (.ok v, ⟨last, parked⟩))
    {after : σ} (ends : next (NativeEnd.value v, last) = .done (.ok a, after)) :
    Closes (Bridge.within natives x) live q r (.ok a, ⟨after, parked⟩) := by
  obtain ⟨later, asks, given⟩ := closes
  have carried : (Bridge.within natives x).run live =
      carry natives (.ask (.native n args state) next) live.parked :=
    congrArg (carry natives · _) calls
  rw [carry, asks] at carried
  refine ⟨_, carried, ?_⟩
  rw [given, Interaction.done_bind]
  dsimp only
  rw [ends]
  rfl

end Closes

end DecompilerBridge.Bridge
