import DecompilerBridge.Proofs.Bridge.Rules

/-!
# What scripts can ask for

A script reaches its surroundings through the natives alone: it runs host commands, prints lines,
causes diagnostics and leaves records, and its engine tells of exceptions. It never moves the run to
another state, and it never counts an engine or hands it anything to read; that is left to the code
around it.

Each part of the bridge keeps this (`asks_rules`), so all the natives do (`natives_ask`), whatever
the engine is.
-/

set_option autoImplicit false

namespace DecompilerBridge

variable {σ V α β : Type}

/-- The requests that leave the progress of a run alone. What they print is a line. -/
def HostRequest.IsService : HostRequest → Prop
  | .enter _ => False
  | .countEngine => False
  | .readings => False
  | .print text => ∃ line, text = line ++ "\n"
  | _ => True

namespace Bridge

/-- Every request of a computation satisfies `Q`, whatever engine it runs around. -/
def Asks (Q : HostRequest → Prop) (x : Bridge σ V α) : Prop := ∀ live, (x.run live).Asks Q

variable {Q : HostRequest → Prop}

namespace Asks

/-- A sequence asks what its parts ask. -/
theorem bind {x : Bridge σ V α} {f : α → Bridge σ V β} (hx : Asks Q x) (hf : ∀ a, Asks Q (f a)) :
    Asks Q (x >>= f) := by
  intro live
  rw [run_bind]
  refine (hx live).bind ?_
  rintro ⟨stop | a, after⟩
  · trivial
  · exact hf a after

/-- A request asks for itself. -/
theorem ask {q : HostRequest} (hq : Q q) : Asks Q (Bridge.ask q : Bridge σ V q.Reply) :=
  fun _ => ⟨hq, fun _ => trivial⟩

/-- An attempt asks what it attempts asks. -/
theorem attempt {x : Bridge σ V α} (hx : Asks Q x) : Asks Q (Bridge.attempt x) := by
  intro live
  refine (hx live).bind ?_
  rintro ⟨(v | p | _ | _) | a, after⟩
  · dsimp only
    cases after.parked <;> trivial
  · trivial
  · trivial
  · trivial
  · trivial

/-- A check asks for what it checks. -/
theorem check {x : Bridge σ V α} (hx : Asks Q x) : Asks Q (Bridge.check x) := by
  refine hx.attempt.bind fun ending => ?_
  cases ending <;> exact fun _ => trivial

/-- An operation asks what the natives ask that it calls, and tells of exceptions. -/
theorem within (events : ∀ e, Q (.event e)) {natives : Natives σ V}
    (serves : ∀ n args, Asks Q (natives n args)) (x : Operation σ V α) :
    Asks Q (Bridge.within natives x) := by
  have carried : ∀ (t : Interaction (engineSignature σ V) (Except (EngineStop V) α × σ)) parked,
      (carry natives t parked).Asks Q := by
    intro t
    induction t with
    | done ended =>
      intro parked
      rcases ended with ⟨stop | a, now⟩ <;> exact trivial
    | ask q next ih =>
      intro parked
      cases q with
      | native n args now =>
        rw [carry]
        refine (serves n args ⟨now, parked⟩).bind ?_
        rintro ⟨(v | p | _ | _) | v, after⟩
        · exact ih _ _
        · exact ih _ _
        · trivial
        · trivial
        · exact ih _ _
      | event e => exact ⟨events e, fun _ => ih _ _⟩
  exact fun live => carried _ _

end Asks

variable (services : ∀ q : HostRequest, q.IsService → Q q)
include services

/-- A diagnostic asks for itself, or for nothing else if it unwinds the run. -/
theorem diagnose_asks (line : String) : Asks Q (diagnose line : Bridge σ V Unit) := by
  refine (Asks.ask (services (.diagnose line) trivial)).bind fun r => ?_
  cases r <;> exact fun _ => trivial

/-- A property of requests that services have is one that the parts of the bridge keep. -/
theorem asks_rules (E : ScriptEngine) :
    Rules E (Serves fun _ x => Asks Q x) fun _ x => Asks Q x where
  pure _ := fun _ => trivial
  thrown _ := fun _ => trivial
  bind := .bind
  look hf := fun live => hf live.state live
  log r := (Asks.ask (services (.log r) trivial)).bind fun _ _ => trivial
  diagnose := diagnose_asks services
  command text safe panics := (Asks.ask (services (.command text) trivial)).bind fun r => by
    cases r with
    | panicked p => exact fun live => by rw [panics]; trivial
    | _ => exact safe _ nofun
  print line safe panics := (Asks.ask (services (.print _) ⟨line, rfl⟩)).bind fun r => by
    cases r with
    | panicked p => exact fun live => by rw [panics]; trivial
    | _ => exact safe _ nofun
  within _ serves := .within (fun e => services (.event e) trivial) serves _
  check := .check

/-- The natives of a run ask for services only. -/
theorem natives_ask (m : Machine) : Serves (fun _ x => Asks Q x) m.natives :=
  (asks_rules services m.engine).natives (fun _ => trivial) fun _ serves =>
    (asks_rules services m.engine).nativeRequire serves .attempt

end Bridge

end DecompilerBridge
