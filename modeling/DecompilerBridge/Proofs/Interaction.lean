import DecompilerBridge.Interaction

/-!
# Facts about every run of a program

A program is a tree of requests, and whoever drives it walks along one branch. The statements here
hold for every program, so that the modules about runs of the scripts never look at the code that
builds the tree.

* `Asks` and `Ends` speak about all branches: which requests a program can make, and how it can end.
* `Reaches` speaks about the one branch that a handler takes. An invariant of the handler holds at
  every point of it (`Reaches.invariant`), and `drive_eq_ok_iff` and `drive_eq_error_iff` say that
  the end of a drive is the end of that branch.
* `drive_related` compares two drives of the same program: handlers that answer alike, and keep a
  relation between their states, give the same result and related states.
* `Trace` gives the requests of a whole branch together with its end, for what depends on the order
  of the requests.
-/

set_option autoImplicit false

namespace DecompilerBridge.Interaction

variable {S : Signature} {α β : Type}

instance : LawfulMonad (Interaction S) :=
  LawfulMonad.mk' _ (fun t => bind_done t) (fun _ _ => rfl) (fun t f g => bind_assoc t f g)

/-! ## All branches -/

/-- Every request that a program can make satisfies `P`. -/
def Asks (P : S.Request → Prop) : Interaction S α → Prop
  | done _ => True
  | ask q next => P q ∧ ∀ r, (next r).Asks P

/-- Every result that a program can end with satisfies `Q`. -/
def Ends (Q : α → Prop) : Interaction S α → Prop
  | done a => Q a
  | ask _ next => ∀ r, (next r).Ends Q

/-- A sequence asks what its parts ask. -/
theorem Asks.bind {P : S.Request → Prop} {t : Interaction S α} {f : α → Interaction S β}
    (ht : t.Asks P) (hf : ∀ a, (f a).Asks P) : (t.bind f).Asks P := by
  induction t with
  | done a => exact hf a
  | ask q next ih => exact ⟨ht.1, fun r => ih r (ht.2 r)⟩

/-- A program that ends in fewer ways ends in no others. -/
theorem Ends.mono {Q R : α → Prop} {t : Interaction S α} (ht : t.Ends Q) (h : ∀ a, Q a → R a) :
    t.Ends R := by
  induction t with
  | done a => exact h a ht
  | ask q next ih => exact fun r => ih r (ht r)

/-- A sequence ends as its second part does, given how the first can end. -/
theorem Ends.bind {Q : α → Prop} {R : β → Prop} {t : Interaction S α} {f : α → Interaction S β}
    (ht : t.Ends Q) (hf : ∀ a, Q a → (f a).Ends R) : (t.bind f).Ends R := by
  induction t with
  | done a => exact hf a ht
  | ask q next ih => exact fun r => ih r (ht r)

/-- Nothing is said about how a program ends. -/
theorem ends_true (t : Interaction S α) : t.Ends fun _ => True := by
  induction t with
  | done a => trivial
  | ask q next ih => exact ih

/-- Every program asks for something or nothing. -/
theorem asks_true (t : Interaction S α) : t.Asks fun _ => True := by
  induction t with
  | done a => trivial
  | ask q next ih => exact ⟨trivial, ih⟩

/-! ## The branch that a handler takes -/

section Driving

variable {σ ε : Type} {answer : (q : S.Request) → σ → Except ε (S.Reply q) × σ}

/-- A handler that drives a program from a state gets to the rest of the program in a later state.
-/
inductive Reaches (answer : (q : S.Request) → σ → Except ε (S.Reply q) × σ) :
    Interaction S α → σ → Interaction S α → σ → Prop where
  | refl (t : Interaction S α) (s : σ) : Reaches answer t s t s
  | step {q : S.Request} {next : S.Reply q → Interaction S α} {s : σ} {r : S.Reply q} {after : σ}
      {t : Interaction S α} {s' : σ} :
      answer q s = (.ok r, after) → Reaches answer (next r) after t s' →
        Reaches answer (ask q next) s t s'

/-- What every answer keeps holds at every point of a drive. -/
theorem Reaches.invariant {I : σ → Prop} {t t' : Interaction S α} {s s' : σ}
    (h : Reaches answer t s t' s')
    (keeps : ∀ q s r after, I s → answer q s = (.ok r, after) → I after) (hs : I s) : I s' := by
  induction h with
  | refl => exact hs
  | step answered _ ih => exact ih (keeps _ _ _ _ hs answered)

/-- A drive can be continued from any point of it. -/
theorem Reaches.trans {t t' t'' : Interaction S α} {s s' s'' : σ} (h : Reaches answer t s t' s')
    (h' : Reaches answer t' s' t'' s'') : Reaches answer t s t'' s'' := by
  induction h with
  | refl => exact h'
  | step answered _ ih => exact .step answered (ih h')

/-- A sequence is driven through its first part as that part is. -/
theorem Reaches.bind {t t' : Interaction S α} {s s' : σ} (h : Reaches answer t s t' s')
    (f : α → Interaction S β) : Reaches answer (t.bind f) s (t'.bind f) s' := by
  induction h with
  | refl => exact .refl _ _
  | step answered _ ih => exact .step answered ih

/-- A request of a sequence is one of its first part, or one of the second part after an end of the
first. -/
theorem Reaches.of_bind {t : Interaction S α} {f : α → Interaction S β} {s s' : σ} {q : S.Request}
    {next : S.Reply q → Interaction S β} (h : Reaches answer (t.bind f) s (ask q next) s') :
    (∃ first, Reaches answer t s (ask q first) s' ∧ next = fun r => (first r).bind f) ∨
      ∃ a between, Reaches answer t s (done a) between ∧
        Reaches answer (f a) between (ask q next) s' := by
  induction t generalizing s with
  | done a => exact .inr ⟨a, s, .refl _ _, h⟩
  | ask q' first ih =>
    rw [ask_bind] at h
    cases h with
    | refl => exact .inl ⟨first, .refl _ _, rfl⟩
    | step answered rest =>
      rcases ih _ rest with ⟨inner, reached, rfl⟩ | ⟨a, between, ended, reached⟩
      · exact .inl ⟨inner, .step answered reached, rfl⟩
      · exact .inr ⟨a, between, .step answered ended, reached⟩

/-- The rest of a program asks only what the program can ask. -/
theorem Reaches.asks {P : S.Request → Prop} {t t' : Interaction S α} {s s' : σ}
    (h : Reaches answer t s t' s') (ht : t.Asks P) : t'.Asks P := by
  induction h with
  | refl => exact ht
  | step _ _ ih => exact ih (ht.2 _)

/-- The requests that a drive meets, each with the state in which it is met. -/
def trail (answer : (q : S.Request) → σ → Except ε (S.Reply q) × σ) :
    Interaction S α → σ → List (S.Request × σ)
  | done _, _ => []
  | ask q next, s =>
    (q, s) :: match answer q s with
      | (.ok r, after) => trail answer (next r) after
      | (.error _, _) => []

/-- A drive meets exactly the requests that it gets to. -/
theorem mem_trail_iff {t : Interaction S α} {s s' : σ} {q : S.Request} :
    (q, s') ∈ trail answer t s ↔ ∃ next, Reaches answer t s (ask q next) s' := by
  constructor
  · intro mem
    induction t generalizing s with
    | done a => cases mem
    | ask q' next ih =>
      rw [trail] at mem
      rcases List.mem_cons.1 mem with same | later
      · cases same
        exact ⟨next, .refl _ _⟩
      · rcases answered : answer q' s with ⟨_ | r, after⟩ <;> rw [answered] at later
        · cases later
        · obtain ⟨rest, reached⟩ := ih r later
          exact ⟨rest, .step answered reached⟩
  · rintro ⟨next, reached⟩
    generalize target : ask q next = t' at reached
    induction reached with
    | refl => simp [← target, trail]
    | step answered _ ih => simp [trail, answered, ih target]

/-- A drive meets only what the program can ask. -/
theorem Asks.trail {P : S.Request → Prop} {t : Interaction S α} {s : σ} (ht : t.Asks P) :
    ∀ asked ∈ t.trail answer s, P asked.1 := by
  rintro ⟨q, before⟩ met
  obtain ⟨next, reached⟩ := mem_trail_iff.1 met
  exact (reached.asks ht).1

/-- What a program that is got to meets is met last. -/
theorem Reaches.trail {t t' : Interaction S α} {s s' : σ} (h : Reaches answer t s t' s') :
    ∃ first, trail answer t s = first ++ trail answer t' s' := by
  induction h with
  | refl => exact ⟨[], rfl⟩
  | @step q next s r after t s' answered _ ih =>
    obtain ⟨first, split⟩ := ih
    refine ⟨(q, s) :: first, ?_⟩
    simp only [Interaction.trail, answered, split, List.cons_append]

/-- A sequence meets the requests of its first part, and then those of its second. -/
theorem trail_bind {t : Interaction S α} {f : α → Interaction S β} {s s' : σ} {a : α}
    (driven : t.drive answer s = (.ok a, s')) :
    trail answer (t.bind f) s = trail answer t s ++ trail answer (f a) s' := by
  induction t generalizing s with
  | done b =>
    simp only [drive_done, Prod.mk.injEq, Except.ok.injEq] at driven
    obtain ⟨rfl, rfl⟩ := driven
    rfl
  | ask q next ih =>
    rcases answered : answer q s with ⟨_ | r, after⟩ <;> simp only [drive, answered] at driven
    · cases driven
    · rw [ask_bind]
      simp only [trail, answered, List.cons_append, List.cons.injEq, true_and]
      exact ih r driven

/-- What ends at once after a program adds no request. -/
theorem trail_bind_of_done (t : Interaction S α) {f : α → Interaction S β}
    (ends : ∀ a, ∃ b, f a = done b) (s : σ) : trail answer (t.bind f) s = trail answer t s := by
  induction t generalizing s with
  | done a =>
    obtain ⟨b, same⟩ := ends a
    rw [done_bind, same]
    rfl
  | ask q k ih =>
    simp only [ask_bind, trail]
    rcases answer q s with ⟨e | r, after⟩
    · rfl
    · exact congrArg _ (ih r after)

/-- A sequence whose first part is given up meets the requests of that part. -/
theorem trail_bind_of_error {t : Interaction S α} {s s' : σ} {e : ε}
    (driven : t.drive answer s = (.error e, s')) (f : α → Interaction S β) :
    trail answer (t.bind f) s = trail answer t s := by
  induction t generalizing s with
  | done b => simp at driven
  | ask q next ih =>
    rw [ask_bind]
    rcases answered : answer q s with ⟨_ | r, after⟩ <;> simp only [drive, answered] at driven
    · simp only [trail, answered]
    · simp only [trail, answered, List.cons.injEq, true_and]
      exact ih r driven

/-- The rest of a program can end only as the program can. -/
theorem Reaches.ends {Q : α → Prop} {t t' : Interaction S α} {s s' : σ}
    (h : Reaches answer t s t' s') (ht : t.Ends Q) : t'.Ends Q := by
  induction h with
  | refl => exact ht
  | step _ _ ih => exact ih (ht _)

/-- A drive gives a result exactly if it gets to the end of the program. -/
theorem drive_eq_ok_iff {t : Interaction S α} {s s' : σ} {a : α} :
    t.drive answer s = (.ok a, s') ↔ Reaches answer t s (done a) s' := by
  constructor
  · intro h
    induction t generalizing s with
    | done b =>
      simp only [drive_done, Prod.mk.injEq, Except.ok.injEq] at h
      obtain ⟨rfl, rfl⟩ := h
      exact .refl _ _
    | ask q next ih =>
      rcases answered : answer q s with ⟨_ | r, after⟩ <;> simp only [drive, answered] at h
      · cases h
      · exact .step answered (ih r h)
  · intro h
    generalize hend : done a = target at h
    induction h with
    | refl => rw [← hend, drive_done]
    | step answered _ ih => simp only [drive, answered, ih hend]

/-- A drive is given up exactly if it gets to a request at which the handler gives up. -/
theorem drive_eq_error_iff {t : Interaction S α} {s s' : σ} {e : ε} :
    t.drive answer s = (.error e, s') ↔
      ∃ q next before, Reaches answer t s (ask q next) before ∧
        answer q before = (.error e, s') := by
  constructor
  · intro h
    induction t generalizing s with
    | done b => simp at h
    | ask q next ih =>
      rcases answered : answer q s with ⟨e' | r, after⟩ <;> simp only [drive, answered] at h
      · refine ⟨q, next, s, .refl _ _, ?_⟩
        simpa [answered] using h
      · obtain ⟨q', next', before, reached, gaveUp⟩ := ih r h
        exact ⟨q', next', before, .step answered reached, gaveUp⟩
  · rintro ⟨q, next, before, reached, gaveUp⟩
    generalize hend : ask q next = target at reached
    induction reached with
    | refl => simp only [← hend, drive, gaveUp]
    | step answered _ ih => simp only [drive, answered, ih gaveUp hend]

/-- What every answer keeps, the last one included, holds after a drive, whatever its end. -/
theorem drive_invariant {I : σ → Prop} (keeps : ∀ q s, I s → I (answer q s).2)
    (t : Interaction S α) {s : σ} (hs : I s) : I (t.drive answer s).2 := by
  have kept : ∀ q s r after, I s → answer q s = (.ok r, after) → I after := by
    intro q s r after hi answered
    simpa [answered] using keeps q s hi
  rcases driven : t.drive answer s with ⟨e | a, after⟩
  · obtain ⟨q, next, before, reached, gaveUp⟩ := drive_eq_error_iff.1 driven
    simpa [gaveUp] using keeps q before (reached.invariant kept hs)
  · exact (drive_eq_ok_iff.1 driven).invariant kept hs

/-- A result of a drive is one of those that the program can end with. -/
theorem Ends.of_drive {Q : α → Prop} {t : Interaction S α} {s s' : σ} {a : α} (ht : t.Ends Q)
    (driven : t.drive answer s = (.ok a, s')) : Q a :=
  (drive_eq_ok_iff.1 driven).ends ht

end Driving

/-- Two handlers that answer the requests of a program alike, and keep a relation between their
states, drive it to the same result and to related states. -/
theorem drive_related {σ τ ε : Type} {answer : (q : S.Request) → σ → Except ε (S.Reply q) × σ}
    {other : (q : S.Request) → τ → Except ε (S.Reply q) × τ} {P : S.Request → Prop}
    {R : σ → τ → Prop}
    (alike : ∀ q s u, P q → R s u → (answer q s).1 = (other q u).1 ∧ R (answer q s).2 (other q u).2)
    {t : Interaction S α} (ht : t.Asks P) {s : σ} {u : τ} (hs : R s u) :
    (t.drive answer s).1 = (t.drive other u).1 ∧ R (t.drive answer s).2 (t.drive other u).2 := by
  induction t generalizing s u with
  | done a => exact ⟨rfl, hs⟩
  | ask q next ih =>
    obtain ⟨same, related⟩ := alike q s u ht.1 hs
    rcases answered : answer q s with ⟨e | r, after⟩ <;>
      rcases answered' : other q u with ⟨e' | r', after'⟩ <;>
      simp only [answered, answered', reduceCtorEq, Except.error.injEq, Except.ok.injEq]
        at same related
    · subst same
      simp only [drive, answered, answered', true_and]
      exact related
    · subst same
      simp only [drive, answered, answered']
      exact ih r (ht.2 r) related

/-- Two handlers that answer alike, and keep a relation between their states, get to the same points
of a program. -/
theorem Reaches.related {σ τ ε : Type} {answer : (q : S.Request) → σ → Except ε (S.Reply q) × σ}
    {other : (q : S.Request) → τ → Except ε (S.Reply q) × τ} {R : σ → τ → Prop}
    (alike : ∀ q s u, R s u → (answer q s).1 = (other q u).1 ∧ R (answer q s).2 (other q u).2)
    {t t' : Interaction S α} {s s' : σ} (h : Reaches answer t s t' s') {u : τ} (hs : R s u) :
    ∃ u', Reaches other t u t' u' ∧ R s' u' := by
  induction h generalizing u with
  | refl => exact ⟨u, .refl _ _, hs⟩
  | @step q next s r after t s' answered _ ih =>
    obtain ⟨same, related⟩ := alike q s u hs
    rw [answered] at same related
    rcases answered' : other q u with ⟨e' | r', after'⟩ <;> rw [answered'] at same related <;>
      cases same
    obtain ⟨u', reached, there⟩ := ih related
    exact ⟨u', .step answered' reached, there⟩

/-- Two handlers that answer alike, and keep a relation between their states, meet the same requests
of a program, in states that look alike. -/
theorem trail_related {σ τ ε γ : Type} {answer : (q : S.Request) → σ → Except ε (S.Reply q) × σ}
    {other : (q : S.Request) → τ → Except ε (S.Reply q) × τ} {R : σ → τ → Prop}
    (alike : ∀ q s u, R s u → (answer q s).1 = (other q u).1 ∧ R (answer q s).2 (other q u).2)
    {view : σ → γ} {view' : τ → γ} (seen : ∀ s u, R s u → view s = view' u)
    (t : Interaction S α) {s : σ} {u : τ} (hs : R s u) :
    (trail answer t s).map (Prod.map id view) = (trail other t u).map (Prod.map id view') := by
  induction t generalizing s u with
  | done a => rfl
  | ask q next ih =>
    obtain ⟨same, related⟩ := alike q s u hs
    simp only [trail, List.map_cons, Prod.map_apply, id_eq, seen s u hs, List.cons.injEq, true_and]
    rcases answered : answer q s with ⟨e | r, after⟩ <;>
      rcases answered' : other q u with ⟨e' | r', after'⟩ <;>
      rw [answered, answered'] at same related <;> cases same
    · rfl
    · exact ih r related

/-! ## Branches as lists of requests -/

/-- Along one of its branches, a program makes a list of requests and ends with a result. -/
inductive Trace : Interaction S α → List S.Request → α → Prop where
  | done (a : α) : Trace (done a) [] a
  | ask {q : S.Request} {next : S.Reply q → Interaction S α} {qs : List S.Request} {a : α}
      (r : S.Reply q) : Trace (next r) qs a → Trace (ask q next) (q :: qs) a

/-- A branch of a sequence is a branch of its first part and one of its second. -/
theorem Trace.of_bind {t : Interaction S α} {f : α → Interaction S β} {qs : List S.Request} {b : β}
    (h : Trace (t.bind f) qs b) :
    ∃ first second a, qs = first ++ second ∧ Trace t first a ∧ Trace (f a) second b := by
  induction t generalizing qs with
  | done a => exact ⟨[], qs, a, rfl, .done a, h⟩
  | ask q next ih =>
    rw [ask_bind] at h
    cases h with
    | ask r rest =>
      obtain ⟨first, second, a, rfl, before, after⟩ := ih r rest
      exact ⟨q :: first, second, a, rfl, .ask r before, after⟩

/-- A branch makes only requests that the program can make. -/
theorem Trace.asks {P : S.Request → Prop} {t : Interaction S α} {qs : List S.Request} {a : α}
    (h : Trace t qs a) (ht : t.Asks P) : ∀ q ∈ qs, P q := by
  induction h with
  | done _ => exact nofun
  | ask r _ ih => exact List.forall_mem_cons.2 ⟨ht.1, ih (ht.2 r)⟩

/-- A branch ends only as the program can. -/
theorem Trace.ends {Q : α → Prop} {t : Interaction S α} {qs : List S.Request} {a : α}
    (h : Trace t qs a) (ht : t.Ends Q) : Q a := by
  induction h with
  | done _ => exact ht
  | ask r _ ih => exact ih (ht r)

/-- A program that has been driven to its end has taken the branch of the requests that were met. -/
theorem Trace.of_drive {σ ε : Type} {answer : (q : S.Request) → σ → Except ε (S.Reply q) × σ}
    {t : Interaction S α} {s s' : σ} {a : α} (driven : t.drive answer s = (.ok a, s')) :
    Trace t ((trail answer t s).map Prod.fst) a := by
  induction t generalizing s with
  | done b =>
    simp only [drive_done, Prod.mk.injEq, Except.ok.injEq] at driven
    rw [← driven.1]
    exact .done b
  | ask q next ih =>
    rcases answered : answer q s with ⟨_ | r, after⟩ <;> simp only [drive, answered] at driven
    · cases driven
    · simp only [trail, answered, List.map_cons]
      exact .ask r (ih r driven)

end DecompilerBridge.Interaction
