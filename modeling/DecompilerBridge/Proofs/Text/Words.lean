import DecompilerBridge.Text.Blank
import Mathlib.Data.List.Induction

/-!
# Words

The words of a text are its maximal runs of non-blank characters. `MaximalRuns` says so without an
algorithm: a text is a gap of blanks, or a gap, a word, and a rest that is empty or starts with a
blank. Scanning finds exactly these words (`maximalRuns_iff`), and it finds the same ones if the
text loses blanks at its ends (`wordLists_dropEndWhile`).
-/

set_option autoImplicit false

namespace DecompilerBridge.Text

/-- The maximal runs of non-blank characters of a text, in order. -/
inductive MaximalRuns : List Char → List (List Char) → Prop where
  | none {gap : List Char} : (∀ c ∈ gap, isBlank c = true) → MaximalRuns gap []
  | word {gap w rest : List Char} {ws : List (List Char)} : (∀ c ∈ gap, isBlank c = true) →
      w ≠ [] → (∀ c ∈ w, isBlank c = false) → (∀ c ∈ rest.head?, isBlank c = true) →
      MaximalRuns rest ws → MaximalRuns (gap ++ w ++ rest) (w :: ws)

/-- A blank in front changes nothing about the words. -/
theorem MaximalRuns.cons_blank {c : Char} {cs : List Char} {ws : List (List Char)}
    (runs : MaximalRuns cs ws) (blank : isBlank c = true) : MaximalRuns (c :: cs) ws := by
  cases runs with
  | none gap => exact .none (List.forall_mem_cons.2 ⟨blank, gap⟩)
  | word gap nonempty solid next rest =>
    rw [← List.cons_append, ← List.cons_append]
    exact .word (List.forall_mem_cons.2 ⟨blank, gap⟩) nonempty solid next rest

/-- A first word, unless it is empty, and the words of the rest. -/
theorem MaximalRuns.consWord {w rest : List Char} {ws : List (List Char)}
    (solid : ∀ c ∈ w, isBlank c = false) (next : ∀ c ∈ rest.head?, isBlank c = true)
    (runs : MaximalRuns rest ws) : MaximalRuns (w ++ rest) (consWord w ws) := by
  unfold Text.consWord
  split
  · next empty =>
    rw [List.isEmpty_iff.1 empty]
    exact runs
  · next nonempty =>
    exact .word (List.forall_mem_nil _) (by simpa using nonempty) solid next runs

/-- A word is not empty and has no blank. -/
theorem MaximalRuns.solid {cs : List Char} {ws : List (List Char)} (runs : MaximalRuns cs ws) :
    ∀ w ∈ ws, w ≠ [] ∧ ∀ c ∈ w, isBlank c = false := by
  induction runs with
  | none => exact List.forall_mem_nil _
  | word _ nonempty solid _ _ ih => exact List.forall_mem_cons.2 ⟨⟨nonempty, solid⟩, ih⟩

/-! ## Scanning -/

/-- White space in front of words is no word. -/
@[simp] theorem wordLists_cons_blank {c : Char} (blank : isBlank c = true) (cs : List Char) :
    wordLists (c :: cs) = wordLists cs := by
  simp [wordLists, runs, blank, consWord]

/-- The words after a gap. -/
theorem wordLists_gap {gap : List Char} (blank : ∀ c ∈ gap, isBlank c = true) (cs : List Char) :
    wordLists (gap ++ cs) = wordLists cs := by
  induction gap with
  | nil => rfl
  | cons c gap ih =>
    obtain ⟨here, later⟩ := List.forall_mem_cons.1 blank
    rw [List.cons_append, wordLists_cons_blank here, ih later]

/-- A text that is empty or starts with a blank starts with no run. -/
theorem runs_of_blank_head {cs : List Char} (blank : ∀ c ∈ cs.head?, isBlank c = true) :
    runs cs = ([], wordLists cs) := by
  cases cs with
  | nil => rfl
  | cons c cs =>
    have here : isBlank c = true := blank c rfl
    rw [wordLists_cons_blank here, runs, if_pos here]
    rfl

/-- The run of a text that starts with non-blank characters goes on after them. -/
theorem runs_solid_append {w : List Char} (solid : ∀ c ∈ w, isBlank c = false) (cs : List Char) :
    runs (w ++ cs) = (w ++ (runs cs).1, (runs cs).2) := by
  induction w with
  | nil => rfl
  | cons c w ih =>
    obtain ⟨here, later⟩ := List.forall_mem_cons.1 solid
    rw [List.cons_append, runs, if_neg (by simp [here]), ih later]
    rfl

/-- What a scan has found: the text starts with the first run, which ends at a blank or with the
text, and the other words are those of the rest. -/
theorem runs_spec (cs : List Char) :
    ∃ rest, cs = (runs cs).1 ++ rest ∧ (∀ c ∈ (runs cs).1, isBlank c = false) ∧
      (∀ c ∈ rest.head?, isBlank c = true) ∧ MaximalRuns rest (runs cs).2 := by
  induction cs with
  | nil => exact ⟨[], rfl, nofun, nofun, .none nofun⟩
  | cons c cs ih =>
    obtain ⟨rest, same, solid, next, later⟩ := ih
    by_cases blank : isBlank c = true
    · have words := MaximalRuns.consWord solid next later
      rw [← same] at words
      refine ⟨c :: cs, ?_⟩
      simp only [runs, if_pos blank]
      exact ⟨rfl, nofun, by simpa using blank, words.cons_blank blank⟩
    · rw [Bool.not_eq_true] at blank
      refine ⟨rest, ?_⟩
      simp only [runs, blank]
      exact ⟨congrArg (c :: ·) same, List.forall_mem_cons.2 ⟨blank, solid⟩, next, later⟩

/-- Scanning finds the maximal runs, and there are no others. -/
theorem maximalRuns_iff {cs : List Char} {ws : List (List Char)} :
    MaximalRuns cs ws ↔ ws = wordLists cs := by
  constructor
  · intro runs
    induction runs with
    | none blank =>
      have gone := wordLists_gap blank []
      rw [List.append_nil] at gone
      rw [gone]
      rfl
    | @word gap w rest ws blank nonempty solid next _ ih =>
      rw [List.append_assoc, wordLists_gap blank, wordLists, runs_solid_append solid,
        runs_of_blank_head next, List.append_nil, ← ih, consWord, if_neg (by simpa using nonempty)]
  · rintro rfl
    obtain ⟨rest, same, solid, next, later⟩ := runs_spec cs
    have words := MaximalRuns.consWord solid next later
    rwa [← same] at words

/-! ## Blanks at the end -/

/-- Blanks at the end of a text are no part of its words. -/
theorem wordLists_append_blank {c : Char} (blank : isBlank c = true) (cs : List Char) :
    wordLists (cs ++ [c]) = wordLists cs := by
  have same : runs (cs ++ [c]) = runs cs := by
    induction cs with
    | nil => simp [runs, blank, consWord]
    | cons d cs ih => rw [List.cons_append, runs, runs, ih]
  rw [wordLists, same, wordLists]

/-- A text without the blanks at its end has the same words. -/
theorem wordLists_dropEndWhile (cs : List Char) :
    wordLists (dropEndWhile isBlank cs) = wordLists cs := by
  induction cs using List.reverseRecOn with
  | nil => rfl
  | append_singleton cs c ih =>
    by_cases blank : isBlank c = true
    · rw [wordLists_append_blank blank, ← ih]
      simp [dropEndWhile, blank]
    · simp [dropEndWhile, blank]

end DecompilerBridge.Text
