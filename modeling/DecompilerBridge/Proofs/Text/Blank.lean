import Mathlib.Data.List.DropRight
import DecompilerBridge.Text.Blank

/-!
# Trimmed texts and their leads

White space at the end of a text does not change the text without its white space
(`trim_append_blank`), and a text that starts with something else than white space loses white space
at its end alone (`trim_append_solid`). A text that has been trimmed ends with something else
(`endsSolid_trim`), and a text with such a start and such an end is kept as it is (`trim_of_solid`).
White space that was trimmed at the end before does not matter (`trim_ofList_dropEndWhile`).

Stripping a lead undoes putting it in front (`stripLead_eq_some_iff`), and splitting undoes putting
two texts around a character (`splitFirst_append`, `splitLast_append`).
-/

set_option autoImplicit false

namespace DecompilerBridge.Text

/-- Trimming at both ends passes over a character that is dropped at the end anyway. -/
theorem dropEndWhile_dropWhile_append {p : Char → Bool} {c : Char} (hc : p c = true)
    (cs : List Char) :
    dropEndWhile p ((cs ++ [c]).dropWhile p) = dropEndWhile p (cs.dropWhile p) := by
  unfold dropEndWhile
  rw [List.dropWhile_append]
  split
  · next none =>
    have gone : [c].dropWhile p = [] := by simp [hc]
    rw [gone, List.isEmpty_iff.1 none]
  · rw [List.reverse_append, List.reverse_singleton, List.singleton_append,
      List.dropWhile_cons_of_pos hc]

/-- White space at the end of a text is trimmed. -/
theorem trim_append_blank {c : Char} (blank : isBlank c = true) (s : String) :
    trim (s ++ String.singleton c) = trim s := by
  unfold trim
  rw [String.toList_append, String.toList_singleton, dropEndWhile_dropWhile_append blank]

/-- What follows a character that stays, stays or goes by itself. -/
theorem dropEndWhile_append_cons {p : Char → Bool} {c : Char} (hc : p c = false)
    (before after : List Char) :
    dropEndWhile p (before ++ c :: after) = before ++ c :: dropEndWhile p after := by
  unfold dropEndWhile
  rw [List.reverse_append, List.reverse_cons, List.append_assoc, List.dropWhile_append]
  split
  · next none =>
    rw [List.isEmpty_iff.1 none]
    simp [hc]
  · simp

/-- What is dropped at the end of a text after a character that could be dropped: all of it, or no
more than without the character. -/
theorem dropEndWhile_cons {p : Char → Bool} {c : Char} (hc : p c = true) (cs : List Char) :
    (dropEndWhile p cs = [] ∧ dropEndWhile p (c :: cs) = []) ∨
      dropEndWhile p (c :: cs) = c :: dropEndWhile p cs := by
  unfold dropEndWhile
  rw [List.reverse_cons, List.dropWhile_append]
  split
  · next none =>
    left
    rw [List.isEmpty_iff.1 none]
    simp [hc]
  · right
    simp

/-- A text that starts and ends with characters that are no white space is kept, whatever follows.
-/
theorem trim_append_solid {c d : Char} (solidFirst : isBlank c = false)
    (solidLast : isBlank d = false) (inner : List Char) (after : String) :
    trim (String.ofList (c :: (inner ++ [d])) ++ after) =
      String.ofList (c :: (inner ++ [d])) ++
        String.ofList (dropEndWhile isBlank after.toList) := by
  unfold trim
  have kept : (c :: (inner ++ [d]) ++ after.toList).dropWhile isBlank =
      (c :: inner) ++ d :: after.toList := by
    simp [solidFirst]
  rw [String.toList_append, String.toList_ofList, kept, dropEndWhile_append_cons solidLast,
    ← String.ofList_append]
  simp

/-- The last character of a text is no white space. -/
def EndsSolid (s : String) : Prop := ∃ cs d, s.toList = cs ++ [d] ∧ isBlank d = false

/-- The end of a text does not depend on what comes before. -/
theorem EndsSolid.append {s : String} (solid : EndsSolid s) (lead : String) :
    EndsSolid (lead ++ s) := by
  obtain ⟨cs, d, chars, last⟩ := solid
  refine ⟨lead.toList ++ cs, d, ?_, last⟩
  rw [String.toList_append, chars, List.append_assoc]

/-- A text with no white space at either end is not changed by trimming. -/
theorem trim_of_solid {s : String} {c : Char} {rest : List Char} (chars : s.toList = c :: rest)
    (solidFirst : isBlank c = false) (solidLast : EndsSolid s) : trim s = s := by
  obtain ⟨cs, d, split, last⟩ := solidLast
  have started : s.toList.dropWhile isBlank = s.toList := by
    rw [chars, List.dropWhile_cons_of_neg (by simp [solidFirst])]
  have ended : dropEndWhile isBlank s.toList = s.toList := by
    rw [split, dropEndWhile_append_cons last]
    rfl
  rw [trim, started, ended, String.ofList_toList]

/-- A text with no white space at its ends is kept as it is. -/
theorem trim_of_ends {text : String} (starts : ∀ c ∈ text.toList.head?, isBlank c = false)
    (ends : ∀ c ∈ text.toList.getLast?, isBlank c = false) : trim text = text := by
  cases chars : text.toList with
  | nil =>
    rw [String.toList_eq_nil_iff.1 chars]
    rfl
  | cons c rest =>
    obtain ⟨d, last⟩ : ∃ d, text.toList.getLast? = some d := by
      rw [chars]
      exact ⟨_, List.getLast?_eq_some_getLast (List.cons_ne_nil c rest)⟩
    obtain ⟨before, split⟩ := List.getLast?_eq_some_iff.1 last
    exact trim_of_solid chars (starts c (by rw [chars]; rfl)) ⟨before, d, split, ends d last⟩

/-- What is left of a text without its white space has none at its end. -/
theorem endsSolid_trim {s : String} {c : Char} (mem : c ∈ s.toList) (solid : isBlank c = false) :
    EndsSolid (trim s) := by
  obtain ⟨before, after, split⟩ := List.append_of_mem mem
  obtain ⟨front, started⟩ : ∃ front, s.toList.dropWhile isBlank = front ++ c :: after := by
    rw [split, List.dropWhile_append]
    split
    · exact ⟨[], by rw [List.dropWhile_cons_of_neg (by simp [solid]), List.nil_append]⟩
    · exact ⟨_, rfl⟩
  have chars : (trim s).toList = front ++ c :: dropEndWhile isBlank after := by
    rw [trim, String.toList_ofList, started, dropEndWhile_append_cons solid]
  -- the last character is the last one after `c` that stays, or `c` itself
  have head := List.head?_dropWhile_not isBlank after.reverse
  rcases kept : after.reverse.dropWhile isBlank with _ | ⟨d, rest⟩
  · refine ⟨front, c, ?_, solid⟩
    rw [chars, dropEndWhile, kept, List.reverse_nil]
  · rw [kept] at head
    refine ⟨front ++ c :: rest.reverse, d, ?_, head⟩
    rw [chars, dropEndWhile, kept, List.reverse_cons, List.append_assoc, List.cons_append]

/-- Stripping a lead undoes putting it in front. -/
theorem stripLead_eq_some_iff {lead s rest : String} :
    stripLead lead s = some rest ↔ s = lead ++ rest := by
  unfold stripLead
  constructor
  · intro stripped
    split at stripped
    · next isLead =>
      obtain ⟨tail, whole⟩ := List.isPrefixOf_iff_prefix.1 isLead
      cases stripped
      rw [← whole, List.drop_left, ← String.toList_inj, String.toList_append,
        String.toList_ofList, whole]
    · cases stripped
  · rintro rfl
    rw [String.toList_append, if_pos (List.isPrefixOf_iff_prefix.2 (List.prefix_append _ _)),
      List.drop_left, String.ofList_toList]

/-- A text starts with another one exactly if it is that one with something behind it. -/
theorem startsWith_iff {s lead : String} :
    startsWith s lead = true ↔ ∃ rest, s = lead ++ rest := by
  constructor
  · intro starts
    refine ⟨String.ofList (s.toList.drop lead.toList.length), stripLead_eq_some_iff.1 ?_⟩
    exact if_pos starts
  · rintro ⟨rest, rfl⟩
    rw [startsWith, String.toList_append]
    exact List.isPrefixOf_iff_prefix.2 (List.prefix_append _ _)

/-- A lead cannot be taken off exactly if the text does not start with it. -/
theorem stripLead_eq_none_iff {s lead : String} :
    stripLead lead s = none ↔ startsWith s lead = false := by
  cases starts : startsWith s lead with
  | true =>
    obtain ⟨rest, whole⟩ := startsWith_iff.1 starts
    simp [stripLead_eq_some_iff.2 whole]
  | false =>
    have failed : ¬lead.toList.isPrefixOf s.toList = true := by
      rw [show lead.toList.isPrefixOf s.toList = false from starts]
      simp
    simp only [stripLead, if_neg failed]

/-! ## Trimming twice -/

/-- It does not matter at which end a text is trimmed first. -/
theorem dropWhile_dropEndWhile (p : Char → Bool) (cs : List Char) :
    (dropEndWhile p cs).dropWhile p = dropEndWhile p (cs.dropWhile p) := by
  induction cs with
  | nil => rfl
  | cons c rest ih =>
    cases hc : p c with
    | false =>
      have kept : dropEndWhile p (c :: rest) = c :: dropEndWhile p rest :=
        dropEndWhile_append_cons hc [] rest
      simp [kept, hc]
    | true =>
      rw [List.dropWhile_cons_of_pos hc, ← ih]
      rcases dropEndWhile_cons hc rest with ⟨none, noneThen⟩ | kept
      · rw [none, noneThen]
      · rw [kept, List.dropWhile_cons_of_pos hc]

/-- What is dropped from the end is dropped at once. -/
theorem dropEndWhile_idem (p : Char → Bool) (cs : List Char) :
    dropEndWhile p (dropEndWhile p cs) = dropEndWhile p cs := by
  simp [dropEndWhile, List.dropWhile_idempotent]

/-- White space at the end of a text that is trimmed does not matter. -/
theorem trim_ofList_dropEndWhile (cs : List Char) :
    trim (String.ofList (dropEndWhile isBlank cs)) = trim (String.ofList cs) := by
  simp only [trim, String.toList_ofList, dropWhile_dropEndWhile, dropEndWhile_idem]

/-- Trimming takes off both ends, in either order. -/
theorem trimStart_ofList_dropEndWhile (cs : List Char) :
    trimStart (String.ofList (dropEndWhile isBlank cs)) = trim (String.ofList cs) := by
  simp only [trimStart, trim, String.toList_ofList, dropWhile_dropEndWhile]

/-! ## Splitting -/

/-- Without the character there is no second part. -/
theorem cutFirst_of_not_mem {c : Char} {cs : List Char} (absent : c ∉ cs) :
    cutFirst c cs = (cs, none) := by
  induction cs with
  | nil => rfl
  | cons x rest ih =>
    obtain ⟨other, later⟩ := not_or.1 (mt List.mem_cons.2 absent)
    rw [cutFirst, if_neg (Ne.symm other), ih later]

/-- The first part goes up to the character. -/
theorem cutFirst_append {c : Char} {before : List Char} (absent : c ∉ before) (after : List Char) :
    cutFirst c (before ++ c :: after) = (before, some after) := by
  induction before with
  | nil => simp [cutFirst]
  | cons x rest ih =>
    obtain ⟨other, later⟩ := not_or.1 (mt List.mem_cons.2 absent)
    rw [List.cons_append, cutFirst, if_neg (Ne.symm other), ih later]

/-- Without the character a text is not split. -/
theorem splitFirst_of_not_mem {c : Char} {s : String} (absent : c ∉ s.toList) :
    splitFirst c s = none := by
  rw [splitFirst, cutFirst_of_not_mem absent]

/-- A text is split at the first of the characters that it is split at. -/
theorem splitFirst_append {c : Char} {before : String} (absent : c ∉ before.toList)
    (after : String) :
    splitFirst c (before ++ String.singleton c ++ after) = some (before, after) := by
  have chars : (before ++ String.singleton c ++ after).toList =
      before.toList ++ c :: after.toList := by
    simp
  rw [splitFirst, chars, cutFirst_append absent]
  simp

/-- Nor is it split at the last one. -/
theorem splitLast_of_not_mem {c : Char} {s : String} (absent : c ∉ s.toList) :
    splitLast c s = none := by
  rw [splitLast, cutFirst_of_not_mem (by simpa using absent)]

/-- A text is split at the last of the characters that it is split at. -/
theorem splitLast_append {c : Char} {after : String} (absent : c ∉ after.toList)
    (before : String) :
    splitLast c (before ++ String.singleton c ++ after) = some (before, after) := by
  have chars : (before ++ String.singleton c ++ after).toList.reverse =
      after.toList.reverse ++ c :: before.toList.reverse := by
    simp
  rw [splitLast, chars, cutFirst_append (by simpa using absent)]
  simp

end DecompilerBridge.Text
