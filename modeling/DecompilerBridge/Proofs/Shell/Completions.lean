import DecompilerBridge.Proofs.Completion
import DecompilerBridge.Proofs.Preferences.Registration
import DecompilerBridge.Proofs.Shell.Routing

/-!
# Completions in a shell session

The registration of the plugin adds its words to the session. A second one is answered like the
first (`Preferences.register_again_answer`) and finds its words there, so the listings stay the same
(`init_again`).

A typed line `.complete` lists the completions of the text after it. The line is trimmed as a whole
first, so what is listed are the completions of the trimmed text (`execute_complete_line`). White
space at the end of the text has a meaning to the registry: after a space the words of a parent are
looked up. It is lost on the way, and then some registry tells the two listings apart
(`listing_of_trimmed`).
-/

set_option autoImplicit false

namespace DecompilerBridge.Shell

open Text Completions

variable {τ : Type}

/-! ## The words of the plugin -/

/-- A second registration of the plugin leaves the words as they are. -/
theorem init_again (f : Frontend τ) (w : World (Session τ)) :
    (f.init (f.init w).2).2.host.completions = (f.init w).2.host.completions := by
  obtain ⟨store, words⟩ := f.init_host w
  obtain ⟨-, wordsThen⟩ := f.init_host (f.init w).2
  rw [store, Preferences.register_again_answer, words] at wordsThen
  rw [wordsThen, words]
  cases w.host.preferences.register.2 with
  | error e => rfl
  | ok _ => exact foldl_add_of_mem fun e mem => mem_entries_foldl_add.2 (.inr mem)

/-- Registering the plugin again adds no completion. -/
theorem init_repeated (f : Frontend τ) (w : World (Session τ)) (n : Nat) :
    ((fun v => (f.init v).2)^[n + 1] w).host.completions = (f.init w).2.host.completions := by
  induction n generalizing w with
  | zero => rfl
  | succ n ih =>
    rw [Function.iterate_succ_apply, ih]
    exact init_again f w

/-- A registry holds every entry that was added to it once, in the order of the first additions. A
listing of the completions of a text shows the words that continue it, as often as they were added
under another kind, in the order of their bytes. To register the plugin with a session again changes
no listing. -/
theorem listing_shows_added (added : List CompletionEntry) (text : String) :
    FirstAdditions added (ofAdded added).entries ∧
      ListsAdded added text ((ofAdded added).complete text) ∧
      ∀ (f : Frontend τ) (w : World (Session τ)) (n : Nat),
        ((fun v => (f.init v).2)^[n + 1] w).host.completions.complete text =
          (f.init w).2.host.completions.complete text := by
  have first := firstAdditions_ofAdded added
  refine ⟨first, listsAdded_complete first text, fun f w n => ?_⟩
  rw [init_repeated]

/-! ## The listing of a typed line -/

/-- Trimming takes the white space at the end of what is typed. -/
theorem trim_complete_line (text : String) :
    trim (".complete " ++ text) =
      ".complete" ++ String.ofList (dropEndWhile isBlank (' ' :: text.toList)) := by
  have lead : String.ofList ('.' :: (['c', 'o', 'm', 'p', 'l', 'e', 't'] ++ ['e'])) = ".complete" :=
    rfl
  have letters : ".complete " ++ text = ".complete" ++ String.ofList (' ' :: text.toList) := by
    simp [← String.toList_inj]
  have trimmed := trim_append_solid (c := '.') (d := 'e') (by decide) (by decide)
    ['c', 'o', 'm', 'p', 'l', 'e', 't'] (String.ofList (' ' :: text.toList))
  rwa [lead, ← letters, String.toList_ofList] at trimmed

/-- A line that asks for the completions of a text prints those of the text without the white space
at its ends. -/
theorem execute_complete_line (f : Frontend τ) (text : String) (w : World (Session τ)) :
    f.execute (".complete " ++ text) w = (.finished .proceed,
      Frontend.printText (Frontend.completionListing w.host.completions (trim text)) w) := by
  have started : trimStart (String.ofList (dropEndWhile isBlank (' ' :: text.toList))) =
      trim text := by
    have blank : isBlank ' ' = true := by decide
    rw [trimStart_ofList_dropEndWhile, trim, String.toList_ofList,
      List.dropWhile_cons_of_pos blank, trim]
  rw [execute_listing f (trim_complete_line text), started]

/-- A single entry is listed exactly if the text admits it. -/
theorem complete_singleton (e : CompletionEntry) (text : String) :
    (Completions.mk [e]).complete text =
      if (Typed.ofText text).admits e then [(Typed.ofText text).complete e.word] else [] := by
  unfold complete
  cases admitted : (Typed.ofText text).admits e <;> simp [List.filter, admitted]

/-- The registry of the one word that gives a text. -/
def onlyCompletion (text : String) : Completions :=
  ⟨[⟨(Typed.ofText text).parent, (Typed.ofText text).partialWord, .word⟩]⟩

/-- The only completion of a text is the text. -/
theorem complete_onlyCompletion (text : String) : (onlyCompletion text).complete text = [text] := by
  have admitted : (Typed.ofText text).admits
      ⟨(Typed.ofText text).parent, (Typed.ofText text).partialWord, .word⟩ = true := by
    simp [Typed.admits, startsWith]
  rw [onlyCompletion, complete_singleton, if_pos admitted, Typed.complete_partialWord]

/-- White space at the end of a text makes a text longer than without it. -/
theorem length_trim_lt {text : String} {c : Char} (ends : text.toList.getLast? = some c)
    (blank : isBlank c = true) : (trim text).toList.length < text.toList.length := by
  obtain ⟨before, chars⟩ := List.getLast?_eq_some_iff.1 ends
  have whole : text = String.ofList before ++ String.singleton c := by
    simp [← String.toList_inj, chars]
  have shorter : (trim (String.ofList before)).toList.length ≤ before.length := by
    rw [trim, String.toList_ofList, String.toList_ofList, dropEndWhile, List.length_reverse]
    calc ((before.dropWhile isBlank).reverse.dropWhile isBlank).length
        ≤ (before.dropWhile isBlank).reverse.length := (List.dropWhile_sublist _).length_le
      _ = (before.dropWhile isBlank).length := List.length_reverse
      _ ≤ before.length := (List.dropWhile_sublist _).length_le
  rw [whole, trim_append_blank blank, ← whole, chars, List.length_append, List.length_singleton]
  exact Nat.lt_succ_of_le shorter

/-- White space at the end of a text makes a difference to some registry: every listing of the
longer text is empty or longer than the shorter text and its line break. -/
theorem listing_of_trimmed {text : String} {c : Char} (ends : text.toList.getLast? = some c)
    (blank : isBlank c = true) :
    Frontend.completionListing (onlyCompletion (trim text)) (trim text) ≠
      Frontend.completionListing (onlyCompletion (trim text)) text := by
  have longer := length_trim_lt ends blank
  have short : Frontend.completionListing (onlyCompletion (trim text)) (trim text) =
      trim text ++ "\n" := by
    simp [Frontend.completionListing, complete_onlyCompletion, String.join]
  rw [short]
  intro same
  have lengths := congrArg (fun s => s.toList.length) same
  have listed : ∀ t ∈ (onlyCompletion (trim text)).complete text, startsWith t text = true :=
    fun _ mem => startsWith_of_mem_complete mem
  unfold Frontend.completionListing at lengths
  rw [onlyCompletion, complete_singleton] at lengths listed
  split at lengths
  · next admitted =>
    -- the one text that is listed continues the longer text
    rw [if_pos admitted] at listed
    obtain ⟨rest, whole⟩ := startsWith_iff.1 (listed _ (List.mem_singleton_self _))
    rw [whole] at lengths
    have counted :
        (trim text).toList.length + 1 = text.toList.length + (rest.toList.length + 1) := by
      simpa [String.join] using lengths
    omega
  · -- nothing is listed, not even a line break
    simp [String.join] at lengths

/-- The session with another registry. -/
def withCompletions (w : World (Session τ)) (c : Completions) : World (Session τ) :=
  { w with host := { w.host with completions := c } }

/-- What is printed on an output that works tells the texts apart. -/
theorem printText_inj {w : World (Session τ)} (sound : w.host.output.fault = none)
    {text other : String} (same : Frontend.printText text w = Frontend.printText other w) :
    text = other := by
  have written := congrArg (fun v => v.host.output.written) same
  simpa [Frontend.printText, Session.print, Output.print, sound] using written

/-- A line prints the completions of a text, one on each line, and does nothing else. -/
def PrintsCompletions (f : Frontend τ) (line text : String) (w : World (Session τ)) : Prop :=
  f.execute line w = (.finished .proceed,
    Frontend.printText (String.join ((w.host.completions.complete text).map (· ++ "\n"))) w)

/-- A line that asks for the completions of a text prints those of the text without the white space
at its end. So it prints those of the text itself, whatever words are registered, exactly if the
text does not end with white space. -/
theorem complete_line_lists_typed_iff (f : Frontend τ) {w : World (Session τ)}
    (sound : w.host.output.fault = none) {text : String}
    (starts : ∀ c ∈ text.toList.head?, isBlank c = false) :
    (∀ c, PrintsCompletions f (".complete " ++ text) (trim text) (withCompletions w c)) ∧
      ((∀ c, PrintsCompletions f (".complete " ++ text) text (withCompletions w c)) ↔
        ∀ c ∈ text.toList.getLast?, isBlank c = false) := by
  have trimmed : ∀ c,
      PrintsCompletions f (".complete " ++ text) (trim text) (withCompletions w c) :=
    fun c => execute_complete_line f text (withCompletions w c)
  refine ⟨trimmed, fun typed c ends => ?_, fun ends c => ?_⟩
  · by_contra blank
    rw [Bool.not_eq_false] at blank
    have soundThen : (withCompletions w (onlyCompletion (trim text))).host.output.fault = none :=
      sound
    have same := (trimmed (onlyCompletion (trim text))).symm.trans (typed _)
    exact listing_of_trimmed ends blank (printText_inj soundThen (Prod.mk.inj same).2)
  · have kept := trimmed c
    rwa [trim_of_ends starts ends] at kept

/-- After the registration of the plugin, a text that ends with a letter is listed as typed, here
the options of the plugin that start with `--c`. -/
theorem complete_line_lists_typed_options :
    let f : Frontend Unit := ⟨constantTransport "", meddlingSetup⟩
    let w := (f.init { host := { transport := () } }).2
    PrintsCompletions f ".complete pdd --c" "pdd --c" w ∧
      w.host.completions.complete "pdd --c" = ["pdd --casts", "pdd --colors"] := by
  intro f w
  have sound : w.host.output.fault = none := by decide +kernel
  have words : w.host.completions = ⟨Plugin.completionEntries⟩ := by decide +kernel
  have starts : ∀ c ∈ "pdd --c".toList.head?, isBlank c = false := by
    rintro c ⟨⟩
    decide
  have ends : ∀ c ∈ "pdd --c".toList.getLast?, isBlank c = false := by
    rintro c ⟨⟩
    decide
  have line : ".complete " ++ "pdd --c" = ".complete pdd --c" := by decide
  -- From here on the session is known by its words and its output alone.
  clear_value w
  have listed := (complete_line_lists_typed_iff f sound starts).2.2 ends w.host.completions
  rw [line] at listed
  refine ⟨listed, ?_⟩
  rw [words]
  exact complete_eq_of_texts (by decide +kernel) (by decide)

/-- A space at the end is lost: the commands of the plugin are listed in place of its options, all
of which continue the text. -/
theorem complete_line_loses_space :
    let f : Frontend Unit := ⟨constantTransport "", meddlingSetup⟩
    let w := (f.init { host := { transport := () } }).2
    ¬ PrintsCompletions f ".complete pdd " "pdd " w ∧
      PrintsCompletions f ".complete pdd " "pdd" w ∧
      w.host.completions.complete "pdd " = Plugin.options.map ("pdd " ++ ·) ∧
      w.host.completions.complete "pdd" = Plugin.commandWords := by
  intro f w
  have sound : w.host.output.fault = none := by decide +kernel
  have words : w.host.completions = ⟨Plugin.completionEntries⟩ := by decide +kernel
  have trimmed : trim "pdd " = "pdd" := by decide +kernel
  have line : ".complete " ++ "pdd " = ".complete pdd " := by decide
  clear_value w
  have options : w.host.completions.complete "pdd " = Plugin.options.map ("pdd " ++ ·) := by
    rw [words]
    exact complete_eq_of_texts (by decide +kernel) (by decide)
  have commands : w.host.completions.complete "pdd" = Plugin.commandWords := by
    rw [words]
    exact complete_eq_of_texts (by decide +kernel) (by decide)
  have printed := execute_complete_line f "pdd " w
  rw [trimmed, line] at printed
  refine ⟨fun prints => ?_, printed, options, commands⟩
  have same := printText_inj sound (Prod.mk.inj (printed.symm.trans prints)).2
  rw [Frontend.completionListing, options, commands] at same
  revert same
  decide +kernel

end DecompilerBridge.Shell
