import Mathlib.Data.Set.Card
import DecompilerBridge.Completion
import DecompilerBridge.Proofs.Text.Blank
import DecompilerBridge.Proofs.Text.Utf8

/-!
# What a listing of completions shows

A registry holds what was added to it, once and in the order of the first additions: one addition
keeps this (`FirstAdditions.add`), hence a sequence of them does (`firstAdditions_ofAdded`).

A listing is a rearrangement of the texts of the entries that continue what was typed. The entries
differ in their kinds alone once the parent and the word are fixed, and no entry is there twice, so
a text is listed once for every kind under which its word was added (`count_complete`).

What is typed on without a space goes into the word, so parent and split stay as they were. An entry
continues the longer text exactly if it continues the shorter one and its text starts with the
longer one (`Typed.admits_append`), and sorting keeps the order of what is left (`complete_append`).
-/

set_option autoImplicit false

namespace DecompilerBridge.Completions

open Text

/-! ## The registry -/

/-- The registry after additions, one after the other. -/
def ofAdded (added : List CompletionEntry) : Completions := added.foldl add {}

/-- Entries are what was added, each of them once, in the order of the first additions. -/
structure FirstAdditions (added entries : List CompletionEntry) : Prop where
  once : entries.Nodup
  mem_iff : ∀ e, e ∈ entries ↔ e ∈ added
  inOrder : entries.Pairwise fun a b => added.idxOf a < added.idxOf b

/-- An entry that is there already is not added again. -/
theorem add_of_mem {c : Completions} {e : CompletionEntry} (mem : e ∈ c.entries) : c.add e = c :=
  if_pos mem

/-- A new entry comes last. -/
theorem entries_add_of_not_mem {c : Completions} {e : CompletionEntry} (fresh : e ∉ c.entries) :
    (c.add e).entries = c.entries ++ [e] := by
  rw [add, if_neg fresh]

/-- What is added to first additions is a first addition, or was there before. -/
theorem FirstAdditions.add {added : List CompletionEntry} {c : Completions}
    (first : FirstAdditions added c.entries) (e : CompletionEntry) :
    FirstAdditions (added ++ [e]) (c.add e).entries := by
  -- what was added before is found where it was
  have found : c.entries.Pairwise fun a b => (added ++ [e]).idxOf a < (added ++ [e]).idxOf b := by
    refine first.inOrder.imp_of_mem fun {a b} ha hb before => ?_
    rwa [List.idxOf_append_of_mem ((first.mem_iff a).1 ha),
      List.idxOf_append_of_mem ((first.mem_iff b).1 hb)]
  by_cases mem : e ∈ c.entries
  · rw [add_of_mem mem]
    refine ⟨first.once, fun x => ?_, found⟩
    rw [first.mem_iff x, List.mem_append, List.mem_singleton]
    refine ⟨.inl, ?_⟩
    rintro (earlier | rfl)
    · exact earlier
    · exact (first.mem_iff x).1 mem
  · have fresh : e ∉ added := mt (first.mem_iff e).2 mem
    rw [entries_add_of_not_mem mem]
    refine ⟨?_, fun x => ?_, ?_⟩
    · exact List.nodup_append.2 ⟨first.once, List.nodup_singleton e, by
        rintro a ha b hb rfl
        rw [List.mem_singleton.1 hb] at ha
        exact mem ha⟩
    · rw [List.mem_append, List.mem_append, first.mem_iff x]
    · refine List.pairwise_append.2 ⟨found, List.pairwise_singleton _ _, fun a ha b hb => ?_⟩
      have earlier := (first.mem_iff a).1 ha
      rw [List.mem_singleton.1 hb, List.idxOf_append_of_mem earlier,
        List.idxOf_append_of_notMem fresh]
      exact Nat.lt_of_lt_of_le (List.idxOf_lt_length_of_mem earlier) (Nat.le_add_right _ _)

/-- A registry holds the first additions among all. -/
theorem firstAdditions_ofAdded (added : List CompletionEntry) :
    FirstAdditions added (ofAdded added).entries := by
  induction added using List.reverseRecOn with
  | nil => exact ⟨List.nodup_nil, fun _ => Iff.rfl, .nil⟩
  | append_singleton earlier e ih =>
    rw [ofAdded, List.foldl_append]
    exact ih.add e

/-- A registry holds what it held and what is added. -/
theorem mem_entries_add {c : Completions} {e other : CompletionEntry} :
    other ∈ (c.add e).entries ↔ other ∈ c.entries ∨ other = e := by
  by_cases mem : e ∈ c.entries
  · rw [add_of_mem mem]
    refine ⟨.inl, ?_⟩
    rintro (there | rfl)
    · exact there
    · exact mem
  · rw [entries_add_of_not_mem mem, List.mem_append, List.mem_singleton]

/-- So it does after several additions. -/
theorem mem_entries_foldl_add {added : List CompletionEntry} {c : Completions}
    {e : CompletionEntry} : e ∈ (added.foldl add c).entries ↔ e ∈ c.entries ∨ e ∈ added := by
  induction added generalizing c with
  | nil => simp
  | cons first rest ih =>
    rw [List.foldl_cons, ih, mem_entries_add, List.mem_cons, or_assoc]

/-- Additions of entries that are there change nothing. -/
theorem foldl_add_of_mem {added : List CompletionEntry} {c : Completions}
    (mem : ∀ e ∈ added, e ∈ c.entries) : added.foldl add c = c := by
  induction added with
  | nil => rfl
  | cons first rest ih =>
    obtain ⟨here, later⟩ := List.forall_mem_cons.1 mem
    rw [List.foldl_cons, add_of_mem here, ih later]

/-! ## Typed texts -/

/-- A text without a space is a word that is begun. -/
theorem Typed.ofText_of_not_mem {text : String} (absent : ' ' ∉ text.toList) :
    Typed.ofText text = ⟨none, text⟩ := by
  rw [ofText, splitLast_of_not_mem absent]

/-- The last space ends the part that is complete. -/
theorem Typed.ofText_append {word : String} (absent : ' ' ∉ word.toList) (head : String) :
    Typed.ofText (head ++ " " ++ word) = ⟨some head, word⟩ := by
  have split : splitLast ' ' (head ++ " " ++ word) = some (head, word) :=
    splitLast_append absent head
  rw [ofText, split]

/-- A text has no space, or a last one. -/
theorem Typed.split_cases (text : String) :
    ' ' ∉ text.toList ∨
      ∃ head word : String, ' ' ∉ word.toList ∧ text = head ++ " " ++ word := by
  by_cases mem : ' ' ∈ text.toList
  · right
    obtain ⟨after, before, reversed, absent⟩ :=
      List.eq_append_cons_of_mem (List.mem_reverse.2 mem)
    refine ⟨String.ofList before.reverse, String.ofList after.reverse, by simpa using absent, ?_⟩
    rw [← String.toList_inj, ← List.reverse_inj, reversed]
    simp
  · exact .inl mem

/-- Completions of one text differ if their words do. -/
theorem Typed.complete_inj {t : Typed} {word other : String} :
    t.complete word = t.complete other ↔ word = other := by
  obtain ⟨_ | head, partialWord⟩ := t
  · exact Iff.rfl
  · simp [complete]

/-- The word being typed gives what was typed. -/
theorem Typed.complete_partialWord (text : String) :
    (Typed.ofText text).complete (Typed.ofText text).partialWord = text := by
  rcases split_cases text with absent | ⟨head, typed, absent, rfl⟩
  · rw [ofText_of_not_mem absent]
    rfl
  · rw [ofText_append absent]
    rfl

/-- A longer word makes a longer completion. -/
theorem Typed.complete_append (t : Typed) (word more : String) :
    t.complete (word ++ more) = t.complete word ++ more := by
  obtain ⟨_ | head, partialWord⟩ := t
  · rfl
  · exact (String.append_assoc ..).symm

/-- A whole text continues another with the same head exactly if its word continues the other word.
-/
theorem Typed.startsWith_complete (t : Typed) (word lead : String) :
    startsWith (t.complete word) (t.complete lead) = startsWith word lead := by
  obtain ⟨_ | head, partialWord⟩ := t
  · rfl
  · rw [Bool.eq_iff_iff]
    simp only [complete, startsWith, String.toList_append, List.isPrefixOf_iff_prefix,
      List.prefix_append_right_inj]

/-- The word that is begun holds no space. -/
theorem Typed.space_notMem_partialWord (text : String) :
    ' ' ∉ (Typed.ofText text).partialWord.toList := by
  rcases split_cases text with absent | ⟨head, typed, absent, rfl⟩
  · rwa [ofText_of_not_mem absent]
  · rwa [ofText_append absent]

/-- A text with a chosen word is taken apart into the same head and that word. -/
theorem Typed.ofText_complete {word : String} (absent : ' ' ∉ word.toList) (t : Typed) :
    Typed.ofText (t.complete word) = ⟨t.head, word⟩ := by
  obtain ⟨_ | head, partialWord⟩ := t
  · exact ofText_of_not_mem absent
  · exact ofText_append absent head

/-- Typing on without a space lengthens the word being typed. -/
theorem Typed.ofText_append_word {more : String} (absent : ' ' ∉ more.toList) (text : String) :
    Typed.ofText (text ++ more) =
      ⟨(Typed.ofText text).head, (Typed.ofText text).partialWord ++ more⟩ := by
  have longer : ' ' ∉ ((Typed.ofText text).partialWord ++ more).toList := by
    rw [String.toList_append, List.mem_append, not_or]
    exact ⟨space_notMem_partialWord text, absent⟩
  have whole : text ++ more =
      (Typed.ofText text).complete ((Typed.ofText text).partialWord ++ more) := by
    rw [complete_append, complete_partialWord]
  rw [whole, ofText_complete longer]

/-! ## Listings -/

/-- A listing is the completions of all entries that are admitted, in some order. -/
theorem complete_perm (c : Completions) (text : String) :
    (c.complete text).Perm ((c.entries.filter (Typed.ofText text).admits).map
      fun e => (Typed.ofText text).complete e.word) :=
  List.mergeSort_perm _ _

/-- Texts that are in order are listed as they are. -/
theorem complete_eq_of_texts {c : Completions} {text : String} {listing : List String}
    (texts : ((c.entries.filter (Typed.ofText text).admits).map
      fun e => (Typed.ofText text).complete e.word) = listing)
    (inOrder : listing.Pairwise (· ≤ ·)) : c.complete text = listing := by
  have sorted : listing.Pairwise fun a b => decide (a ≤ b) = true := inOrder.imp decide_eq_true
  rw [complete, texts, List.mergeSort_of_pairwise sorted]

/-- A text is listed if it completes the typed text with the word of an entry under its parent. -/
theorem mem_complete {c : Completions} {text t : String} :
    t ∈ c.complete text ↔ ∃ e ∈ c.entries, e.parent = (Typed.ofText text).parent ∧
      startsWith e.word (Typed.ofText text).partialWord = true ∧
      (Typed.ofText text).complete e.word = t := by
  simp only [(c.complete_perm text).mem_iff, List.mem_map, List.mem_filter, Typed.admits,
    Bool.and_eq_true, decide_eq_true_eq, and_assoc]

/-- Every listed text starts with the typed one. -/
theorem startsWith_of_mem_complete {c : Completions} {text t : String}
    (mem : t ∈ c.complete text) : startsWith t text = true := by
  obtain ⟨e, -, -, continues, rfl⟩ := mem_complete.1 mem
  rwa [← Typed.startsWith_complete (Typed.ofText text), Typed.complete_partialWord] at continues

/-- A listing is in order. -/
theorem complete_pairwise (c : Completions) (text : String) :
    (c.complete text).Pairwise (· ≤ ·) := by
  have sorted : (c.complete text).Pairwise fun a b => decide (a ≤ b) = true := by
    refine List.pairwise_mergeSort (fun a b d ab bd => ?_) (fun a b => ?_) _
    · exact decide_eq_true (String.le_trans (of_decide_eq_true ab) (of_decide_eq_true bd))
    · simpa using String.le_total a b
  exact sorted.imp of_decide_eq_true

/-- A listing is in the order of the bytes of its texts. -/
theorem complete_sorted (c : Completions) (text : String) :
    (c.complete text).Pairwise fun a b => utf8 a ≤ utf8 b := by
  refine (c.complete_pairwise text).imp fun {a b} before less => ?_
  by_cases same : a = b
  · rw [same] at less
    exact List.lt_irrefl _ less
  · have smaller : a < b := Std.lt_of_le_of_ne before same
    exact List.lt_asymm (utf8_lt_utf8 smaller) less

/-- A text is listed once for every kind under which a word was added that gives the text. -/
theorem count_complete {added : List CompletionEntry} {c : Completions}
    (first : FirstAdditions added c.entries) (text t : String) :
    (c.complete text).count t = {kind | ∃ word, t = (Typed.ofText text).complete word ∧
      startsWith word (Typed.ofText text).partialWord = true ∧
      ⟨(Typed.ofText text).parent, word, kind⟩ ∈ added}.ncard := by
  generalize listed : Typed.ofText text = typed
  let gives := c.entries.filter fun e => typed.complete e.word == t && typed.admits e
  have gives_iff : ∀ e, e ∈ gives ↔ t = typed.complete e.word ∧
      startsWith e.word typed.partialWord = true ∧ e.parent = typed.parent ∧ e ∈ added := by
    intro e
    simp only [gives, List.mem_filter, first.mem_iff, Typed.admits, Bool.and_eq_true,
      decide_eq_true_eq, beq_iff_eq, eq_comm (a := t)]
    tauto
  -- the entries that give the text differ in their kinds alone
  have distinct : (gives.map CompletionEntry.kind).Nodup := by
    refine List.Nodup.map_on ?_ (first.once.filter _)
    rintro ⟨parent, word, kind⟩ he ⟨parent', word', kind'⟩ he' same
    obtain ⟨text, -, below, -⟩ := (gives_iff _).1 he
    obtain ⟨text', -, below', -⟩ := (gives_iff _).1 he'
    have words : word = word' := Typed.complete_inj.1 (text.symm.trans text')
    have parents : parent = parent' := below.trans below'.symm
    have kinds : kind = kind' := same
    rw [words, parents, kinds]
  have kinds : {kind | ∃ word, t = typed.complete word ∧
      startsWith word typed.partialWord = true ∧ ⟨typed.parent, word, kind⟩ ∈ added} =
        ((gives.map CompletionEntry.kind).toFinset : Set CompletionKind) := by
    ext kind
    simp only [Set.mem_ofPred_eq, List.coe_toFinset, List.mem_map]
    constructor
    · rintro ⟨word, text, continues, mem⟩
      exact ⟨⟨typed.parent, word, kind⟩, (gives_iff _).2 ⟨text, continues, rfl, mem⟩, rfl⟩
    · rintro ⟨⟨parent, word, kind⟩, he, rfl⟩
      obtain ⟨text, continues, below, mem⟩ := (gives_iff _).1 he
      exact ⟨word, text, continues, below ▸ mem⟩
  rw [kinds, Set.ncard_coe_finset, List.toFinset_card_of_nodup distinct, List.length_map,
    (c.complete_perm text).count_eq, listed, List.count_eq_countP, List.countP_map,
    List.countP_filter, List.countP_eq_length_filter]
  rfl

/-- What a listing of the completions of a text shows of the words that were added: texts that
continue it, in the order of their bytes, and each text once for every kind under which its word was
added. The words are those of the parent that comes first in the text, if there is a space in it. -/
structure ListsAdded (added : List CompletionEntry) (text : String) (listing : List String) :
    Prop where
  continues : ∀ t ∈ listing, startsWith t text = true
  sorted : listing.Pairwise fun a b => utf8 a ≤ utf8 b
  top : ' ' ∉ text.toList → ∀ t, listing.count t =
    {kind | startsWith t text = true ∧ ⟨none, t, kind⟩ ∈ added}.ncard
  below : ∀ head partialWord : String, text = head ++ " " ++ partialWord →
    ' ' ∉ partialWord.toList → ∀ t, listing.count t =
      {kind | ∃ word, t = head ++ " " ++ word ∧ startsWith word partialWord = true ∧
        ⟨some ((words head).headD ""), word, kind⟩ ∈ added}.ncard

/-- A listing of first additions is what the additions tell. -/
theorem listsAdded_complete {added : List CompletionEntry} {c : Completions}
    (first : FirstAdditions added c.entries) (text : String) :
    ListsAdded added text (c.complete text) where
  continues _ mem := startsWith_of_mem_complete mem
  sorted := c.complete_sorted text
  top absent t := by
    rw [count_complete first, Typed.ofText_of_not_mem absent]
    congr 1
    ext kind
    simp [Typed.complete, Typed.parent]
  below head partialWord whole absent t := by
    rw [count_complete first, whole, Typed.ofText_append absent]
    rfl

/-! ## Typing on -/

/-- An entry continues the longer text exactly if it continues the shorter one and its whole text
continues the longer one. -/
theorem Typed.admits_append (t : Typed) (more : String) (e : CompletionEntry) :
    Typed.admits ⟨t.head, t.partialWord ++ more⟩ e =
      (startsWith (t.complete e.word) (t.complete t.partialWord ++ more) && t.admits e) := by
  have parent : Typed.parent ⟨t.head, t.partialWord ++ more⟩ = t.parent := rfl
  rw [← complete_append, startsWith_complete]
  unfold admits
  rw [parent]
  cases longer : startsWith e.word (t.partialWord ++ more) with
  | false => simp
  | true =>
    have shorter : startsWith e.word t.partialWord = true := by
      obtain ⟨rest, whole⟩ := startsWith_iff.1 longer
      exact startsWith_iff.2 ⟨more ++ rest, by rw [whole, String.append_assoc]⟩
    simp [shorter]

/-- After typing on without a space, those of the listed texts are left that continue the longer
text. Both listings are in order, so it is enough that they have the same texts. -/
theorem complete_append (c : Completions) (text : String) {more : String}
    (absent : ' ' ∉ more.toList) :
    c.complete (text ++ more) = (c.complete text).filter (startsWith · (text ++ more)) := by
  have longer := Typed.ofText_append_word absent text
  have admitted : (Typed.ofText (text ++ more)).admits = fun e =>
      startsWith ((Typed.ofText text).complete e.word) (text ++ more) &&
        (Typed.ofText text).admits e := by
    funext e
    rw [longer, Typed.admits_append, Typed.complete_partialWord]
  have whole : ∀ word, (Typed.ofText (text ++ more)).complete word =
      (Typed.ofText text).complete word := by
    intro word
    rw [longer]
    rfl
  refine List.Perm.eq_of_pairwise (fun _ _ _ _ => String.le_antisymm)
    (c.complete_pairwise _) ((c.complete_pairwise text).filter _) ?_
  refine (c.complete_perm _).trans (.trans (.of_eq ?_) ((c.complete_perm text).filter _).symm)
  simp only [List.filter_map, List.filter_filter, admitted, whole, Function.comp_def]

/-- If no word has a space, a listed text is one of its own completions. -/
theorem mem_complete_self {c : Completions} (spaceless : ∀ e ∈ c.entries, ' ' ∉ e.word.toList)
    {text t : String} (mem : t ∈ c.complete text) : t ∈ c.complete t := by
  obtain ⟨e, he, below, -, rfl⟩ := mem_complete.1 mem
  have chosen := Typed.ofText_complete (spaceless e he) (Typed.ofText text)
  refine mem_complete.2 ⟨e, he, ?_, ?_, ?_⟩
  · rw [chosen, below]
    rfl
  · rw [chosen]
    exact startsWith_iff.2 ⟨"", String.append_empty.symm⟩
  · rw [chosen]
    rfl

/-- Typing on narrows the listing. After more characters, none of them a space, those of the listed
texts are left that continue the longer text, in the same order. And if no word that was added has a
space, every listed text is listed again when it is typed itself. -/
theorem listing_narrows (added : List CompletionEntry) (text : String) :
    (∀ more : String, ' ' ∉ more.toList → (ofAdded added).complete (text ++ more) =
      ((ofAdded added).complete text).filter (startsWith · (text ++ more))) ∧
    ((∀ e ∈ added, ' ' ∉ e.word.toList) →
      ∀ t ∈ (ofAdded added).complete text, t ∈ (ofAdded added).complete t) := by
  refine ⟨fun more absent => complete_append _ text absent, fun spaceless t mem => ?_⟩
  refine mem_complete_self (fun e he => ?_) mem
  exact spaceless e (((firstAdditions_ofAdded added).mem_iff e).1 he)

/-- With an option that is also a word: what is typed below a word narrows to it, and it is listed
again when it is typed itself, once for each kind. -/
theorem listing_narrows_options :
    let added : List CompletionEntry := [⟨none, "pdd", .word⟩, ⟨some "pdd", "--casts", .option⟩,
      ⟨some "pdd", "--colors", .option⟩, ⟨some "pdd", "--colors", .word⟩,
      ⟨some "pdd", "--xrefs", .option⟩]
    (ofAdded added).complete "pdd --" =
        ["pdd --casts", "pdd --colors", "pdd --colors", "pdd --xrefs"] ∧
      (ofAdded added).complete "pdd --co" = ["pdd --colors", "pdd --colors"] ∧
      "pdd --colors" ∈ (ofAdded added).complete "pdd --colors" := by
  intro added
  have listed : (ofAdded added).complete "pdd --" =
      ["pdd --casts", "pdd --colors", "pdd --colors", "pdd --xrefs"] :=
    complete_eq_of_texts (by decide +kernel) (by decide)
  have spaceless : ∀ e ∈ added, ' ' ∉ e.word.toList := by decide
  obtain ⟨narrows, again⟩ := listing_narrows added "pdd --"
  rw [listed] at narrows again
  refine ⟨listed, ?_, again spaceless _ (by decide)⟩
  have narrowed := narrows "co" (by decide)
  have typed : "pdd --" ++ "co" = "pdd --co" := by decide
  rw [typed] at narrowed
  exact narrowed.trans (by decide +kernel)

end DecompilerBridge.Completions
