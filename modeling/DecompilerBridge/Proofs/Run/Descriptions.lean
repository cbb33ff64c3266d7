import DecompilerBridge.Proofs.Bridge.Runs
import DecompilerBridge.Proofs.Run.Diagnostics

/-!
# Descriptions of thrown values

What a script has thrown is described by a text: the name and the message of an error, or the text
of any other value (`thrownText`). White space is taken off the ends of that text, and nothing else
is done to it (`describeThrown_eq`). So a line break at an end goes, and one between two characters
that are no white space stays (`Text.oneLine_trim_iff`): a description is one line exactly if the
text has no such break, and then the diagnostic that is printed for the value is one line too
(`diagnostic_one_line_iff`).

Of a text that was thrown, and of an error whose name and message are plain texts, the description
can be read off (`thrownText_text`, `thrownText_error`), whatever the engine is.
-/

set_option autoImplicit false

namespace DecompilerBridge

open Script (jsonInterpreter)

variable {η : Type}

/-! ## Lines -/

namespace Text

/-- The characters that end a line. All of them are white space. -/
def breaksLine (c : Char) : Bool :=
  let n := c.toNat
  (0xA ≤ n && n ≤ 0xD) || n == 0x85 || n == 0x2028 || n == 0x2029

/-- What breaks a line is white space. -/
theorem isBlank_of_breaksLine {c : Char} (breaks : breaksLine c = true) : isBlank c = true := by
  simp only [breaksLine, isBlank, Bool.or_eq_true, Bool.and_eq_true, decide_eq_true_eq,
    beq_iff_eq] at breaks ⊢
  omega

/-- A text has no line break. -/
def OneLine (s : String) : Prop := ∀ c ∈ s.toList, breaksLine c = false

instance (s : String) : Decidable (OneLine s) :=
  List.decidableBAll (fun c => breaksLine c = false) s.toList

/-- A text is one line: a text without a line break, and a newline. -/
def IsLine (s : String) : Prop := ∃ line, s = line ++ "\n" ∧ OneLine line

/-- Two texts make one line exactly if both are in one line. -/
theorem oneLine_append {s t : String} : OneLine (s ++ t) ↔ OneLine s ∧ OneLine t := by
  simp only [OneLine, String.toList_append, List.mem_append, or_imp, forall_and]

/-- A text in one line is a line with its newline. -/
theorem isLine_append_newline {s : String} : IsLine (s ++ "\n") ↔ OneLine s := by
  constructor
  · rintro ⟨line, same, one⟩
    have chars := congrArg String.toList same
    rw [String.toList_append, String.toList_append, List.append_cancel_right_eq,
      String.toList_inj] at chars
    rwa [chars]
  · exact fun one => ⟨s, rfl, one⟩

/-- A text breaks a line between two characters that are no white space. -/
def BreaksWithin (s : String) : Prop :=
  ∃ before c after, s.toList = before ++ c :: after ∧ breaksLine c = true ∧
    (∃ x ∈ before, isBlank x = false) ∧ ∃ x ∈ after, isBlank x = false

section

variable {p : Char → Bool} {c : Char} {before after cs : List Char}

/-- Characters are dropped up to the first that stays. -/
theorem dropWhile_append_of_solid (solid : ∃ x ∈ before, p x = false) :
    (before ++ cs).dropWhile p = before.dropWhile p ++ cs := by
  induction before with
  | nil =>
    obtain ⟨x, mem, -⟩ := solid
    cases mem
  | cons y rest ih =>
    cases drops : p y with
    | false => simp [drops]
    | true =>
      obtain ⟨x, mem, stays⟩ := solid
      have later : x ∈ rest := by
        rcases List.mem_cons.1 mem with rfl | later
        · rw [drops] at stays
          cases stays
        · exact later
      rw [List.cons_append, List.dropWhile_cons_of_pos drops, List.dropWhile_cons_of_pos drops]
      exact ih ⟨x, later, stays⟩

/-- A character that could be dropped, and is not dropped from the start, stands after one that
stays. -/
theorem solid_before_of_dropWhile (drops : p c = true)
    (left : cs.dropWhile p = before ++ c :: after) :
    ∃ first, cs = first ++ c :: after ∧ ∃ x ∈ first, p x = false := by
  have whole : cs = cs.takeWhile p ++ (before ++ c :: after) := by
    rw [← left, List.takeWhile_append_dropWhile]
  have head := List.head?_dropWhile_not p cs
  rw [left] at head
  cases before with
  | nil =>
    have stays : p c = false := head
    rw [drops] at stays
    cases stays
  | cons x rest =>
    refine ⟨cs.takeWhile p ++ x :: rest, ?_, x, by simp, head⟩
    rw [List.append_assoc]
    exact whole

/-- From the end they are dropped down to the last that stays. -/
theorem dropEndWhile_append_of_solid (solid : ∃ x ∈ after, p x = false) :
    dropEndWhile p (cs ++ after) = cs ++ dropEndWhile p after := by
  have mirrored : ∃ x ∈ after.reverse, p x = false := by simpa using solid
  rw [dropEndWhile, List.reverse_append, dropWhile_append_of_solid mirrored, List.reverse_append,
    List.reverse_reverse, dropEndWhile]

/-- What stays in front of a character that could be dropped is followed by one that could not. -/
theorem solid_after_of_dropEndWhile (drops : p c = true)
    (left : dropEndWhile p cs = before ++ c :: after) :
    ∃ rest, cs = before ++ c :: rest ∧ ∃ x ∈ rest, p x = false := by
  have mirrored : cs.reverse.dropWhile p = after.reverse ++ c :: before.reverse := by
    rw [← List.reverse_inj, ← dropEndWhile, left]
    simp
  obtain ⟨first, whole, x, mem, stays⟩ := solid_before_of_dropWhile drops mirrored
  refine ⟨first.reverse, ?_, x, by simpa using mem, stays⟩
  rw [← List.reverse_inj, whole]
  simp

/-- Taking white space off the ends of a text leaves one line exactly if no line is broken within
it. -/
theorem oneLine_trim_iff {s : String} : OneLine (trim s) ↔ ¬ BreaksWithin s := by
  have chars : (trim s).toList = dropEndWhile isBlank (s.toList.dropWhile isBlank) :=
    String.toList_ofList
  constructor
  · rintro one ⟨before, c, after, whole, breaks, solidBefore, solidAfter⟩
    have kept : c ∈ (trim s).toList := by
      rw [chars, whole, dropWhile_append_of_solid solidBefore, List.append_cons,
        dropEndWhile_append_of_solid solidAfter]
      simp
    rw [one c kept] at breaks
    cases breaks
  · intro whole c mem
    refine Bool.eq_false_iff.2 fun breaks => whole ?_
    have blank := isBlank_of_breaksLine breaks
    rw [chars] at mem
    obtain ⟨before, after, left⟩ := List.append_of_mem mem
    obtain ⟨rest, started, solidAfter⟩ := solid_after_of_dropEndWhile blank left
    obtain ⟨first, split, solidBefore⟩ := solid_before_of_dropWhile blank started
    exact ⟨first, c, rest, split, breaks, solidBefore, solidAfter⟩

end

end Text

/-! ## Descriptions -/

namespace ScriptEngine

open Bridge

/-- A value is a text of an engine. -/
structure IsText (E : ScriptEngine) (now : E.State) (v : E.Value) (text : String) : Prop where
  spelled : E.text? now v = some (.ok text)
  converted : (E.toText v).run now = .done (.ok v, now)
  error : E.isError now v = false
  something : E.isNothing now v = false

/-- A member of a value can be read without running any code, and is a text. -/
def HasText (E : ScriptEngine) (now : E.State) (e : E.Value) (name text : String) : Prop :=
  ∃ v, (E.member e name).run now = .done (.ok v, now) ∧ E.IsText now v text

/-- An error whose name, stack and message are plain texts. -/
structure PlainError (E : ScriptEngine) (now : E.State) (e : E.Value)
    (name stack message : String) : Prop where
  error : E.isError now e = true
  name : E.HasText now e "name" name
  stack : E.HasText now e "stack" stack
  message : E.HasText now e "message" message

variable {E : ScriptEngine} {serve : Natives E.State E.Value} {live : Live E.State} {v : E.Value}

/-- The text of a thrown value, with the white space at its ends. -/
def thrownText (E : ScriptEngine) (serve : Natives E.State E.Value) (v : E.Value) :
    Bridge E.State E.Value String := do
  let now ← state
  if E.isError now v then
    let name ← E.describedName serve v
    let stack ← E.describedMember serve v "stack"
    logAll (stack.toList.map fun text => .debug ("script stack:\n" ++ text))
    let message ← E.describedMember serve v "message"
    pure (name ++ ": " ++ message.getD "")
  else
    let text ← E.describedText serve v
    let after ← state
    pure ("thrown value: " ++ text.getD (E.typeName after v))

/-- All that is done to the text is that white space is taken off its ends. -/
theorem describeThrown_eq (E : ScriptEngine) (serve : Natives E.State E.Value) (v : E.Value) :
    E.describeThrown serve v = E.thrownText serve v >>= fun shown => pure (Text.trim shown) := by
  unfold describeThrown thrownText
  rw [bind_assoc]
  refine congrArg (state >>= ·) (funext fun now => ?_)
  cases E.isError now v with
  | true => simp only [if_true, bind_assoc, pure_bind]
  | false => simp only [Bool.false_eq_true, if_false, bind_assoc, pure_bind]

/-- An operation that runs no code is tried without a trace. -/
theorem tried_run {α : Type} {x : Operation E.State E.Value α} {a : α}
    (given : x.run live.state = .done (.ok a, live.state)) :
    (E.tried serve x).run live = .done (.ok (some a), live) :=
  (run_bind_of_done (attempt_run_of_value (within_run_of_value given))).trans rfl

/-- A text spells itself. -/
theorem spell_run {text : String} (isText : E.IsText live.state v text) :
    (E.spell v).run live = .done (.ok (some text), live) := by
  rw [spell, run_state_bind, isText.spelled]
  rfl

/-- A name that is a plain text is the name of the error. -/
theorem describedName_run {name : String} (has : E.HasText live.state v "name" name) :
    (E.describedName serve v).run live = .done (.ok name, live) := by
  obtain ⟨w, read, isText⟩ := has
  refine (run_bind_of_done (tried_run read)).trans ?_
  exact (run_bind_of_done (spell_run isText)).trans rfl

/-- A text is described by itself. -/
theorem describedText_run {text : String} (isText : E.IsText live.state v text) :
    (E.describedText serve v).run live = .done (.ok (some text), live) :=
  (run_bind_of_done (tried_run isText.converted)).trans (spell_run isText)

/-- A member that is a plain text is described by it. -/
theorem describedMember_run {name text : String} (has : E.HasText live.state v name text) :
    (E.describedMember serve v name).run live = .done (.ok (some text), live) := by
  obtain ⟨w, read, isText⟩ := has
  refine (run_bind_of_done (tried_run read)).trans ?_
  show (state >>= fun now => _ : Bridge E.State E.Value (Option String)).run live = _
  rw [run_state_bind, if_neg (by rw [isText.something]; exact Bool.false_ne_true)]
  exact describedText_run isText

/-- The text of an error is its name and its message. -/
theorem thrownText_error {name stack message : String}
    (plain : E.PlainError live.state v name stack message) :
    (E.thrownText serve v).run live =
      .ask (.log (.debug ("script stack:\n" ++ stack))) fun _ =>
        .done (.ok (name ++ ": " ++ message), live) := by
  rw [thrownText, run_state_bind, if_pos plain.error,
    run_bind_of_done (describedName_run plain.name),
    run_bind_of_done (describedMember_run plain.stack)]
  show Interaction.ask _ _ = _
  congr 1
  funext _
  exact (run_bind_of_done (describedMember_run plain.message)).trans rfl

/-- The text of a text that was thrown. -/
theorem thrownText_text {text : String} (isText : E.IsText live.state v text) :
    (E.thrownText serve v).run live = .done (.ok ("thrown value: " ++ text), live) := by
  rw [thrownText, run_state_bind, if_neg (by rw [isText.error]; exact Bool.false_ne_true),
    run_bind_of_done (describedText_run isText)]
  rfl

/-- A description has the requests of the text that it is made of, and nothing more. -/
theorem describeThrown_drive {τ ε : Type} {answer : (q : HostRequest) → τ → Except ε q.Reply × τ}
    {after : Live E.State} {w there : τ} {shown : String}
    (comes : ((E.thrownText serve v).run live).drive answer w = (.ok (.ok shown, after), there)) :
    ((E.describeThrown serve v).run live).drive answer w =
        (.ok (.ok (Text.trim shown), after), there) ∧
      ((E.describeThrown serve v).run live).trail answer w =
        ((E.thrownText serve v).run live).trail answer w := by
  obtain ⟨goesOn, split⟩ := drive_bind_of_value comes fun shown =>
    (pure (Text.trim shown) : Bridge E.State E.Value String)
  rw [← describeThrown_eq] at goesOn split
  exact ⟨goesOn, split.trans (List.append_nil _)⟩

end ScriptEngine

namespace Invocation

/-- A report hands to the host what the description does, and the diagnostic. -/
theorem report_handed {channel : Option (HostChannel η)} {m : Machine} {v : m.engine.Value}
    {live after : Live m.engine.State} {w there : World η} {described : String} (what : String)
    (describes : ((m.engine.describeThrown m.natives v).run live).drive (World.answer channel) w =
      (.ok (.ok described, after), there)) :
    handed (((report m what (.exception v)).run live).trail (World.answer channel) w) =
      handed (((m.engine.describeThrown m.natives v).run live).trail (World.answer channel) w) ++
        [.print ("Error: " ++ (what ++ ": " ++ described) ++ "\n") there.scripts.state] := by
  obtain ⟨-, split⟩ := Bridge.drive_bind_of_value describes fun detail =>
    printed m (what ++ ": " ++ detail)
  have whole : ((report m what (.exception v)).run live).trail (World.answer channel) w = _ := split
  rw [whole, handed_append, printed_handed]

/-- The text that a thrown value is described by is the text of the value without white space at its
ends. It has no line break exactly if the text has none between two characters that are no white
space, and the diagnostic that is printed for the value is one line then, if the name in it is. -/
theorem diagnostic_one_line_iff {m : Machine} {v : m.engine.Value}
    {live after : Live m.engine.State} {channel : Option (HostChannel η)} {w there : World η}
    {described : String}
    (describes : ((m.engine.describeThrown m.natives v).run live).drive (World.answer channel) w =
      (.ok (.ok described, after), there)) :
    ∃ shown, ((m.engine.thrownText m.natives v).run live).drive (World.answer channel) w =
        (.ok (.ok shown, after), there) ∧
      described = Text.trim shown ∧
      (∀ text, m.engine.IsText live.state v text → shown = "thrown value: " ++ text) ∧
      (∀ name stack message, m.engine.PlainError live.state v name stack message →
        shown = name ++ ": " ++ message) ∧
      (Text.OneLine described ↔ ¬ Text.BreaksWithin shown) ∧
      ∀ what, let line := "Error: " ++ (what ++ ": " ++ described) ++ "\n"
        handed (((report m what (.exception v)).run live).trail (World.answer channel) w) =
          handed (((m.engine.thrownText m.natives v).run live).trail (World.answer channel) w) ++
            [.print line there.scripts.state] ∧
        (Text.IsLine line ↔ Text.OneLine what ∧ ¬ Text.BreaksWithin shown) := by
  have whole := describes
  rw [m.engine.describeThrown_eq] at whole
  obtain ⟨shown, between, mid, comes, ended⟩ := Bridge.drive_bind_eq_ok_iff.1 whole
  cases ended
  have lines : Text.OneLine (Text.trim shown) ↔ ¬ Text.BreaksWithin shown := Text.oneLine_trim_iff
  refine ⟨shown, comes, rfl, ?_, ?_, lines, fun what => ⟨?_, ?_⟩⟩
  · intro text isText
    rw [ScriptEngine.thrownText_text isText] at comes
    cases comes
    rfl
  · intro name stack message plain
    rw [ScriptEngine.thrownText_error plain] at comes
    cases comes
    rfl
  · rw [report_handed what describes, (ScriptEngine.describeThrown_drive comes).2]
  · have fixed : Text.OneLine "Error: " ∧ Text.OneLine ": " := by decide
    rw [Text.isLine_append_newline, Text.oneLine_append, Text.oneLine_append, Text.oneLine_append,
      lines]
    exact ⟨fun ⟨_, ⟨named, _⟩, one⟩ => ⟨named, one⟩,
      fun ⟨named, one⟩ => ⟨fixed.1, ⟨named, fixed.2⟩, one⟩⟩

end Invocation

/-! ## Texts and errors of the interpreter -/

namespace Script

/-- A plain property of an object, its own or an inherited one, holds a value. -/
def Store.Reads (store : Store) (r : Ref) (name : String) (v : Value) : Prop :=
  ∃ p, store.property? r (.name name) = some p ∧ p.slot = .data v

/-- A text of the interpreter is one for the bridge. -/
theorem Interpreter.isText (i : Interpreter) (now : Engine) (text : String) :
    i.engine.IsText now (Value.ofString text) text where
  spelled := by
    show Value.text? (.text (Text.Units.ofString text)) = _
    rw [Value.text?, Text.Units.toString?_ofString]
  converted := rfl
  error := rfl
  something := rfl

/-- So is a plain property that holds a text. -/
theorem Interpreter.hasText (i : Interpreter) {now : Engine} {r : Ref} {name text : String}
    (reads : now.Reads r name (Value.ofString text)) :
    i.engine.HasText now (.object r) name text := by
  refine ⟨Value.ofString text, ?_, i.isText now text⟩
  obtain ⟨p, found, slot⟩ := reads
  have read : (Routine.getNamed (.object r) name).run now.toStore =
      .done (.ok (Value.ofString text), now.toStore) := by
    show (Routine.readSlot _ (now.property? r (.name name))).run now.toStore = _
    rw [found, Routine.readSlot, slot]
    rfl
  show Routine.continueWith _ now ((Routine.getNamed (.object r) name).run now.toStore) = _
  rw [read]
  rfl

/-- An error whose name, stack and message are plain texts is a plain error for the bridge. -/
theorem Interpreter.plainError (i : Interpreter) {now : Engine} {r : Ref}
    {name stack message : String} (error : now.isError (.object r) = true)
    (named : now.Reads r "name" (Value.ofString name))
    (stacked : now.Reads r "stack" (Value.ofString stack))
    (said : now.Reads r "message" (Value.ofString message)) :
    i.engine.PlainError now (.object r) name stack message :=
  ⟨error, i.hasText named, i.hasText stacked, i.hasText said⟩

end Script

namespace Invocation

/-- A line break at the end of a text that was thrown goes, and what is printed is one line. -/
theorem diagnostic_one_line_iff_trailing :
    let m := jsonInterpreter.machine {}
    let thrown : m.engine.Value := Script.Value.ofString " boom\r\n"
    let live : Live m.engine.State := ⟨jsonInterpreter.newEngine {} {}, none⟩
    let answer := World.answer (some (ScriptHost.calmHost.channel { machine := m }))
    ((m.engine.describeThrown m.natives thrown).run live).drive answer { host := () } =
        (.ok (.ok "thrown value:  boom", live), { host := () }) ∧
      Text.OneLine "thrown value:  boom" ∧ ¬ Text.BreaksWithin "thrown value:  boom\r\n" ∧
      Text.IsLine "Error: r2dec_main: thrown value:  boom\n" := by
  intro m thrown live answer
  have isText : m.engine.IsText live.state thrown " boom\r\n" := jsonInterpreter.isText live.state _
  have comes : ((m.engine.thrownText m.natives thrown).run live).drive answer { host := () } =
      (.ok (.ok "thrown value:  boom\r\n", live), { host := () }) := by
    rw [ScriptEngine.thrownText_text isText]
    rfl
  have trimmed : Text.trim "thrown value:  boom\r\n" = "thrown value:  boom" := by decide
  have describes := (ScriptEngine.describeThrown_drive comes).1
  rw [trimmed] at describes
  obtain ⟨shown, same, -, -, -, lines, tells⟩ := diagnostic_one_line_iff describes
  cases comes.symm.trans same
  have one : Text.OneLine "thrown value:  boom" := by decide
  exact ⟨describes, one, lines.1 one, (tells Entry.functionName).2.2 ⟨by decide, lines.1 one⟩⟩

end Invocation

namespace ScriptHost

/-- A package whose entry function throws a text of two lines. -/
def twoLines : Setup where
  machine := jsonInterpreter.machine
    { base := .fixed "/"
      files := { members := [("require.js", .file
        "[[\"def\",\"r2dec_main\",[[\"throw\",\"a\\nb\"]]]]".toUTF8.toList)] } }

/-- A diagnostic can be more than one line: the text of two lines is printed as it is. -/
theorem diagnostic_of_two_lines :
    (run twoLines (some (calmHost.channel twoLines)) "" { host := () }).1 =
        .finished (.error (.evaluation "r2dec_main: thrown value: a\nb")) ∧
      received twoLines calmHost "" { host := () } =
        [.print "Error: r2dec_main: thrown value: a\nb\n" .entryInvoked] ∧
      ¬ Text.OneLine "thrown value: a\nb" ∧
      ¬ Text.IsLine "Error: r2dec_main: thrown value: a\nb\n" := by
  have evaluated : (run twoLines (some (calmHost.channel twoLines)) "" { host := () }).1 =
        .finished (.error (.evaluation "r2dec_main: thrown value: a\nb")) ∧
      received twoLines calmHost "" { host := () } =
        [.print "Error: r2dec_main: thrown value: a\nb\n" .entryInvoked] := by
    decide +kernel
  have broken : ¬ Text.OneLine "Error: r2dec_main: thrown value: a\nb" := by decide
  have line : "Error: r2dec_main: thrown value: a\nb" ++ "\n" =
      "Error: r2dec_main: thrown value: a\nb\n" := by decide
  refine ⟨evaluated.1, evaluated.2, by decide, fun isLine => broken ?_⟩
  rw [← line] at isLine
  exact Text.isLine_append_newline.1 isLine

end ScriptHost

end DecompilerBridge
