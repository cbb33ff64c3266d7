import DecompilerBridge.Proofs.Shell.PipeStep
import DecompilerBridge.Proofs.Text.Blank
import DecompilerBridge.Proofs.Text.Utf8
import DecompilerBridge.Script.Interpreter
import DecompilerBridge.Shell.Program

/-!
# Commands as arguments and as input

A shell gets its commands as arguments or as lines of its input. Both are lists of lines for
`Frontend.executeAll`, and they differ in three ways: lines of input are cut out of bytes, they end
with newlines, and an empty last line is none at all. Cutting and reading give back the commands
(`inputLines_fed_append`), the newline is trimmed away (`Frontend.execute_of_trim`), and an empty
line does nothing (`Frontend.executeAll_empty`).
-/

set_option autoImplicit false

namespace DecompilerBridge.Shell

open Script

/-! ## Lines of bytes -/

/-- A line is cut after its newline. -/
theorem cutLine_terminated {line : List UInt8} (single : 10 ∉ line) (rest : List UInt8) :
    cutLine (line ++ 10 :: rest) = (line ++ [10], rest) := by
  induction line with
  | nil => rfl
  | cons b more ih =>
    rw [List.mem_cons, not_or] at single
    have other : ¬b = 10 := fun same => single.1 same.symm
    rw [List.cons_append, cutLine, if_neg other, ih single.2, List.cons_append]

/-- Bytes without a newline are one line. -/
theorem cutLine_of_notMem {line : List UInt8} (single : 10 ∉ line) : cutLine line = (line, []) := by
  induction line with
  | nil => rfl
  | cons b more ih =>
    rw [List.mem_cons, not_or] at single
    have other : ¬b = 10 := fun same => single.1 same.symm
    rw [cutLine, if_neg other, ih single.2]

/-- At least one byte is cut off. -/
theorem length_cutLine_le (b : UInt8) (rest : List UInt8) :
    (cutLine (b :: rest)).2.length ≤ rest.length := by
  induction rest generalizing b with
  | nil =>
    rw [cutLine]
    split <;> simp [cutLine]
  | cons c more ih =>
    rw [cutLine]
    split
    · exact Nat.le_refl _
    · exact Nat.le_succ_of_le (ih c)

/-- Any bound on the number of lines that is not below the number of bytes gives all lines. -/
theorem linesOf_of_le {fuel : Nat} {bytes : List UInt8} (enough : bytes.length ≤ fuel) :
    linesOf fuel bytes = linesOf bytes.length bytes := by
  -- strong, since a line may take any number of bytes with it
  induction fuel using Nat.strongRecOn generalizing bytes with
  | ind fuel ih =>
    cases bytes with
    | nil => cases fuel <;> rfl
    | cons b rest =>
      rw [List.length_cons] at enough
      obtain ⟨k, rfl⟩ : ∃ k, fuel = k + 1 := ⟨fuel - 1, by omega⟩
      have shorter := length_cutLine_le b rest
      rw [List.length_cons, linesOf, linesOf, ih k (by omega) (by omega)]
      by_cases same : rest.length = k
      · rw [same, ih k (by omega) (by omega)]
      · rw [ih rest.length (by omega) shorter]

/-- The first line of input, and the others. -/
theorem inputLines_terminated {line : List UInt8} (single : 10 ∉ line) (rest : List UInt8) :
    inputLines (line ++ 10 :: rest) = Text.ofValidBytes? (line ++ [10]) :: inputLines rest := by
  have cut := cutLine_terminated single rest
  have size : (line ++ 10 :: rest).length = (line.length + rest.length) + 1 := by
    simp only [List.length_append, List.length_cons]
    omega
  unfold inputLines
  rw [size]
  cases bytes : line ++ 10 :: rest with
  | nil => simp at bytes
  | cons b more =>
    rw [bytes] at cut
    have enough : rest.length ≤ line.length + rest.length := Nat.le_add_left ..
    rw [linesOf, cut, linesOf_of_le enough, List.map_cons]

/-- Input without a newline is one line, or none if it is empty. -/
theorem inputLines_of_notMem {line : List UInt8} (single : 10 ∉ line) :
    inputLines line = if line = [] then [] else [Text.ofValidBytes? line] := by
  cases line with
  | nil => rfl
  | cons b more =>
    have cut := cutLine_of_notMem single
    unfold inputLines
    rw [List.length_cons, linesOf, cut, if_neg (List.cons_ne_nil b more)]
    cases more.length <;> rfl

/-! ## Commands as arguments -/

/-- The same arguments with commands ahead of their own. -/
def Arguments.ahead (commands : List String) (a : Arguments) : Arguments :=
  { a with commands := commands ++ a.commands }

/-- The same request with commands ahead of its own. -/
def Invoked.ahead (commands : List String) : Invoked → Invoked
  | .run file a => .run file (a.ahead commands)
  | other => other

section Arguments

variable (commands : List String) (a : Arguments)

/-- An option is taken in behind commands that are there already. -/
theorem takeValue_ahead (o : CommandOption) (value : String) :
    (a.ahead commands).takeValue o value =
      (a.takeValue o value).map (Arguments.ahead commands) := by
  unfold Arguments.takeValue Arguments.ahead
  cases o with
  | program =>
    dsimp only
    split <;> rfl
  | home =>
    dsimp only
    split <;> rfl
  | timeout =>
    dsimp only
    split
    · rfl
    · cases readWord64? value <;> rfl
  | config =>
    dsimp only
    split <;> rfl
  | command => simp

/-- So is a file. -/
theorem takeFile_ahead (value : String) :
    (a.ahead commands).takeFile value = (a.takeFile value).map (Arguments.ahead commands) := by
  unfold Arguments.takeFile Arguments.ahead
  dsimp only
  split <;> rfl

/-- The arguments that are complete have their commands in front. -/
theorem finish_ahead : (a.ahead commands).finish = a.finish.ahead commands := by
  obtain ⟨file, flags, config, own⟩ := a
  cases file <;> rfl

/-- So have files that are read one after the other. -/
theorem readFiles_ahead (args : List String) :
    readFiles args (a.ahead commands) = (readFiles args a).ahead commands := by
  induction args generalizing a with
  | nil => exact finish_ahead commands a
  | cons arg rest ih =>
    simp only [readFiles, takeFile_ahead]
    cases a.takeFile arg with
    | none => rfl
    | some taken => exact ih taken

/-- Commands that were given before the other arguments are read stay ahead of those in them. -/
theorem readArguments_ahead (pending : Option CommandOption) (args : List String) :
    readArguments pending args (a.ahead commands) =
      (readArguments pending args a).ahead commands := by
  -- what has been read and the option that waits for its value change from argument to argument
  induction args generalizing a pending with
  | nil =>
    cases pending with
    | none => exact finish_ahead commands a
    | some o => rfl
  | cons arg rest ih =>
    cases pending with
    | some o =>
      simp only [readArguments, takeValue_ahead]
      split
      · rfl
      · cases a.takeValue o arg with
        | none => rfl
        | some taken => exact ih taken none
    | none =>
      simp only [readArguments, takeValue_ahead, takeFile_ahead]
      split
      · exact readFiles_ahead commands a rest
      · split
        · cases OptionWord.ofArgument arg with
          | withValue o value =>
            dsimp only
            cases a.takeValue o value with
            | none => rfl
            | some taken => exact ih taken none
          | awaiting o => exact ih a (some o)
          | version => rfl
          | help => rfl
          | unknown => rfl
        · cases a.takeFile arg with
          | none => rfl
          | some taken => exact ih taken none

end Arguments

/-- An argument that gives a command. -/
theorem ofArguments_command (command : String) (args : List String) :
    Invoked.ofArguments (("-c=" ++ command) :: args) =
      (Invoked.ofArguments args).ahead [command] := by
  have chars : ("-c=" ++ command).toList = '-' :: 'c' :: '=' :: command.toList := by simp
  have option : isOption ("-c=" ++ command) = true := by simp [isOption, chars]
  have read : OptionWord.ofArgument ("-c=" ++ command) = .withValue .command command := by
    rw [OptionWord.ofArgument, chars]
    simp [OptionWord.ofShort]
  have dashes : "-c=" ++ command ≠ "--" := by
    intro same
    rw [same] at chars
    exact absurd chars (by simp)
  have taken : ({} : Arguments).takeValue .command command =
      some (({} : Arguments).ahead [command]) := rfl
  rw [Invoked.ofArguments, readArguments, if_neg dashes, if_pos option, read]
  dsimp only
  rw [taken]
  exact readArguments_ahead [command] {} none args

/-- Every list of commands can be given as arguments, whatever the commands are. -/
theorem ofArguments_commands (commands args : List String) :
    Invoked.ofArguments (commands.map ("-c=" ++ ·) ++ args) =
      (Invoked.ofArguments args).ahead commands := by
  induction commands with
  | nil =>
    rw [List.map_nil, List.nil_append]
    cases Invoked.ofArguments args <;> rfl
  | cons command rest ih =>
    rw [List.map_cons, List.cons_append, ofArguments_command, ih]
    cases Invoked.ofArguments args <;> rfl

/-! ## Commands as input -/

/-- A text without a newline has no newline among its bytes. -/
theorem newline_notMem_utf8 {text : String} (single : '\n' ∉ text.toList) :
    10 ∉ Text.utf8 text := by
  intro mem
  obtain ⟨c, hc, hb⟩ := List.mem_flatMap.1 mem
  have same : (10 : UInt8).toNat = c.toNat := Text.toNat_of_mem_encodeChar hb (by decide)
  have newline : c = '\n' := by
    rw [← Char.ofNat_toNat c, ← same]
    rfl
  exact single (newline ▸ hc)

/-- The bytes of commands, each with a newline after it. -/
def fed (commands : List String) : List UInt8 :=
  commands.flatMap fun command => Text.utf8 (command ++ "\n")

/-- Each command is fed with a newline. -/
theorem fed_cons (command : String) (rest : List String) :
    fed (command :: rest) = Text.utf8 command ++ 10 :: fed rest := by
  have newline : Text.utf8 "\n" = [10] := by decide
  rw [fed, List.flatMap_cons, Text.utf8_append, newline, List.append_assoc]
  rfl

/-- Commands that are fed are read line by line, whatever follows. -/
theorem inputLines_fed_append {commands : List String}
    (single : ∀ command ∈ commands, '\n' ∉ command.toList) (bytes : List UInt8) :
    inputLines (fed commands ++ bytes) =
      commands.map (fun command => some (command ++ "\n")) ++ inputLines bytes := by
  induction commands with
  | nil => rfl
  | cons command rest ih =>
    have first : '\n' ∉ command.toList := single command (List.mem_cons_self ..)
    have others : ∀ other ∈ rest, '\n' ∉ other.toList :=
      fun other mem => single other (List.mem_cons_of_mem command mem)
    have newline : [10] = Text.utf8 "\n" := by decide
    rw [fed_cons, List.append_assoc, List.cons_append,
      inputLines_terminated (newline_notMem_utf8 first), ih others, newline, ← Text.utf8_append,
      Text.ofValidBytes?_utf8]
    rfl

/-- Input feeds commands if it has them as its lines. The last newline may be missing. -/
def Feeds (input : List UInt8) (commands : List String) : Prop :=
  input = fed commands ∨ input ++ [10] = fed commands

/-- A last newline that is missing leaves the last command without one, and leaves out an empty one.
-/
theorem inputLines_of_missing {input : List UInt8} {first : List String} {last : String}
    (single : ∀ command ∈ first ++ [last], '\n' ∉ command.toList)
    (missing : input ++ [10] = fed (first ++ [last])) :
    inputLines input = first.map (fun command => some (command ++ "\n")) ++
      if last = "" then [] else [some last] := by
  have unended : '\n' ∉ last.toList := single last (by simp)
  have others : ∀ command ∈ first, '\n' ∉ command.toList :=
    fun command mem => single command (List.mem_append_left _ mem)
  -- the last byte of what would have been fed is the newline that is missing
  have bytes : input = fed first ++ Text.utf8 last := by
    rw [fed, List.flatMap_append, ← fed, ← fed, fed_cons] at missing
    have dropped := congrArg List.dropLast missing
    simpa [fed, ← List.append_assoc] using dropped
  rw [bytes, inputLines_fed_append others, inputLines_of_notMem (newline_notMem_utf8 unended),
    Text.ofValidBytes?_utf8]
  by_cases none : last = ""
  · subst none
    rfl
  · have some : Text.utf8 last ≠ [] := by
      intro empty
      have read := Text.ofBytes_utf8 last
      rw [empty] at read
      exact none read.symm
    rw [if_neg some, if_neg none]

/-! ## Lines that are executed -/

namespace Frontend

variable {τ : Type}

/-- White space around a line does not change what it does. -/
theorem execute_of_trim {line other : String} (same : Text.trim line = Text.trim other)
    (f : Frontend τ) (w : World (Session τ)) : f.execute line w = f.execute other w := by
  unfold execute
  rw [same]

/-- An empty line does nothing. -/
theorem executeAll_empty (f : Frontend τ) (w : World (Session τ)) :
    f.executeAll [some ""] w = f.executeAll [] w := by
  have blank : Text.trim "" = "" := by decide
  simp only [executeAll, execute, blank, if_pos]

/-- Lines that differ in the white space around them, before lines that do the same, do the same. -/
theorem executeAll_append_congr {g h : String → String}
    (same : ∀ line, Text.trim (g line) = Text.trim (h line)) {f : Frontend τ}
    {rest others : List (Option String)} (tails : ∀ w, f.executeAll rest w = f.executeAll others w)
    (lines : List String) (w : World (Session τ)) :
    f.executeAll (lines.map (fun line => some (g line)) ++ rest) w =
      f.executeAll (lines.map (fun line => some (h line)) ++ others) w := by
  induction lines generalizing w with
  | nil => exact tails w
  | cons line more ih =>
    simp only [List.map_cons, List.cons_append, executeAll, execute_of_trim (same line) f w]
    rcases f.execute (h line) w with ⟨(_ | _) | _ | _, after⟩
    · exact ih after
    · rfl
    · rfl
    · rfl

/-- A line that quits is the last that is executed. -/
theorem executeAll_quit {quit : String} (quits : Text.trim quit = "q" ∨ Text.trim quit = "quit")
    (f : Frontend τ) (after : List (Option String)) (w : World (Session τ)) :
    f.executeAll (some quit :: after) w = (.done, w) := by
  have some : Text.trim quit ≠ "" := by
    rcases quits with q | q <;> rw [q] <;> decide
  simp only [executeAll, execute, if_neg some, if_pos quits]

end Frontend

/-- A newline at the end of a line is white space. -/
theorem trim_append_newline (line : String) : Text.trim (line ++ "\n") = Text.trim line :=
  Text.trim_append_blank (c := '\n') (by decide) line

/-- The lines of a shell that is given commands. -/
theorem plannedLines_of_ne_nil {commands : List String} (given : commands ≠ [])
    (stdin : List UInt8) : plannedLines commands stdin = commands.map some := by
  rw [plannedLines, if_neg (by simpa using given)]

/-- The lines of a shell that is given no commands. -/
theorem plannedLines_nil (stdin : List UInt8) : plannedLines [] stdin = inputLines stdin := rfl

/-- Commands do the same as arguments and as input. -/
theorem executeAll_plannedLines {commands : List String} (given : commands ≠ [])
    (single : ∀ command ∈ commands, '\n' ∉ command.toList) {input : List UInt8}
    (feeds : Feeds input commands) (stdin : List UInt8) {τ : Type} (f : Frontend τ)
    (w : World (Session τ)) :
    f.executeAll (plannedLines commands stdin) w = f.executeAll (plannedLines [] input) w := by
  rw [plannedLines_of_ne_nil given, plannedLines_nil]
  rcases feeds with rfl | missing
  · have lines := inputLines_fed_append single []
    rw [List.append_nil] at lines
    rw [lines, ← List.append_nil (commands.map some)]
    exact (Frontend.executeAll_append_congr trim_append_newline (fun _ => rfl) commands w).symm
  · -- the last line has no newline, and is not there at all if its command is empty
    obtain ⟨first, last, rfl⟩ := List.eq_nil_or_concat commands |>.resolve_left given
    rw [List.concat_eq_append] at single missing ⊢
    rw [inputLines_of_missing single missing, List.map_append]
    refine (Frontend.executeAll_append_congr trim_append_newline ?_ first w).symm
    intro v
    split
    · next none => rw [none, List.map_singleton, f.executeAll_empty]
    · rfl

section Quitting

variable {τ : Type} {before : List String} {quit : String}

/-- Commands after one that quits are not executed. -/
theorem executeAll_commands_quit (quits : Text.trim quit = "q" ∨ Text.trim quit = "quit")
    (after : List String) (stdin : List UInt8) (f : Frontend τ) (w : World (Session τ)) :
    f.executeAll (plannedLines (before ++ quit :: after) stdin) w =
      f.executeAll (before.map some ++ [some quit]) w := by
  rw [plannedLines_of_ne_nil (by simp), List.map_append, List.map_cons]
  refine Frontend.executeAll_append_congr (fun _ => rfl) (fun v => ?_) before w
  rw [f.executeAll_quit quits, f.executeAll_quit quits]

/-- Input after a line that quits is not read. -/
theorem executeAll_input_quit (quits : Text.trim quit = "q" ∨ Text.trim quit = "quit")
    (single : ∀ command ∈ before ++ [quit], '\n' ∉ command.toList) (bytes : List UInt8)
    (f : Frontend τ) (w : World (Session τ)) :
    f.executeAll (plannedLines [] (fed (before ++ [quit]) ++ bytes)) w =
      f.executeAll (before.map some ++ [some quit]) w := by
  have ended : Text.trim (quit ++ "\n") = "q" ∨ Text.trim (quit ++ "\n") = "quit" := by
    rwa [trim_append_newline]
  rw [plannedLines_nil, inputLines_fed_append single, List.map_append, List.map_singleton,
    List.append_assoc]
  refine Frontend.executeAll_append_congr trim_append_newline (fun v => ?_) before w
  rw [List.singleton_append, f.executeAll_quit ended, f.executeAll_quit quits]

end Quitting

/-! ## Whole runs -/

section Runs

variable {π : Type}

/-- Shells that differ in where their lines come from alone, and whose lines do the same, do the
same. -/
theorem run_congr (peer : Peer π) (around : Surroundings) {stdin : List UInt8} {file : String}
    {a : Arguments} {commands others : List String} {args args' : List String}
    (read : Invoked.ofArguments args = .run file { a with commands := commands })
    (read' : Invoked.ofArguments args' = .run file { a with commands := others })
    (same : ∀ (f : Frontend (Pipe π)) w, f.executeAll (plannedLines commands around.stdin) w =
      f.executeAll (plannedLines others stdin) w) :
    run peer around args = run peer { around with stdin := stdin } args' := by
  have served : ∀ settings pipe, serve peer around settings commands pipe =
      serve peer { around with stdin := stdin } settings others pipe := by
    intro settings pipe
    have setup : settings.setup { around with stdin := stdin } = settings.setup around := rfl
    simp only [serve, setup, same]
  simp only [run, read, read', runWith, served]

/-- The lines that radare2 receives while a shell runs, the last one included, if it was started. -/
def linesSent (peer : Peer π) (around : Surroundings) (args : List String) : Option (List String) :=
  (run peer.recorded around args).peer.map Prod.snd

/-- A shell does the same with commands that it gets as arguments and with commands that it reads:
the same output and exit code, the same session and scripts in the end, and the same lines to
radare2, if time passes and chance falls in the same way (`Surroundings.readings`). Nothing after a
command that quits matters, be it more commands or any bytes of input. -/
theorem batch_agrees_with_input (peer : Peer π) (around : Surroundings) {file : String}
    {a : Arguments} {commands : List String} (given : commands ≠ [])
    (single : ∀ command ∈ commands, '\n' ∉ command.toList) {input : List UInt8}
    (feeds : Feeds input commands) {args args' : List String}
    (batch : Invoked.ofArguments args = .run file { a with commands := commands })
    (bare : Invoked.ofArguments args' = .run file { a with commands := [] }) :
    run peer around args = run peer { around with stdin := input } args' ∧
      linesSent peer around args = linesSent peer { around with stdin := input } args' ∧
      ∀ before quit after, commands = before ++ quit :: after →
        Text.trim quit = "q" ∨ Text.trim quit = "quit" →
          (∀ fewer, Invoked.ofArguments fewer =
              .run file { a with commands := before ++ [quit] } →
            run peer around args = run peer around fewer) ∧
          ∀ bytes, run peer around args =
            run peer { around with stdin := fed (before ++ [quit]) ++ bytes } args' := by
  have same {θ : Type} (f : Frontend θ) (w : World (Session θ)) :=
    executeAll_plannedLines given single feeds around.stdin f w
  have sent : run peer.recorded around args =
      run peer.recorded { around with stdin := input } args' :=
    run_congr peer.recorded around batch bare same
  refine ⟨run_congr peer around batch bare same, by rw [linesSent, linesSent, sent], ?_⟩
  rintro before quit after rfl quits
  constructor
  · intro fewer read
    refine run_congr peer around batch read fun f w => ?_
    rw [executeAll_commands_quit quits, executeAll_commands_quit quits]
  · intro bytes
    have kept : ∀ command ∈ before ++ [quit], '\n' ∉ command.toList := by
      intro command mem
      refine single command ?_
      rw [List.append_cons]
      exact List.mem_append_left after mem
    refine run_congr peer around batch bare fun f w => ?_
    rw [executeAll_commands_quit quits, executeAll_input_quit quits kept]

/-- Commands that are fed to a shell with white space, an empty line, an early end and no last
newline: they do what they do as arguments, down to the lines that a counting process receives. -/
theorem batch_agrees_with_input_counting :
    let around : Surroundings :=
      { engine := jsonInterpreter.engine, depth := jsonInterpreter.levels }
    let commands := [" s main", "", "e r2dec.asm", "quit ", "px"]
    let input := Text.utf8 " s main\n\ne r2dec.asm\nquit \npx"
    run countingPeer around (commands.map ("-c=" ++ ·) ++ ["a.out"]) =
        run countingPeer { around with stdin := input } ["a.out"] ∧
      linesSent countingPeer { around with stdin := input } ["a.out"] = some ["s main", "q!"] := by
  intro around commands input
  have read := ofArguments_commands commands ["a.out"]
  have bare : Invoked.ofArguments ["a.out"] = .run "a.out" { file := some "a.out" } := by decide
  rw [bare] at read
  have feeds : Feeds input commands := .inr (by decide)
  have agree := batch_agrees_with_input countingPeer around (by decide) (by decide) feeds read bare
  have sent : linesSent countingPeer { around with stdin := input } ["a.out"] =
      some ["s main", "q!"] := by
    decide +kernel
  exact ⟨agree.1, sent⟩

end Runs

end DecompilerBridge.Shell
