import DecompilerBridge.Shell.Session

/-!
# The pipe stays in step

radare2 answers every line that it receives, so the shell and radare2 understand each other only as
long as the shell writes one line per command and reads one reply per line. A pipe is in step if all
that radare2 has sent is read (`Pipe.InStep`). An encoded command is one line
(`writtenLines_encodeCommand`) and a reply is read to its end (`readReply_terminated`), so a command
takes a pipe that is in step to a pipe that is in step and gets the answer to its own line
(`Pipe.InStep.command`). Texts that the session serves itself leave the pipe alone.
-/

set_option autoImplicit false

namespace DecompilerBridge.Shell

/-! ## Lines -/

/-- An encoded command holds no newline. -/
theorem newline_notMem_encodeCommand (text : String) : '\n' ∉ (encodeCommand text).toList := by
  simp only [encodeCommand, String.toList_ofList, List.mem_map, not_exists, not_and]
  intro c _ h
  split at h
  · exact absurd h (by decide)
  · contradiction

/-- Characters without a newline make one line. -/
theorem cutLines_of_notMem {cs : List Char} (single : '\n' ∉ cs) : cutLines cs = (cs, []) := by
  induction cs with
  | nil => rfl
  | cons c rest ih =>
    rw [List.mem_cons, not_or] at single
    have other : ¬c = '\n' := fun same => single.1 same.symm
    rw [cutLines, if_neg other, ih single.2]

/-- A text without a newline is written as one line. -/
theorem writtenLines_of_notMem {text : String} (single : '\n' ∉ text.toList) :
    writtenLines text = [text] := by
  rw [writtenLines, cutLines_of_notMem single]
  simp

/-- A command without a newline is its own line. -/
theorem encodeCommand_of_notMem {text : String} (single : '\n' ∉ text.toList) :
    encodeCommand text = text := by
  have unended : text.toList.reverse.dropWhile (· == '\n') = text.toList.reverse := by
    rw [← List.mem_reverse] at single
    generalize text.toList.reverse = backwards at single ⊢
    cases backwards with
    | nil => rfl
    | cons c rest =>
      rw [List.mem_cons, not_or] at single
      exact List.dropWhile_cons_of_neg (by simpa using Ne.symm single.1)
  have others : text.toList.map (fun c => if c = '\n' then ';' else c) = text.toList.map id := by
    refine List.map_congr_left fun c mem => if_neg ?_
    rintro rfl
    exact single mem
  rw [encodeCommand, unended, List.reverse_reverse, others, List.map_id, String.ofList_toList]

/-- An encoded command is written as one line. -/
theorem writtenLines_encodeCommand (text : String) :
    writtenLines (encodeCommand text) = [encodeCommand text] :=
  writtenLines_of_notMem (newline_notMem_encodeCommand text)

/-! ## Replies -/

/-- Bytes without a NUL belong to the reply that goes on after them. -/
theorem cutReply_append {bytes : List UInt8} (free : 0 ∉ bytes) (rest : List UInt8) :
    cutReply (bytes ++ rest) = (bytes ++ (cutReply rest).1, (cutReply rest).2) := by
  induction bytes with
  | nil => rfl
  | cons b more ih =>
    rw [List.mem_cons, not_or] at free
    have other : ¬b = 0 := fun same => free.1 same.symm
    rw [List.cons_append, cutReply, if_neg other, ih free.2]
    rfl

/-- A stream that is not at its end has a reply. -/
theorem readReply_of_ne_nil {stream : List UInt8} (some : stream ≠ []) :
    readReply stream = .some (Text.ofBytes (cutReply stream).1, (cutReply stream).2) := by
  obtain ⟨b, rest, rfl⟩ := List.exists_cons_of_ne_nil some
  rfl

/-- A reply that ends with its NUL is read as a whole, and what follows is kept. -/
theorem readReply_terminated {reply : List UInt8} (free : 0 ∉ reply) (rest : List UInt8) :
    readReply (reply ++ 0 :: rest) = some (Text.ofBytes reply, rest) := by
  rw [readReply_of_ne_nil (by simp), cutReply_append free]
  simp [cutReply]

/-! ## Processes -/

namespace Peer

variable {π : Type}

/-- A process answers every line with bytes that hold no NUL, and one NUL after them. The bytes may
depend on the line and on all that the process has seen before. -/
structure Answers (peer : Peer π) (answer : String → π → List UInt8) : Prop where
  sent : ∀ line x, (peer.receive line x).sent = answer line x ++ [0]
  free : ∀ line x, 0 ∉ answer line x
  stays : ∀ line x, (peer.receive line x).alive = true

/-- The state of a process after some more lines. -/
def after (peer : Peer π) (lines : List String) (x : π) : π :=
  lines.foldl (fun y line => (peer.receive line y).state) x

/-- A process takes in the first line and then the others. -/
theorem after_cons (peer : Peer π) (line : String) (rest : List String) (x : π) :
    peer.after (line :: rest) x = peer.after rest (peer.receive line x).state := rfl

/-- The process that also writes down the lines that it receives. -/
def recorded (peer : Peer π) : Peer (π × List String) where
  start program file := (peer.start program file).map fun turn =>
    ⟨turn.sent, turn.alive, (turn.state, [])⟩
  receive line x :=
    let turn := peer.receive line x.1
    ⟨turn.sent, turn.alive, (turn.state, x.2 ++ [line])⟩

/-- A process that writes its lines down answers as before. -/
theorem Answers.recorded {peer : Peer π} {answer : String → π → List UInt8}
    (answers : peer.Answers answer) : peer.recorded.Answers fun line x => answer line x.1 where
  sent line x := answers.sent line x.1
  free line x := answers.free line x.1
  stays line x := answers.stays line x.1

/-- A process that writes its lines down has exactly these lines written down afterwards. -/
theorem after_recorded (peer : Peer π) (lines : List String) (x : π) (noted : List String) :
    peer.recorded.after lines (x, noted) = (peer.after lines x, noted ++ lines) := by
  induction lines generalizing x noted with
  | nil => simp [after]
  | cons line rest ih =>
    rw [after_cons, after_cons, List.append_cons noted line rest]
    exact ih (peer.receive line x).state (noted ++ [line])

/-- The lines that a process takes in of those that are written to it: all of them up to the one
that ends it. -/
def heard (peer : Peer π) : List String → π → Bool → List String
  | [], _, _ => []
  | line :: rest, x, alive =>
    if alive then
      let turn := peer.receive line x
      line :: peer.heard rest turn.state turn.alive
    else []

/-- A process that is there takes in the first line that is written to it. -/
theorem heard_cons_of_alive (peer : Peer π) (line : String) (rest : List String) (x : π) :
    peer.heard (line :: rest) x true =
      line :: peer.heard rest (peer.receive line x).state (peer.receive line x).alive := rfl

/-- A process that has ended takes in nothing. -/
theorem heard_of_ended (peer : Peer π) (lines : List String) (x : π) :
    peer.heard lines x false = [] := by
  cases lines <;> rfl

end Peer

/-! ## One command -/

namespace Pipe

variable {π : Type} {peer : Peer π} {answer : String → π → List UInt8}

/-- The process of a pipe is there, in the state `x`, and nothing that it sent is unread. -/
structure InStep (p : Pipe π) (x : π) : Prop where
  peer : p.peer = x
  unread : p.unread = []
  alive : p.alive = true

/-- A process that has sent a greeting and one NUL is in step from the start. -/
theorem start_inStep {program file : String} {greeting : List UInt8} {x : π}
    (started : peer.start program file = some ⟨greeting ++ [0], true, x⟩) (free : 0 ∉ greeting) :
    ∃ p, start peer program file = (.ok p, some p) ∧ p.InStep x := by
  refine ⟨⟨x, [], true⟩, ?_, rfl, rfl, rfl⟩
  simp only [start, started, readReply_terminated free []]

/-- A command on a pipe that is in step gets the answer to its own line, and leaves the pipe in step
after this one line. -/
theorem InStep.command {p : Pipe π} {x : π} (inStep : p.InStep x) (answers : peer.Answers answer)
    (text : String) :
    let line := encodeCommand text
    (p.command peer text).1 = .ok (Text.ofBytes (answer line x)) ∧
      (p.command peer text).2.InStep (peer.receive line x).state := by
  intro line
  obtain ⟨rfl, unread, alive⟩ := inStep
  -- one line is delivered, so what is there to be read is the answer to it and nothing else
  have written : p.write peer line =
      ⟨(peer.receive line p.peer).state, answer line p.peer ++ [0], true⟩ := by
    rw [write, writtenLines_encodeCommand, List.foldl_cons, List.foldl_nil, deliver, if_pos alive]
    simp only [unread, List.nil_append, answers.sent, answers.stays, line]
  simp only [Pipe.command, if_pos alive]
  rw [written, readReply_terminated (answers.free line p.peer) []]
  exact ⟨rfl, rfl, rfl, rfl⟩

/-- A command on a pipe to a process that is there is received as one line, and whether the process
is there afterwards is for the process to say. -/
theorem command_recorded (peer : Peer π) (text : String) {p : Pipe (π × List String)}
    (alive : p.alive = true) :
    let turn := peer.receive (encodeCommand text) p.peer.1
    let after := (p.command peer.recorded text).2
    after.peer = (turn.state, p.peer.2 ++ [encodeCommand text]) ∧ after.alive = turn.alive := by
  intro turn after
  have written : p.write peer.recorded (encodeCommand text) =
      ⟨(turn.state, p.peer.2 ++ [encodeCommand text]), p.unread ++ turn.sent, turn.alive⟩ := by
    rw [write, writtenLines_encodeCommand, List.foldl_cons, List.foldl_nil, deliver, if_pos alive]
    rfl
  -- what is read of the answer does not matter to the process
  simp only [after, Pipe.command, if_pos alive, written]
  cases readReply (p.unread ++ turn.sent) <;> exact ⟨rfl, rfl⟩

/-- A command on a pipe to a process that has ended changes nothing. -/
theorem command_of_ended (peer : Peer π) (text : String) {p : Pipe π} (ended : p.alive = false) :
    (p.command peer text).2 = p := by
  rw [Pipe.command, ended]
  rfl

end Pipe

/-! ## Sessions -/

/-- The lines that a session sends for texts: none for those that it serves itself, and one for each
of the others. -/
def sentLines (texts : List String) : List String :=
  (texts.filter fun text => (preferenceExpression? text).isNone).map encodeCommand

/-- The lines that a session sends hold no newline. -/
theorem newline_notMem_sentLines {texts : List String} {line : String}
    (sent : line ∈ sentLines texts) : '\n' ∉ line.toList := by
  obtain ⟨text, -, rfl⟩ := List.mem_map.1 sent
  exact newline_notMem_encodeCommand text

/-- A text that is served by the session sends nothing. -/
theorem sentLines_cons_of_preference {text expression : String} (rest : List String)
    (served : preferenceExpression? text = some expression) :
    sentLines (text :: rest) = sentLines rest := by
  simp [sentLines, served]

/-- Any other text sends one line. -/
theorem sentLines_cons_of_command {text : String} (rest : List String)
    (other : preferenceExpression? text = none) :
    sentLines (text :: rest) = encodeCommand text :: sentLines rest := by
  simp [sentLines, other]

namespace Session

/-- The session after the commands of some texts. -/
def afterCommands {τ : Type} (t : Transport τ) (texts : List String) (s : Session τ) : Session τ :=
  texts.foldl (fun s text => (s.command t text).2.2) s

/-- A session runs the first command and then the others. -/
theorem afterCommands_cons {τ : Type} (t : Transport τ) (text : String) (rest : List String)
    (s : Session τ) :
    s.afterCommands t (text :: rest) = (s.command t text).2.2.afterCommands t rest := by
  rw [afterCommands, List.foldl_cons, afterCommands]

variable {π : Type} {peer : Peer π} {answer : String → π → List UInt8}

/-- A text that the session serves itself leaves the pipe alone. -/
theorem command_of_preference {τ : Type} (t : Transport τ) {text expression : String}
    (served : preferenceExpression? text = some expression) (s : Session τ) :
    (s.command t text).2.2.transport = s.transport := by
  simp only [command, served]

/-- Any other text gets the answer to its own line, with nothing to note, and leaves the pipe in
step after this line. -/
theorem command_inStep (answers : peer.Answers answer) {s : Session (Pipe π)} {x : π}
    (inStep : s.transport.InStep x) {text : String} (other : preferenceExpression? text = none) :
    let line := encodeCommand text
    let served := s.command (Transport.ofPeer peer) text
    served.1 = Text.ofBytes (answer line x) ∧ served.2.1 = [] ∧
      served.2.2.transport.InStep (peer.receive line x).state := by
  intro line served
  obtain ⟨replied, after⟩ := inStep.command answers text
  have sent : (Transport.ofPeer peer).send text s.transport =
      (.ok (Text.ofBytes (answer line x)), (s.transport.command peer text).2) := by
    simp only [Transport.ofPeer, replied]
    rfl
  have outcome : served = (Text.ofBytes (answer line x), [],
      { s with transport := (s.transport.command peer text).2 }) := by
    simp only [served, Session.command, other, sent]
  rw [outcome]
  exact ⟨rfl, rfl, after⟩

/-- Commands leave the pipe in step, after the lines that they send. -/
theorem afterCommands_inStep (answers : peer.Answers answer) (texts : List String)
    {s : Session (Pipe π)} {x : π} (inStep : s.transport.InStep x) :
    (s.afterCommands (Transport.ofPeer peer) texts).transport.InStep
      (peer.after (sentLines texts) x) := by
  -- a text moves the process on by one line, or by none if the session serves it
  induction texts generalizing s x with
  | nil => exact inStep
  | cons text rest ih =>
    cases expression : preferenceExpression? text with
    | some e =>
      have kept := command_of_preference (Transport.ofPeer peer) expression s
      rw [afterCommands_cons, sentLines_cons_of_preference rest expression]
      rw [← kept] at inStep
      exact ih inStep
    | none =>
      have next := (command_inStep answers inStep expression).2.2
      rw [afterCommands_cons, sentLines_cons_of_command rest expression, Peer.after_cons]
      exact ih next

end Session

/-- The pipe never loses step. With a process that greets and then answers every line, a session has
received the answers to its own lines and nothing is left unread, after any commands; every further
command that the session does not serve itself is answered with the text of the answer to its own
line; and the process receives one line for each of these commands, in order, and no other. -/
theorem session_stays_in_step {π : Type} {peer : Peer π} {answer : String → π → List UInt8}
    (answers : peer.Answers answer) {program file : String} {greeting : List UInt8} {x : π}
    (started : peer.start program file = some ⟨greeting ++ [0], true, x⟩) (free : 0 ∉ greeting) :
    ∃ p : Pipe (π × List String), Pipe.start peer.recorded program file = (.ok p, some p) ∧
      ∀ s : Session (Pipe (π × List String)), s.transport = p → ∀ before : List String,
        let t := Transport.ofPeer peer.recorded
        let now := s.afterCommands t before
        let seen := peer.after (sentLines before) x
        now.transport.unread = [] ∧ now.transport.peer = (seen, sentLines before) ∧
          (∀ line ∈ sentLines before, '\n' ∉ line.toList) ∧
          ∀ text, preferenceExpression? text = none →
            let served := now.command t text
            served.1 = Text.ofBytes (answer (encodeCommand text) seen) ∧ served.2.1 = [] ∧
              served.2.2.transport.unread = [] ∧
              served.2.2.transport.peer.2 = sentLines before ++ [encodeCommand text] := by
  -- the process that writes its lines down tells which it has received
  have startedRecorded : peer.recorded.start program file =
      some ⟨greeting ++ [0], true, (x, [])⟩ := by
    simp only [Peer.recorded, started, Option.map_some]
  obtain ⟨p, opened, inStep⟩ := Pipe.start_inStep startedRecorded free
  refine ⟨p, opened, ?_⟩
  rintro s rfl before
  dsimp only
  have there := Session.afterCommands_inStep answers.recorded before inStep
  rw [peer.after_recorded, List.nil_append] at there
  refine ⟨there.unread, there.peer, fun line sent => newline_notMem_sentLines sent, ?_⟩
  intro text other
  have served := Session.command_inStep answers.recorded there other
  -- What the command does is settled, and must not be evaluated again.
  generalize Session.command _ text _ = ended at served ⊢
  obtain ⟨replied, noted, next⟩ := served
  exact ⟨replied, noted, next.unread, congrArg Prod.snd next.peer⟩

/-- A byte that is no text, one mark for every line received before, and the line without NULs. -/
def countingAnswer (line : String) (n : Nat) : List UInt8 :=
  0xFF :: List.replicate n 33 ++ (Text.utf8 line).filter (· ≠ 0)

/-- A process that greets and then counts the lines that it receives. -/
def countingPeer : Peer Nat where
  start _ _ := some ⟨Text.utf8 "ready" ++ [0], true, 0⟩
  receive line n := ⟨countingAnswer line n ++ [0], true, n + 1⟩

/-- Newlines at every place, empty texts and preference commands do not bring a session with such a
process out of step: the fourth line is answered as the fourth. -/
theorem session_stays_in_step_counting :
    let before := ["\ns main\npdf\n", " e r2dec.asm", "", "e r2dec.theme=\n", "\n\n"]
    ∃ p : Pipe (Nat × List String),
      Pipe.start countingPeer.recorded "r2" "/bin/true" = (.ok p, some p) ∧
        let t := Transport.ofPeer countingPeer.recorded
        let served := (Session.afterCommands t before { transport := p }).command t "px\n"
        served.1 = "\uFFFD!!!px" ∧ served.2.2.transport.unread = [] ∧
          served.2.2.transport.peer.2 = [";s main;pdf", "", "", "px"] := by
  intro before
  have answers : countingPeer.Answers countingAnswer :=
    { sent := fun _ _ => rfl
      free := by simp [countingAnswer, List.mem_replicate]
      stays := fun _ _ => rfl }
  have started : countingPeer.start "r2" "/bin/true" =
      some ⟨Text.utf8 "ready" ++ [0], true, 0⟩ := rfl
  obtain ⟨p, opened, steps⟩ := session_stays_in_step answers started (by decide +kernel)
  obtain ⟨-, -, -, replies⟩ := steps { transport := p } rfl before
  obtain ⟨replied, -, unread, received⟩ := replies "px\n" (by decide +kernel)
  have read : Text.ofBytes (countingAnswer (encodeCommand "px\n")
      (countingPeer.after (sentLines before) 0)) = "\uFFFD!!!px" := by
    decide +kernel
  have lines : sentLines before ++ [encodeCommand "px\n"] = [";s main;pdf", "", "", "px"] := by
    decide +kernel
  exact ⟨p, opened, replied.trans read, unread, received.trans lines⟩

end DecompilerBridge.Shell
