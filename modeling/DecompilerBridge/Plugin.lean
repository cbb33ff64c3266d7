import DecompilerBridge.World

/-!
# The plugin

The plugin as a host sees it: running the scripts, dispatching commands, registration, and the
host's own calls back into the plugin while it serves a request.
-/

set_option autoImplicit false

namespace DecompilerBridge

variable {η : Type}

/-- An outcome of work that may also have been given up. -/
def Outcome.ofDriven {α : Type} : Except Halt (Outcome α) → Outcome α
  | .ok outcome => outcome
  | .error h => .halted h

namespace ScriptHost

/-- Undo what a run set up. -/
def tearDown (w : World η) : World η :=
  ((w.withLinkage .unlinked).enter .idle).note (.debug "engine torn down")

/-- Drive a part of a run. -/
def drive (channel : Option (HostChannel η))
    (work : Invocation.Progress (Outcome (Except ScriptError Unit)))
    (w : World η) : Outcome (Except ScriptError Unit) × World η :=
  let driven := Interaction.drive (World.answer channel) work w
  (.ofDriven driven.1, driven.2)

/-- An invocation with the report of a panic that comes out of it. -/
def contained (s : Setup) (channel : Option (HostChannel η)) (args : String) (w : World η) :
    Outcome (Except ScriptError Unit) × World η :=
  match drive channel (Invocation.invoke s args) w with
  | (.panicked p, after) => drive channel (Invocation.fatal s.policy p.message) after
  | ended => ended

/-- Run the scripts once. A run inside a run is refused, and every other run tears down what it set
up, whatever its outcome, unless the process itself is gone. -/
def run (s : Setup) (channel : Option (HostChannel η)) (args : String) (w : World η) :
    Outcome (Except ScriptError Unit) × World η :=
  if w.scripts.isLinked then
    (.finished (.error .busy), w.note (.warn "rejecting re-entrant script invocation"))
  else
    match contained s channel args (w.withLinkage .linked) with
    | (.halted h, after) => (.halted h, after)
    | (outcome, after) => (outcome, tearDown after)

end ScriptHost

namespace Plugin

/-- The name of the plugin. -/
def name : String := "r2dec"

def description : String := "experimental pseudo-C decompiler for radare2"

/-- The command words offered for completion. -/
def commandWords : List String := ["pdd", "pdda", "pddb", "pddi", "pddu"]

/-- The options offered after `pdd`. -/
def options : List String :=
  ["--assembly", "--blocks", "--casts", "--colors", "--debug", "--html", "--issue", "--paddr",
   "--xrefs"]

/-- The completion entries of the plugin. -/
def completionEntries : List CompletionEntry :=
  commandWords.map (fun w => ⟨none, w, .word⟩) ++
    options.map fun o => ⟨some Command.lead, o, .option⟩

/-- What is noted after a successful registration. -/
def registrationRecord : LogRecord :=
  .debug (name ++ ": " ++ toString commandWords.length ++ " commands and " ++
    toString options.length ++ " options registered")

/-- Register the preferences and the completion entries with a host. -/
def init (h : Host η) (w : World η) : Except PreferenceError Unit × World η :=
  let registered := (h.preferences w.host).register
  let store := h.setPreferences registered.1 w.host
  let noted := { w with host := store }.note Preferences.registrationRecord
  match registered.2 with
  | .error e => (.error e, noted)
  | .ok () =>
    let completed := completionEntries.foldl (fun s e => h.addCompletion e s) store
    (.ok (), { noted with host := completed }.note registrationRecord)

/-- Run the scripts for a command, noting a failure. -/
def decompile (s : Setup) (channel : Option (HostChannel η)) (args : String) (w : World η) :
    Outcome Unit × World η :=
  match ScriptHost.run s channel args w with
  | (.finished (.ok ()), after) => (.finished (), after)
  | (.finished (.error e), after) =>
    (.finished (), after.note (.warn (Command.lead ++ ": " ++ e.message)))
  | (.panicked p, after) => (.panicked p, after)
  | (.halted h, after) => (.halted h, after)

/-- The channel, if the host is not in use. -/
def freeChannel (channel : Option (HostChannel η)) (w : World η) : Option (HostChannel η) :=
  if w.borrowed then none else channel

/-- Let the host install or upgrade the scripts, and print what it says. -/
def upgrade (channel : Option (HostChannel η)) (w : World η) : Outcome Unit × World η :=
  match freeChannel channel w with
  | none => (.finished (), w.note (.warn ("host busy, cannot run " ++ Command.upgradeLine)))
  | some p =>
    match p.command Command.upgradeLine w with
    | (.finished output, after) => p.print output after
    | (.panicked panic, after) => (.panicked panic, after)
    | (.halted h, after) => (.halted h, after)

/-- Print the help text. -/
def help (channel : Option (HostChannel η)) (w : World η) : Outcome Unit × World η :=
  match freeChannel channel w with
  | none => (.finished (), w.note (.warn "host busy, dropped usage text"))
  | some p => p.print Command.usage w

/-- Carry out a command. -/
def dispatch (s : Setup) (channel : Option (HostChannel η)) (c : Command) (w : World η) :
    Outcome Unit × World η :=
  match c with
  | .upgrade => upgrade channel w
  | .help => help channel w
  | c => decompile s channel (c.scriptArgs.getD "") w

/-- Whether a line asks for the available decompilers. -/
def isProbe (line : String) : Bool :=
  Text.startsWith line "e cmd.pdc" && line.toList.contains '=' && line.toList.contains '?'

/-- Turn the end of some work into an answer. -/
def answerWith {α β : Type} (a : β) : Outcome α × World η → Outcome β × World η
  | (.finished _, w) => (.finished a, w)
  | (.panicked p, w) => (.panicked p, w)
  | (.halted h, w) => (.halted h, w)

/-- Handle a line of the host. The answer tells whether the line was the plugin's own; the question
for available decompilers is answered and left to the others too. -/
def call (s : Setup) (channel : Option (HostChannel η)) (line : String) (w : World η) :
    Outcome Bool × World η :=
  if isProbe line then answerWith false (World.printLine channel name w)
  else
    match Text.stripLead Command.lead line with
    | none => (.finished false, w)
    | some rest =>
      answerWith true (dispatch s channel (.ofRest rest) (w.note (Command.routeRecord rest)))

end Plugin

namespace Host

/-- The answer to a host's call back into the plugin. -/
def reply {α : Type} : Outcome α × World η → Except Halt (Except Panic α × EngineState) × World η
  | (.finished a, w) => (.ok (.ok a, w.scripts.state), w)
  | (.panicked p, w) => (.ok (.error p, w.scripts.state), w)
  | (.halted h, w) => (.error h, w)

/-- Run the scripts through a new script host. The plugin's own one is not touched. -/
def runOther (s : Setup) (args : String) (w : World η) :
    Outcome (Except ScriptError Unit) × World η :=
  let ended := ScriptHost.run s none args { w with scripts := {} }
  (ended.1, { ended.2 with scripts := w.scripts })

/-- Answer what a host asks for while it serves a request, and is in use itself. -/
def reenter (s : Setup) : (q : Reentry) → World η → Except Halt q.Reply × World η
  | .run args, w => reply (ScriptHost.run s none args w)
  | .call line, w => reply (Plugin.call s none line w)
  | .other args, w => reply (runOther s args w)
  | .note record, w => (.ok (), w.note record)

/-- Let a host serve a request. It is in use until it is done or has panicked. -/
def perform {α : Type} (s : Setup) (action : HostAction η α) (w : World η) : Outcome α × World η :=
  match Interaction.drive (reenter s) action { w with borrowed := true } with
  | (.ok (.ok a, state), after) => (.finished a, { after with borrowed := false, host := state })
  | (.ok (.error p, state), after) => (.panicked p, { after with borrowed := false, host := state })
  | (.error h, after) => (.halted h, after)

/-- The way to reach a host from inside a run. -/
def channel (h : Host η) (s : Setup) : HostChannel η where
  command text w := perform s (h.command text w.scripts.state w.host) w
  print text w := perform s (h.print text w.scripts.state w.host) w

end Host

end DecompilerBridge
