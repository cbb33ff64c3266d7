import DecompilerBridge.Shell.CommandLine
import DecompilerBridge.Shell.Session

/-!
# The shell as a program

The shell as a program: from its arguments, environment, files and standard input to its exit code
and output, for any radare2 process behind the pipe.
-/

set_option autoImplicit false

namespace DecompilerBridge.Shell

/-- What a shell finds when it starts. -/
structure Surroundings where
  environment : Environment := {}
  files : FileTree := {}
  stdin : List UInt8 := []
  /-- The engine that evaluates scripts. -/
  engine : ScriptEngine
  /-- The number of natives that the stack of the process has room for, one inside the other. -/
  depth : Nat
  clock : Nat := 1
  /-- What the engines read of the world, in the order in which they are made. -/
  readings : Nat → Readings := fun _ => {}

/-- What a shell leaves behind. -/
structure Result (π : Type) where
  code : Nat
  stdout : String
  /-- The text on standard error. -/
  stderr : String
  /-- The radare2 process, if one was started. -/
  peer : Option π
  /-- The session and the scripts after the last line, if there was a session. -/
  world : Option (World (Session (Pipe π))) := none
  log : List LogRecord := []

/-- The version text. -/
def versionText : String := "pdd-shell 0.1.0\n"

/-- The help text. -/
def helpText : String :=
  "Run the r2dec decompiler bridge against a radare2 session\n\n" ++
  "Usage: pdd-shell [OPTIONS] <FILE>\n\n" ++
  "Arguments:\n" ++
  "  <FILE>  Binary to open in radare2\n\n" ++
  "Options:\n" ++
  "      --r2 <PATH>      radare2 executable\n" ++
  "      --home <DIR>     Root of the r2dec-js package (overrides R2DEC_HOME)\n" ++
  "      --timeout <SECS>  Stop a decompilation after this many seconds\n" ++
  "      --config <JSON>  JSON config file\n" ++
  "  -c, --command <CMD>  Run a command and exit (repeatable)\n" ++
  "  -h, --help           Print help\n" ++
  "  -V, --version        Print version\n"

/-- How the reading of lines ended. -/
inductive Finish where
  | done
  /-- A line was no valid UTF-8. -/
  | unreadable
  | panicked (p : Panic)
  | halted (h : Halt)
deriving DecidableEq, Repr

/-- The first line of bytes, with its newline, and the bytes after it. -/
def cutLine : List UInt8 → List UInt8 × List UInt8
  | [] => ([], [])
  | b :: rest => if b = 10 then ([b], rest) else (b :: (cutLine rest).1, (cutLine rest).2)

/-- The lines of bytes, each with its newline if it has one. The first argument bounds their number.
-/
def linesOf : Nat → List UInt8 → List (List UInt8)
  | 0, _ => []
  | _ + 1, [] => []
  | fuel + 1, b :: rest =>
    (cutLine (b :: rest)).1 :: linesOf fuel (cutLine (b :: rest)).2

/-- The lines of standard input, each as a text or as nothing if it is no valid UTF-8. -/
def inputLines (bytes : List UInt8) : List (Option String) :=
  (linesOf bytes.length bytes).map Text.ofValidBytes?

namespace Frontend

variable {τ : Type}

/-- Execute lines in order, up to one that quits or cannot be read. -/
def executeAll (f : Frontend τ) :
    List (Option String) → World (Session τ) → Finish × World (Session τ)
  | [], w => (.done, w)
  | none :: _, w => (.unreadable, w)
  | some line :: rest, w =>
    match f.execute line w with
    | (.finished .proceed, after) => f.executeAll rest after
    | (.finished .quit, after) => (.done, after)
    | (.panicked p, after) => (.panicked p, after)
    | (.halted h, after) => (.halted h, after)

end Frontend

/-- The lines a shell executes: its commands, or its input if there are none. -/
def plannedLines (commands : List String) (stdin : List UInt8) : List (Option String) :=
  if commands.isEmpty then inputLines stdin else commands.map some

/-- The error line of a failed shell. -/
def errorLine (message : String) : String := "Error: " ++ message ++ "\n"

/-- What standard error shows of a panic, after an empty line. -/
def panicReport (message : String) : String := "\nthread 'main' panicked:\n" ++ message ++ "\n"

/-- What standard error shows of the faults that runs of the scripts have contained. -/
def faultReports (log : List LogRecord) : String :=
  String.join (log.filterMap fun r =>
    (Text.stripLead Invocation.fatalLead r.message).map panicReport)

/-- The result of a shell that fails before it has printed anything. -/
def failed {π : Type} (message : String) (peer : Option π) : Result π :=
  { code := 1, stdout := "", stderr := errorLine message, peer }

/-- Exit code and error text for the end of a shell's work. -/
def Finish.report : Finish → Nat × String
  | .done => (0, "")
  | .unreadable => (1, errorLine "failed to read stdin")
  | .panicked p => (101, panicReport p.message)
  | .halted (.aborted stderr) => (134, stderr)
  | .halted .hung => (124, "")
  | .halted .crashed => (134, "\nthread 'main' has overflowed its stack\n")

/-- The setup of the script host under settings. -/
def Settings.setup (s : Settings) (around : Surroundings) : Setup where
  machine :=
    { resolver := ⟨s.base, around.environment, around.files⟩
      engine := around.engine
      limits := s.limits
      depth := around.depth }
  clock := around.clock

/-- Work with radare2 once it is there. -/
def serve {π : Type} (peer : Peer π) (around : Surroundings) (settings : Settings)
    (commands : List String) (pipe : Pipe π) : Result π :=
  let f : Frontend (Pipe π) := ⟨Transport.ofPeer peer, settings.setup around⟩
  match f.init { host := { transport := pipe }, readings := around.readings } with
  | (.error _, w) =>
    failed "failed to register r2dec preferences" (some (w.host.transport.close peer).peer)
  | (.ok (), w) =>
    let ended := f.executeAll (plannedLines commands around.stdin)
      (Frontend.applyPreferences settings.preferences w)
    let report := ended.1.report
    { code := report.1
      stdout := ended.2.host.output.written
      stderr := faultReports ended.2.log ++ report.2
      peer := some (ended.2.host.transport.close peer).peer
      world := some ended.2
      log := ended.2.log }

/-- Run a shell with arguments that were read. -/
def runWith {π : Type} (peer : Peer π) (around : Surroundings) (file : String) (a : Arguments) :
    Result π :=
  let loaded : Except LoadError ShellConfig := match a.config with
    | none => .ok {}
    | some path => ShellConfig.load around.files path
  match loaded with
  | .error e => failed e.message none
  | .ok config =>
    let settings := config.resolve a.flags
    match Pipe.start peer settings.program file with
    | (.error e, started) => failed e.message (started.map fun p => (Pipe.close peer p).peer)
    | (.ok pipe, _) => serve peer around settings a.commands pipe

/-- Run a shell with a command line. -/
def run {π : Type} (peer : Peer π) (around : Surroundings) (args : List String) : Result π :=
  match Invoked.ofArguments args with
  | .run file a => runWith peer around file a
  | .showVersion => { code := 0, stdout := versionText, stderr := "", peer := none }
  | .showHelp => { code := 0, stdout := helpText, stderr := "", peer := none }
  | .refused => { code := 2, stdout := "", stderr := helpText, peer := none }

end DecompilerBridge.Shell
