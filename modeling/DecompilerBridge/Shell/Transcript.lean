import DecompilerBridge.Shell.Program

/-!
# Transcripts of radare2

A process is known from the answers it has given so far. A shell can be run against such a
transcript over and over: each run goes on to the first line whose answer is not known, and that
line is what the process has to be asked next.
-/

set_option autoImplicit false

namespace DecompilerBridge.Shell

/-- What a process sent for one line, and whether it stayed. -/
structure Answer where
  sent : List UInt8
  alive : Bool
deriving DecidableEq, Repr

/-- The known answers that are still to be given, and the first line without one. -/
structure Transcript where
  ahead : List Answer := []
  unanswered : Option String := none
deriving DecidableEq, Repr

namespace Transcript

/-- Take in a line. A line without a known answer ends the process as far as this run goes. -/
def receive (line : String) (t : Transcript) : Turn Transcript :=
  match t.ahead with
  | answer :: rest => ⟨answer.sent, answer.alive, { t with ahead := rest }⟩
  | [] => ⟨[], false, { t with unanswered := some line }⟩

/-- The process that gives answers in order. It has loaded its file when it is started. -/
def peer (answers : List Answer) : Peer Transcript where
  start _ _ := some ⟨[0], true, { ahead := answers }⟩
  receive := receive

/-- No process at all: nothing can be started. -/
def nobody : Peer Transcript where
  start _ _ := none
  receive := receive

end Transcript

/-- The paths that records say were looked up. -/
def lookedUp (log : List LogRecord) : List String := log.filterMap LogRecord.lookedUpPath?

end DecompilerBridge.Shell
