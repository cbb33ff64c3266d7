import DecompilerBridge.Text.Lossy

/-!
# The pipe to radare2

The pipe to radare2: one line per command, and replies that end with a NUL byte. radare2 sends one
more NUL when it has loaded its file.
-/

set_option autoImplicit false

namespace DecompilerBridge.Shell

/-- A command as one line: newlines at its end are dropped, and the others become semicolons. -/
def encodeCommand (command : String) : String :=
  String.ofList (((command.toList.reverse.dropWhile (· == '\n')).reverse).map
    fun c => if c = '\n' then ';' else c)

/-- The line that characters begin with, and the lines after it. Every newline ends a line. -/
def cutLines : List Char → List Char × List (List Char)
  | [] => ([], [])
  | c :: cs =>
    if c = '\n' then ([], (cutLines cs).1 :: (cutLines cs).2)
    else (c :: (cutLines cs).1, (cutLines cs).2)

/-- The lines that a text makes with one newline written after it. -/
def writtenLines (text : String) : List String :=
  ((cutLines text.toList).1 :: (cutLines text.toList).2).map String.ofList

/-- The bytes up to the first NUL, and the bytes after it. -/
def cutReply : List UInt8 → List UInt8 × List UInt8
  | [] => ([], [])
  | b :: rest => if b = 0 then ([], rest) else (b :: (cutReply rest).1, (cutReply rest).2)

/-- Read a reply from the bytes that are left, up to a NUL or the end. There is none after the end.
-/
def readReply : List UInt8 → Option (String × List UInt8)
  | [] => none
  | b :: rest => some (Text.ofBytes (cutReply (b :: rest)).1, (cutReply (b :: rest)).2)

/-- Why a command got no reply. -/
inductive PipeError where
  | closed
  | writeFailed
deriving DecidableEq, Repr

def PipeError.message : PipeError → String
  | closed => "radare2 closed the pipe"
  | writeFailed => "write to radare2"

/-- What a radare2 process does with a line: it sends bytes, and stays or ends. -/
structure Turn (π : Type) where
  sent : List UInt8
  alive : Bool
  state : π

/-- A radare2 process of state `π`. -/
structure Peer (π : Type) where
  /-- Start a program on a file, if that is possible. -/
  start : (program file : String) → Option (Turn π)
  /-- Take in one line. -/
  receive : String → π → Turn π

/-- A pipe to a started process, with the bytes that it sent and nobody has read. -/
structure Pipe (π : Type) where
  peer : π
  unread : List UInt8
  alive : Bool

namespace Pipe

variable {π : Type}

/-- Why a pipe could not be opened. -/
inductive OpenError where
  | notStarted (program : String)
  | notLoaded (file : String)
deriving DecidableEq, Repr

def OpenError.message : OpenError → String
  | notStarted program => s!"failed to start {program}"
  | notLoaded file => s!"radare2 failed to open {file}"

/-- Start radare2 on a file and wait until it has loaded it. A process that was started is told to
quit even if it fails to load. -/
def start (peer : Peer π) (program file : String) : Except OpenError (Pipe π) × Option (Pipe π) :=
  match peer.start program file with
  | none => (.error (.notStarted program), none)
  | some turn =>
    match readReply turn.sent with
    | none => (.error (.notLoaded file), some ⟨turn.state, [], turn.alive⟩)
    | some (_, rest) => (.ok ⟨turn.state, rest, turn.alive⟩, some ⟨turn.state, rest, turn.alive⟩)

/-- Let a process that is alive take in a line. -/
def deliver (peer : Peer π) (p : Pipe π) (line : String) : Pipe π :=
  if p.alive then
    let turn := peer.receive line p.peer
    ⟨turn.state, p.unread ++ turn.sent, turn.alive⟩
  else p

/-- Write a text and a newline. The process takes in the lines that this makes, one by one. -/
def write (peer : Peer π) (text : String) (p : Pipe π) : Pipe π :=
  (writtenLines text).foldl (deliver peer) p

/-- Run a command: write it as one line and read a reply. -/
def command (peer : Peer π) (text : String) (p : Pipe π) : Except PipeError String × Pipe π :=
  if p.alive then
    let written := p.write peer (encodeCommand text)
    match readReply written.unread with
    | none => (.error .closed, written)
    | some (reply, rest) => (.ok reply, { written with unread := rest })
  else (.error .writeFailed, p)

/-- Tell the process to quit. -/
def close (peer : Peer π) (p : Pipe π) : Pipe π := p.write peer "q!"

end Pipe

end DecompilerBridge.Shell
