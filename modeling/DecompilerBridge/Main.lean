import DecompilerBridge.Script.Interpreter
import DecompilerBridge.Shell.Transcript

/-!
# The command line

The shell as a command inside a radare2 session. radare2 names the two descriptors of its pipe in
the environment, so that the shell finds the process there. Everything the shell decides is decided
by `Shell.run`. This module only finds out what a run wants to know: it runs the shell on what is
known, reads the files and asks radare2 the line that the run was missing, and starts over.
-/

set_option autoImplicit false

namespace DecompilerBridge

open Shell

/-- The two ends of the pipe to radare2. -/
structure Link where
  replies : IO.FS.Handle
  commands : IO.FS.Handle

/-- What has been found out so far. -/
structure Known where
  files : FileTree
  /-- The paths that were read, whether there was a file or not. -/
  tried : List String := []
  /-- The answers of radare2, in order. -/
  answers : List Answer := []

/-- Open a descriptor of this process. -/
def openDescriptor (number : String) (mode : IO.FS.Mode) : IO IO.FS.Handle :=
  IO.FS.Handle.mk ("/proc/self/fd/" ++ number) mode

/-- The pipe to radare2, if the environment names one. -/
def findLink : IO (Option Link) := do
  match ← IO.getEnv "R2PIPE_IN", ← IO.getEnv "R2PIPE_OUT" with
  | some replies, some commands =>
    try
      return some ⟨← openDescriptor replies .read, ← openDescriptor commands .write⟩
    catch _ => return none
  | _, _ => return none

/-- Read what radare2 sends up to a NUL or the end. -/
partial def readAnswer (link : Link) (before : List UInt8) : IO Answer := do
  match (← link.replies.read 1).toList with
  | [] => return ⟨before.reverse, false⟩
  | byte :: _ =>
    if byte = 0 then return ⟨(byte :: before).reverse, true⟩
    else readAnswer link (byte :: before)

/-- Send radare2 a line and read its answer. -/
def askRadare2 (link : Link) (line : String) : IO Answer := do
  try
    link.commands.putStr (line ++ "\n")
    link.commands.flush
    readAnswer link []
  catch _ => return ⟨[], false⟩

namespace Known

/-- Find out what stands at a path. -/
def lookAt (k : Known) (path : String) : IO Known := do
  let tried := path :: k.tried
  try
    let bytes ← IO.FS.readBinFile path
    return { k with tried := tried, files := k.files.insert path (.file bytes.toList) }
  catch _ => return { k with tried := tried }

end Known

/-- Run the shell until nothing is missing that it wants to know. -/
partial def settle (link : Option Link) (around : Surroundings) (args : List String)
    (known : Known) : IO (Result Transcript) := do
  let peer := match link with
    | some _ => Transcript.peer known.answers
    | none => Transcript.nobody
  let result := run peer { around with files := known.files } args
  match (lookedUp result.log).find? fun path => !known.tried.contains path with
  | some path => settle link around args (← known.lookAt path)
  | none =>
    match link, result.peer.bind Transcript.unanswered with
    | some l, some line =>
      let answer ← askRadare2 l line
      settle link around args { known with answers := known.answers ++ [answer] }
    | _, _ => return result

/-- The environment of this process. -/
def currentEnvironment : IO Environment := do
  return {
    scriptHome := ← IO.getEnv "R2DEC_HOME"
    home := ← IO.getEnv "HOME"
    dataHome := ← IO.getEnv "XDG_DATA_HOME" }

/-- Read everything from a stream. -/
partial def readToEnd (stream : IO.FS.Stream) (before : ByteArray) : IO ByteArray := do
  let chunk ← stream.read 4096
  if chunk.isEmpty then return before else readToEnd stream (before ++ chunk)

/-- A number that looks random. -/
def mixed (n : Nat) : Nat :=
  (n * 6364136223846793005 + 1442695040888963407) % 18446744073709551616 / 2048

/-- What a command line needs before the shell is run: its configuration file and its input. -/
def prepare (args : List String) (known : Known) : IO (Known × List UInt8) := do
  match Invoked.ofArguments args with
  | .run _ a =>
    let seen ← match a.config with
      | some path => known.lookAt path
      | none => pure known
    let stdin ← if a.commands.isEmpty then readToEnd (← IO.getStdin) .empty else pure .empty
    return (seen, stdin.toList)
  | _ => return (known, [])

end DecompilerBridge

open DecompilerBridge in
/-- Run the shell with the arguments of the process. -/
def main (args : List String) : IO UInt32 := do
  let files : FileTree := { workingDirectory := toString (← IO.currentDir) }
  let (known, stdin) ← prepare args { files := files }
  let seed ← IO.monoNanosNow
  let interpreter := Script.jsonInterpreter
  let around : Shell.Surroundings :=
    { environment := ← currentEnvironment
      stdin := stdin
      engine := interpreter.engine
      depth := interpreter.levels
      -- the work of one look at the clock takes some milliseconds
      readings := fun run =>
        { delays := fun _ => 10
          randoms := fun draw => mixed (seed + 1000003 * run + draw) }
      clock := (← IO.monoMsNow) / 1000 }
  let result ← settle (← findLink) around args known
  IO.print result.stdout
  IO.eprint result.stderr
  return result.code.toUInt32
