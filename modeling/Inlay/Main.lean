import Inlay.Analyzer.Session
import Inlay.CommandLine
import Inlay.Interpreter.Tool
import Inlay.Server.Frame

/-!
# The program

Reads messages from standard input and writes the server's messages to standard
output until the editor says `exit` or the input ends.
-/

namespace Inlay

/-- The server whose interpreter is one of the line tools. -/
abbrev ToolServer := Server (Remote (Session (List ShellCommand)))

/-- Builds the engine for the settings in force. -/
def launchTool (lookUp : String → Option String) (overrides : Settings.Overrides)
    (options : Option Json) : Outcome (Engine (Remote (Session (List ShellCommand)))) := do
  let settings ← Server.settingsFor lookUp overrides options
  let command := settings.interpreter
  let model := Tool.interpreter command.describe command.program command.args
  return .ofSettings (.remote (Session.channel model command.timeoutMs)) settings

/-- The server before any message. -/
def initialServer (lookUp : String → Option String) (overrides : Settings.Overrides) : ToolServer :=
  { launch := launchTool lookUp overrides, analysis := { link := { interpreter := [] } } }

/-- Reads header lines up to the blank line that ends them; nothing at the end of
the input. -/
partial def readHeader (stdin : IO.FS.Stream) (length : Option Nat) : IO (Option Nat) := do
  let line ← stdin.getLine
  if line.isEmpty then return none
  else if (Text.trim line).isEmpty then return some (length.getD 0)
  else readHeader stdin ((Frame.length? line).or length)

/-- Reads a number of bytes, fewer at the end of the input. -/
partial def readBytes (stdin : IO.FS.Stream) (count : Nat) (read : List UInt8) :
    IO (List UInt8) := do
  if count = 0 then return read
  let chunk ← stdin.read (USize.ofNat count)
  if chunk.isEmpty then return read
  else readBytes stdin (count - chunk.size) (read ++ chunk.toList)

/-- Serves messages. -/
partial def serve (stdin stdout : IO.FS.Stream) (server : ToolServer) : IO Unit := do
  match ← readHeader stdin none with
  | none => return
  | some length =>
      let text := Text.decodeLossy (← readBytes stdin length [])
      match Json.parse? text with
      | none => serve stdin stdout server
      | some message =>
          if messageMethod? message = some "exit" then return
          let (server, replies) := server.handle message
          for reply in replies do
            stdout.putStr (Frame.render reply)
          stdout.flush
          serve stdin stdout server

end Inlay

/-- Runs the language server. -/
def main (args : List String) : IO UInt32 := do
  match Inlay.CommandLine.parse args with
  | .error message =>
      (← IO.getStderr).putStrLn ("error: " ++ message)
      return 2
  | .ok .showVersion =>
      (← IO.getStdout).putStrLn Inlay.CommandLine.version
      return 0
  | .ok (.serve overrides) =>
      let program ← IO.getEnv Inlay.Settings.programVariable
      let timeout ← IO.getEnv Inlay.Settings.timeoutVariable
      let lookUp (name : String) : Option String :=
        if name = Inlay.Settings.programVariable then program
        else if name = Inlay.Settings.timeoutVariable then timeout
        else none
      Inlay.serve (← IO.getStdin) (← IO.getStdout) (Inlay.initialServer lookUp overrides)
      return 0
