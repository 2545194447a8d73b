import Inlay.Json.Reader
import Inlay.Settings

/-!
# The command line

Flags are given as `--name value` or `--name=value`.  `--pike-arg` may be
repeated, and its values together replace the configured arguments.  Flags that
only concern logging are accepted.
-/

namespace Inlay

/-- What the command line asks for. -/
inductive CommandLine where
  | serve (overrides : Settings.Overrides)
  | showVersion

namespace CommandLine

/-- The name and version of the program. -/
def version : String := "pike-language-server 0.1.0"

/-- Splits a flag given together with its value. -/
def splitFlag (arg : String) : List String :=
  let chars := arg.toList
  match chars.dropWhile (· != '=') with
  | _ :: value =>
      if arg.startsWith "--" then [String.ofList (chars.takeWhile (· != '=')), String.ofList value]
      else [arg]
  | [] => [arg]

/-- A float given as a value of a flag. -/
def float? (text : String) : Option Float := (Json.parse? text).bind Json.float?

/-- The failure of a flag whose value cannot be read. -/
def invalidValue (flag value : String) : String :=
  "invalid value '" ++ value ++ "' for '" ++ flag ++ "'"

/-- Reads flags into the overrides found so far. -/
def readFlags (overrides : Settings.Overrides) : List String → Except String CommandLine
  | [] => .ok (.serve overrides)
  | "--version" :: _ => .ok .showVersion
  | "--no-color" :: rest | "--no-file-logging" :: rest => readFlags overrides rest
  | "--log-level" :: _ :: rest => readFlags overrides rest
  | "--pike" :: program :: rest => readFlags { overrides with program := some program } rest
  | "--pike-arg" :: arg :: rest =>
      readFlags { overrides with args := some (overrides.args.getD [] ++ [arg]) } rest
  | "--timeout-ms" :: value :: rest =>
      match Settings.number? value with
      | some timeoutMs => readFlags { overrides with timeoutMs := some timeoutMs } rest
      | none => .error (invalidValue "--timeout-ms" value)
  | "--confidence-floor" :: value :: rest =>
      match float? value with
      | some floor => readFlags { overrides with confidenceFloor := some floor } rest
      | none => .error (invalidValue "--confidence-floor" value)
  | arg :: _ => .error ("unexpected argument '" ++ arg ++ "'")

/-- Reads a command line. -/
def parse (args : List String) : Except String CommandLine :=
  readFlags {} (args.flatMap splitFlag)

end CommandLine

end Inlay
