import Inlay.Decimal.Shortest
import Inlay.Failure
import Inlay.Region.Basic
import Inlay.Text.Digits
import Inlay.Token

/-!
# Settings

Settings come in layers: the defaults, the options the editor sends, the
environment, and the command line.  Each layer overrides only what it names.
-/

namespace Inlay

/-- How the interpreter is started and how long a reply may take. -/
structure InterpreterSettings where
  program : String := "pike"
  args : List String := ["analyzer.pike"]
  /-- Time limit for a reply, in milliseconds. -/
  timeoutMs : Nat := 5000
  deriving Repr, DecidableEq

/-- All settings of the server. -/
structure Settings where
  interpreter : InterpreterSettings := {}
  thresholds : Thresholds := {}
  /-- Replaces the built-in keywords. -/
  keywords : Option (List String) := none
  /-- Replaces the built-in markup tables. -/
  catalog : Option Catalog := none

/-- The command line that starts the interpreter. -/
def InterpreterSettings.describe (settings : InterpreterSettings) : String :=
  " ".intercalate (settings.program :: settings.args)

namespace Settings

/-- The keywords in force. -/
def keywordSet (settings : Settings) : Keywords :=
  match settings.keywords with
  | some words => .ofList words
  | none => Keywords.standard

/-- The markup tables in force. -/
def markupCatalog (settings : Settings) : Catalog := settings.catalog.getD .html

/-! ## Settings as a value -/

/-- A float as a value; what is not a number has none. -/
def floatJson (value : Float) : Json := if value.isFinite then .real value else .null

/-- Encodes the interpreter's settings. -/
def interpreterToJson (interpreter : InterpreterSettings) : Json :=
  .ofMembers [
    ("program", .str interpreter.program),
    ("args", .list .str interpreter.args),
    ("timeoutMs", .nat interpreter.timeoutMs)]

/-- Encodes thresholds. -/
def thresholdsToJson (thresholds : Thresholds) : Json :=
  .ofMembers [
    ("confidenceFloor", floatJson thresholds.confidenceFloor),
    ("minLiteralLength", .nat thresholds.minLiteralLength)]

/-- Encodes settings. -/
def toJson (settings : Settings) : Json :=
  .ofMembers [
    ("interpreter", interpreterToJson settings.interpreter),
    ("detection", thresholdsToJson settings.thresholds),
    ("keywords", .option (Json.list Json.str) settings.keywords),
    ("catalog", .option Catalog.toJson settings.catalog)]

/-- Decodes the interpreter's settings; one that is missing has its default. -/
def interpreterOfJson? (value : Json) : Option InterpreterSettings := do
  let field ← value.record? ["program", "args", "timeoutMs"]
  let standard : InterpreterSettings := {}
  some {
    program := ← Json.optional (field "program") standard.program Json.text?
    args := ← Json.optional (field "args") standard.args Json.texts?
    timeoutMs := ← Json.optional (field "timeoutMs") standard.timeoutMs Json.nat64? }

/-- Decodes settings; one that is missing has its default. -/
def ofJson? (value : Json) : Option Settings := do
  let field ← value.record? ["interpreter", "detection", "keywords", "catalog"]
  some {
    interpreter := ← Json.optional (field "interpreter") {} interpreterOfJson?
    thresholds := ← Json.optional (field "detection") {} Thresholds.ofJson?
    keywords := ← Json.optional (field "keywords") none (Json.nullable Json.texts?)
    catalog := ← Json.optional (field "catalog") none (Json.nullable Catalog.ofJson?) }

/-! ## Options of the editor -/

mutual

/-- Lays a value over another: objects are laid over each other member by
member, anything else replaces what was there. -/
def overlay (base : Json) : Json → Json
  | .obj patch =>
      match base with
      | .obj members => .obj (overlayMembers members patch)
      | _ => .obj patch
  | patch => patch

/-- Lays members over those of an object. -/
def overlayMembers (members : List (String × Json)) : List (String × Json) → List (String × Json)
  | [] => members
  | (key, value) :: rest =>
      let laid :=
        match members.lookup key with
        | some old => if old.isObject then overlay old value else value
        | none => value
      overlayMembers (Json.insertMember key laid members) rest

end

/-- The options proper: they may be given under a key of their own. -/
def unwrapOptions (options : Json) : Json := (options.get? "pike").getD options

/-- Lays the editor's options over the settings.  Options that do not decode
leave the settings as they are. -/
def withOptions (settings : Settings) (options : Option Json) : Outcome Settings :=
  match options.map unwrapOptions with
  | none | some .null => .ok settings
  | some patch =>
      match ofJson? (overlay settings.toJson patch) with
      | some merged => .ok merged
      | none =>
          .error
            (.invalidInput "Invalid initialization options: the options do not fit the settings")

/-- The settings in force after the editor's options, and whether these could be laid
over the ones before. -/
def applyOptions (settings : Settings) (options : Option Json) : Settings × Outcome Unit :=
  match settings.withOptions options with
  | .ok merged => (merged, .ok ())
  | .error failure => (settings, .error failure)

/-! ## Environment and command line -/

/-- The variable that names the interpreter. -/
def programVariable : String := "PIKE_INTERPRETER"

/-- The variable that sets the time limit. -/
def timeoutVariable : String := "PIKE_BRIDGE_TIMEOUT_MS"

/-- A 64-bit number written in digits, possibly with a plus sign. -/
def number? (text : String) : Option Nat :=
  let digits :=
    match text.toList with
    | '+' :: rest => rest
    | digits => digits
  if digits.isEmpty || !digits.all Char.isDigit then none else Text.number64? digits

/-- The settings with the interpreter named by the environment, unless the name
is blank. -/
def withProgramVariable (settings : Settings) (value : Option String) : Settings :=
  match value with
  | some program =>
      if (Text.trim program).isEmpty then settings
      else { settings with interpreter.program := program }
  | none => settings

/-- The settings overridden by the environment.  A time limit that is no number
is a failure, but the program stays overridden. -/
def withEnvironment (settings : Settings) (lookUp : String → Option String) :
    Settings × Outcome Unit :=
  let settings := settings.withProgramVariable (lookUp programVariable)
  match lookUp timeoutVariable with
  | none => (settings, .ok ())
  | some raw =>
      match number? (Text.trim raw) with
      | some timeoutMs => ({ settings with interpreter.timeoutMs := timeoutMs }, .ok ())
      | none =>
          (settings, .error (.invalidInput
            (timeoutVariable ++ " must be a number of milliseconds, got '" ++ raw ++ "'")))

/-- What the command line overrides. -/
structure Overrides where
  program : Option String := none
  args : Option (List String) := none
  timeoutMs : Option Nat := none
  confidenceFloor : Option Float := none

/-- The settings overridden by the command line. -/
def withOverrides (settings : Settings) (overrides : Overrides) : Settings :=
  { settings with
    interpreter := {
      program := overrides.program.getD settings.interpreter.program
      args := overrides.args.getD settings.interpreter.args
      timeoutMs := overrides.timeoutMs.getD settings.interpreter.timeoutMs }
    thresholds.confidenceFloor :=
      overrides.confidenceFloor.getD settings.thresholds.confidenceFloor }

/-! ## Validity -/

/-- A float in plain decimal notation. -/
def floatText (value : Float) : String :=
  if value.isNaN then "NaN"
  else
    let digits :=
      if value.isInf then "inf".toList
      else (Decimal.shortest (.ofFloat value)).positional
    String.ofList (if Decimal.isNegative value then '-' :: digits else digits)

/-- Checks that the settings can be used. -/
def validate (settings : Settings) : Outcome Unit :=
  let floor := settings.thresholds.confidenceFloor
  if (Text.trim settings.interpreter.program).isEmpty then
    .error (.invalidInput "Interpreter program must not be empty")
  else if settings.interpreter.timeoutMs = 0 then
    .error (.invalidInput "Interpreter timeout must be greater than zero")
  else if !(0.0 ≤ floor && floor ≤ 1.0) then
    .error (.invalidInput ("Confidence floor must be within [0, 1], got " ++ floatText floor))
  else .ok ()

end Settings

end Inlay
