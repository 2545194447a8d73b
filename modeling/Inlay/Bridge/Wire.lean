import Inlay.Failure
import Inlay.Json.Reader
import Inlay.Json.Writer
import Inlay.Text.Blank

/-!
# Lines exchanged with the interpreter

Every message is one line of JSON.  A request carries an id, a method and
parameters.  A reply carries the id of its request and either an error or a
result, which may be `null`; an error wins over a result.  A line without an id
whose method is `log` is a log record.
-/

namespace Inlay

/-! ## Requests -/

/-- A request to the interpreter. -/
structure Request where
  id : Nat
  method : String
  params : Json

/-- The line of a request, with the line feed that ends it. -/
def Request.line (request : Request) : String :=
  String.ofList (Json.memberChars [
    ("id", .nat request.id), ("method", .str request.method), ("params", request.params)]
    |> fun members => '{' :: (members ++ ['}', '\n']))

/-- Decodes the line of a request. -/
def Request.ofLine? (line : String) : Option Request := do
  let value ← Json.parse? line
  some {
    id := ← (← value.get? "id").nat64?
    method := ← (← value.get? "method").text?
    params := ← value.get? "params" }

/-! ## Replies and log records -/

/-- How a log record is logged. -/
inductive LogLevel where
  | error
  | warn
  | info
  | debug
  deriving Repr, DecidableEq

/-- The level of a name; a name that is not known is logged as information. -/
def LogLevel.ofName (name : String) : LogLevel :=
  match name with
  | "error" => .error
  | "warn" | "warning" => .warn
  | "debug" => .debug
  | _ => .info

/-- The name of a level. -/
def LogLevel.name : LogLevel → String
  | .error => "error"
  | .warn => "warn"
  | .info => "info"
  | .debug => "debug"

/-- What a line of output says. -/
inductive Response where
  | reply (id : Nat) (outcome : Outcome Json)
  | log (level message : String)

/-- The most characters of a line that a failure quotes. -/
def quoteLimit : Nat := 120

/-- A line as quoted in a failure. -/
def quoteLine (line : String) : String :=
  let chars := Text.trimChars line.toList
  if chars.length ≤ quoteLimit then String.ofList chars
  else String.ofList (chars.take quoteLimit) ++ "..."

/-- The failure an error payload reports: its own text or its `message`, and
otherwise the payload itself as text. -/
def reportedFailure (payload : Json) : Failure :=
  let message :=
    match payload with
    | .str text => text
    | other => ((other.get? "message").bind Json.text?).getD other.render
  let kind : FailureKind :=
    match (payload.get? "code").bind Json.text? with
    | some "unavailable" => .unavailable
    | _ => .analysis
  .of .pike kind message

/-- The log record of a line without an id. -/
def logRecord (params : Json) : Response :=
  .log (((params.get? "level").bind Json.text?).getD "info")
    (((params.get? "message").bind Json.text?).getD "")

/-- The outcome that a reply's members carry. -/
def replyOutcome (id : Nat) (value : Json) : Outcome Json :=
  match value.get? "error", value.get? "result" with
  | some payload, _ => .error (reportedFailure payload)
  | none, some result => .ok result
  | none, none =>
      .error (.bridge .protocol
        ("Reply " ++ toString id ++ " has neither 'result' nor 'error'"))

/-- Decodes a line of output.  A failure means that the line belongs to no
call. -/
def Response.ofLine (line : String) : Outcome Response :=
  match Json.parseChars? (Text.trimChars line.toList) with
  | none =>
      .error
        ((Failure.bridge .protocol ("Malformed interpreter output: " ++ quoteLine line)).withCause
          (.bridge .protocol "the line is not a JSON value"))
  | some (.obj members) =>
      let value := Json.obj members
      match (value.get? "id").bind Json.nat64? with
      | some id => .ok (.reply id (replyOutcome id value))
      | none =>
          if (value.get? "method").bind Json.text? = some "log" then
            .ok (logRecord ((value.get? "params").getD .null))
          else .error (.bridge .protocol ("Reply without a numeric id: " ++ quoteLine line))
  | some _ => .error (.bridge .protocol ("Expected a JSON object, got: " ++ quoteLine line))

end Inlay
