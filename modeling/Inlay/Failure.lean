/-!
# Failures

Every failure names the layer it arose in: the server itself, the bridge to the
interpreter, or the interpreter's own analysis.  A failure may be caused by
another one; the causes form a chain, kept outermost first.
-/

namespace Inlay

/-- Where a failure arose. -/
inductive Layer where
  /-- Misuse by a caller, or a broken invariant. -/
  | server
  /-- Transport, framing, time limits and the life of the interpreter. -/
  | bridge
  /-- The interpreter's own analysis. -/
  | pike
  deriving Repr, DecidableEq

/-- The finer class of a failure inside its layer. -/
inductive FailureKind where
  /-- An argument or a setting given by the caller is invalid. -/
  | invalidInput
  /-- An internal invariant is broken. -/
  | internal
  /-- Reading from or writing to the interpreter failed. -/
  | transport
  /-- A reply could not be decoded. -/
  | protocol
  /-- No reply came in time. -/
  | timeout
  /-- The interpreter exited or could not be started. -/
  | processExited
  /-- The interpreter does not offer a capability. -/
  | unavailable
  /-- The interpreter reported a failed analysis. -/
  | analysis
  deriving Repr, DecidableEq

namespace FailureKind

/-- Every kind, in the order in which they are listed to users. -/
def all : List FailureKind :=
  [.invalidInput, .internal, .transport, .protocol, .timeout, .processExited, .unavailable,
    .analysis]

end FailureKind

/-- One link of a chain of failures. -/
structure FailureLink where
  layer : Layer
  kind : FailureKind
  message : String
  deriving Repr, DecidableEq

/-- A failure and its causes, outermost first. -/
structure Failure where
  /-- The failure itself. -/
  top : FailureLink
  /-- Its cause, the cause of that, and so on. -/
  causes : List FailureLink := []
  deriving Repr, DecidableEq

namespace Layer

/-- How failures of a layer are titled. -/
def title : Layer → String
  | .server => "ServerError"
  | .bridge => "BridgeError"
  | .pike => "PikeError"

/-- The short name of a layer. -/
def tag : Layer → String
  | .server => "server"
  | .bridge => "bridge"
  | .pike => "pike"

end Layer

/-- A link as text: title, layer and message. -/
def FailureLink.render (link : FailureLink) : String :=
  link.layer.title ++ " [" ++ link.layer.tag ++ "]: " ++ link.message

namespace Failure

/-- A failure without a cause. -/
def of (layer : Layer) (kind : FailureKind) (message : String) : Failure :=
  { top := ⟨layer, kind, message⟩ }

/-- A broken invariant of the server. -/
def server (message : String) : Failure := of .server .internal message

/-- An invalid argument or setting. -/
def invalidInput (message : String) : Failure := of .server .invalidInput message

/-- A failure of the bridge. -/
def bridge (kind : FailureKind) (message : String) : Failure := of .bridge kind message

/-- A failed analysis. -/
def pike (message : String) : Failure := of .pike .analysis message

/-- A capability that the interpreter does not offer. -/
def unavailable (capability : String) : Failure :=
  of .pike .unavailable ("interpreter does not provide '" ++ capability ++ "'")

/-- A failed read or write, described by the operating system. -/
def io (description : String) : Failure := bridge .transport description

/-- The failure's layer. -/
def layer (failure : Failure) : Layer := failure.top.layer

/-- The failure's kind. -/
def kind (failure : Failure) : FailureKind := failure.top.kind

/-- The failure's own message. -/
def message (failure : Failure) : String := failure.top.message

/-- The failure with the given cause in place of any it had. -/
def withCause (failure cause : Failure) : Failure :=
  { failure with causes := cause.top :: cause.causes }

/-- The failure as the cause of a new outer one. -/
def context (failure : Failure) (layer : Layer) (kind : FailureKind) (message : String) : Failure :=
  (of layer kind message).withCause failure

/-- The failure's direct cause. -/
def cause? (failure : Failure) : Option Failure :=
  match failure.causes with
  | [] => none
  | top :: causes => some { top, causes }

/-- The failure followed by its causes, outermost first. -/
def links (failure : Failure) : List FailureLink := failure.top :: failure.causes

/-- The failure as text, without its causes. -/
def render (failure : Failure) : String := failure.top.render

/-- The failure and all its causes as text. -/
def chain (failure : Failure) : String :=
  ": caused by: ".intercalate (failure.links.map FailureLink.render)

/-- Whether the failure or one of its causes is of the given kind. -/
def causedBy (failure : Failure) (kind : FailureKind) : Bool :=
  failure.links.any fun link => link.kind = kind

/-- Whether the failure goes back to a time limit. -/
def isTimeout (failure : Failure) : Bool := failure.causedBy .timeout

/-- The code under which the failure is reported to the editor: invalid
parameters, or an internal error. -/
def rpcCode (failure : Failure) : Int :=
  match failure.kind with
  | .invalidInput => -32602
  | _ => -32603

end Failure

/-- The outcome of an operation that can fail. -/
abbrev Outcome (α : Type) := Except Failure α

end Inlay
