import Inlay.Analyzer.Basic

/-!
# The interpreter as analyzer

The interpreter is asked once which operations it offers.  An answer is kept for
good, and an interpreter that rejects the question is taken to offer everything;
a question that got no answer is asked again the next time.  An operation that
is not offered is never asked for.

How a request reaches the interpreter does not matter here: a `Channel` is any
way to send one and wait for its outcome.
-/

namespace Inlay

/-- A way to send requests and get their outcomes. -/
structure Channel (τ : Type) where
  send (method : String) (params : Json) : τ → τ × Outcome Json
  shutdown : τ → τ

/-- A channel's state, and the capabilities once they are known. -/
structure Remote (τ : Type) where
  link : τ
  capabilities : Option Capabilities := none

namespace Remote

variable {τ : Type}

/-- A reply that decodes to nothing useful. -/
def shapeFailure (method : String) : Failure :=
  (Failure.bridge .protocol ("Unexpected reply shape for '" ++ method ++ "'")).withCause
    (.bridge .protocol "the reply does not have the expected fields")

/-- Sends a request and decodes its result. -/
def call (channel : Channel τ) (method : String) (params : Json) (decode : Json → Option α) :
    Analysis (Remote τ) α := do
  let remote ← get
  let (link, outcome) := channel.send method params remote.link
  set { remote with link }
  match outcome with
  | .error failure => throw failure
  | .ok result =>
      match decode result with
      | some value => pure value
      | none => throw (shapeFailure method)

/-- What a capability query means: a rejection by the interpreter counts as full
support. -/
def settleCapabilities (outcome : Outcome Capabilities) : Outcome Capabilities :=
  match outcome with
  | .error failure => if failure.layer = .pike then .ok .all else .error failure
  | .ok capabilities => .ok capabilities

/-- The capabilities, asked for when they are not known yet. -/
def capabilitiesOf (channel : Channel τ) : Analysis (Remote τ) Capabilities := do
  match (← get).capabilities with
  | some capabilities => pure capabilities
  | none =>
      let outcome ← Analysis.attempt (call channel "capabilities" (.obj []) Capabilities.ofJson?)
      let capabilities ← Analysis.ofOutcome (settleCapabilities outcome)
      modify fun remote => { remote with capabilities := some capabilities }
      pure capabilities

/-- Sends a request for an operation, if it is offered. -/
def request (channel : Channel τ) (method : String) (offered : Capabilities → Bool)
    (params : Json) (decode : Json → Option α) : Analysis (Remote τ) α := do
  let capabilities ← capabilitiesOf channel
  if offered capabilities then call channel method params decode
  else throw (.unavailable method)

/-- Decodes an array. -/
def listOf? (read : Json → Option α) (value : Json) : Option (List α) :=
  value.items?.bind fun items => items.mapM read

end Remote

/-- The analyzer that asks the interpreter over a channel. -/
def Analyzer.remote (channel : Channel τ) : Analyzer (Remote τ) where
  name := "pike-interpreter"
  tokenize source :=
    Remote.request channel "tokenize" Capabilities.tokenize
      (.ofMembers [("source", .str source)]) (Remote.listOf? RawToken.ofJson?)
  resolve source path name line :=
    Remote.request channel "resolve" Capabilities.resolve
      (.ofMembers [("source", .str source), ("path", .str path), ("symbol", .str name),
        ("line", .nat line)])
      (Json.nullable Json.text?)
  symbols source :=
    Remote.request channel "symbols" Capabilities.symbols
      (.ofMembers [("source", .str source)]) (Remote.listOf? RawSymbol.ofJson?)
  diagnostics source path :=
    Remote.request channel "diagnostics" Capabilities.diagnostics
      (.ofMembers [("source", .str source), ("path", .str path)])
      (Remote.listOf? RawDiagnostic.ofJson?)
  shutdown := modify fun remote => { remote with link := channel.shutdown remote.link }

end Inlay
