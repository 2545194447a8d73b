import Inlay.Diagnostic
import Inlay.Failure
import Inlay.Symbol.Host
import Inlay.Token

/-!
# Analyzers

All that the server needs to know about the host language comes from an
analyzer: tokens, symbols, problems, and where a name is declared.  An analyzer
works on a state of some type and may fail; the state stays as the failed
operation left it.
-/

namespace Inlay

/-- A computation on a state that may fail. -/
abbrev Analysis (σ α : Type) := ExceptT Failure (StateM σ) α

namespace Analysis

variable {σ α : Type}

/-- The outcome of a computation as a value, which itself does not fail. -/
def attempt (work : Analysis σ α) : Analysis σ (Outcome α) :=
  ExceptT.mk (work.run >>= fun outcome => pure (.ok outcome))

/-- The computation that has the given outcome. -/
def ofOutcome (outcome : Outcome α) : Analysis σ α := ExceptT.mk (pure outcome)

end Analysis

/-- The operations an interpreter offers. -/
structure Capabilities where
  tokenize : Bool := false
  resolve : Bool := false
  symbols : Bool := false
  diagnostics : Bool := false
  deriving Repr, DecidableEq

namespace Capabilities

/-- Every operation. -/
def all : Capabilities := ⟨true, true, true, true⟩

/-- Decodes capabilities; one that is missing is not offered. -/
def ofJson? (value : Json) : Option Capabilities := do
  let field ← value.record? ["tokenize", "resolve", "symbols", "diagnostics"]
  some {
    tokenize := ← Json.optional (field "tokenize") false Json.bool?
    resolve := ← Json.optional (field "resolve") false Json.bool?
    symbols := ← Json.optional (field "symbols") false Json.bool?
    diagnostics := ← Json.optional (field "diagnostics") false Json.bool? }

end Capabilities

/-- A source of knowledge about the host language. -/
structure Analyzer (σ : Type) where
  /-- The name shown to the user. -/
  name : String
  /-- The tokens of a source. -/
  tokenize (source : String) : Analysis σ (List RawToken)
  /-- Where a name used on a line, counted from one, is declared. -/
  resolve (source path name : String) (line : Nat) : Analysis σ (Option String)
  /-- The symbols of a source. -/
  symbols (source : String) : Analysis σ (List RawSymbol)
  /-- The problems of a source. -/
  diagnostics (source path : String) : Analysis σ (List RawDiagnostic)
  /-- Ends the analyzer's work. -/
  shutdown : StateM σ Unit

/-- The analyzer that offers nothing. -/
def Analyzer.bare (σ : Type) : Analyzer σ where
  name := "bare"
  tokenize _ := throw (.unavailable "tokenize")
  resolve _ _ _ _ := throw (.unavailable "resolve")
  symbols _ := throw (.unavailable "symbols")
  diagnostics _ _ := throw (.unavailable "diagnostics")
  shutdown := pure ()

end Inlay
