import Inlay.Bridge.Wire
import Inlay.Interpreter.Basic
import Inlay.Text.Utf8

/-!
# Scripted interpreters

A scripted interpreter answers each method by a fixed rule, which makes every
run of the bridge reproducible.  A script may depend on a parameter of the
request and on how many requests of its method came before.
-/

namespace Inlay

/-- How a request is answered. -/
inductive Script where
  /-- A reply with a result. -/
  | reply (result : Json)
  /-- A reply with an error. -/
  | error (payload : Json)
  /-- Lines of text in which `$ID` stands for the id of the request. -/
  | raw (text : String)
  | bytes (bytes : List UInt8)
  | silent
  | crash
  | closeInput
  | delay (ms : Nat) (next : Script)
  /-- One script after the other, the last one again and again. -/
  | sequence (scripts : List Script)
  /-- A script chosen by the text of a parameter. -/
  | byParam (param : String) (cases : List (String × Script)) (otherwise : Script)
  deriving Inhabited

namespace Script

/-- Replaces every `$ID` in a text. -/
def fillId (id : List Char) : List Char → List Char
  | '$' :: 'I' :: 'D' :: rest => id ++ fillId id rest
  | c :: rest => c :: fillId id rest
  | [] => []

/-- A line of output. -/
def line (text : String) : Effect := .output (Text.encode (text ++ "\n"))

/-- The line of a reply with one member beside the id. -/
def replyLine (id : Nat) (member : String) (value : Json) : Effect :=
  line (Json.ofMembers [("id", .nat id), (member, value)]).render

mutual

/-- What a script does for a request, `earlier` being the number of requests of
the same method that came before. -/
def effects (request : Request) (earlier waited : Nat) : Script → List Delayed
  | .reply result => [⟨waited, replyLine request.id "result" result⟩]
  | .error payload => [⟨waited, replyLine request.id "error" payload⟩]
  | .raw text =>
      [⟨waited, line (String.ofList (fillId (toString request.id).toList text.toList))⟩]
  | .bytes data => [⟨waited, .output data⟩]
  | .silent => []
  | .crash => [⟨waited, .exit⟩]
  | .closeInput => [⟨waited, .closeInput⟩]
  | .delay ms next => next.effects request earlier (waited + ms)
  | .sequence scripts => sequenceEffects request earlier waited earlier scripts
  | .byParam param cases otherwise =>
      match (request.params.get? param).bind Json.text? with
      | some text =>
          match caseEffects request earlier waited text cases with
          | some effects => effects
          | none => otherwise.effects request earlier waited
      | none => otherwise.effects request earlier waited

/-- What the script at an index does, or the last one when there are fewer. -/
def sequenceEffects (request : Request) (earlier waited : Nat) : Nat → List Script → List Delayed
  | _, [] => []
  | _, [last] => last.effects request earlier waited
  | 0, script :: _ :: _ => script.effects request earlier waited
  | index + 1, _ :: next :: rest => sequenceEffects request earlier waited index (next :: rest)

/-- What the script of a case does, if there is one. -/
def caseEffects (request : Request) (earlier waited : Nat) (text : String) :
    List (String × Script) → Option (List Delayed)
  | [] => none
  | (value, script) :: rest =>
      if value = text then some (script.effects request earlier waited)
      else caseEffects request earlier waited text rest

end

/-! ## Reading scripts -/

/-- Decodes a script that nests at most the given depth; what is no script is
silence. -/
def ofJsonWithin : Nat → Json → Script
  | 0, _ => .silent
  | depth + 1, .arr scripts => .sequence (scripts.map (ofJsonWithin depth))
  | depth + 1, value =>
      let member := value.get?
      match member "reply", member "error", member "raw", member "bytes", member "crash",
        member "close_input", member "delay", member "by" with
      | some result, _, _, _, _, _, _, _ => .reply result
      | _, some payload, _, _, _, _, _, _ => .error payload
      | _, _, some (.str text), _, _, _, _, _ => .raw text
      | _, _, _, some (.arr items), _, _, _, _ =>
          .bytes (items.filterMap fun byte => (byte.natBelow? UInt8.size).map UInt8.ofNat)
      | _, _, _, _, some _, _, _, _ => .crash
      | _, _, _, _, _, some _, _, _ => .closeInput
      | _, _, _, _, _, _, some ms, _ =>
          .delay (ms.nat64?.getD 0) (ofJsonWithin depth ((member "then").getD .null))
      | _, _, _, _, _, _, _, some (.str param) =>
          let cases :=
            match member "cases" with
            | some (.obj members) => members.map fun entry => (entry.1, ofJsonWithin depth entry.2)
            | _ => []
          .byParam param cases (ofJsonWithin depth ((member "else").getD .null))
      | _, _, _, _, _, _, _, _ => .silent

/-- Decodes a script. -/
def ofJson (value : Json) : Script := ofJsonWithin (value.nesting + 1) value

end Script

/-- A scripted interpreter. -/
structure ScriptBook where
  description : String := "scripted interpreter"
  /-- The script of each method; a method without one is echoed. -/
  scripts : List (String × Script) := []
  /-- Why a start fails, by the number of attempts before it. -/
  startErrors : List (Option String) := []

/-- What a scripted interpreter remembers. -/
structure ScriptState where
  /-- The number of attempts to start it. -/
  attempts : Nat := 0
  /-- The requests received, last one first. -/
  received : List Request := []

namespace ScriptBook

/-- The script that replies with the method and the parameters of a request. -/
def echo (request : Request) : Script :=
  .reply (Json.ofMembers [("method", .str request.method), ("params", request.params)])

/-- The interpreter that follows the scripts. -/
def interpreter (book : ScriptBook) : Interpreter ScriptState where
  description := book.description
  start state :=
    let next := { state with attempts := state.attempts + 1 }
    match book.startErrors[state.attempts]?.join with
    | some reason => (next, .error reason)
    | none => (next, .ok [])
  receive state line :=
    match Request.ofLine? line with
    | none => (state, [])
    | some request =>
        let earlier := state.received.countP fun other => other.method == request.method
        let script := (book.scripts.lookup request.method).getD (echo request)
        ({ state with received := request :: state.received }, script.effects request earlier 0)

end ScriptBook

end Inlay
