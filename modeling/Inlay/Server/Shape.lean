import Inlay.Json.Writer
import Inlay.Uri.Basic

/-!
# Shapes of values

The parameters of a message must have the shape that its method asks for.  A
value that does not is met with a complaint, which names the first thing that is
wrong with it.

A record is written as an object, or as an array of its fields in order; an array
must give every field, save those at its end that have a default.  The members of
an object are looked at in the order of their keys, and only then are fields
missed.  A record that is merged from others is always an object.
-/

namespace Inlay

/-- The shape of a value. -/
inductive Shape where
  | anything
  | boolean
  | text
  | uri
  /-- An unsigned number of 32 bits. -/
  | natural
  /-- A signed number of 32 bits. -/
  | integer
  /-- Any number. -/
  | number
  /-- A value that may be `null`, or missing from an object. -/
  | optional (shape : Shape)
  /-- A value that may be missing. -/
  | defaulted (shape : Shape)
  | list (shape : Shape)
  /-- One of some names. -/
  | choice (names : List String)
  /-- A value of one of some shapes. -/
  | either (name : String) (shapes : List Shape)
  /-- An object of which nothing more is asked. -/
  | object (name : String)
  | record (name : String) (fields : List (String × Shape))
  /-- A record with the fields of other records besides its own. -/
  | merged (name : String) (fields : List (String × Shape)) (parts : List Shape)

/-- What is wrong with a value. -/
inductive Complaint where
  | mistyped (found expected : String)
  | misvalued (found expected : String)
  | missing (field : String)
  | tooFew (count : Nat) (expected : String)
  | tooMany (count : Nat)
  | unknownName (name : String) (names : List String)
  | noneFits (name : String)
  deriving Repr, DecidableEq

namespace Complaint

/-- A word in quotes. -/
def quoted (word : String) : String := "`" ++ word ++ "`"

/-- Names for a reader to choose from. -/
def choices : List String → String
  | [] => "there are no variants"
  | [one] => "expected " ++ quoted one
  | [one, other] => "expected " ++ quoted one ++ " or " ++ quoted other
  | names => "expected one of " ++ ", ".intercalate (names.map quoted)

/-- A complaint in words. -/
def message : Complaint → String
  | .mistyped found expected => "invalid type: " ++ found ++ ", expected " ++ expected
  | .misvalued found expected => "invalid value: " ++ found ++ ", expected " ++ expected
  | .missing field => "missing field " ++ quoted field
  | .tooFew count expected => "invalid length " ++ toString count ++ ", expected " ++ expected
  | .tooMany count => "invalid length " ++ toString count ++ ", expected fewer elements in array"
  | .unknownName name names => "unknown variant " ++ quoted name ++ ", " ++ choices names
  | .noneFits name => "data did not match any variant of untagged enum " ++ name

/-- A character of a text in quotes. -/
def charQuoted (c : Char) : List Char :=
  if c = '"' then ['\\', '"']
  else if c = '\\' then ['\\', '\\']
  else if c = '\n' then ['\\', 'n']
  else if c = '\r' then ['\\', 'r']
  else if c = '\t' then ['\\', 't']
  else if c.toNat = 0 then ['\\', '0']
  else if c.toNat < 0x20 ∨ c.toNat = 0x7F then
    "\\u\x7b".toList ++ Nat.toDigits 16 c.toNat ++ "\x7d".toList
  else [c]

/-- A text as a complaint shows it. -/
def shownText (text : String) : String :=
  "string \"" ++ String.ofList (text.toList.flatMap charQuoted) ++ "\""

/-- A value as a complaint shows it. -/
def shown : Json → String
  | .null => "null"
  | .bool value => "boolean " ++ quoted (if value then "true" else "false")
  | .int value => "integer " ++ quoted (String.ofList (Json.intChars value))
  | .real value => "floating point " ++ quoted (String.ofList (Json.floatChars value))
  | .str text => shownText text
  | .arr _ => "sequence"
  | .obj _ => "map"

end Complaint

namespace Shape

/-- Whether an object may lack a field of the shape. -/
def mayLack : Shape → Bool
  | .optional _ | .defaulted _ => true
  | _ => false

/-- Whether an array may end before a field of the shape. -/
def mayEnd : Shape → Bool
  | .defaulted _ => true
  | _ => false

/-- A record as a complaint calls it. -/
def called (name : String) : String := "struct " ++ name

/-- A record of some fields as a complaint calls it. -/
def calledWith (name : String) (count : Nat) : String :=
  called name ++ " with " ++ toString count ++ (if count = 1 then " element" else " elements")

/-- The first field that an object lacks. -/
def lacking? (fields : List (String × Shape)) (members : List (String × Json)) :
    Option Complaint :=
  (fields.find? fun field => !field.2.mayLack && (members.lookup field.1).isNone).map fun field =>
    .missing field.1

/-- What is wrong with a number that must lie within bounds. -/
def outside? (low high : Int) (name : String) : Json → Option Complaint
  | .int value =>
      if low ≤ value ∧ value ≤ high then none
      else some (.misvalued (Complaint.shown (.int value)) name)
  | value => some (.mistyped (Complaint.shown value) name)

/-- What is wrong with a choice among names. -/
def unchosen? (names : List String) (value : Json) : Option Complaint :=
  let known (name : String) := if names.contains name then none else some (.unknownName name names)
  match value with
  | .str name => known name
  | .obj [(name, .null)] => known name
  | value => some (.mistyped (Complaint.shown value) "string or map")

/-- What is wrong with a URI. -/
def unreadable? : Json → Option Complaint
  | .str written =>
      match Uri.parse written with
      | .ok _ => none
      | .error fault => some (.misvalued (Complaint.shownText written) fault.message)
  | value => some (.mistyped (Complaint.shown value) "a string representing an URL")

mutual

/-- What is wrong with a value that must have a shape. -/
def complaint? : Shape → Json → Option Complaint
  | .anything, _ => none
  | .boolean, value =>
      if value.bool?.isSome then none else some (.mistyped (Complaint.shown value) "a boolean")
  | .text, value =>
      if value.text?.isSome then none else some (.mistyped (Complaint.shown value) "a string")
  | .uri, value => unreadable? value
  | .natural, value => outside? 0 4294967295 "u32" value
  | .integer, value => outside? (-2147483648) 2147483647 "i32" value
  | .number, value =>
      if value.float?.isSome then none else some (.mistyped (Complaint.shown value) "f32")
  | .optional _, .null => none
  | .optional shape, value => complaint? shape value
  | .defaulted shape, value => complaint? shape value
  | .list shape, .arr items => items.findSome? (complaint? shape)
  | .list _, value => some (.mistyped (Complaint.shown value) "a sequence")
  | .choice names, value => unchosen? names value
  | .either name shapes, value => if fitsOne shapes value then none else some (.noneFits name)
  | .object name, value =>
      if value.isObject then none else some (.mistyped (Complaint.shown value) (called name))
  | .record _ fields, .obj members =>
      (members.findSome? fun member => fieldComplaint? fields member.1 member.2).or
        (lacking? fields members)
  | .record name fields, .arr items =>
      itemsComplaint? (calledWith name fields.length) items.length 0 fields items
  | .record name _, value => some (.mistyped (Complaint.shown value) (called name))
  | .merged _ fields parts, .obj members =>
      ((members.findSome? fun member => fieldComplaint? fields member.1 member.2).or
        (lacking? fields members)).or (partsComplaint? parts (.obj members))
  | .merged name _ _, value => some (.mistyped (Complaint.shown value) (called name))

/-- Whether a value has one of some shapes. -/
def fitsOne : List Shape → Json → Bool
  | [], _ => false
  | shape :: rest, value => (complaint? shape value).isNone || fitsOne rest value

/-- What is wrong with a member of an object; members that are no fields are
ignored. -/
def fieldComplaint? : List (String × Shape) → String → Json → Option Complaint
  | [], _, _ => none
  | (name, shape) :: rest, key, value =>
      if name = key then complaint? shape value else fieldComplaint? rest key value

/-- What is wrong with the items of an array that stands for a record; `index`
items have been looked at. -/
def itemsComplaint? (expected : String) (count index : Nat) :
    List (String × Shape) → List Json → Option Complaint
  | [], [] => none
  | [], _ :: _ => some (.tooMany count)
  | (_, shape) :: rest, [] =>
      if shape.mayEnd then itemsComplaint? expected count (index + 1) rest []
      else some (.tooFew index expected)
  | (_, shape) :: rest, item :: items =>
      (complaint? shape item).or (itemsComplaint? expected count (index + 1) rest items)

/-- What is wrong with an object that must have the fields of some records. -/
def partsComplaint? : List Shape → Json → Option Complaint
  | [], _ => none
  | part :: rest, value => (complaint? part value).or (partsComplaint? rest value)

end

/-- Whether a value has a shape. -/
def fits (shape : Shape) (value : Json) : Bool := (shape.complaint? value).isNone

end Shape

end Inlay
