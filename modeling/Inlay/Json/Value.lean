/-!
# JSON values

The values exchanged with the interpreter and with the editor.  A number is
either an integer or a binary float, because the two are told apart by every
consumer: an integer is never accepted for the other and only integers are
correlation ids.  The members of an object are kept in increasing order of
their keys, each key once, so that an object has one representation.
-/

namespace Inlay

/-- A JSON value. -/
inductive Json where
  | null
  | bool (value : Bool)
  | int (value : Int)
  | real (value : Float)
  | str (text : String)
  | arr (items : List Json)
  | obj (members : List (String × Json))
  deriving Inhabited

namespace Json

/-! ## Objects -/

/-- Sets a member of a key-ordered list, replacing an older value of the key. -/
def insertMember (key : String) (value : Json) : List (String × Json) → List (String × Json)
  | [] => [(key, value)]
  | (other, old) :: rest =>
      if key = other then (key, value) :: rest
      else if key < other then (key, value) :: (other, old) :: rest
      else (other, old) :: insertMember key value rest

/-- The object with the given members; of two members of one key the later stands. -/
def ofMembers (members : List (String × Json)) : Json :=
  .obj (members.foldl (fun built member => insertMember member.1 member.2 built) [])

/-- The object with the given members, those without a value left out. -/
def ofSome (members : List (String × Option Json)) : Json :=
  ofMembers (members.filterMap fun member => member.2.map fun value => (member.1, value))

/-- A member of an object; other values have none. -/
def get? (key : String) : Json → Option Json
  | .obj members => members.lookup key
  | _ => none

/-- Whether the value is an object. -/
def isObject : Json → Bool
  | .obj _ => true
  | _ => false

/-! ## Nesting -/

mutual

/-- The number of containers nested in one another. -/
def nesting : Json → Nat
  | .arr items => 1 + itemsNesting items
  | .obj members => 1 + membersNesting members
  | _ => 0

/-- The deepest nesting among some values. -/
def itemsNesting : List Json → Nat
  | [] => 0
  | item :: rest => max item.nesting (itemsNesting rest)

/-- The deepest nesting among some members. -/
def membersNesting : List (String × Json) → Nat
  | [] => 0
  | (_, value) :: rest => max value.nesting (membersNesting rest)

end

/-! ## Reading scalars -/

/-- The text of a string. -/
def text? : Json → Option String
  | .str text => some text
  | _ => none

/-- A choice among names, written as the name or as an object whose one member
has that name and no value. -/
def choice? : Json → Option String
  | .str name => some name
  | .obj [(name, .null)] => some name
  | _ => none

/-- The truth value of a boolean. -/
def bool? : Json → Option Bool
  | .bool value => some value
  | _ => none

/-- The integer of an integer number within the given bounds. -/
def intWithin? (low high : Int) : Json → Option Int
  | .int value => if low ≤ value ∧ value ≤ high then some value else none
  | _ => none

/-- A number without a sign below a bound. -/
def natBelow? (bound : Nat) : Json → Option Nat
  | .int value => if 0 ≤ value ∧ value < bound then some value.toNat else none
  | _ => none

/-- An unsigned 32-bit number: a line, a character, a document id. -/
def nat32? : Json → Option Nat := natBelow? UInt32.size

/-- An unsigned 64-bit number: a correlation id, a length, a timeout. -/
def nat64? : Json → Option Nat := natBelow? UInt64.size

/-- A signed 32-bit number: a document version. -/
def int32? : Json → Option Int := intWithin? (-2147483648) 2147483647

/-- A float; an integer is read as the nearest float. -/
def float? : Json → Option Float
  | .real value => some value
  | .int value => some (if value < 0 then -(Float.ofNat value.natAbs) else Float.ofNat value.natAbs)
  | _ => none

/-- The items of an array. -/
def items? : Json → Option (List Json)
  | .arr items => some items
  | _ => none

/-- The texts of an array of strings. -/
def texts? (value : Json) : Option (List String) := do
  (← value.items?).mapM text?

/-- A value that may be absent: `null` reads as nothing. -/
def nullable (read : Json → Option α) : Json → Option (Option α)
  | .null => some none
  | value => (read value).map some

/-! ## Records

A record is written as an object with named fields, or as an array of its
fields in order. -/

/-- The fields of a record as a look-up by name.  An array gives its fields by
position and may stop early, but not run on. -/
def record? (fields : List String) : Json → Option (String → Option Json)
  | .obj members => some fun name => members.lookup name
  | .arr items =>
      if items.length ≤ fields.length then some fun name => (fields.zip items).lookup name else none
  | _ => none

/-- A field that must be present. -/
def required (field : Option Json) (read : Json → Option α) : Option α :=
  field.bind read

/-- A field that falls back to a default when it is missing. -/
def optional (field : Option Json) (fallback : α) (read : Json → Option α) : Option α :=
  match field with
  | none => some fallback
  | some value => read value

/-! ## Writing values -/

/-- A natural number as a JSON number. -/
def nat (value : Nat) : Json := .int value

/-- An array of values. -/
def list (write : α → Json) (values : List α) : Json := .arr (values.map write)

/-- A value or `null`. -/
def option (write : α → Json) : Option α → Json
  | none => .null
  | some value => write value

end Json

end Inlay
