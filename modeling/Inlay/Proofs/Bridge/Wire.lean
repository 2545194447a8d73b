import Inlay.Bridge.Wire
import Inlay.Proofs.Json.Reader
import Inlay.Text.Pieces

/-!
# Requests stay apart on the channel

A request is sent as an object on a line of its own.  Nothing in it can break the line, since
control characters are written as escapes, also in keys and in the method.  So the requests
that are written one after the other are the pieces between line feeds.

The object that is read from a line is the one that was sent, when its numbers are integers
of 64 bits and the parameters leave room for the object around them.  That the members of
the parameters are in order holds of all parameters that were themselves read, or built from
members (`Json.parse?_inOrder`, `Json.inOrder_ofMembers`).
-/

namespace Inlay

namespace Request

/-- The object that a request is sent as. -/
def value (request : Request) : Json :=
  .obj [("id", .nat request.id), ("method", .str request.method), ("params", request.params)]

theorem toList_line (request : Request) : request.line.toList = request.value.chars ++ ['\n'] := by
  simp [line, value, Json.chars]

/-- A request is written without a control character, whatever is in it. -/
theorem value_printed (request : Request) : Json.Printed request.value.chars :=
  Json.chars_printed request.value

/-- The requests written so far are the lines of what is on the channel. -/
theorem pieces_lines (requests : List Request) :
    Text.pieces (· == '\n') (requests.flatMap fun request => request.line.toList) =
      requests.map (fun request => request.value.chars) ++ [[]] := by
  induction requests with
  | nil => rfl
  | cons request rest ih =>
      have unbroken : ∀ c ∈ request.value.chars, (c == '\n') = false := fun c listed => by
        rw [beq_eq_false_iff_ne]
        rintro rfl
        exact request.value_printed.not_mem_feed listed
      rw [List.flatMap_cons, toList_line, List.append_assoc, List.singleton_append,
        Text.pieces_append unbroken rfl, ih, List.map_cons, List.cons_append]

/-! ## Reading a request -/

variable {request : Request}

theorem value_inOrder (ordered : request.params.Each Json.InOrder) :
    request.value.Each Json.InOrder := by
  have keys : ["id", "method", "params"].Pairwise (· < ·) := by decide
  exact ⟨List.pairwise_map (f := Prod.fst).1 keys, trivial, trivial, ordered, trivial⟩

theorem value_isWhole (fits : request.id < 2 ^ 64) (whole : request.params.Each Json.IsWhole) :
    request.value.Each Json.IsWhole :=
  ⟨trivial, ⟨by omega, by omega⟩, trivial, whole, trivial⟩

/-- A request is one level deeper than its parameters. -/
theorem nesting_value (request : Request) : request.value.nesting = request.params.nesting + 1 := by
  simp [value, Json.nesting, Json.membersNesting, Json.nat]
  omega

/-- The object is read from its line, with and without the line feed. -/
theorem parse?_line (fits : request.id < 2 ^ 64) (ordered : request.params.Each Json.InOrder)
    (whole : request.params.Each Json.IsWhole) (shallow : request.params.nesting ≤ 126) :
    Json.parseChars? request.value.chars = some request.value ∧
      Json.parse? request.line = some request.value := by
  have room : request.value.nesting ≤ Json.maxNesting := by
    rw [nesting_value, Json.maxNesting]
    omega
  have read := Json.parseChars?_chars (value_inOrder ordered) (value_isWhole fits whole) room
  constructor
  · simpa using read [] (by simp)
  · rw [Json.parse?, toList_line]
    exact read ['\n'] (by simp [Json.isSpace])

theorem nat64?_nat {n : Nat} (fits : n < 2 ^ 64) : (Json.nat n).nat64? = some n := by
  have below : (n : Int) < (UInt64.size : Nat) := Int.ofNat_lt.2 fits
  rw [Json.nat64?, Json.nat, Json.natBelow?, if_pos ⟨Int.natCast_nonneg n, below⟩,
    Int.toNat_natCast]

theorem ofLine?_of_parse? (fits : request.id < 2 ^ 64)
    (parsed : Json.parse? request.line = some request.value) :
    ofLine? request.line = some request := by
  have id : request.value.get? "id" = some (.nat request.id) := rfl
  have method : request.value.get? "method" = some (.str request.method) := rfl
  have params : request.value.get? "params" = some request.params := rfl
  rw [ofLine?, Option.bind_eq_bind, parsed, Option.bind_some, Option.bind_eq_bind, id,
    Option.bind_some, Option.bind_eq_bind, nat64?_nat fits, Option.bind_some, method,
    Option.bind_some]
  simp only [Json.text?, params, Option.bind_some]

/-! ## The channel -/

/-- A request is a line without control characters.  The requests that are written one after
the other are the pieces between line feeds, with nothing behind the last one.  Each request
is read back from its line. -/
theorem lines_readBack (requests : List Request) :
    (∀ request ∈ requests,
      request.line.toList = request.value.chars ++ ['\n'] ∧ Json.Printed request.value.chars) ∧
    Text.pieces (· == '\n') (requests.flatMap fun request => request.line.toList) =
      requests.map (fun request => request.value.chars) ++ [[]] ∧
    ∀ request ∈ requests, request.id < 2 ^ 64 → request.params.Each Json.InOrder →
      request.params.Each Json.IsWhole → request.params.nesting ≤ 126 →
        Json.parseChars? request.value.chars = some request.value ∧
        Json.parse? request.line = some request.value ∧
        ofLine? request.line = some request := by
  refine ⟨fun request _ => ⟨toList_line request, value_printed request⟩, pieces_lines requests, ?_⟩
  intro request _ fits ordered whole shallow
  obtain ⟨bare, ended⟩ := parse?_line fits ordered whole shallow
  exact ⟨bare, ended, ofLine?_of_parse? fits ended⟩

/-- Line feeds, quotes and backslashes in the method, in a key and in an array, and the bounds
of 64 bits. -/
theorem lines_readBack_escaped :
    let params : Json := .obj [
      ("\n\"", .arr [.int (-2 ^ 63), .str "a\r\nb\\\x00", .arr []]), ("é", .null)]
    let request : Request := { id := 2 ^ 64 - 1, method := "\n", params }
    (request.id < 2 ^ 64 ∧ params.Each Json.InOrder ∧ params.Each Json.IsWhole ∧
      params.nesting ≤ 126) ∧
    Text.pieces (· == '\n') (request.line.toList ++ request.line.toList) =
      [request.value.chars, request.value.chars, []] ∧
    ofLine? request.line = some request := by
  intro params request
  have fits : request.id < 2 ^ 64 := by decide
  have ordered : params.Each Json.InOrder :=
    ⟨List.pairwise_pair.2 (by decide), ⟨trivial, trivial, trivial, ⟨trivial, trivial⟩, trivial⟩,
      trivial, trivial⟩
  have whole : params.Each Json.IsWhole := by
    simp [params, Json.Each, Json.EachMember, Json.EachItem, Json.IsWhole, Json.Fits64]
  have shallow : params.nesting ≤ 126 := by decide
  obtain ⟨-, split, back⟩ := lines_readBack [request, request]
  exact ⟨⟨fits, ordered, whole, shallow⟩, by simpa using split,
    (back request List.mem_cons_self fits ordered whole shallow).2.2⟩

end Request

end Inlay
