import Inlay.Proofs.Json.Value
import Inlay.Settings

/-!
# Laying a value over another

An object laid over another has, under each name, what the first has there laid over what the
second has (`get?_overlay`); anything else replaces what was there.

A value is read back out of what it was written to (`Lawful.read_write`), and when something
has been laid over a written value and the result was read, laying it over what that is
written to reads the same again (`Lawful.settles`).  Values whose writing is no object have
this for free (`Lawful.flat`), and a record has it member by member (`Member`).
-/

namespace Inlay.Settings

open Json (InOrder)

variable {α β : Type}

/-! ## What is under a name -/

theorem overlay_of_isObject_false (base : Json) {patch : Json} (plain : patch.isObject = false) :
    overlay base patch = patch := by
  cases patch with
  | obj => cases plain
  | _ => rfl

theorem overlay_of_base_false {base : Json} (plain : base.isObject = false) (patch : Json) :
    overlay base patch = patch := by
  cases base with
  | obj => cases plain
  | _ => cases patch <;> rfl

theorem overlay_null (patch : Json) : overlay .null patch = patch :=
  overlay_of_base_false rfl patch

/-- What is under a name after something has been laid over it, or nothing. -/
def layMember (old : Option Json) : Option Json → Option Json
  | none => old
  | some value => some (overlay (old.getD .null) value)

/-- A member gets what it had before with the new value laid over it. -/
theorem overlayMembers_cons (members : List (String × Json)) (member : String × Json)
    (rest : List (String × Json)) :
    overlayMembers members (member :: rest) =
      overlayMembers (Json.insertMember member.1
        (overlay ((members.lookup member.1).getD .null) member.2) members) rest := by
  rw [overlayMembers]
  cases members.lookup member.1 with
  | none => simp only [Option.getD_none, overlay_null]
  | some old =>
      cases plain : old.isObject with
      | true => simp only [plain, if_true, Option.getD_some]
      | false =>
          simp only [plain, Bool.false_eq_true, if_false, Option.getD_some,
            overlay_of_base_false plain]

theorem lookup_overlayMembers {patch : List (String × Json)} (inOrder : InOrder (.obj patch))
    (members : List (String × Json)) (name : String) :
    (overlayMembers members patch).lookup name =
      layMember (members.lookup name) (patch.lookup name) := by
  induction patch generalizing members with
  | nil => rw [overlayMembers]; rfl
  | cons member rest ih =>
      obtain ⟨least, sorted⟩ := List.pairwise_cons.1 inOrder
      rw [overlayMembers_cons, ih sorted, Json.lookup_insertMember, Json.lookup_member]
      by_cases here : name = member.1
      · -- Each key comes once, so nothing more is laid over this member.
        subst here
        have single : rest.lookup member.1 = none := by
          cases found : rest.lookup member.1 with
          | none => rfl
          | some value => exact absurd (least _ (Json.mem_of_lookup found)) (String.lt_irrefl _)
        rw [if_pos rfl, if_pos rfl, single]
        rfl
      · rw [if_neg here, if_neg here]

theorem inOrder_overlayMembers {members : List (String × Json)}
    (inOrder : InOrder (.obj members)) (patch : List (String × Json)) :
    InOrder (.obj (overlayMembers members patch)) := by
  induction patch generalizing members with
  | nil => rwa [overlayMembers]
  | cons member rest ih =>
      rw [overlayMembers]
      exact ih (Json.inOrder_insertMember _ _ inOrder)

/-- Laying over members what they already have changes nothing. -/
theorem overlayMembers_self {members : List (String × Json)} (inOrder : InOrder (.obj members))
    (patch : List (String × Json))
    (same : ∀ member ∈ patch,
      members.lookup member.1 = some member.2 ∧ member.2.isObject = false) :
    overlayMembers members patch = members := by
  induction patch with
  | nil => rw [overlayMembers]
  | cons member rest ih =>
      obtain ⟨⟨there, plain⟩, others⟩ := List.forall_mem_cons.1 same
      rw [overlayMembers_cons, overlay_of_isObject_false _ plain,
        Json.insertMember_of_lookup inOrder there, ih others]

theorem isObject_overlay (base : Json) (patch : List (String × Json)) :
    (overlay base (.obj patch)).isObject = true := by
  cases base <;> rfl

/-- A text is left only by laying the text itself over something. -/
theorem eq_str_of_overlay {base patch : Json} {text : String}
    (laid : overlay base patch = .str text) : patch = .str text := by
  cases kind : patch.isObject with
  | false => rwa [overlay_of_isObject_false _ kind] at laid
  | true =>
      obtain ⟨members, rfl⟩ := Json.exists_of_isObject kind
      have never := isObject_overlay base members
      rw [laid] at never
      cases never

theorem get?_overlay (base : Json) {patch : List (String × Json)} (inOrder : InOrder (.obj patch))
    (name : String) :
    (overlay base (.obj patch)).get? name = layMember (base.get? name) (patch.lookup name) := by
  cases base with
  | obj members => exact lookup_overlayMembers inOrder members name
  | _ =>
      show patch.lookup name = layMember none (patch.lookup name)
      cases patch.lookup name with
      | none => rfl
      | some value => exact congrArg some (overlay_null value).symm

/-! ## Reading what was laid over -/

/-- Nothing, or what a value was written to. -/
def Written (holds : α → Prop) (write : α → Json) (base : Json) : Prop :=
  base = .null ∨ ∃ old, holds old ∧ base = write old

/-- A value is read back from what it was written to, and when something was laid over what
was written before, laying it over the result reads the result again. -/
structure Lawful (holds : α → Prop) (write : α → Json) (read : Json → Option α) : Prop where
  read_write : ∀ {value}, holds value → read (write value) = some value
  settles : ∀ {base patch value}, Written holds write base → patch.Each InOrder →
    read (overlay base patch) = some value → read (overlay (write value) patch) = some value

namespace Lawful

variable {holds : α → Prop} {write : α → Json} {read : Json → Option α}

/-- What is no object replaces whatever it is laid over, so only objects matter. -/
theorem of_members (readBack : ∀ value, holds value → read (write value) = some value)
    (settles : ∀ base patch value, Written holds write base → (Json.obj patch).Each InOrder →
      read (overlay base (.obj patch)) = some value →
      read (overlay (write value) (.obj patch)) = some value) :
    Lawful holds write read where
  read_write := readBack _
  settles {base patch value} written ordered reads := by
    cases kind : patch.isObject with
    | false => rwa [overlay_of_isObject_false _ kind] at reads ⊢
    | true =>
        obtain ⟨members, rfl⟩ := Json.exists_of_isObject kind
        exact settles base members value written ordered reads

/-- A record is settled when its parts are: `reads` says that the parts of a value are read
from an object. -/
theorem of_parts {reads : Json → α → Prop}
    (read_iff : ∀ {value : Json} {record : α}, value.isObject = true →
      (read value = some record ↔ reads value record))
    (object : ∀ record, (write record).isObject = true)
    (readBack : ∀ record, holds record → reads (write record) record)
    (settles : ∀ base patch record, Written holds write base → (Json.obj patch).Each InOrder →
      reads (overlay base (.obj patch)) record →
      reads (overlay (write record) (.obj patch)) record) :
    Lawful holds write read :=
  of_members (fun record holding => (read_iff (object record)).2 (readBack record holding))
    fun base patch record written ordered parts =>
      (read_iff (isObject_overlay _ _)).2
        (settles base patch record written ordered ((read_iff (isObject_overlay _ _)).1 parts))

/-- Where no object can be read, nothing can be laid member by member. -/
theorem flat (readBack : ∀ value, holds value → read (write value) = some value)
    (plain : ∀ members, read (.obj members) = none) : Lawful holds write read := by
  refine of_members readBack fun base patch value _ _ reads => ?_
  obtain ⟨members, laid⟩ := Json.exists_of_isObject (isObject_overlay base patch)
  rw [laid, plain] at reads
  cases reads

/-- A value that may be absent is settled when it is settled where it is there. -/
theorem nullable (lawful : Lawful holds write read) (present : ∀ value, write value ≠ .null) :
    Lawful (fun value : Option α => ∀ inner, value = some inner → holds inner)
      (Json.option write) (Json.nullable read) := by
  have reads_of_ne {value : Json} (there : value ≠ .null) :
      Json.nullable read value = (read value).map some := by
    cases value with
    | null => exact absurd rfl there
    | _ => rfl
  refine of_members (fun value holding => ?_) fun base patch value written ordered reads => ?_
  · cases value with
    | none => rfl
    | some inner =>
        rw [Json.option, reads_of_ne (present inner), lawful.read_write (holding inner rfl)]
        rfl
  · have there (base : Json) : overlay base (.obj patch) ≠ .null := by
      obtain ⟨members, laid⟩ := Json.exists_of_isObject (isObject_overlay base patch)
      rw [laid]
      exact Json.noConfusion
    rw [reads_of_ne (there _)] at reads ⊢
    obtain ⟨inner, innerReads, rfl⟩ := Option.map_eq_some_iff.1 reads
    have innerWritten : Written holds write base := by
      rcases written with absent | ⟨_ | old, holding, rfl⟩
      · exact .inl absent
      · exact .inl rfl
      · exact .inr ⟨old, holding old rfl, rfl⟩
    rw [Json.option, lawful.settles innerWritten ordered innerReads]
    rfl

end Lawful

/-! ## Records -/

/-- What a record has under a name: it is written there, and when nothing is there it has its
fallback. -/
structure Member (holds : α → Prop) (write : α → Json) (name : String) (part : α → β)
    (fallback : β) (partHolds : β → Prop) (partWrite : β → Json)
    (partRead : Json → Option β) : Prop where
  lawful : Lawful partHolds partWrite partRead
  default_holds : partHolds fallback
  part_holds : ∀ {value}, holds value → partHolds (part value)
  written : ∀ value, (write value).get? name = some (partWrite (part value))

namespace Member

variable {holds : α → Prop} {write : α → Json} {name : String} {part : α → β} {fallback : β}
  {partHolds : β → Prop} {partWrite : β → Json} {partRead : Json → Option β}
  {base : Json} {patch : List (String × Json)} {old value : α} {read : β}

theorem read_write
    (member : Member holds write name part fallback partHolds partWrite partRead)
    (holding : holds value) :
    Json.optional ((write value).get? name) fallback partRead = some (part value) := by
  rw [member.written, Json.optional, member.lawful.read_write (member.part_holds holding)]

theorem settles
    (member : Member holds write name part fallback partHolds partWrite partRead)
    (written : Written holds write base) (ordered : (Json.obj patch).Each InOrder)
    (reads : Json.optional ((overlay base (.obj patch)).get? name) fallback partRead =
      some (part value)) :
    Json.optional ((overlay (write value) (.obj patch)).get? name) fallback partRead =
      some (part value) := by
  have before : base.get? name = none ∨
      ∃ old, partHolds old ∧ base.get? name = some (partWrite old) := by
    rcases written with rfl | ⟨old, holding, rfl⟩
    · exact .inl rfl
    · exact .inr ⟨part old, member.part_holds holding, member.written old⟩
  rw [get?_overlay _ ordered.1] at reads ⊢
  rw [member.written]
  cases named : patch.lookup name with
  | none =>
      rw [named] at reads
      -- Nothing is laid here, so the part read is the one written, or the fallback.
      have settled : partHolds (part value) := by
        rcases before with absent | ⟨old, holding, there⟩
        · rw [absent] at reads
          exact Option.some.inj reads ▸ member.default_holds
        · rw [there] at reads
          exact Option.some.inj ((member.lawful.read_write holding).symm.trans reads) ▸ holding
      exact member.lawful.read_write settled
  | some laid =>
      rw [named] at reads
      have partWritten : Written partHolds partWrite ((base.get? name).getD .null) := by
        rcases before with absent | ⟨old, holding, there⟩
        · exact .inl (by rw [absent]; rfl)
        · exact .inr ⟨old, holding, by rw [there]; rfl⟩
      have laidOrdered : laid.Each InOrder :=
        Json.eachMember_iff.1 ordered.2 _ (Json.mem_of_lookup named)
      exact member.lawful.settles partWritten laidOrdered reads

/-- A part that is not named is kept. -/
theorem kept
    (member : Member holds write name part fallback partHolds partWrite partRead)
    (holding : holds old) (inOrder : InOrder (.obj patch)) (unnamed : patch.lookup name = none)
    (reads : Json.optional ((overlay (write old) (.obj patch)).get? name) fallback partRead =
      some read) : read = part old := by
  rw [get?_overlay _ inOrder, unnamed, layMember, member.read_write holding] at reads
  exact (Option.some.inj reads).symm

/-- A part that is named is read from what is laid over it. -/
theorem laid
    (member : Member holds write name part fallback partHolds partWrite partRead)
    (inOrder : InOrder (.obj patch)) {laid : Json} (named : patch.lookup name = some laid)
    (reads : Json.optional ((overlay (write old) (.obj patch)).get? name) fallback partRead =
      some read) : partRead (overlay (partWrite (part old)) laid) = some read := by
  rwa [get?_overlay _ inOrder, named, member.written] at reads

/-- A part of a part is kept when it is not named and what is laid over the part, if
anything, is an object. -/
theorem kept_inside {γ : Type} {inner : String} {innerPart : β → γ} {innerFallback : γ}
    {innerHolds : γ → Prop} {innerWrite : γ → Json} {innerRead : Json → Option γ}
    (group : Member holds write name part fallback partHolds partWrite partRead)
    (field : Member partHolds partWrite inner innerPart innerFallback innerHolds innerWrite
      innerRead)
    (reads_field : ∀ {value : Json} {read : β}, value.isObject = true →
      partRead value = some read →
      Json.optional (value.get? inner) innerFallback innerRead = some (innerPart read))
    (holding : holds old) (ordered : (Json.obj patch).Each InOrder)
    (objects : ∀ entry, patch.lookup name = some entry → entry.isObject = true)
    (unnamed : (Json.obj patch).at? [name, inner] = none)
    (reads : Json.optional ((overlay (write old) (.obj patch)).get? name) fallback partRead =
      some read) : innerPart read = innerPart (part old) := by
  cases named : patch.lookup name with
  | none => rw [group.kept holding ordered.1 named reads]
  | some entry =>
      obtain ⟨inside, rfl⟩ := Json.exists_of_isObject (objects entry named)
      have insideOrdered : (Json.obj inside).Each InOrder :=
        Json.eachMember_iff.1 ordered.2 _ (Json.mem_of_lookup named)
      have unnamedInside : inside.lookup inner = none := by
        simpa [Json.at?, Json.get?, named] using unnamed
      exact field.kept (group.part_holds holding) insideOrdered.1 unnamedInside
        (reads_field (isObject_overlay _ _) (group.laid ordered.1 named reads))

end Member

end Inlay.Settings
