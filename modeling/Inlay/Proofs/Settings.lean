import Mathlib.Data.Prod.Basic
import Mathlib.Data.String.Basic
import Mathlib.Order.Defs.LinearOrder
import Inlay.Proofs.Settings.Overlay

/-!
# The editor's options

Options are laid over the settings as these are written, and the result is read as settings
again.  Sets, tables and numbers of the settings read back as they were, so what the options
do not name is kept; what they name is the same whether they are laid over the settings once
or twice.

The lists in the settings stand for sets and tables, in increasing order, and the numbers for
64-bit ones (`Settings.WellFormed`).
-/

namespace Inlay

open Json (InOrder)

/-! ## Sets of words -/

namespace WordSet

/-- The words are in increasing order, each once. -/
def Increasing (set : WordSet) : Prop := set.words.Pairwise (· < ·)

/-- A word before all others goes to the front. -/
theorem insertWord_of_lt {word : String} {words : List String}
    (least : ∀ other ∈ words, word < other) : insertWord word words = word :: words := by
  cases words with
  | nil => rfl
  | cons other rest =>
      have before := least other List.mem_cons_self
      rw [insertWord, if_neg (ne_of_lt before), if_pos before]

/-- Inserting a word keeps the order, and a word that is there already stays one word. -/
theorem pairwise_insertWord (word : String) {words : List String}
    (increasing : words.Pairwise (· < ·)) : (insertWord word words).Pairwise (· < ·) := by
  induction words with
  | nil => exact List.pairwise_singleton _ _
  | cons other rest ih =>
      obtain ⟨least, sorted⟩ := List.pairwise_cons.1 increasing
      rw [insertWord]
      split
      next => exact increasing
      next apart =>
        split
        next before =>
          refine List.pairwise_cons.2 ⟨fun later listed => ?_, increasing⟩
          rcases List.mem_cons.1 listed with rfl | inside
          · exact before
          · exact before.trans (least later inside)
        next behind =>
          refine List.pairwise_cons.2 ⟨fun later listed => ?_, ih sorted⟩
          rcases mem_insertWord.1 listed with rfl | inside
          · exact lt_of_le_of_ne (not_lt.1 behind) (Ne.symm apart)
          · exact least later inside

/-- A set made from a list is in increasing order, whatever the list repeats. -/
theorem increasing_ofList (words : List String) : (ofList words).Increasing := by
  rw [Increasing, ofList]
  induction words with
  | nil => exact List.Pairwise.nil
  | cons word rest ih => exact pairwise_insertWord word ih

/-- A set in increasing order is made again from its own words. -/
theorem ofList_words {set : WordSet} (increasing : set.Increasing) : ofList set.words = set := by
  obtain ⟨words⟩ := set
  rw [ofList, WordSet.mk.injEq]
  induction words with
  | nil => rfl
  | cons word rest ih =>
      obtain ⟨least, sorted⟩ := List.pairwise_cons.1 increasing
      rw [List.foldr_cons, ih sorted, insertWord_of_lt least]

end WordSet

/-- The sets and the table of a catalog are in increasing order. -/
structure Catalog.WellFormed (catalog : Catalog) : Prop where
  tags : catalog.tags.Increasing
  voidTags : catalog.voidTags.Increasing
  optionalEndTags : catalog.optionalEndTags.Increasing
  attributes : catalog.attributes.Increasing
  deprecatedTags : catalog.deprecatedTags.Pairwise fun a b => a.1 < b.1

/-- The time limit fits into 64 bits. -/
def InterpreterSettings.Fits (interpreter : InterpreterSettings) : Prop :=
  interpreter.timeoutMs < UInt64.size

/-- The floor can be written as a number, and the length fits into 64 bits. -/
def Thresholds.Fits (thresholds : Thresholds) : Prop :=
  thresholds.confidenceFloor.isFinite = true ∧ thresholds.minLiteralLength < UInt64.size

namespace Settings

/-- The numbers fit into 64 bits, and a catalog is in increasing order. -/
structure WellFormed (settings : Settings) : Prop where
  timeoutMs : settings.interpreter.timeoutMs < UInt64.size
  minLiteralLength : settings.thresholds.minLiteralLength < UInt64.size
  catalog : ∀ catalog, settings.catalog = some catalog → catalog.WellFormed

/-! ## Reading back what was written -/

theorem text_lawful : Lawful (fun _ => True) Json.str Json.text? :=
  .flat (fun _ _ => rfl) fun _ => rfl

theorem texts?_list (words : List String) : (Json.list Json.str words).texts? = some words := by
  show (words.map Json.str).mapM Json.text? = some words
  induction words with
  | nil => rfl
  | cons word rest ih => rw [List.map_cons, List.mapM_cons, ih]; rfl

theorem texts_lawful : Lawful (fun _ => True) (Json.list Json.str) Json.texts? :=
  .flat (fun words _ => texts?_list words) fun _ => rfl

theorem nat64_lawful : Lawful (· < UInt64.size) Json.nat Json.nat64? := by
  refine .flat (fun value fits => ?_) fun _ => rfl
  rw [Json.nat, Json.nat64?, Json.natBelow?, if_pos (by omega)]
  rfl

/-- A finite number is read back as it was written; no other can be written as a number. -/
theorem float_lawful : Lawful (·.isFinite = true) floatJson Json.float? :=
  .flat (fun value finite => by rw [floatJson, if_pos finite]; rfl) fun _ => rfl

/-- A set is written as the list of its words, and a list laid over it replaces it whole. -/
theorem wordSet_lawful :
    Lawful WordSet.Increasing (fun set => Json.list Json.str set.words) Catalog.wordSet? := by
  refine .flat (fun set increasing => ?_) fun _ => rfl
  rw [Catalog.wordSet?, texts?_list, Option.map_some, WordSet.ofList_words increasing]

/-- The members of a table of texts. -/
def tableMembers (table : List (String × String)) : List (String × Json) :=
  table.map fun entry => (entry.1, .str entry.2)

/-- An object is a table of texts if all its members are texts, and then it is that table. -/
theorem wordTable?_obj {members : List (String × Json)} {table : List (String × String)} :
    Catalog.wordTable? (.obj members) = some table ↔ members = tableMembers table := by
  rw [Catalog.wordTable?]
  induction members generalizing table with
  | nil => cases table <;> simp [tableMembers]
  | cons member rest ih =>
      obtain ⟨key, value⟩ := member
      simp only [List.mapM_cons, Option.bind_eq_bind, Option.bind_eq_some_iff, ih,
        Option.map_eq_some_iff, Option.pure_def, Option.some.injEq]
      constructor
      · rintro ⟨_, ⟨text, texts, rfl⟩, others, rfl, rfl⟩
        cases value with
        | str => cases texts; rfl
        | _ => cases texts
      · intro same
        cases table with
        | nil => cases same
        | cons entry others =>
            cases same
            exact ⟨entry, ⟨entry.2, rfl, rfl⟩, others, rfl, rfl⟩

theorem inOrder_tableMembers {table : List (String × String)}
    (increasing : table.Pairwise fun a b => a.1 < b.1) : InOrder (.obj (tableMembers table)) :=
  List.pairwise_map.2 increasing

/-- A text that is laid over a table is in it afterwards, so laying it over once more changes
nothing. -/
theorem wordTable_lawful :
    Lawful (fun table : List (String × String) => table.Pairwise fun a b => a.1 < b.1)
      (fun table => .ofMembers (tableMembers table)) Catalog.wordTable? := by
  refine .of_members (fun table increasing => ?_) fun base patch table written ordered reads => ?_
  · rw [Json.ofMembers_of_inOrder (inOrder_tableMembers increasing), wordTable?_obj]
  · have inOrder : InOrder (overlay base (.obj patch)) := by
      rcases written with rfl | ⟨old, _, rfl⟩
      · exact ordered.1
      · exact inOrder_overlayMembers (Json.inOrder_ofMembers _) patch
    have found := get?_overlay base ordered.1
    obtain ⟨laid, same⟩ := Json.exists_of_isObject (isObject_overlay base patch)
    rw [same] at inOrder found reads
    rw [wordTable?_obj] at reads
    rw [← reads, Json.ofMembers_of_inOrder inOrder]
    -- Everything in the table is a text, so what was laid over it is no object.
    have again : overlayMembers laid patch = laid := by
      refine overlayMembers_self inOrder patch fun member listed => ?_
      have there : laid.lookup member.1 =
          some (overlay ((base.get? member.1).getD .null) member.2) := by
        rw [← Json.get?, found, Json.lookup_of_mem ordered.1 listed]
        rfl
      obtain ⟨entry, _, text⟩ := List.mem_map.1 (reads ▸ Json.mem_of_lookup there)
      have plain : member.2 = .str entry.2 := eq_str_of_overlay (congrArg Prod.snd text).symm
      rw [there, plain]
      exact ⟨congrArg some (overlay_of_isObject_false _ rfl), rfl⟩
    show Catalog.wordTable? (.obj (overlayMembers laid patch)) = some table
    rw [again, wordTable?_obj, reads]

/-! ## Records -/

/-- Each setting of the interpreter is read from its own name, and a missing one is the built-in
one. -/
theorem interpreterOfJson?_eq_some {value : Json} (object : value.isObject = true)
    {interpreter : InterpreterSettings} :
    interpreterOfJson? value = some interpreter ↔
      Json.optional (value.get? "program") "pike" Json.text? = some interpreter.program ∧
      Json.optional (value.get? "args") ["analyzer.pike"] Json.texts? = some interpreter.args ∧
      Json.optional (value.get? "timeoutMs") 5000 Json.nat64? = some interpreter.timeoutMs := by
  obtain ⟨members, rfl⟩ := Json.exists_of_isObject object
  obtain ⟨program, args, timeoutMs⟩ := interpreter
  simp [interpreterOfJson?, Json.record?, Json.get?, Option.bind_eq_some_iff]

/-- Each limit of the detection is read from its own name, and a missing one is the built-in
one. -/
theorem thresholdsOfJson?_eq_some {value : Json} (object : value.isObject = true)
    {thresholds : Thresholds} :
    Thresholds.ofJson? value = some thresholds ↔
      Json.optional (value.get? "confidenceFloor") 0.3 Json.float? =
        some thresholds.confidenceFloor ∧
      Json.optional (value.get? "minLiteralLength") 3 Json.nat64? =
        some thresholds.minLiteralLength := by
  obtain ⟨members, rfl⟩ := Json.exists_of_isObject object
  obtain ⟨confidenceFloor, minLiteralLength⟩ := thresholds
  simp [Thresholds.ofJson?, Json.record?, Json.get?, Option.bind_eq_some_iff]

/-- Each set or table of a catalog is read from its own name, and a missing one is the built-in
one. -/
theorem catalogOfJson?_eq_some {value : Json} (object : value.isObject = true)
    {catalog : Catalog} :
    Catalog.ofJson? value = some catalog ↔
      Json.optional (value.get? "tags") Catalog.htmlTags Catalog.wordSet? = some catalog.tags ∧
      Json.optional (value.get? "voidTags") Catalog.htmlVoidTags Catalog.wordSet? =
        some catalog.voidTags ∧
      Json.optional (value.get? "optionalEndTags") Catalog.htmlOptionalEndTags Catalog.wordSet? =
        some catalog.optionalEndTags ∧
      Json.optional (value.get? "attributes") Catalog.htmlAttributes Catalog.wordSet? =
        some catalog.attributes ∧
      Json.optional (value.get? "deprecatedTags") Catalog.htmlDeprecatedTags Catalog.wordTable? =
        some catalog.deprecatedTags := by
  obtain ⟨members, rfl⟩ := Json.exists_of_isObject object
  obtain ⟨tags, voidTags, optionalEndTags, attributes, deprecatedTags⟩ := catalog
  simp [Catalog.ofJson?, Json.record?, Json.get?, Option.bind_eq_some_iff]

/-- Each group of settings is read from its own name, and a missing one is the built-in one. -/
theorem ofJson?_eq_some {value : Json} (object : value.isObject = true) {settings : Settings} :
    ofJson? value = some settings ↔
      Json.optional (value.get? "interpreter") {} interpreterOfJson? =
        some settings.interpreter ∧
      Json.optional (value.get? "detection") {} Thresholds.ofJson? = some settings.thresholds ∧
      Json.optional (value.get? "keywords") none (Json.nullable Json.texts?) =
        some settings.keywords ∧
      Json.optional (value.get? "catalog") none (Json.nullable Catalog.ofJson?) =
        some settings.catalog := by
  obtain ⟨members, rfl⟩ := Json.exists_of_isObject object
  obtain ⟨interpreter, thresholds, keywords, catalog⟩ := settings
  simp [ofJson?, Json.record?, Json.get?, Option.bind_eq_some_iff]

/-! ## What a record has under each name -/

theorem program_member :
    Member InterpreterSettings.Fits interpreterToJson "program" (·.program) "pike"
      (fun _ => True) Json.str Json.text? where
  lawful := text_lawful
  default_holds := trivial
  part_holds _ := trivial
  written _ := Json.get?_ofMembers _ _

theorem args_member :
    Member InterpreterSettings.Fits interpreterToJson "args" (·.args) ["analyzer.pike"]
      (fun _ => True) (Json.list Json.str) Json.texts? where
  lawful := texts_lawful
  default_holds := trivial
  part_holds _ := trivial
  written _ := Json.get?_ofMembers _ _

theorem timeoutMs_member :
    Member InterpreterSettings.Fits interpreterToJson "timeoutMs" (·.timeoutMs) 5000
      (· < UInt64.size) Json.nat Json.nat64? where
  lawful := nat64_lawful
  default_holds := by decide
  part_holds fits := fits
  written _ := Json.get?_ofMembers _ _

theorem interpreter_lawful :
    Lawful InterpreterSettings.Fits interpreterToJson interpreterOfJson? := by
  refine .of_parts (fun object => interpreterOfJson?_eq_some object) (fun _ => rfl)
    (fun interpreter fits => ?_) ?_
  · exact ⟨program_member.read_write fits, args_member.read_write fits,
      timeoutMs_member.read_write fits⟩
  · rintro base patch interpreter written ordered ⟨program, args, timeoutMs⟩
    exact ⟨program_member.settles written ordered program,
      args_member.settles written ordered args, timeoutMs_member.settles written ordered timeoutMs⟩

theorem confidenceFloor_member :
    Member Thresholds.Fits thresholdsToJson "confidenceFloor" (·.confidenceFloor) 0.3
      (·.isFinite = true) floatJson Json.float? where
  lawful := float_lawful
  default_holds := by decide
  part_holds fits := fits.1
  written _ := Json.get?_ofMembers _ _

theorem minLiteralLength_member :
    Member Thresholds.Fits thresholdsToJson "minLiteralLength" (·.minLiteralLength) 3
      (· < UInt64.size) Json.nat Json.nat64? where
  lawful := nat64_lawful
  default_holds := by decide
  part_holds fits := fits.2
  written _ := Json.get?_ofMembers _ _

theorem thresholds_lawful :
    Lawful Thresholds.Fits thresholdsToJson Thresholds.ofJson? := by
  refine .of_parts (fun object => thresholdsOfJson?_eq_some object) (fun _ => rfl)
    (fun thresholds fits => ?_) ?_
  · exact ⟨confidenceFloor_member.read_write fits, minLiteralLength_member.read_write fits⟩
  · rintro base patch thresholds written ordered ⟨confidenceFloor, minLiteralLength⟩
    exact ⟨confidenceFloor_member.settles written ordered confidenceFloor,
      minLiteralLength_member.settles written ordered minLiteralLength⟩

/-- The sets of a catalog, each under its own name. -/
theorem wordSet_member (name : String) (part : Catalog → WordSet) {fallback : WordSet}
    (default_holds : fallback.Increasing)
    (part_holds : ∀ {catalog : Catalog}, catalog.WellFormed → (part catalog).Increasing)
    (written : ∀ catalog : Catalog,
      catalog.toJson.get? name = some (Json.list Json.str (part catalog).words)) :
    Member Catalog.WellFormed Catalog.toJson name part fallback WordSet.Increasing
      (fun set => Json.list Json.str set.words) Catalog.wordSet? where
  lawful := wordSet_lawful
  default_holds := default_holds
  part_holds := part_holds
  written := written

theorem deprecatedTags_member :
    Member Catalog.WellFormed Catalog.toJson "deprecatedTags" (·.deprecatedTags)
      Catalog.htmlDeprecatedTags (fun table => table.Pairwise fun a b => a.1 < b.1)
      (fun table => .ofMembers (tableMembers table)) Catalog.wordTable? where
  lawful := wordTable_lawful
  default_holds := by decide
  part_holds wellFormed := wellFormed.deprecatedTags
  written _ := Json.get?_ofMembers _ _

/-- A catalog settles because each of its sets and its table does. -/
theorem catalog_lawful : Lawful Catalog.WellFormed Catalog.toJson Catalog.ofJson? := by
  have htmlTags : Catalog.htmlTags.Increasing := WordSet.increasing_ofList _
  have htmlVoidTags : Catalog.htmlVoidTags.Increasing := WordSet.increasing_ofList _
  have htmlOptionalEndTags : Catalog.htmlOptionalEndTags.Increasing := WordSet.increasing_ofList _
  have htmlAttributes : Catalog.htmlAttributes.Increasing := WordSet.increasing_ofList _
  have tags := wordSet_member "tags" (·.tags) htmlTags (·.tags)
    fun _ => Json.get?_ofMembers _ _
  have voidTags := wordSet_member "voidTags" (·.voidTags) htmlVoidTags (·.voidTags)
    fun _ => Json.get?_ofMembers _ _
  have optionalEndTags := wordSet_member "optionalEndTags" (·.optionalEndTags)
    htmlOptionalEndTags (·.optionalEndTags) fun _ => Json.get?_ofMembers _ _
  have attributes := wordSet_member "attributes" (·.attributes) htmlAttributes (·.attributes)
    fun _ => Json.get?_ofMembers _ _
  refine .of_parts (fun object => catalogOfJson?_eq_some object) (fun _ => rfl)
    (fun catalog wellFormed => ?_) ?_
  · exact ⟨tags.read_write wellFormed, voidTags.read_write wellFormed,
      optionalEndTags.read_write wellFormed, attributes.read_write wellFormed,
      deprecatedTags_member.read_write wellFormed⟩
  · rintro base patch catalog written ordered
      ⟨readTags, readVoid, readOptional, readAttributes, readDeprecated⟩
    exact ⟨tags.settles written ordered readTags, voidTags.settles written ordered readVoid,
      optionalEndTags.settles written ordered readOptional,
      attributes.settles written ordered readAttributes,
      deprecatedTags_member.settles written ordered readDeprecated⟩

/-! ## Settings as a record -/

/-- The settings can be written and read back. -/
def Fits (settings : Settings) : Prop :=
  settings.interpreter.Fits ∧ settings.thresholds.Fits ∧
    ∀ catalog, settings.catalog = some catalog → catalog.WellFormed

/-- Well-formed settings with a finite floor can be written and read back. -/
theorem WellFormed.fits {settings : Settings} (wellFormed : settings.WellFormed)
    (finite : settings.thresholds.confidenceFloor.isFinite = true) : settings.Fits :=
  ⟨wellFormed.timeoutMs, ⟨finite, wellFormed.minLiteralLength⟩, wellFormed.catalog⟩

theorem interpreter_member :
    Member Fits toJson "interpreter" (·.interpreter) {} InterpreterSettings.Fits
      interpreterToJson interpreterOfJson? where
  lawful := interpreter_lawful
  default_holds := by unfold InterpreterSettings.Fits; decide
  part_holds fits := fits.1
  written _ := Json.get?_ofMembers _ _

theorem detection_member :
    Member Fits toJson "detection" (·.thresholds) {} Thresholds.Fits thresholdsToJson
      Thresholds.ofJson? where
  lawful := thresholds_lawful
  default_holds := ⟨by decide, by decide⟩
  part_holds fits := fits.2.1
  written _ := Json.get?_ofMembers _ _

/-- Keywords need not be given, and are written as nothing then. -/
theorem keywords_member :
    Member Fits toJson "keywords" (·.keywords) none
      (fun words => ∀ inner, words = some inner → True)
      (Json.option (Json.list Json.str)) (Json.nullable Json.texts?) where
  lawful := texts_lawful.nullable fun _ => Json.noConfusion
  default_holds _ absent := nomatch absent
  part_holds _ _ _ := trivial
  written _ := Json.get?_ofMembers _ _

/-- A catalog need not be given; one that is laid over none is read with the built-in tables. -/
theorem catalog_member :
    Member Fits toJson "catalog" (·.catalog) none
      (fun catalog => ∀ inner, catalog = some inner → inner.WellFormed)
      (Json.option Catalog.toJson) (Json.nullable Catalog.ofJson?) where
  lawful := catalog_lawful.nullable fun _ => Json.noConfusion
  default_holds _ absent := nomatch absent
  part_holds fits := fits.2.2
  written _ := Json.get?_ofMembers _ _

/-- All settings settle because each group of them does. -/
theorem settings_lawful : Lawful Fits toJson ofJson? := by
  refine .of_parts (fun object => ofJson?_eq_some object) (fun _ => rfl)
    (fun settings fits => ?_) ?_
  · exact ⟨interpreter_member.read_write fits, detection_member.read_write fits,
      keywords_member.read_write fits, catalog_member.read_write fits⟩
  · rintro base patch settings written ordered ⟨interpreter, detection, keywords, catalog⟩
    exact ⟨interpreter_member.settles written ordered interpreter,
      detection_member.settles written ordered detection,
      keywords_member.settles written ordered keywords,
      catalog_member.settles written ordered catalog⟩

end Settings

/-- The settings that options can name. -/
inductive Setting where
  | program
  | args
  | timeoutMs
  | confidenceFloor
  | minLiteralLength
  | keywords
  | catalog

namespace Setting

/-- What a setting is. -/
abbrev Value : Setting → Type
  | program => String
  | args => List String
  | timeoutMs => Nat
  | confidenceFloor => Float
  | minLiteralLength => Nat
  | keywords => Option (List String)
  | catalog => Option Catalog

/-- Where options name a setting. -/
def path : Setting → List String
  | program => ["interpreter", "program"]
  | args => ["interpreter", "args"]
  | timeoutMs => ["interpreter", "timeoutMs"]
  | confidenceFloor => ["detection", "confidenceFloor"]
  | minLiteralLength => ["detection", "minLiteralLength"]
  | keywords => ["keywords"]
  | catalog => ["catalog"]

/-- The setting in some settings. -/
def value (settings : Settings) : (setting : Setting) → setting.Value
  | program => settings.interpreter.program
  | args => settings.interpreter.args
  | timeoutMs => settings.interpreter.timeoutMs
  | confidenceFloor => settings.thresholds.confidenceFloor
  | minLiteralLength => settings.thresholds.minLiteralLength
  | keywords => settings.keywords
  | catalog => settings.catalog

end Setting

namespace Settings

/-! ## Laying options over settings -/

variable {settings after : Settings} {options : Json}

/-- Options keep the order of their keys when the section they may be wrapped in is taken off.
-/
theorem each_unwrapOptions (ordered : options.Each InOrder) :
    (unwrapOptions options).Each InOrder := by
  rw [unwrapOptions]
  cases options with
  | obj members =>
      cases wrapped : members.lookup "pike" with
      | none => rwa [Json.get?, wrapped]
      | some inner =>
          rw [Json.get?, wrapped]
          exact Json.eachMember_iff.1 ordered.2 _ (Json.mem_of_lookup wrapped)
  | _ => exact ordered

/-- Options that do not fit leave the settings as they are. -/
theorem applyOptions_of_error {failure : Failure}
    (failed : (settings.applyOptions (some options)).2 = .error failure) :
    (settings.applyOptions (some options)).1 = settings := by
  rw [applyOptions] at failed ⊢
  split at failed
  · cases failed
  · rfl

/-- Options that say nothing leave the settings; others are laid over them. -/
theorem applyOptions_eq_ok :
    settings.applyOptions (some options) = (after, .ok ()) ↔
      (unwrapOptions options = .null ∧ after = settings) ∨
      (unwrapOptions options ≠ .null ∧
        ofJson? (overlay settings.toJson (unwrapOptions options)) = some after) := by
  rw [applyOptions, withOptions, Option.map_some]
  generalize unwrapOptions options = patch
  cases patch with
  | null => simp [eq_comm]
  | _ =>
      simp only [reduceCtorEq, false_and, ne_eq, not_false_eq_true, true_and, false_or]
      cases ofJson? (overlay settings.toJson _) <;> simp

/-- What is not named keeps its value. -/
theorem value_overlay {patch : List (String × Json)} (fits : settings.Fits)
    (ordered : (Json.obj patch).Each InOrder)
    (groups : ∀ group ∈ ["interpreter", "detection"], ∀ entry,
      patch.lookup group = some entry → entry.isObject = true)
    (reads : ofJson? (overlay settings.toJson (.obj patch)) = some after) (setting : Setting)
    (unnamed : (Json.obj patch).at? setting.path = none) :
    setting.value after = setting.value settings := by
  obtain ⟨interpreter, detection, keywords, catalog⟩ :=
    (ofJson?_eq_some (isObject_overlay _ _)).1 reads
  have interpreterGroup := groups "interpreter" (by simp)
  have detectionGroup := groups "detection" (by simp)
  have absent {name : String} (nowhere : (Json.obj patch).at? [name] = none) :
      patch.lookup name = none := by
    simpa [Json.at?, Json.get?] using nowhere
  cases setting with
  | program =>
      exact interpreter_member.kept_inside program_member
        (fun object read => ((interpreterOfJson?_eq_some object).1 read).1)
        fits ordered interpreterGroup unnamed interpreter
  | args =>
      exact interpreter_member.kept_inside args_member
        (fun object read => ((interpreterOfJson?_eq_some object).1 read).2.1)
        fits ordered interpreterGroup unnamed interpreter
  | timeoutMs =>
      exact interpreter_member.kept_inside timeoutMs_member
        (fun object read => ((interpreterOfJson?_eq_some object).1 read).2.2)
        fits ordered interpreterGroup unnamed interpreter
  | confidenceFloor =>
      exact detection_member.kept_inside confidenceFloor_member
        (fun object read => ((thresholdsOfJson?_eq_some object).1 read).1)
        fits ordered detectionGroup unnamed detection
  | minLiteralLength =>
      exact detection_member.kept_inside minLiteralLength_member
        (fun object read => ((thresholdsOfJson?_eq_some object).1 read).2)
        fits ordered detectionGroup unnamed detection
  | keywords => exact keywords_member.kept fits ordered.1 (absent unnamed) keywords
  | catalog => exact catalog_member.kept fits ordered.1 (absent unnamed) catalog

/-- On failure the settings stay as they are.  On success the same options, laid over the
settings once more, change nothing; and where the options group what they name as the settings
do, every setting that is not named keeps its value. -/
theorem applyOptions_settles (wellFormed : settings.WellFormed)
    (finite : settings.thresholds.confidenceFloor.isFinite = true)
    (ordered : options.Each InOrder) :
    let after := (settings.applyOptions (some options)).1
    let outcome := (settings.applyOptions (some options)).2
    (∀ failure, outcome = .error failure → after = settings) ∧
    (outcome = .ok () → after.applyOptions (some options) = (after, .ok ())) ∧
    (outcome = .ok () → ∀ members, unwrapOptions options = .obj members →
      (∀ group ∈ ["interpreter", "detection"], ∀ entry,
        members.lookup group = some entry → entry.isObject = true) →
      ∀ setting : Setting, (Json.obj members).at? setting.path = none →
        setting.value after = setting.value settings) := by
  intro after outcome
  have fits := wellFormed.fits finite
  have patchOrdered := each_unwrapOptions ordered
  have applied (succeeded : outcome = .ok ()) :=
    applyOptions_eq_ok.1 (show settings.applyOptions (some options) = (after, .ok ()) from
      Prod.ext rfl succeeded)
  refine ⟨fun failure => applyOptions_of_error, fun succeeded => applyOptions_eq_ok.2 ?_,
    fun succeeded members same groups setting unnamed => ?_⟩
  · rcases applied succeeded with ⟨silent, _⟩ | ⟨said, reads⟩
    · exact .inl ⟨silent, rfl⟩
    · exact .inr ⟨said, settings_lawful.settles (.inr ⟨settings, fits, rfl⟩) patchOrdered reads⟩
  · rcases applied succeeded with ⟨silent, kept⟩ | ⟨said, reads⟩
    · rw [kept]
    · rw [same] at patchOrdered reads
      exact value_overlay fits patchOrdered groups reads setting unnamed

/-- A catalog of which only the tags are named has the built-in tables for the rest, and the
program is not named. -/
theorem applyOptions_settles_tags :
    let options : Json := .obj [("pike", .obj [("catalog", .obj [("tags", .arr [.str "p"])]),
      ("interpreter", .obj [("timeoutMs", .nat 100)])])]
    let settings : Settings := { interpreter.program := "pike8", keywords := some ["int"] }
    let after := (settings.applyOptions (some options)).1
    (settings.WellFormed ∧ settings.thresholds.confidenceFloor.isFinite = true ∧
      options.Each InOrder ∧ (settings.applyOptions (some options)).2 = .ok ()) ∧
    after.interpreter.timeoutMs = 100 ∧ after.interpreter.program = "pike8" ∧
    after.catalog.map (fun catalog => (catalog.tags.words, catalog.deprecatedTags)) =
      some (["p"], Catalog.htmlDeprecatedTags) ∧
    after.applyOptions (some options) = (after, .ok ()) := by
  intro options settings after
  have wellFormed : settings.WellFormed := ⟨by decide, by decide, fun _ absent => nomatch absent⟩
  have finite : settings.thresholds.confidenceFloor.isFinite = true := by decide
  have ordered : options.Each InOrder := by
    have before : "catalog" < "interpreter" := by decide
    simp only [options, Json.Each, Json.EachMember, Json.EachItem, InOrder, Json.nat,
      List.pairwise_cons, List.mem_singleton, forall_eq, List.not_mem_nil, false_implies,
      implies_true, List.Pairwise.nil, before, and_self]
  have applied : (settings.applyOptions (some options)).2 = .ok () := by decide +kernel
  obtain ⟨-, again, kept⟩ := applyOptions_settles wellFormed finite ordered
  have program := kept applied _ rfl (by simp [List.lookup_cons, Json.isObject]) .program rfl
  exact ⟨⟨wellFormed, finite, ordered, applied⟩, by decide +kernel, program, by decide +kernel,
    again applied⟩

end Settings

end Inlay
