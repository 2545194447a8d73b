import Inlay.Engine
import Inlay.Proofs.Analysis
import Inlay.Proofs.Symbol.Region

/-!
# The symbol tree of a document

The tree merges what the analyzer reports with the literals of the embedded regions and
their elements.  Whatever is reported, siblings are in order and apart at every depth,
and a literal or an element lies inside the symbol that owns it, as does whatever it
owns.  A reported symbol is left below the one it was reported under, wherever the two
were placed.

Where no two ranges cross, nothing is cut: the literal of every region is in the tree,
and the elements of the region are below it where they stand in the document, nested as
in the outline.
-/

namespace Inlay

/-! ## Reported symbols -/

/-- The entry is that of a symbol the analyzer reports. -/
def Entry.Reported (entry : Entry) : Prop := entry.origin = .host ∧ entry.kind ≠ .ofLiteral

/-- No kind that is reported is that of a literal. -/
theorem SymbolKind.ofReported_ne_ofLiteral (kind : String) : ofReported kind ≠ ofLiteral := by
  unfold ofReported
  split <;> decide

mutual

/-- A reported symbol is placed on a range, and so is whatever was reported below it. -/
theorem Placement.symbol_each (placement : Placement) :
    ∀ raw, (placement.symbol raw).Each fun entry _ =>
      entry.Reported ∧ entry.start ≤ entry.stop
  | .mk _ kind _ _ children =>
      ⟨⟨⟨rfl, SymbolKind.ofReported_ne_ofLiteral kind⟩, Nat.le_max_right _ _⟩,
        placement.symbols_all children⟩

theorem Placement.symbols_all (placement : Placement) :
    ∀ raws, (placement.symbols raws).All fun entry => entry.Reported ∧ entry.start ≤ entry.stop
  | [] => trivial
  | raw :: rest => ⟨placement.symbol_each raw, placement.symbols_all rest⟩

end

/-- One symbol contains the other, or both were reported. -/
def Entry.Owns (outer inner : Entry) : Prop :=
  outer.contains inner = true ∨ outer.Reported ∧ inner.Reported

/-- Ownership of either sort survives what a merge does: the owner is unified with another entry,
the tree is cut as a whole, or what is owned is cut alone. -/
theorem Ownership.owns : Ownership Entry.Owns where
  of_contains inside := .inl inside
  of_same same owned := by
    rcases owned with inside | ⟨outer, inner⟩
    · exact .inl (Ownership.contains.of_same same inside)
    · obtain ⟨_, kind, _, _, origin⟩ := Entry.same_iff.1 same
      exact .inr ⟨⟨origin.trans outer.1, kind ▸ outer.2⟩, inner⟩
  clip bound ranged owned := owned.imp_left (Ownership.contains.clip bound ranged)
  shorten bound ranged begun owned :=
    owned.imp_left (Ownership.contains.shorten bound ranged begun)

mutual

/-- What holds of every entry holds of both sides wherever one owns another. -/
theorem Node.Each.owned {holds : Entry → Prop} :
    ∀ {node : Node}, node.Each (fun entry _ => holds entry) →
      node.Owned fun outer inner => holds outer ∧ holds inner
  | .mk _ _, ⟨here, below⟩ =>
      ⟨fun _ membership => ⟨here, (Forest.all_iff.1 below _ membership).1⟩, Forest.All.owned below⟩

theorem Forest.All.owned {holds : Entry → Prop} :
    ∀ {forest : Forest}, forest.All holds →
      forest.Owned fun outer inner => holds outer ∧ holds inner
  | [], _ => trivial
  | _ :: _, ⟨first, rest⟩ => ⟨Node.Each.owned first, Forest.All.owned rest⟩

end

/-! ## What is merged -/

namespace Engine

variable {σ : Type} {engine : Engine σ} {document : SourceDocument} {state later : σ}
  {host : Forest} {catalog : Catalog} {regions : List Region}

/-- Only converting what is reported can fail, and the tree merges what came of it. -/
theorem symbolTree_run
    (converted : (engine.hostForest document).run.run state = (.ok host, later)) :
    (engine.symbolTree document).run.run state =
      (.ok (mergeRegions engine.catalog (engine.regions document.text) host), later) :=
  Analysis.run_bind_ok converted

/-- However the tokens place them, all symbols of the host forest are reported ones on a range. -/
theorem hostForest_all
    (converted : (engine.hostForest document).run.run state = (.ok host, later)) :
    host.All fun entry => entry.Reported ∧ entry.start ≤ entry.stop := by
  obtain ⟨symbols, _, _, ran⟩ := Analysis.of_run_bind_ok converted
  dsimp only at ran
  -- Tokens are asked for only when there are symbols to place.
  split at ran
  · cases ran
    exact Placement.symbols_all _ symbols
  · obtain ⟨tokens, _, _, done⟩ := Analysis.of_run_bind_ok ran
    cases done
    exact Placement.symbols_all _ symbols

/-- Every region lies inside its literal and has the markers of its content. -/
theorem regions_framed (engine : Engine σ) (source : String) :
    ∀ region ∈ engine.regions source, region.Framed engine.catalog :=
  detect_framed engine.thresholds engine.catalog source

theorem hostAndLiterals_ranged (hostRanged : host.Ranged) :
    Forest.Ranged (host ++ regions.map Region.literalNode) := by
  refine Forest.each_iff.2 (List.forall_mem_append.2 ⟨Forest.each_iff.1 hostRanged, ?_⟩)
  intro literal membership
  obtain ⟨region, _, rfl⟩ := List.mem_map.1 membership
  exact ⟨Nat.le_max_right _ _, trivial⟩

/-- Literals own nothing when they are filed beside the host symbols. -/
theorem hostAndLiterals_owned {owns : Entry → Entry → Prop} (hostOwned : host.Owned owns) :
    Forest.Owned owns (host ++ regions.map Region.literalNode) := by
  refine Forest.owned_iff.2 (List.forall_mem_append.2 ⟨Forest.owned_iff.1 hostOwned, ?_⟩)
  intro literal membership
  obtain ⟨region, _, rfl⟩ := List.mem_map.1 membership
  exact Node.owned_iff.2 ⟨fun _ absent => absurd absent List.not_mem_nil, trivial⟩

theorem outlines_ranged (framed : ∀ region ∈ regions, region.Framed catalog) :
    ∀ outline ∈ regions.map fun region =>
      (⟨.ofRegion region, (region.outline catalog).roots⟩ : Forest.Embedded),
      outline.forest.Ranged := by
  intro outline membership
  obtain ⟨region, listed, rfl⟩ := List.mem_map.1 membership
  exact (framed region listed).outline_ranged

/-! ## Order and ownership -/

/-- What is merged is in order and apart at every depth, however the ranges cross. -/
theorem mergeRegions_ordered (framed : ∀ region ∈ regions, region.Framed catalog)
    (hostRanged : host.Ranged) : (mergeRegions catalog regions host).Ordered :=
  Forest.merge_ordered (hostAndLiterals_ranged hostRanged) (outlines_ranged framed)

/-- Literals own nothing yet and outlines are nested, so only the host symbols can break
the rules of ownership. -/
theorem mergeRegions_owned {owns : Entry → Entry → Prop} (ownership : Ownership owns)
    (framed : ∀ region ∈ regions, region.Framed catalog) (hostRanged : host.Ranged)
    (hostOwned : host.Owned owns) : (mergeRegions catalog regions host).Owned owns := by
  refine Forest.merge_owned ownership (hostAndLiterals_ranged hostRanged) (outlines_ranged framed)
    (hostAndLiterals_owned hostOwned) ?_
  intro outline membership
  obtain ⟨region, listed, rfl⟩ := List.mem_map.1 membership
  have nested := Forest.place_nested (.ofRegion region) (framed region listed).outline_nested
  exact nested.imp fun _ _ within child inside => ownership.of_contains (within child inside)

/-- Whatever is reported, siblings are in order and apart, and a symbol lies inside the
one that owns it unless both were reported; and when the reported symbols lie inside those
they were reported under, all symbols of the tree do. -/
theorem symbolTree_ordered (engine : Engine σ) (document : SourceDocument) (state later : σ)
    (host : Forest)
    (converted : (engine.hostForest document).run.run state = (.ok host, later)) :
    ∃ tree, (engine.symbolTree document).run.run state = (.ok tree, later) ∧ tree.Ordered ∧
      tree.Owned Entry.Owns ∧ (host.Nested → tree.Nested) := by
  have framed := regions_framed engine document.text
  have all := hostForest_all converted
  have ranged : host.Ranged := all.imp fun _ _ both => both.2
  have owned : host.Owned Entry.Owns :=
    all.owned.imp fun _ _ both child inside =>
      .inr ⟨(both child inside).1.1, (both child inside).2.1⟩
  exact ⟨_, symbolTree_run converted, mergeRegions_ordered framed ranged,
    mergeRegions_owned Ownership.owns framed ranged owned,
    mergeRegions_owned Ownership.contains framed ranged⟩

/-! ### A page inside a function -/

/-- The analyzer that reports the given symbols of every source and finds no tokens. -/
def reporting (symbols : List RawSymbol) : Analyzer Unit :=
  { Analyzer.bare Unit with
    symbols := fun _ => pure symbols
    tokenize := fun _ => pure [] }

/-- What such an analyzer reports is placed by the lines alone. -/
theorem hostForest_reporting (symbols : List RawSymbol) (thresholds : Thresholds)
    (keywords : Keywords) (catalog : Catalog) (document : SourceDocument) :
    (hostForest ⟨reporting symbols, thresholds, keywords, catalog⟩ document).run.run () =
      (.ok (hostSymbols document.text [] symbols), ()) := by
  cases symbols <;> rfl

/-- A function over three lines, with markup in its only string. -/
def page : SourceDocument := ⟨"page.pike", "f() \x7b\n  x = \"<p><b>hi</b></p>\";\n\x7d\n"⟩

/-- The name `hi` is also reported, though it stands inside the markup. -/
def pageEngine : Engine Unit where
  analyzer := reporting [.mk "f" "function" 1 (some 3)
    [.mk "x" "variable" 2 none [], .mk "hi" "variable" 2 none []]]
  catalog := ⟨.ofList ["b", "p"], .ofList [], .ofList [], .ofList [], []⟩

/-- The reported symbols where their lines place them. -/
def pageHost : Forest :=
  [.mk ⟨"f", .ofFunction, 0, 33, .host, some "function"⟩
    [.leaf ⟨"x", .ofVariable, 8, 9, .host, some "variable"⟩,
      .leaf ⟨"hi", .ofVariable, 19, 21, .host, some "variable"⟩]]

theorem hostForest_page : (pageEngine.hostForest page).run.run () = (.ok pageHost, ()) := by
  have placed : hostSymbols page.text [] [.mk "f" "function" 1 (some 3)
      [.mk "x" "variable" 2 none [], .mk "hi" "variable" 2 none []]] = pageHost := rfl
  rw [← placed]
  exact hostForest_reporting _ _ _ _ page

theorem symbolTree_ordered_page : ∃ tree, (pageEngine.symbolTree page).run.run () = (.ok tree, ()) ∧
    tree.Ordered ∧ tree.Nested := by
  have ⟨tree, ran, ordered, _, nested⟩ :=
    symbolTree_ordered pageEngine page () () pageHost hostForest_page
  refine ⟨tree, ran, ordered, nested ?_⟩
  simp [pageHost, Forest.Nested, Forest.Each, Node.Each, Node.leaf, Forest.Within, Entry.contains]

/-- A symbol that is reported without its last line is as long as its name, so a member
declared on the next line is left below it but lies outside. -/
theorem symbolTree_not_nested :
    let reported : List RawSymbol := [.mk "A" "class" 1 none [.mk "b" "variable" 2 none []]]
    let engine : Engine Unit := { analyzer := reporting reported }
    let document : SourceDocument := ⟨"a.pike", "class A \x7b\n  int b;\n\x7d\n"⟩
    ∃ tree, (engine.symbolTree document).run.run () = (.ok tree, ()) ∧ ¬tree.Nested := by
  intro reported engine document
  have placed : hostSymbols document.text [] reported =
      [.mk ⟨"A", .ofClass, 6, 7, .host, some "class"⟩
        [.leaf ⟨"b", .ofVariable, 16, 17, .host, some "variable"⟩]] := by
    simp only [document, reported]
    rfl
  have converted : (engine.hostForest document).run.run () =
      (.ok (hostSymbols document.text [] reported), ()) := hostForest_reporting _ _ _ _ document
  rw [placed] at converted
  have scanned : Literal.scan document.text.toList = [] := by decide +kernel
  have plain : engine.regions document.text = [] := by
    rw [regions, detect, scanned]
    rfl
  refine ⟨_, symbolTree_run converted, ?_⟩
  rw [plain]
  intro nested
  have inside := nested.1.1 _ (.head _)
  exact absurd inside (by decide)

/-! ## Nothing cut -/

/-- The symbols that are merged: those of the host forest, and for each region that of its
literal and the elements where they stand in the document. -/
def mergedEntries (catalog : Catalog) (regions : List Region) (host : Forest) : List Entry :=
  host.entries ++ regions.flatMap fun region =>
    region.literalNode.entry :: (region.elements catalog).entries

/-- Where the merged ranges are nested or apart, every region keeps its literal, with its elements
embedded below. -/
theorem mergeRegions_shows (framed : ∀ region ∈ regions, region.Framed catalog)
    (hostRanged : host.Ranged) (laminar : Laminar (· ∈ mergedEntries catalog regions host)) :
    ∀ region ∈ regions, region.ShownIn catalog (mergeRegions catalog regions host) := by
  have ofRegion : ∀ region ∈ regions, ∀ entry ∈
      region.literalNode.entry :: (region.elements catalog).entries,
      entry ∈ mergedEntries catalog regions host := fun region listed entry membership =>
    List.mem_append_right _ (List.mem_flatMap.2 ⟨region, listed, membership⟩)
  have hostAll : Forest.All (· ∈ mergedEntries catalog regions host)
      (host ++ regions.map Region.literalNode) := by
    refine Forest.all_append.2 ⟨Forest.all_entries.2 fun _ => List.mem_append_left _, ?_⟩
    refine Forest.all_iff.2 fun literal membership => ?_
    obtain ⟨region, listed, rfl⟩ := List.mem_map.1 membership
    exact ⟨ofRegion region listed _ (.head _), trivial⟩
  intro region listed
  -- The literal is one of the merged siblings, and its elements are one of the outlines.
  refine (framed region listed).shownIn ?_
  rw [← (framed region listed).place_outline]
  refine Forest.merge_embeds laminar hostAll (hostAndLiterals_ranged hostRanged) ?_
    (outlines_ranged framed) (List.mem_append_right _ (List.mem_map_of_mem listed))
    (List.mem_map_of_mem listed) ?_ ?_
  · intro outline membership
    obtain ⟨region, listed, rfl⟩ := List.mem_map.1 membership
    rw [(framed region listed).place_outline]
    exact Forest.all_entries.2 fun entry inside => ofRegion region listed entry (.tail _ inside)
  · rw [(framed region listed).place_outline]
    exact fun root membership => ((framed region listed).element_inside root membership).1
  · rw [(framed region listed).place_outline]
    exact fun root membership => ((framed region listed).element_inside root membership).2

/-- Where no two ranges cross, the tree has the literal of every region, with the elements
of the region below it. -/
theorem symbolTree_shows (engine : Engine σ) (document : SourceDocument) (state later : σ)
    (host : Forest)
    (converted : (engine.hostForest document).run.run state = (.ok host, later))
    (uncrossed :
      ∀ a ∈ mergedEntries engine.catalog (engine.regions document.text) host,
      ∀ b ∈ mergedEntries engine.catalog (engine.regions document.text) host, a.Uncrossed b) :
    ∃ tree, (engine.symbolTree document).run.run state = (.ok tree, later) ∧
      ∀ region ∈ engine.regions document.text, region.ShownIn engine.catalog tree := by
  have ranged : host.Ranged := (hostForest_all converted).imp fun _ _ both => both.2
  have laminar : Laminar
      (· ∈ mergedEntries engine.catalog (engine.regions document.text) host) :=
    fun a b inA inB => uncrossed a inA b inB
  exact ⟨_, symbolTree_run converted,
    mergeRegions_shows (regions_framed engine document.text) ranged laminar⟩

/-! ### The markup of the page -/

/-- The four tags of the markup. -/
def pageMarkers (catalog : Catalog) : List Marker :=
  [⟨.openTag, "p", 0, 3, none, catalog.isKnownTag "p"⟩,
    ⟨.openTag, "b", 3, 3, none, catalog.isKnownTag "b"⟩,
    ⟨.closeTag, "b", 8, 4, none, catalog.isKnownTag "b"⟩,
    ⟨.closeTag, "p", 12, 4, none, catalog.isKnownTag "p"⟩]

/-- The string, quotes and all, around its content. -/
def pageRegion : Region where
  literalStart := 12
  literalStop := 30
  start := 13
  stop := 29
  content := "<p><b>hi</b></p>".toList
  confidence := Marker.confidence (pageMarkers pageEngine.catalog) 16
  markers := pageMarkers pageEngine.catalog

/-- The tags are found in the order of the page, so sorting them moves none. -/
theorem scan_page (catalog : Catalog) :
    Marker.scan catalog "<p><b>hi</b></p>".toList = pageMarkers catalog := by
  have inOrder : (pageMarkers catalog).Pairwise fun a b => Marker.before a b = true := by
    simp [pageMarkers, Marker.before]
  exact List.mergeSort_of_pairwise inOrder

/-- The string is long enough, and its tags are sure enough, to be a region. -/
theorem regions_page : pageEngine.regions page.text = [pageRegion] := by
  have scanned : Literal.scan page.text.toList =
      [⟨12, 30, 13, 29, "<p><b>hi</b></p>".toList, false⟩] := by decide +kernel
  have length : Literal.contentLength ⟨12, 30, 13, 29, "<p><b>hi</b></p>".toList, false⟩ = 16 :=
    rfl
  have long : ¬(16 = 0 ∨ 16 < pageEngine.thresholds.minLiteralLength) := by decide
  have marked : (pageMarkers pageEngine.catalog).isEmpty = false := rfl
  have confident : ¬Marker.confidence (pageMarkers pageEngine.catalog) 16 <
      pageEngine.thresholds.confidenceFloor := by decide +kernel
  have judged : pageEngine.thresholds.judge pageEngine.catalog
      ⟨12, 30, 13, 29, "<p><b>hi</b></p>".toList, false⟩ = .region pageRegion := by
    simp only [Thresholds.judge, length, if_neg long, scan_page, marked, Bool.false_eq_true,
      if_false, if_neg confident]
    rfl
  rw [regions, detect, scanned, List.map_singleton, judged]
  rfl

theorem symbolTree_shows_page : ∃ tree, (pageEngine.symbolTree page).run.run () = (.ok tree, ()) ∧
    ∃ literal, tree.Holds literal ∧ literal.entry.name = "html literal" ∧
      literal.entry.start = 12 ∧ literal.entry.stop = 30 ∧
      Forest.EmbedsIn [.mk ⟨"p", .ofElement, 13, 29, .embedded, none⟩
        [.leaf ⟨"b", .ofElement, 16, 25, .embedded, none⟩]] literal.children := by
  have uncrossed : ∀ a ∈ mergedEntries pageEngine.catalog [pageRegion] pageHost,
      ∀ b ∈ mergedEntries pageEngine.catalog [pageRegion] pageHost, a.Uncrossed b := by
    decide +kernel
  have ⟨tree, ran, shows⟩ := symbolTree_shows pageEngine page () () pageHost hostForest_page
    (by rwa [regions_page])
  rw [regions_page] at shows
  obtain ⟨literal, held, name, _, start, stop, below⟩ := shows pageRegion (.head _)
  exact ⟨tree, ran, literal, held, name, start, stop, below⟩

end Engine

end Inlay
