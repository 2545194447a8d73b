import Mathlib.Data.List.TakeWhile
import Inlay.Proofs.Occurrence.Greedy
import Inlay.Symbol.Host

/-!
# Where reported symbols are declared

A symbol is placed by the first token with its name on its line, or else by a search of the
line.  The first such token takes the first match of the name, so the two find the same
place, and neither finds a name that the line does not have: both then give the start of
the line.  What tokens there are makes no difference.

The search looks at the content of the line only, the tokens at all of it up to its line
feed.  What the content leaves out are carriage returns, so a name with a carriage return
is the one case in which the two may differ (`Placement.declarationOffset_eq_first`).

Whatever lines are reported, a symbol lies in the source, and its range reaches over its
name (`DeclaredAt`).
-/

namespace Inlay

/-! ## The line of a declaration -/

/-- A line is its content and the line break characters behind it. -/
theorem exists_breaks (line : List Char) :
    ∃ breaks, line = line.take (contentWidth line) ++ breaks ∧ ∀ c ∈ breaks, isBreak c = true := by
  have whole : line = (line.reverse.dropWhile isBreak).reverse ++
      (line.reverse.takeWhile isBreak).reverse := by
    rw [← List.reverse_append, List.takeWhile_append_dropWhile, List.reverse_reverse]
  have content : line.take (contentWidth line) = (line.reverse.dropWhile isBreak).reverse := by
    conv_lhs => arg 2; rw [whole]
    exact List.take_left' List.length_reverse
  refine ⟨(line.reverse.takeWhile isBreak).reverse, content ▸ whole, fun c listed => ?_⟩
  exact List.all_eq_true.1 (List.all_takeWhile (p := isBreak)) c (List.mem_reverse.1 listed)

/-- What the content of a line without a line feed leaves out are carriage returns. -/
theorem exists_returns_of_unbroken {row : List Char} (unbroken : '\n' ∉ row) :
    ∃ returns, row = row.take (contentWidth row) ++ returns ∧ ∀ c ∈ returns, c = '\r' := by
  obtain ⟨breaks, whole, areBreaks⟩ := exists_breaks row
  refine ⟨breaks, whole, fun c listed => ?_⟩
  have inRow : c ∈ row := whole ▸ List.mem_append_right _ listed
  simpa [isBreak, ne_of_mem_of_not_mem inRow unbroken] using areBreaks c listed

/-- Between the content of a line and its line feed there are only carriage returns. -/
theorem exists_returns {line : List Char} (cut : IsFullLine line ∨ '\n' ∉ line) :
    ∃ returns, line.takeWhile (· != '\n') = line.take (contentWidth line) ++ returns ∧
      ∀ c ∈ returns, c = '\r' := by
  rcases cut with ⟨row, rfl, unbroken⟩ | unbroken
  · have passes : ∀ c ∈ row, (c != '\n') = true := fun c listed =>
      bne_iff_ne.2 (ne_of_mem_of_not_mem listed unbroken)
    rw [List.takeWhile_append_of_pos passes, contentWidth_concat (by decide),
      List.take_append_of_le_length (contentWidth_le row)]
    simpa using exists_returns_of_unbroken unbroken
  · have passes : ∀ c ∈ line, (c != '\n') = true := fun c listed =>
      bne_iff_ne.2 (ne_of_mem_of_not_mem listed unbroken)
    rw [List.takeWhile_eq_self_iff.2 passes]
    exact exists_returns_of_unbroken unbroken

theorem sourceLines_of_present {source : String} {n : Nat} {line : List Char}
    (present : (LineIndex.ofText source).lines[n]? = some line) :
    (sourceLines source)[n]? = some (line.takeWhile (· != '\n')) := by
  rw [sourceLines, List.getElem?_map]
  exact congrArg (Option.map _) present

/-! ## The first token with a name -/

/-- The first token of a slot takes the first match. -/
theorem character_of_find?_placeTokens {table : OffsetTable} {before tokens : List Token}
    {n : Nat} {name : String} {placed : Token × Position}
    (fresh : before.countP (·.slot == (n, name)) = 0)
    (found : (placeTokens table before tokens).find?
      (fun placed => placed.2.line == n && placed.1.text == name) = some placed) :
    placed.2.character = (table.offset? n name 0).getD 0 := by
  induction tokens generalizing before with
  | nil => cases found
  | cons token rest ih =>
      rw [placeTokens, List.find?_cons] at found
      split at found
      next here =>
        obtain rfl := Option.some.inj found
        simp only [Bool.and_eq_true, beq_iff_eq] at here
        obtain ⟨rfl, rfl⟩ := here
        have counted : before.countP (·.slot == token.slot) = 0 := fresh
        simp only [counted]
      next elsewhere =>
        refine ih ?_ found
        have other : (token.slot == (n, name)) = false := by
          simpa [Token.slot] using elsewhere
        rw [List.countP_cons_of_neg (by simp [other]), fresh]

/-- The column of the first token with a name on a line is the first place of the name. -/
theorem character_of_find?_tokenPositions {source : String} {tokens : List Token} {n : Nat}
    {name : String} {row : List Char} {placed : Token × Position}
    (present : (sourceLines source)[n]? = some row)
    (found : (tokenPositions source tokens).find?
      (fun placed => placed.2.line == n && placed.1.text == name) = some placed) :
    placed.2.character = (Text.firstOffset? name.toList row).getD 0 := by
  have named := List.find?_some found
  simp only [Bool.and_eq_true, beq_iff_eq] at named
  have listed := List.mem_of_find?_eq_some found
  have slot : (n, name) ∈ tokens.map Token.slot := by
    obtain ⟨_, position⟩ := mem_placeTokens listed
    rw [position] at named
    exact List.mem_map.2 ⟨placed.1, mem_of_mem_tokenPositions listed, Prod.ext named.1 named.2⟩
  rw [character_of_find?_placeTokens rfl found, OffsetTable.offset?_build slot, slotOffsets]
  simp only [present]
  by_cases nonempty : name.toList = []
  · have atStart : Text.firstOffset? [] row = some 0 :=
      Text.firstOffset?_eq_some_iff.2
        ⟨List.nil_prefix, fun _ before => absurd before (Nat.not_lt_zero _)⟩
    rw [nonempty, atStart]
    rfl
  · rw [← List.head?_eq_getElem?, Text.head?_matchOffsets nonempty]

/-! ## The place of a declaration -/

namespace Placement

variable {source : String} (tokens : List Token) {n : Nat} (name : String) {line : List Char}

theorem declarationOffset_of_absent (absent : (LineIndex.ofText source).lines[n]? = none) :
    (of source tokens).declarationOffset n name = source.length := by
  rw [declarationOffset, of, absent]
  exact (LineIndex.length_ofChars _).trans String.length_toList

/-- The name is looked for on the whole line, or in the content of the line. -/
theorem declarationOffset_of_present (present : (LineIndex.ofText source).lines[n]? = some line) :
    ∃ searched, (searched = line.takeWhile (· != '\n') ∨
        searched = line.take (contentWidth line)) ∧
      (of source tokens).declarationOffset n name =
        LineIndex.widthOf ((LineIndex.ofText source).lines.take n) +
          (Text.firstOffset? name.toList searched).getD 0 := by
  rw [declarationOffset, of, present]
  dsimp only
  split
  next placed found =>
    rw [character_of_find?_tokenPositions (sourceLines_of_present present) found]
    exact ⟨_, .inl rfl, rfl⟩
  next => exact ⟨_, .inr rfl, rfl⟩

/-- A name without a carriage return is declared at its first place on the line, or at the start
of the line. -/
theorem declarationOffset_eq_first {name : String} (plain : '\r' ∉ name.toList)
    (present : (LineIndex.ofText source).lines[n]? = some line) :
    (of source tokens).declarationOffset n name =
      LineIndex.widthOf ((LineIndex.ofText source).lines.take n) +
        (Text.firstOffset? name.toList (line.takeWhile (· != '\n'))).getD 0 := by
  obtain ⟨searched, rfl | rfl, declared⟩ := declarationOffset_of_present tokens name present
  · exact declared
  · have cut := (LineIndex.full_or_last present).imp And.left And.left
    obtain ⟨returns, whole, areReturns⟩ := exists_returns cut
    have foreign : ∀ c ∈ returns, c ∉ name.toList := fun c listed => areReturns c listed ▸ plain
    rw [declared, whole, Text.firstOffset?_append foreign]

/-- Every symbol is declared in the source. -/
theorem declarationOffset_le (source : String) (n : Nat) :
    (of source tokens).declarationOffset n name ≤ source.length := by
  cases present : (LineIndex.ofText source).lines[n]? with
  | none => exact Nat.le_of_eq (declarationOffset_of_absent tokens name present)
  | some line =>
      obtain ⟨searched, place, declared⟩ := declarationOffset_of_present tokens name present
      have inLine : searched.length ≤ line.length := by
        rcases place with rfl | rfl
        · exact (List.takeWhile_prefix _).length_le
        · exact List.length_take_le' _ _
      have first := Text.firstOffset?_getD_le name.toList searched
      have inText := LineIndex.widthOf_take_add_le_length present
      rw [String.length_toList] at inText
      rw [declared]
      exact Nat.le_trans (Nat.add_le_add_left (Nat.le_trans first inLine) _) inText

end Placement

/-! ## The range of a symbol -/

/-- What the range of a symbol has to do with its name and the line reported for it, which is
counted from one and need not exist. -/
structure DeclaredAt (source name : String) (line start stop : Nat) : Prop where
  ordered : start ≤ stop
  inText : stop ≤ source.length
  overName : min (start + name.length) source.length ≤ stop
  /-- A name that stands on the line is declared at its first place there. -/
  spells : '\r' ∉ name.toList → name ≠ "" →
    ∀ row, (sourceLines source)[max line 1 - 1]? = some row → name.toList <:+: row →
      ∃ lineStart column, (LineIndex.ofText source).lineStart? (max line 1 - 1) = some lineStart ∧
        Text.StandsFirst row name.toList column ∧ start = lineStart + column ∧
        source.toList.extract start (start + name.length) = name.toList

/-- The node shows a reported symbol: its range is that of a declaration, and below it there is
one node for each symbol reported below, in their order. -/
inductive RawSymbol.ShownBy (source : String) : RawSymbol → Node → Prop where
  | mk {name kind : String} {line start stop : Nat} {endLine : Option Nat}
      {children : List RawSymbol} {nodes : Forest} :
      DeclaredAt source name line start stop → List.Forall₂ (ShownBy source) children nodes →
      ShownBy source (.mk name kind line endLine children)
        (.mk ⟨name, .ofReported kind, start, stop, .host, some kind⟩ nodes)

namespace Placement

variable {source : String} (tokens : List Token)

/-- A name that stands on its line is declared at its first place there. -/
theorem declarationOffset_spells {name : String} (plain : '\r' ∉ name.toList)
    (nonempty : name ≠ "") {n : Nat} {row : List Char}
    (present : (sourceLines source)[n]? = some row) (occurs : name.toList <:+: row) :
    ∃ lineStart column, (LineIndex.ofText source).lineStart? n = some lineStart ∧
      Text.StandsFirst row name.toList column ∧
      (of source tokens).declarationOffset n name = lineStart + column ∧
      Text.StandsAt source.toList name.toList (lineStart + column) := by
  obtain ⟨-, rest, whole⟩ := exists_of_sourceLines present
  have cut := Option.some.inj (present.symm.trans (sourceLines_of_present whole))
  have declared := declarationOffset_eq_first tokens plain whole
  rw [← cut] at declared
  cases found : Text.firstOffset? name.toList row with
  | none =>
      obtain ⟨front, back, split⟩ := occurs
      refine absurd ?_ (Text.firstOffset?_eq_none found front.length)
      rw [← split, List.append_assoc, List.drop_left]
      exact List.prefix_append _ _
  | some column =>
      have first := Text.firstOffset?_eq_some_iff.1 found
      have solid : name.toList ≠ [] := by simpa using nonempty
      obtain ⟨lineStart, starts, stands⟩ :=
        standsAt_of_sourceLines present (.of_prefix_drop solid first.here)
      rw [LineIndex.lineStart?_eq whole] at starts
      obtain rfl := Option.some.inj starts
      rw [found] at declared
      exact ⟨_, column, LineIndex.lineStart?_eq whole, first, declared, stands⟩

theorem symbolRange_declaredAt (source name : String) (line : Nat) (endLine : Option Nat) :
    DeclaredAt source name line ((of source tokens).symbolRange name line endLine).1
      ((of source tokens).symbolRange name line endLine).2 := by
  have inText := declarationOffset_le tokens name source (max line 1 - 1)
  have whole : (of source tokens).index.length = source.length :=
    (LineIndex.length_ofChars _).trans String.length_toList
  simp only [symbolRange, whole]
  refine ⟨by omega, by omega, by omega, fun plain nonempty row present occurs => ?_⟩
  obtain ⟨lineStart, column, starts, first, declared, stands⟩ :=
    declarationOffset_spells tokens plain nonempty present occurs
  have spelled := stands.extract_eq
  rw [String.length_toList] at spelled
  rw [declared]
  exact ⟨lineStart, column, starts, first, rfl, spelled⟩

mutual

theorem symbol_shownBy (source : String) (tokens : List Token) :
    ∀ raw : RawSymbol, raw.ShownBy source ((of source tokens).symbol raw)
  | .mk name _ line endLine children => by
      have ranged := symbolRange_declaredAt tokens source name line endLine
      have within : max ((of source tokens).symbolRange name line endLine).2
          ((of source tokens).symbolRange name line endLine).1 =
            ((of source tokens).symbolRange name line endLine).2 := Nat.max_eq_left ranged.ordered
      rw [symbol]
      simp only [Entry.of, within]
      exact .mk ranged (symbols_shownBy source tokens children)

theorem symbols_shownBy (source : String) (tokens : List Token) :
    ∀ raws, List.Forall₂ (RawSymbol.ShownBy source) raws ((of source tokens).symbols raws)
  | [] => .nil
  | raw :: rest => .cons (symbol_shownBy source tokens raw) (symbols_shownBy source tokens rest)

end

end Placement

/-- Each reported symbol has one node, in the order of the report at every depth.  Whatever
lines are reported, the node lies in the source and reaches over its name as far as the source
goes, and it is at the first place of its name on the line if the name stands there. -/
theorem hostSymbols_declared (source : String) (tokens : List Token) (symbols : List RawSymbol) :
    List.Forall₂ (RawSymbol.ShownBy source) symbols (hostSymbols source tokens symbols) :=
  Placement.symbols_shownBy source tokens symbols

/-- A symbol whose body ends before it begins, and below it one on a line that does not exist. -/
example :
    ((Forest.flatten 0 (hostSymbols "int é;\r\nint ab;" []
      [.mk "ab" "variable" 2 (some 1) [.mk "ghost" "" 40 (some 0) []]])).map
        fun shown => (shown.1, shown.2.start, shown.2.stop)) = [(0, 12, 14), (1, 15, 15)] := by
  decide

/-! ## Tokens make no difference -/

mutual

/-- The names of a reported symbol and of those below it. -/
def RawSymbol.names : RawSymbol → List String
  | .mk name _ _ _ children => name :: RawSymbol.allNames children

/-- The names of some reported symbols and of those below them. -/
def RawSymbol.allNames : List RawSymbol → List String
  | [] => []
  | raw :: rest => raw.names ++ RawSymbol.allNames rest

end

namespace Placement

theorem declarationOffset_eq (source : String) (first second : List Token) {name : String}
    (plain : '\r' ∉ name.toList) (n : Nat) :
    (of source first).declarationOffset n name = (of source second).declarationOffset n name := by
  cases present : (LineIndex.ofText source).lines[n]? with
  | none => rw [declarationOffset_of_absent _ _ present, declarationOffset_of_absent _ _ present]
  | some line =>
      rw [declarationOffset_eq_first _ plain present, declarationOffset_eq_first _ plain present]

mutual

theorem symbol_eq (source : String) (first second : List Token) :
    ∀ raw : RawSymbol, (∀ name ∈ raw.names, '\r' ∉ name.toList) →
      (of source first).symbol raw = (of source second).symbol raw
  | .mk name _ line _ children, plain => by
      obtain ⟨here, below⟩ := List.forall_mem_cons.1 plain
      have declared := declarationOffset_eq source first second here (max line 1 - 1)
      have children := symbols_eq source first second children below
      simp only [symbol, symbolRange, declared, children]
      rfl

theorem symbols_eq (source : String) (first second : List Token) :
    ∀ raws, (∀ name ∈ RawSymbol.allNames raws, '\r' ∉ name.toList) →
      (of source first).symbols raws = (of source second).symbols raws
  | [], _ => rfl
  | raw :: rest, plain => by
      obtain ⟨here, others⟩ := List.forall_mem_append.1 plain
      rw [symbols, symbols, symbol_eq source first second raw here,
        symbols_eq source first second rest others]

end

end Placement

/-- Symbols whose names have no carriage return are placed alike with any tokens and without
them.  In a short source the columns of tokens fit in 32 bits. -/
theorem hostSymbols_eq_of_plain (source : String) (short : source.length < 2 ^ 32)
    (symbols : List RawSymbol) (plain : ∀ name ∈ RawSymbol.allNames symbols, '\r' ∉ name.toList)
    (first second : List Token) :
    hostSymbols source first symbols = hostSymbols source second symbols ∧
      ∀ placed ∈ tokenPositions source first, placed.2.character < 2 ^ 32 := by
  refine ⟨Placement.symbols_eq source first second symbols plain, fun placed listed => ?_⟩
  rcases character_le_of_mem_tokenPositions listed with atStart | fits
  · omega
  · omega

/-- A name that also stands in a longer word before, in a line that ends with a carriage return,
and a nested name that its line does not have: with tokens, of which one has no match left, and
without any. -/
theorem hostSymbols_eq_of_plain_longer :
    let source := "é xab\r\nint ab; ab\r"
    let ab : Token := ⟨"ab", 2, .identifier⟩
    let tokens : List Token := [⟨"int", 2, .keyword⟩, ab, ⟨";", 2, .other⟩, ab, ab,
      ⟨"missing", 1, .identifier⟩]
    let symbols : List RawSymbol :=
      [.mk "ab" "variable" 2 none [.mk "missing" "variable" 1 (some 0) []]]
    hostSymbols source tokens symbols = hostSymbols source [] symbols ∧
      ((hostSymbols source tokens symbols).map fun node => (node.entry.start, node.entry.stop)) =
        [(11, 13)] ∧
      ∀ placed ∈ tokenPositions source tokens, placed.2.character < 2 ^ 32 := by
  intro source ab tokens symbols
  have names : RawSymbol.allNames symbols = ["ab", "missing"] := rfl
  have agree := hostSymbols_eq_of_plain source (by decide) symbols (by rw [names]; decide)
    tokens []
  refine ⟨agree.1, ?_, agree.2⟩
  rw [agree.1]
  decide

end Inlay
