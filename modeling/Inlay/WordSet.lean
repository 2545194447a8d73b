/-!
# Sets of words

A set of words is kept as a list in increasing order without repetition, so
equal sets are equal values.
-/

namespace Inlay

/-- A set of words, in increasing order. -/
structure WordSet where
  words : List String
  deriving Repr, DecidableEq

namespace WordSet

/-- Adds a word to an increasing list. -/
def insertWord (word : String) : List String → List String
  | [] => [word]
  | other :: rest =>
      if word = other then other :: rest
      else if word < other then word :: other :: rest
      else other :: insertWord word rest

/-- The set of the given words. -/
def ofList (words : List String) : WordSet := ⟨words.foldr insertWord []⟩

/-- Whether a word is in the set. -/
def contains (set : WordSet) (word : String) : Bool := set.words.contains word

/-- The number of words. -/
def size (set : WordSet) : Nat := set.words.length

/-- Whether the set has no word. -/
def isEmpty (set : WordSet) : Bool := set.words.isEmpty

theorem mem_insertWord {word member : String} {words : List String} :
    member ∈ insertWord word words ↔ member = word ∨ member ∈ words := by
  induction words with
  | nil => simp [insertWord]
  | cons other rest step =>
      rw [insertWord]
      split
      · next same => subst same; simp
      · split
        · simp
        · simp only [List.mem_cons, step]
          constructor
          · rintro (same | same | inside)
            · exact .inr (.inl same)
            · exact .inl same
            · exact .inr (.inr inside)
          · rintro (same | same | inside)
            · exact .inr (.inl same)
            · exact .inl same
            · exact .inr (.inr inside)

/-- The set of some words contains exactly them. -/
theorem mem_ofList {word : String} {words : List String} :
    word ∈ (ofList words).words ↔ word ∈ words := by
  induction words with
  | nil => simp [ofList]
  | cons first rest step =>
      simp only [ofList, List.foldr_cons, mem_insertWord, List.mem_cons] at step ⊢
      rw [step]

end WordSet

end Inlay
