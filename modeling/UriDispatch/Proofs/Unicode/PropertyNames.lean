import UriDispatch.Proofs.Regex.NameLetters

/-! The names that lead to a set of characters have no brackets, parentheses or backslashes. -/

namespace UriDispatch.Unicode

open Regex (isInert)

/-! ## Folding -/

theorem not_inert_cases {character : Char} (notInert : ¬isInert character) :
    character = '\\' ∨ character = '[' ∨ character = ']' ∨ character = '(' ∨ character = ')' := by
  by_contra others
  simp only [not_or] at others
  exact notInert (by simp [isInert, others])

theorem mem_foldName {letters : List Char} {character : Char} (member : character ∈ letters)
    (notInert : ¬isInert character) : character ∈ foldName letters := by
  have kept : (character ≠ ' ' && character ≠ '_' && character ≠ '-' && character.toNat < 0x80)
      = true ∧ character.toLower = character := by
    rcases not_inert_cases notInert with rfl | rfl | rfl | rfl | rfl <;> decide
  rw [← kept.2]
  exact List.mem_map_of_mem (List.mem_filter.mpr ⟨member, kept.1⟩)

theorem mem_normalName {name : List Char} {character : Char} (member : character ∈ name)
    (notInert : ¬isInert character) : character ∈ (normalName name).toList := by
  have different {letter mark : Char} (lower : letter.toLower = mark) (inert : isInert mark) :
      character ≠ letter := by
    rintro rfl
    rw [← lower] at inert
    rcases not_inert_cases notInert with rfl | rfl | rfl | rfl | rfl <;> revert inert <;> decide
  unfold normalName
  split
  · next i s rest =>
      split
      · next leading =>
          have inRest : character ∈ rest := by
            rcases List.mem_cons.mp member with first | others
            · exact absurd first (different leading.1 (by decide))
            · rcases List.mem_cons.mp others with second | inRest
              · exact absurd second (different leading.2 (by decide))
              · exact inRest
          have folded := mem_foldName inRest notInert
          split
          · next letter =>
              rw [letter, List.mem_singleton] at folded
              subst folded
              exact absurd (by decide) notInert
          · rw [String.toList_ofList]
            exact folded
      · rw [String.toList_ofList]
        exact mem_foldName member notInert
  · rw [String.toList_ofList]
    exact mem_foldName member notInert

theorem inert_of_normalName {name : List Char}
    (inert : ∀ character ∈ (normalName name).toList, isInert character) :
    ∀ character ∈ name, isInert character := by
  intro character member
  by_contra notInert
  exact notInert (inert character (mem_normalName member notInert))

/-! ## Tables -/

def isBetweenBrackets (character : Char) : Bool :=
  93 < character.toNat || (41 < character.toNat && character.toNat < 91)

theorem inert_of_isBetweenBrackets {character : Char} (between : isBetweenBrackets character) :
    isInert character := by
  by_contra notInert
  rcases not_inert_cases notInert with rfl | rfl | rfl | rfl | rfl <;> revert between <;> decide

def hasPlainNames {Value : Type} (tables : List (List String × Value)) : Bool :=
  tables.all fun entry => entry.1.all fun name => name.toList.all isBetweenBrackets

theorem inert_of_find? {Value : Type} {tables : List (List String × Value)} {name : String}
    {value : Value} (found : find? name tables = some value) (plain : hasPlainNames tables) :
    ∀ character ∈ name.toList, isInert character := by
  rcases Option.map_eq_some_iff.mp found with ⟨entry, first, _⟩
  have listed := List.find?_some first
  have entries := List.all_eq_true.mp plain entry (List.mem_of_find?_eq_some first)
  have letters := List.all_eq_true.mp entries name (List.contains_iff_mem.mp listed)
  exact fun character member =>
    inert_of_isBetweenBrackets (List.all_eq_true.mp letters character member)

theorem inert_of_binaryProperty? {name : String} {set : CharacterSet}
    (found : binaryProperty? name = some set) :
    ∀ character ∈ name.toList, isInert character := by
  unfold binaryProperty? at found
  simp only [Option.orElse_eq_orElse, Option.orElse_eq_or, Option.or_eq_some_iff] at found
  rcases found with first | ⟨_, second | ⟨_, third⟩⟩
  · exact inert_of_find? first (by decide +kernel)
  · exact inert_of_find? second (by decide +kernel)
  · rcases Option.map_eq_some_iff.mp third with ⟨table, listed, _⟩
    exact inert_of_find? listed (by decide +kernel)

theorem inert_of_category? {name : String} {set : CharacterSet}
    (found : category? name = some (.ok set)) : ∀ character ∈ name.toList, isInert character := by
  unfold category? at found
  split at found
  · cases found
  · rcases Option.map_eq_some_iff.mp found with ⟨table, listed, _⟩
    exact inert_of_find? listed (by decide +kernel)

theorem inert_of_script? {name : String} {set : CharacterSet} (found : script? name = some set) :
    ∀ character ∈ name.toList, isInert character := by
  rcases Option.map_eq_some_iff.mp found with ⟨table, listed, _⟩
  exact inert_of_find? listed (by decide +kernel)

theorem inert_of_scriptExtension? {name : String} {set : CharacterSet}
    (found : scriptExtension? name = some set) :
    ∀ character ∈ name.toList, isInert character := by
  unfold scriptExtension? at found
  simp only [Option.orElse_eq_orElse, Option.orElse_eq_or, Option.or_eq_some_iff] at found
  rcases found with first | ⟨_, second⟩
  · rcases Option.map_eq_some_iff.mp first with ⟨table, listed, _⟩
    exact inert_of_find? listed (by decide +kernel)
  · exact inert_of_script? second

theorem inert_of_edition? {name : String} {editions : List (List String × String)}
    {set : CharacterSet} (found : edition? name editions = some set)
    (plain : hasPlainNames editions) : ∀ character ∈ name.toList, isInert character := by
  induction editions generalizing set with
  | nil => cases found
  | cons entry later induction =>
      rw [hasPlainNames, List.all_cons, Bool.and_eq_true] at plain
      simp only [edition?] at found
      split at found
      · next listed =>
          have letters := List.all_eq_true.mp plain.1 name (List.contains_iff_mem.mp listed)
          exact fun character member =>
            inert_of_isBetweenBrackets (List.all_eq_true.mp letters character member)
      · rcases Option.map_eq_some_iff.mp found with ⟨rest, inLater, _⟩
        exact induction inLater plain.2

/-! ## Queries -/

theorem inert_of_byName {name : List Char} {set : CharacterSet}
    (found : byName name = .ok set) : ∀ character ∈ name, isInert character := by
  apply inert_of_normalName
  unfold byName at found
  simp only at found
  split at found
  · next property => exact inert_of_binaryProperty? property
  · split at found
    · next category =>
        subst found
        exact inert_of_category? category
    · split at found
      · next script => exact inert_of_script? script
      · cases found

theorem ok_of_orUnknownValue {value? : Option CharacterSet} {set : CharacterSet}
    (found : orUnknownValue value? = .ok set) : value? = some set := by
  cases value? with
  | none => cases found
  | some value =>
      cases found
      rfl

theorem inert_of_orUnknownValue {tables : List (List String × String)} {name : String}
    {set : CharacterSet}
    (found : orUnknownValue ((find? name tables).map .ofTable) = .ok set)
    (plain : hasPlainNames tables) : ∀ character ∈ name.toList, isInert character := by
  rcases Option.map_eq_some_iff.mp (ok_of_orUnknownValue found) with ⟨table, listed, _⟩
  exact inert_of_find? listed plain

theorem inert_of_known {property value : List Char} {known : String}
    (equal : normalName property = known) (plain : known.toList.all isBetweenBrackets)
    (inert : ∀ character ∈ (normalName value).toList, isInert character) :
    ∀ character ∈ property ++ value, isInert character := by
  apply Regex.inert_append
  · apply inert_of_normalName
    rw [equal]
    exact fun character member =>
      inert_of_isBetweenBrackets (List.all_eq_true.mp plain character member)
  · exact inert_of_normalName inert

theorem inert_of_byValue {property value : List Char} {set : CharacterSet}
    (found : byValue property value = .ok set) :
    ∀ character ∈ property ++ value, isInert character := by
  have category {name : String}
      (found : (category? name).getD (.error .unknownValue) = .ok set) :
      ∀ character ∈ name.toList, isInert character := by
    cases listed : category? name with
    | none =>
        rw [listed] at found
        cases found
    | some inner =>
        rw [listed] at found
        change inner = .ok set at found
        subst found
        exact inert_of_category? listed
  unfold byValue at found
  simp only at found
  split at found
  · next equal => exact inert_of_known equal (by decide +kernel) (category found)
  · next equal => exact inert_of_known equal (by decide +kernel) (category found)
  · next equal =>
      exact inert_of_known equal (by decide +kernel)
        (inert_of_script? (ok_of_orUnknownValue found))
  · next equal =>
      exact inert_of_known equal (by decide +kernel)
        (inert_of_script? (ok_of_orUnknownValue found))
  · next equal =>
      exact inert_of_known equal (by decide +kernel)
        (inert_of_scriptExtension? (ok_of_orUnknownValue found))
  · next equal =>
      exact inert_of_known equal (by decide +kernel)
        (inert_of_scriptExtension? (ok_of_orUnknownValue found))
  · next equal =>
      exact inert_of_known equal (by decide +kernel)
        (inert_of_edition? (ok_of_orUnknownValue found) (by decide +kernel))
  · next equal =>
      exact inert_of_known equal (by decide +kernel)
        (inert_of_orUnknownValue found (by decide +kernel))
  · next equal =>
      exact inert_of_known equal (by decide +kernel)
        (inert_of_orUnknownValue found (by decide +kernel))
  · next equal =>
      exact inert_of_known equal (by decide +kernel)
        (inert_of_orUnknownValue found (by decide +kernel))
  · next equal =>
      exact inert_of_known equal (by decide +kernel)
        (inert_of_orUnknownValue found (by decide +kernel))
  · next equal =>
      exact inert_of_known equal (by decide +kernel)
        (inert_of_orUnknownValue found (by decide +kernel))
  · next equal =>
      exact inert_of_known equal (by decide +kernel)
        (inert_of_orUnknownValue found (by decide +kernel))
  · split at found
    · cases found
    · cases found

end UriDispatch.Unicode

namespace UriDispatch.Regex

/-! ## Meanings -/

theorem inert_of_propertySet {flags : Flags} {span : Span} {query : PropertyQuery}
    {negated : Bool} {set : CharacterSet}
    (found : propertySet flags span query negated = .ok set) :
    ∀ character ∈ query.letters, isInert character := by
  unfold propertySet at found
  split at found
  · cases query with
    | byName name =>
        split at found
        · next equal => exact Unicode.inert_of_byName equal
        · cases found
        · cases found
    | byValue property value differs =>
        split at found
        · next equal => exact Unicode.inert_of_byValue equal
        · cases found
        · cases found
  · cases found

theorem ClassSet.inert_of_meaning {set : ClassSet} {flags : Flags} {result : CharacterSet}
    (meant : set.meaning flags = .ok result) : ∀ character ∈ set.letters, isInert character := by
  induction set generalizing result with
  | property span query negated => exact inert_of_propertySet meant
  | bracketed span negated body induction =>
      rcases ok_of_bind meant with ⟨inner, found, _⟩
      exact induction found
  | join first rest left right =>
      rcases ok_of_bind meant with ⟨head, foundHead, others⟩
      rcases ok_of_bind others with ⟨tail, foundTail, _⟩
      exact inert_append (left foundHead) (right foundTail)
  | union span items induction => exact induction meant
  | combine span operator first second left right =>
      rcases ok_of_bind meant with ⟨head, foundHead, others⟩
      rcases ok_of_bind others with ⟨tail, foundTail, _⟩
      exact inert_append (left foundHead) (right foundTail)
  | empty | literal | range | named | escape => exact fun _ => List.not_mem_nil.elim

/-- In a tree with a meaning no name has a bracket. -/
theorem Tree.inert_of_meaning {tree : Tree} {flags after : Flags} {expression : Expression}
    (meant : tree.meaning flags = .ok (expression, after)) :
    ∀ character ∈ tree.letters, isInert character := by
  induction tree generalizing flags after expression with
  | property span query negated =>
      rcases ok_of_map meant with ⟨set, found, _⟩
      exact inert_of_propertySet found
  | bracketed span negated body =>
      rcases ok_of_bind meant with ⟨inner, found, _⟩
      exact ClassSet.inert_of_meaning found
  | repetition span least most greedy body induction =>
      rcases ok_of_bind meant with ⟨⟨inner, next⟩, found, _⟩
      exact induction found
  | capture span index body induction =>
      rcases ok_of_bind meant with ⟨⟨inner, next⟩, found, _⟩
      exact induction found
  | group span changes body induction =>
      rcases ok_of_bind meant with ⟨⟨inner, next⟩, found, _⟩
      exact induction found
  | follow first rest left right =>
      rcases ok_of_bind meant with ⟨⟨head, next⟩, foundHead, others⟩
      rcases ok_of_bind others with ⟨⟨tail, last⟩, foundTail, _⟩
      exact inert_append (left foundHead) (right foundTail)
  | orElse first rest left right =>
      rcases ok_of_bind meant with ⟨⟨head, next⟩, foundHead, others⟩
      rcases ok_of_bind others with ⟨⟨tail, last⟩, foundTail, _⟩
      exact inert_append (left foundHead) (right foundTail)
  | sequence span items induction => exact induction meant
  | alternation span branches induction =>
      rcases ok_of_bind meant with ⟨⟨inner, next⟩, found, _⟩
      exact induction found
  | empty | setFlags | literal | dot | assertion | escape =>
      exact fun _ => List.not_mem_nil.elim

end UriDispatch.Regex
