import Mathlib.Data.List.TakeWhile
import UriDispatch.CommandLine.Arguments

/-! How arguments are read, part by part: what a setting is in each way of writing it, what it adds
to the arguments after it, and where the settings end. -/

namespace UriDispatch.CommandLine

/-! ## Items -/

theorem splitAtEquals_append {name : List Char} (plain : ∀ letter ∈ name, letter ≠ '=')
    (value : List Char) : splitAtEquals (name ++ '=' :: value) = some (name, value) := by
  have apart : ∀ letter ∈ name, decide (letter ≠ '=') = true :=
    fun letter member => decide_eq_true (plain letter member)
  rw [splitAtEquals, List.dropWhile_append_of_pos apart, List.takeWhile_append_of_pos apart]
  simp

/-- The ways to write a setting. The value may be any text where it is in the same argument. -/
inductive Writes (flag : Flag) (value : String) : List String → Prop where
  | attached : Writes flag value ["--" ++ flag.name ++ "=" ++ value]
  | next (apart : looksLikeOption value.toList = false) :
      Writes flag value ["--" ++ flag.name, value]
  | letterAttached {letter : Char} (short : flag.letter = some letter) :
      Writes flag value [String.ofList ('-' :: letter :: '=' :: value.toList)]
  | letterNext {letter : Char} (short : flag.letter = some letter)
      (apart : looksLikeOption value.toList = false) :
      Writes flag value [String.ofList ['-', letter], value]

structure Known (known : List Flag) (flag : Flag) : Prop where
  byName : known.find? (·.name = flag.name) = some flag
  byLetter : ∀ letter, flag.letter = some letter →
    known.find? (·.letter = some letter) = some flag ∧ letter ≠ '-'
  plain : ∀ letter ∈ flag.name.toList, letter ≠ '='
  someName : flag.name.toList ≠ []

theorem readItem_attached {known : List Flag} {flag : Flag} (isKnown : Known known flag)
    (value : String) (rest : List String) :
    readItem known ("--" ++ flag.name ++ "=" ++ value) rest = some (.setting flag value, rest) := by
  have letters : ("--" ++ flag.name ++ "=" ++ value).toList =
      '-' :: '-' :: (flag.name.toList ++ '=' :: value.toList) := by
    simp only [String.toList_append, List.append_assoc]
    rfl
  have parts := splitAtEquals_append isKnown.plain value.toList
  obtain ⟨first, others, continues⟩ : ∃ first others,
      flag.name.toList ++ '=' :: value.toList = first :: others :=
    List.exists_cons_of_ne_nil (by simp)
  unfold readItem
  rw [letters]
  rw [continues] at parts ⊢
  simp only [parts, String.ofList_toList, isKnown.byName, readSetting, Option.bind_eq_bind,
    Option.bind_some]

theorem readItem_next {known : List Flag} {flag : Flag} (isKnown : Known known flag)
    {value : String} (apart : looksLikeOption value.toList = false) (rest : List String) :
    readItem known ("--" ++ flag.name) (value :: rest) = some (.setting flag value, rest) := by
  have letters : ("--" ++ flag.name).toList = '-' :: '-' :: flag.name.toList := by
    rw [String.toList_append]
    rfl
  have noEquals : splitAtEquals flag.name.toList = none := by
    have allPlain : flag.name.toList.dropWhile (· ≠ '=') = [] :=
      List.dropWhile_eq_nil_iff.mpr fun letter member =>
        decide_eq_true (isKnown.plain letter member)
    rw [splitAtEquals, allPlain]
  have name := String.ofList_toList (s := flag.name)
  obtain ⟨first, others, continues⟩ := List.exists_cons_of_ne_nil isKnown.someName
  unfold readItem
  rw [letters]
  rw [continues] at noEquals name ⊢
  simp only [noEquals, name, isKnown.byName, readSetting, Option.bind_eq_bind, Option.bind_some,
    apart, Bool.false_eq_true, if_false]

theorem readItem_letter {known : List Flag} {flag : Flag} (isKnown : Known known flag)
    {letter : Char} (short : flag.letter = some letter) (attached : List Char)
    (rest : List String) :
    readItem known (String.ofList ('-' :: letter :: attached)) rest =
      match attached with
      | [] => readSetting flag none rest
      | '=' :: value => readSetting flag (some value) rest
      | value => readSetting flag (some value) rest := by
  obtain ⟨found, notDash⟩ := isKnown.byLetter letter short
  unfold readItem
  rw [String.toList_ofList]
  split
  · next equal =>
      cases equal
      exact absurd rfl notDash
  · next equal =>
      cases equal
      exact absurd rfl notDash
  · next equal =>
      cases equal
      rw [found]
      rfl
  · next notLetter =>
      exact absurd rfl (notLetter letter attached)

/-- However a setting is written, it is read as its value, and nothing else. -/
theorem Writes.readItem {known : List Flag} {flag : Flag} {value : String}
    {arguments : List String} (writes : Writes flag value arguments)
    (isKnown : Known known flag) (rest : List String) :
    ∃ first others, arguments = first :: others ∧
      CommandLine.readItem known first (others ++ rest) = some (.setting flag value, rest) := by
  cases writes with
  | attached => exact ⟨_, [], rfl, readItem_attached isKnown value rest⟩
  | next apart => exact ⟨_, [value], rfl, readItem_next isKnown apart rest⟩
  | letterAttached short =>
      refine ⟨_, [], rfl, ?_⟩
      rw [readItem_letter isKnown short]
      simp only [readSetting, String.ofList_toList, List.nil_append]
  | letterNext short apart =>
      refine ⟨_, [value], rfl, ?_⟩
      rw [readItem_letter isKnown short]
      simp only [readSetting, apart, List.singleton_append, Bool.false_eq_true, if_false]

/-! ## Lists of arguments -/

namespace Arguments

def precededBy (arguments : Arguments) (flag : Flag) (value : String) : Arguments :=
  { arguments with settings := (flag, value) :: arguments.settings }

theorem read?_cons (known : List Flag) (argument : String) (rest : List String) :
    read? known (argument :: rest) =
      match readItem known argument rest with
      | none => none
      | some (.endOfOptions, after) => some ⟨[], after⟩
      | some (.setting flag value, after) => (read? known after).map (·.precededBy flag value)
      | some (.word text, after) =>
          (read? known after).map fun later => { later with words := text :: later.words } := by
  rw [read?]
  split
  · next found => rw [found]
  · next found => rw [found]
  · next after found =>
      simp only [found]
      cases read? known after <;> rfl
  · next after found =>
      simp only [found]
      cases read? known after <;> rfl

theorem read?_setting {known : List Flag} {flag : Flag} {value : String}
    {arguments : List String} (writes : Writes flag value arguments)
    (isKnown : Known known flag) (rest : List String) :
    read? known (arguments ++ rest) = (read? known rest).map (·.precededBy flag value) := by
  obtain ⟨first, others, rfl, item⟩ := writes.readItem isKnown rest
  rw [List.cons_append, read?_cons, item]

theorem read?_endOfOptions (known : List Flag) (words : List String) :
    read? known ("--" :: words) = some ⟨[], words⟩ := by
  have item : readItem known "--" words = some (.endOfOptions, words) := rfl
  rw [read?_cons, item]

end Arguments

end UriDispatch.CommandLine
