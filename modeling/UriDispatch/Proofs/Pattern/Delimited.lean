import UriDispatch.Proofs.Pattern.Backtracking

/-! Patterns whose tokens end where a separator stands, and whose sections stand one inside the
other at the end. A URI that is written by such a pattern can be read in one way only. -/

namespace UriDispatch.Pattern

namespace Outline

/-! ## Delimited outlines -/

def startsWithSeparator : Outline → Bool
  | .literal character _ _ => character ∈ separators
  | .done | .token _ _ | .optional _ _ => false

/-- Whether a token ends before an outline: there is nothing, or a separator, or a section that
starts with one. -/
def delimits : Outline → Bool
  | .done => true
  | .literal character _ _ => character ∈ separators
  | .optional body _ => body.startsWithSeparator
  | .token _ _ => false

def isDelimited : Outline → Bool
  | .done => true
  | .literal _ _ rest => rest.isDelimited
  | .token _ rest => rest.delimits && rest.isDelimited
  | .optional body rest => rest = .done && body.isDelimited

/-- What is written of an outline if so many sections are taken, one inside the other, and nothing
comes after them. -/
def taken : (sections : Nat) → Outline → Outline
  | _, .done => .done
  | sections, .literal character plain rest => .literal character plain (rest.taken sections)
  | sections, .token letters rest => .token letters (rest.taken sections)
  | 0, .optional _ _ => .done
  | sections + 1, .optional body _ => body.taken sections

def fill (value : String → List Char) : Outline → List Char
  | .done => []
  | .literal character _ rest => character :: rest.fill value
  | .token letters rest => value (String.ofList letters) ++ rest.fill value
  | .optional body rest => body.fill value ++ rest.fill value

theorem names_taken_subset (outline : Outline) (sections : Nat) :
    (outline.taken sections).names ⊆ outline.names := by
  induction outline generalizing sections with
  | done => exact List.Subset.refl _
  | literal character plain rest induction => exact induction sections
  | token letters rest induction => exact List.cons_subset_cons _ (induction sections)
  | optional body rest inner outer =>
      cases sections with
      | zero => exact List.nil_subset _
      | succ sections => exact List.subset_append_of_subset_left _ (inner sections)

end Outline

/-! ## Tokens -/

def IsSegment (value : List Char) : Prop := value ≠ [] ∧ ∀ character ∈ value, character ∉ separators

instance (value : List Char) : Decidable (IsSegment value) :=
  decidable_of_iff (value ≠ [] ∧ value.all (· ∉ separators)) (by simp [IsSegment])

def Separates (text : List Char) : Prop := ∀ head ∈ text.head?, head ∈ separators

theorem cuts_segment {value left : List Char} (segment : IsSegment value)
    (separates : Separates left) : ∃ shorter, cuts (value ++ left) = (value, left) :: shorter := by
  rcases segment with ⟨notEmpty, plain⟩
  induction value with
  | nil => exact absurd rfl notEmpty
  | cons head tail induction =>
      rw [List.forall_mem_cons] at plain
      rw [List.cons_append, cuts, if_neg plain.1]
      cases tail with
      | nil =>
          have none : cuts left = [] := by
            cases left with
            | nil => rfl
            | cons first others => exact if_pos (separates first rfl)
          rw [List.nil_append, none]
          exact ⟨[], rfl⟩
      | cons second others =>
          rcases induction (List.cons_ne_nil _ _) plain.2 with ⟨shorter, longest⟩
          rw [longest]
          exact ⟨_, rfl⟩

namespace Outline

variable {value : String → List Char} {outline : Outline}

theorem separates_fill_of_start (starts : outline.startsWithSeparator) (sections : Nat) :
    Separates ((outline.taken sections).fill value) := by
  cases outline with
  | literal character plain rest =>
      intro head member
      cases member
      exact of_decide_eq_true starts
  | done | token | optional => cases starts

theorem separates_fill (delimits : outline.delimits) (sections : Nat) :
    Separates ((outline.taken sections).fill value) := by
  cases outline with
  | done =>
      intro head member
      cases member
  | literal character plain rest =>
      exact separates_fill_of_start
        (show (Outline.literal character plain rest).startsWithSeparator from delimits) sections
  | token => cases delimits
  | optional body rest =>
      cases sections with
      | zero =>
          intro head member
          cases member
      | succ sections => exact separates_fill_of_start delimits sections

/-! ## Recovery -/

variable {Result : Type}

theorem attempt_nil (outline : Outline)
    (finish : List (String × List Char) → List Char → Option Result) :
    outline.attempt [] finish = none ∨ outline.attempt [] finish = finish [] [] := by
  induction outline generalizing finish with
  | done => exact .inr rfl
  | literal | token => exact .inl rfl
  | optional body rest inner outer =>
      have skipped := outer finish
      have through : body.attempt [] (fun inner left =>
          rest.attempt left fun values => finish (inner ++ values)) = none ∨
          body.attempt [] (fun inner left =>
            rest.attempt left fun values => finish (inner ++ values)) = finish [] [] := by
        rcases inner fun inner left => rest.attempt left fun values => finish (inner ++ values) with
          fails | same
        · exact .inl fails
        · rw [same]
          exact outer finish
      rw [attempt]
      rcases through with fails | same
      · rw [fails, Option.none_or]
        exact skipped
      · rw [same]
        rcases skipped with fails | same
        · rw [fails, Option.or_none]
          exact .inr rfl
        · rw [same, Option.or_self]
          exact .inr rfl

theorem or_of_isSome {first second : Option Result} (success : first.isSome) :
    first.or second = first := by
  cases first with
  | none => cases success
  | some => rfl

theorem attempt_fill (delimited : outline.isDelimited) {sections : Nat}
    (segments : ∀ name ∈ (outline.taken sections).names, IsSegment (value name))
    {finish : List (String × List Char) → List Char → Option Result}
    (succeeds : ∀ values, (finish values []).isSome) :
    outline.attempt ((outline.taken sections).fill value) finish =
      finish ((outline.taken sections).names.map fun name => (name, value name)) [] := by
  induction outline generalizing sections finish with
  | done => rfl
  | literal character plain rest induction =>
      exact (if_pos rfl).trans (induction delimited segments succeeds)
  | token letters rest induction =>
      rw [isDelimited, Bool.and_eq_true] at delimited
      rw [taken, names, List.forall_mem_cons] at segments
      have others := induction delimited.2 segments.2 fun values =>
        succeeds ((String.ofList letters, value (String.ofList letters)) :: values)
      rcases cuts_segment segments.1 (separates_fill delimited.1 sections) with ⟨shorter, longest⟩
      rw [taken, fill, attempt, longest, List.findSome?_cons]
      simp only [others]
      rcases Option.isSome_iff_exists.mp (succeeds _) with ⟨result, known⟩
      rw [known]
      exact known.symm
  | optional body rest inner outer =>
      rw [isDelimited, Bool.and_eq_true, decide_eq_true_eq] at delimited
      rcases delimited with ⟨rfl, delimited⟩
      rw [attempt]
      simp only [attempt, List.append_nil]
      cases sections with
      | zero =>
          change (body.attempt [] finish).or (finish [] []) = finish [] []
          rcases body.attempt_nil finish with fails | same
          · rw [fails, Option.none_or]
          · rw [same, Option.or_self]
      | succ sections =>
          rw [taken, inner delimited segments succeeds]
          exact or_of_isSome (succeeds _)

theorem decompose_fill (delimited : outline.isDelimited) {sections : Nat}
    (segments : ∀ name ∈ (outline.taken sections).names, IsSegment (value name)) :
    outline.decompose ((outline.taken sections).fill value) =
      some ((outline.taken sections).names.map fun name => (name, value name)) := by
  rw [decompose, attempt_fill delimited segments fun _ => rfl, if_pos rfl]

end Outline

/-- The values of a delimited pattern are recovered from the URI that is written with them. If only
some sections are taken, the names of the other ones are absent. -/
theorem exec_fill {pattern : String} {outline : Outline} {capture : Capture}
    (meant : pieces pattern.toList = outline.pieces) (delimited : outline.isDelimited)
    (succeeds : (Capture.compile pattern .empty).value = .ok capture) (sections : Nat)
    {value : String → List Char}
    (segments : ∀ name ∈ (outline.taken sections).names, IsSegment (value name)) :
    ∃ params, (capture.exec (String.ofList ((outline.taken sections).fill value))).value =
        some params ∧
      ∀ name, params.get? name =
        if name ∈ (outline.taken sections).names then some (some (String.ofList (value name)))
        else if name ∈ outline.names then some none else none := by
  rw [Capture.value_compile] at succeeds
  rcases Regex.ok_of_map succeeds with ⟨compiled, compiles, rfl⟩
  rcases compilesBy_of_compile compiles with ⟨tree, compilation⟩
  have decomposes := Outline.decompose_fill delimited segments
  let values := (outline.taken sections).names.map fun name => (name, value name)
  refine ⟨outline.params values, ?_, fun name => ?_⟩
  · rw [value_exec_eq_decompose meant compilation, String.toList_ofList, decomposes]
    rfl
  · rw [get?_params_decompose meant compilation decomposes, lookup_values]
    by_cases written : name ∈ (outline.taken sections).names
    · rw [if_pos written, if_pos written, if_pos (outline.names_taken_subset sections written)]
      rfl
    · rw [if_neg written, if_neg written]
      rfl

theorem exec_fill_of_nested : ∃ (outline : Outline) (capture : Capture) (params : Params),
    pieces "/<a>(/<b>(.<c>))".toList = outline.pieces ∧ outline.isDelimited ∧
    (Capture.compile "/<a>(/<b>(.<c>))" .empty).value = .ok capture ∧
    (outline.taken 1).fill (fun name => if name = "a" then ['x'] else ['y', 'z']) =
      "/x/yz".toList ∧
    (capture.exec "/x/yz").value = some params ∧
    params.get? "a" = some (some "x") ∧ params.get? "b" = some (some "yz") ∧
    params.get? "c" = some none ∧ params.get? "d" = none := by
  let outline : Outline := .literal '/' rfl (.token ['a'] (.optional (.literal '/' rfl
    (.token ['b'] (.optional (.literal '.' rfl (.token ['c'] .done)) .done))) .done))
  let value (name : String) : List Char := if name = "a" then ['x'] else ['y', 'z']
  have meant : pieces "/<a>(/<b>(.<c>))".toList = outline.pieces := by decide +kernel
  have delimited : outline.isDelimited := by decide
  have compiles : (Capture.compile "/<a>(/<b>(.<c>))" .empty).value.isOk := by decide +kernel
  have segments : ∀ name ∈ (outline.taken 1).names, IsSegment (value name) := by decide
  rcases exists_of_isOk compiles with ⟨capture, succeeds⟩
  have written : (outline.taken 1).fill value = "/x/yz".toList := by decide
  rcases exec_fill meant delimited succeeds 1 segments with ⟨params, executed, known⟩
  rw [written, String.ofList_toList] at executed
  refine ⟨outline, capture, params, meant, delimited, succeeds, written, executed, ?_, ?_, ?_, ?_⟩
  · exact (known "a").trans (by decide)
  · exact (known "b").trans (by decide)
  · exact (known "c").trans (by decide)
  · exact (known "d").trans (by decide)

end UriDispatch.Pattern
