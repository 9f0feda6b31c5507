import Mathlib.Data.List.DropRight
import UriDispatch.Proofs.RouteFile.Loading
import UriDispatch.Proofs.RouteFile.Reports

/-! The problems of a list of routes, told without regard to how they are looked for. A check of the
list reports all of them, in the order of the routes, and nothing else. -/

namespace UriDispatch.RouteFile

/-! ## Problems -/

def trimmed (name : String) : List Char :=
  (name.toList.dropWhile Unicode.isBlank).rdropWhile Unicode.isBlank

inductive NameProblem (earlier : List RouteDefinition) (name : String) :
    ValidationError → Prop where
  | blank (nothingLeft : trimmed name = []) : NameProblem earlier name (.emptyName earlier.length)
  | repeated (somethingLeft : trimmed name ≠ []) {other : RouteDefinition}
      (member : other ∈ earlier) (same : other.name = name) :
      NameProblem earlier name (.duplicateRoute name)

inductive PatternProblem (definition : RouteDefinition) : ValidationError → Prop where
  | empty (isEmpty : definition.pattern = "") :
      PatternProblem definition (.emptyPattern definition.name)
  | invalid (notEmpty : definition.pattern ≠ "") {error : CaptureError}
      (fails : (Pattern.compile definition.pattern definition.groups).value = .error error) :
      PatternProblem definition (.invalidPattern definition.name error.message)

structure Lists (problem : ValidationError → Prop) (errors : List ValidationError) : Prop where
  single : errors.length ≤ 1
  mem_iff : ∀ error, error ∈ errors ↔ problem error

def RouteReport (earlier : List RouteDefinition) (definition : RouteDefinition)
    (report : List ValidationError) : Prop :=
  ∃ ofName ofPattern, report = ofName ++ ofPattern ∧
    Lists (NameProblem earlier definition.name) ofName ∧ Lists (PatternProblem definition) ofPattern

theorem isBlankName_iff (name : String) : isBlankName name = true ↔ trimmed name = [] := by
  rw [isBlankName, trimmed, List.rdropWhile_eq_nil_iff, List.all_eq_true]
  constructor
  · intro blank letter member
    exact blank letter ((List.dropWhile_suffix _).subset member)
  · intro blank
    -- The first letter that is left would not be blank.
    have nothing : name.toList.dropWhile Unicode.isBlank = [] := by
      cases left : name.toList.dropWhile Unicode.isBlank with
      | nil => rfl
      | cons first rest =>
          have shown := List.head_dropWhile_not Unicode.isBlank (left ▸ List.cons_ne_nil first rest)
          simp only [left, List.head_cons] at shown
          rw [blank first (left ▸ List.mem_cons_self)] at shown
          cases shown
    exact List.dropWhile_eq_nil_iff.mp nothing

theorem isBlankName_eq_false_iff (name : String) :
    isBlankName name = false ↔ trimmed name ≠ [] := by
  rw [← Bool.not_eq_true, ne_eq, isBlankName_iff]

theorem lists_nameErrors (earlier : List RouteDefinition) (name : String) :
    Lists (NameProblem earlier name) (nameErrors (earlier.map (·.name)) earlier.length name) := by
  unfold nameErrors
  split
  · next blank =>
      have nothingLeft := (isBlankName_iff name).mp blank
      constructor
      · exact Nat.le_refl 1
      · intro error
        rw [List.mem_singleton]
        constructor
        · rintro rfl
          exact .blank nothingLeft
        · rintro (_ | ⟨somethingLeft, _, _⟩)
          · rfl
          · exact absurd nothingLeft somethingLeft
  · next notBlank =>
      have somethingLeft : trimmed name ≠ [] :=
        fun nothing => notBlank ((isBlankName_iff name).mpr nothing)
      split
      · next taken =>
          rcases List.mem_map.mp taken with ⟨other, member, same⟩
          constructor
          · exact Nat.le_refl 1
          · intro error
            rw [List.mem_singleton]
            constructor
            · rintro rfl
              exact .repeated somethingLeft member same
            · rintro (nothingLeft | _)
              · exact absurd nothingLeft somethingLeft
              · rfl
      · next fresh =>
          constructor
          · exact Nat.zero_le 1
          · intro error
            apply iff_of_false List.not_mem_nil
            rintro (nothingLeft | ⟨_, member, same⟩)
            · exact somethingLeft nothingLeft
            · exact fresh (List.mem_map.mpr ⟨_, member, same⟩)

theorem lists_patternErrors (definition : RouteDefinition) :
    Lists (PatternProblem definition) (patternErrors definition).value := by
  rw [value_patternErrors]
  split
  · next isEmpty =>
      constructor
      · exact Nat.le_refl 1
      · intro error
        rw [List.mem_singleton]
        constructor
        · rintro rfl
          exact .empty isEmpty
        · rintro (_ | notEmpty)
          · rfl
          · exact absurd isEmpty notEmpty
  · next notEmpty =>
      split
      · next compiled succeeds =>
          constructor
          · exact Nat.zero_le 1
          · intro error
            apply iff_of_false List.not_mem_nil
            rintro (isEmpty | ⟨_, fails⟩)
            · exact notEmpty isEmpty
            · rw [succeeds] at fails
              cases fails
      · next cause fails =>
          constructor
          · exact Nat.le_refl 1
          · intro error
            rw [List.mem_singleton]
            constructor
            · rintro rfl
              exact .invalid notEmpty fails
            · rintro (isEmpty | ⟨_, failsToo⟩)
              · exact absurd isEmpty notEmpty
              · rw [fails] at failsToo
                cases failsToo
                rfl

theorem routeReport_ownErrors (earlier : List RouteDefinition) (definition : RouteDefinition) :
    RouteReport earlier definition (ownErrors earlier definition) :=
  ⟨_, _, rfl, lists_nameErrors earlier definition.name, lists_patternErrors definition⟩

/-! ## Lists of routes -/

theorem value_validate_concat (earlier : List RouteDefinition) (definition : RouteDefinition) :
    (validate (earlier ++ [definition])).value =
      (validate earlier).value ++ ownErrors earlier definition := by
  rw [value_validate_middle, errorsAfter, List.append_nil]

theorem validate_prefix {front definitions : List RouteDefinition}
    (isFront : front <+: definitions) :
    (validate front).value <+: (validate definitions).value := by
  rcases isFront with ⟨later, rfl⟩
  rw [value_validate, value_validate, errorsAfter_append]
  exact List.prefix_append _ _

structure Reports (definitions : List RouteDefinition) (reports : List (List ValidationError)) :
    Prop where
  length_eq : reports.length = definitions.length
  own : ∀ index definition report, definitions[index]? = some definition →
    reports[index]? = some report → RouteReport (definitions.take index) definition report

theorem Reports.concat {earlier : List RouteDefinition} {reports : List (List ValidationError)}
    (before : Reports earlier reports) {definition : RouteDefinition} {last : List ValidationError}
    (report : RouteReport earlier definition last) :
    Reports (earlier ++ [definition]) (reports ++ [last]) := by
  constructor
  · rw [List.length_append, List.length_append, before.length_eq]
    rfl
  · intro index other found named reported
    rcases Nat.lt_trichotomy index earlier.length with inside | rfl | beyond
    · rw [List.getElem?_append_left inside] at named
      rw [List.getElem?_append_left (before.length_eq ▸ inside)] at reported
      rw [List.take_append_of_le_length (Nat.le_of_lt inside)]
      exact before.own index other found named reported
    · rw [List.getElem?_concat_length] at named
      rw [← before.length_eq, List.getElem?_concat_length] at reported
      cases named
      cases reported
      rw [List.take_left]
      exact report
    · rw [List.getElem?_eq_none (by rw [List.length_append]; exact beyond)] at named
      cases named

theorem exists_reports (definitions : List RouteDefinition) :
    ∃ reports, (validate definitions).value = reports.flatten ∧ Reports definitions reports := by
  induction definitions using List.reverseRecOn with
  | nil => exact ⟨[], rfl, rfl, fun _ _ _ named => nomatch named⟩
  | append_singleton earlier definition induction =>
      rcases induction with ⟨reports, all, before⟩
      refine ⟨reports ++ [ownErrors earlier definition], ?_,
        before.concat (routeReport_ownErrors earlier definition)⟩
      rw [value_validate_concat, all, List.flatten_append, List.flatten_singleton]

/-! ## Repeated names -/

theorem count_ownErrors {name : String} (somethingLeft : trimmed name ≠ [])
    (earlier : List RouteDefinition) (definition : RouteDefinition) :
    (ownErrors earlier definition).count (.duplicateRoute name) =
      if definition.name = name ∧ name ∈ earlier.map (·.name) then 1 else 0 := by
  have shown := (isBlankName_eq_false_iff name).mpr somethingLeft
  have noPattern : .duplicateRoute name ∉ (patternErrors definition).value := by
    rw [(lists_patternErrors definition).mem_iff]
    intro impossible
    cases impossible
  rw [ownErrors, List.count_append, List.count_eq_zero_of_not_mem noPattern, Nat.add_zero]
  by_cases same : definition.name = name
  · simp only [same, nameErrors, shown, Bool.false_eq_true, if_false, true_and]
    split
    · exact List.count_singleton_self
    · rfl
  · rw [if_neg fun both => same both.1]
    apply List.count_eq_zero_of_not_mem
    rw [(lists_nameErrors earlier definition.name).mem_iff]
    rintro (_ | _)
    exact same rfl

theorem count_duplicateRoute {name : String} (somethingLeft : trimmed name ≠ [])
    (definitions : List RouteDefinition) :
    (validate definitions).value.count (.duplicateRoute name) =
      (definitions.map (·.name)).count name - 1 := by
  induction definitions using List.reverseRecOn with
  | nil => rfl
  | append_singleton earlier definition induction =>
      rw [value_validate_concat, List.count_append, induction, count_ownErrors somethingLeft,
        List.map_append, List.count_append, List.map_singleton, List.count_singleton]
      have before : name ∈ earlier.map (·.name) ↔ 0 < (earlier.map (·.name)).count name :=
        List.count_pos_iff.symm
      by_cases same : definition.name = name
      · by_cases taken : 0 < (earlier.map (·.name)).count name
        · simp only [same, before, taken, and_self, if_true, beq_self_eq_true]
          omega
        · simp only [same, before, taken, and_false, if_false, beq_self_eq_true, if_true]
          omega
      · simp [same]

theorem not_mem_duplicateRoute {name : String} (nothingLeft : trimmed name = [])
    (definitions : List RouteDefinition) :
    .duplicateRoute name ∉ (validate definitions).value := by
  induction definitions using List.reverseRecOn with
  | nil => exact List.not_mem_nil
  | append_singleton earlier definition induction =>
      rw [value_validate_concat, ownErrors, List.mem_append, List.mem_append,
        (lists_nameErrors earlier definition.name).mem_iff,
        (lists_patternErrors definition).mem_iff]
      rintro (before | ofName | ofPattern)
      · exact induction before
      · cases ofName with
        | repeated somethingLeft => exact somethingLeft nothingLeft
      · cases ofPattern

/-! ## Whole reports -/

structure Exhaustive (definitions : List RouteDefinition) (errors : List ValidationError) :
    Prop where
  by_route : ∃ reports, errors = reports.flatten ∧ Reports definitions reports
  decides : ∀ text entries file, Toml.parse text = some entries → ofEntries entries = .ok file →
    file.routes = definitions →
      (errors = [] → (parse text).value = .ok file) ∧
      (errors ≠ [] → (parse text).value = .error (.invalid errors))
  count_eq : ∀ name, trimmed name ≠ [] →
    errors.count (.duplicateRoute name) = (definitions.map (·.name)).count name - 1
  not_mem : ∀ name, trimmed name = [] → .duplicateRoute name ∉ errors
  prefixes : ∀ front, front <+: definitions → (validate front).value <+: errors

/-- A check reports what is wrong with each route, whatever is wrong with others, and a file is
accepted just if nothing is. -/
theorem validate_exhaustive (definitions : List RouteDefinition) :
    Exhaustive definitions (validate definitions).value where
  by_route := exists_reports definitions
  decides := by
    rintro text entries file parses describes rfl
    rw [value_parse parses, describes]
    constructor
    · intro none
      simp only [none, List.isEmpty_nil, if_true]
    · intro some
      simp only [List.isEmpty_iff, if_neg some]
  count_eq := fun _ somethingLeft => count_duplicateRoute somethingLeft definitions
  not_mem := fun _ nothingLeft => not_mem_duplicateRoute nothingLeft definitions
  prefixes := fun _ => validate_prefix

end UriDispatch.RouteFile
