import UriDispatch.RouteFile.Validation

/-! What is reported of a list of routes. The report of a list is put together from the reports of
its routes, each of which looks at the routes before it and at none of those after it. -/

namespace UriDispatch.RouteFile

def ownErrors (earlier : List RouteDefinition) (definition : RouteDefinition) :
    List ValidationError :=
  nameErrors (earlier.map (·.name)) earlier.length definition.name ++
    (patternErrors definition).value

def errorsAfter (earlier : List RouteDefinition) : List RouteDefinition → List ValidationError
  | [] => []
  | definition :: rest =>
      ownErrors earlier definition ++ errorsAfter (earlier ++ [definition]) rest

theorem errorsAfter_append (earlier first second : List RouteDefinition) :
    errorsAfter earlier (first ++ second) =
      errorsAfter earlier first ++ errorsAfter (earlier ++ first) second := by
  induction first generalizing earlier with
  | nil => rw [List.nil_append, List.append_nil, errorsAfter, List.nil_append]
  | cons definition rest induction =>
      rw [List.cons_append, errorsAfter, errorsAfter, induction, List.append_assoc,
        List.append_assoc, List.singleton_append]

theorem nameErrors_congr {seen other : List String} {name : String}
    (same : isBlankName name = false → (name ∈ seen ↔ name ∈ other)) (index : Nat) :
    nameErrors seen index name = nameErrors other index name := by
  unfold nameErrors
  cases blank : isBlankName name with
  | true => rfl
  | false => simp only [same blank]

theorem value_errorsFrom {seen : List String} {earlier : List RouteDefinition}
    (same : ∀ name, isBlankName name = false →
      (name ∈ seen ↔ name ∈ earlier.map (·.name))) (rest : List RouteDefinition) :
    (errorsFrom seen earlier.length rest).value = errorsAfter earlier rest := by
  induction rest generalizing seen earlier with
  | nil => rfl
  | cons definition rest induction =>
      have further : ∀ name, isBlankName name = false →
          (name ∈ (if isBlankName definition.name then seen else definition.name :: seen) ↔
            name ∈ (earlier ++ [definition]).map (·.name)) := by
        intro name notBlank
        rw [List.map_append, List.mem_append, ← same name notBlank, List.map_singleton,
          List.mem_singleton]
        split
        · next blank =>
            have different : name ≠ definition.name := by
              rintro rfl
              rw [notBlank] at blank
              cases blank
            simp [different]
        · rw [List.mem_cons, or_comm]
      have tail := induction further
      rw [List.length_append, List.length_singleton] at tail
      rw [errorsAfter, ownErrors, ← tail, ← nameErrors_congr (same definition.name)]
      rfl

theorem value_validate (definitions : List RouteDefinition) :
    (validate definitions).value = errorsAfter [] definitions := by
  have none : ∀ name, isBlankName name = false →
      (name ∈ ([] : List String) ↔ name ∈ ([] : List RouteDefinition).map (·.name)) :=
    fun _ _ => Iff.rfl
  exact value_errorsFrom none definitions

/-- The report of a route stands between those of the routes before it and of those after it. -/
theorem value_validate_middle (earlier : List RouteDefinition) (definition : RouteDefinition)
    (later : List RouteDefinition) :
    (validate (earlier ++ definition :: later)).value =
      (validate earlier).value ++ ownErrors earlier definition ++
        errorsAfter (earlier ++ [definition]) later := by
  rw [value_validate, value_validate, errorsAfter_append, List.nil_append, errorsAfter,
    List.append_assoc]

theorem value_patternErrors (definition : RouteDefinition) :
    (patternErrors definition).value =
      if definition.pattern = "" then [.emptyPattern definition.name]
      else
        match (Pattern.compile definition.pattern definition.groups).value with
        | .ok _ => []
        | .error error => [.invalidPattern definition.name error.message] := by
  unfold patternErrors
  by_cases empty : definition.pattern = ""
  · rw [if_pos empty, if_pos (String.isEmpty_iff.mpr empty)]
    rfl
  · rw [if_neg empty, if_neg fun isEmpty => empty (String.isEmpty_iff.mp isEmpty),
      Logged.value_bind]
    cases (Pattern.compile definition.pattern definition.groups).value with
    | ok compiled => rfl
    | error error => rfl

end UriDispatch.RouteFile
