import Mathlib.Data.List.Forall2
import UriDispatch.Proofs.RouteFile.Reports
import UriDispatch.Proofs.Table.History

/-! Checking a list of routes and building a table of them. The check goes on after a problem and
the table stops at the first one; still they agree on every list but for blank names, which only
the check objects to. -/

namespace UriDispatch.RouteFile

/-! ## Single routes -/

def refused? (earlier : List RouteDefinition) (definition : RouteDefinition) : Option RouteError :=
  Table.refusal? (earlier.map (·.name)) definition.name definition.pattern definition.groups

/-- How the check reports what a table refuses; `index` is the number of routes before. -/
def reported (index : Nat) : RouteError → ValidationError
  | .emptyPattern route => .emptyPattern route
  | .duplicateRoute route => if isBlankName route then .emptyName index else .duplicateRoute route
  | .compile route cause => .invalidPattern route cause.message

def Accepted (earlier : List RouteDefinition) : List RouteDefinition → Prop
  | [] => True
  | definition :: rest =>
      refused? earlier definition = none ∧ Accepted (earlier ++ [definition]) rest

theorem accepted_append (earlier first second : List RouteDefinition) :
    Accepted earlier (first ++ second) ↔
      Accepted earlier first ∧ Accepted (earlier ++ first) second := by
  induction first generalizing earlier with
  | nil => rw [List.nil_append, List.append_nil, Accepted, true_and]
  | cons definition rest induction =>
      rw [List.cons_append, Accepted, Accepted, induction, and_assoc, List.append_assoc,
        List.singleton_append]

theorem reported_mem_ownErrors {earlier : List RouteDefinition} {definition : RouteDefinition}
    {error : RouteError} (refused : refused? earlier definition = some error) :
    reported earlier.length error ∈ ownErrors earlier definition := by
  rw [refused?, Table.refusal?] at refused
  rw [ownErrors, List.mem_append, value_patternErrors]
  split at refused
  · next empty =>
      cases refused
      right
      rw [if_pos empty]
      exact List.mem_singleton.mpr rfl
  · next notEmpty =>
      split at refused
      · next taken =>
          cases refused
          left
          rw [nameErrors, reported]
          cases isBlankName definition.name with
          | true => exact List.mem_singleton.mpr rfl
          | false => simp [taken]
      · split at refused
        · next cause fails =>
            cases refused
            right
            rw [if_neg notEmpty, fails]
            exact List.mem_singleton.mpr rfl
        · cases refused

theorem ownErrors_eq_nil_iff (earlier : List RouteDefinition) (definition : RouteDefinition) :
    ownErrors earlier definition = [] ↔
      refused? earlier definition = none ∧ isBlankName definition.name = false := by
  rw [ownErrors, List.append_eq_nil_iff, value_patternErrors, nameErrors, refused?, Table.refusal?]
  by_cases empty : definition.pattern = ""
  · simp [empty]
  · cases blank : isBlankName definition.name with
    | true => simp
    | false =>
        by_cases taken : definition.name ∈ earlier.map (·.name)
        · simp [empty, taken]
        · cases (Pattern.compile definition.pattern definition.groups).value with
          | ok compiled => simp [empty, taken]
          | error cause => simp [empty, taken]

theorem errorsAfter_eq_nil_iff (earlier rest : List RouteDefinition) :
    errorsAfter earlier rest = [] ↔
      Accepted earlier rest ∧ ∀ definition ∈ rest, isBlankName definition.name = false := by
  induction rest generalizing earlier with
  | nil => simp [errorsAfter, Accepted]
  | cons definition rest induction =>
      rw [errorsAfter, List.append_eq_nil_iff, ownErrors_eq_nil_iff, induction, Accepted,
        List.forall_mem_cons]
      exact and_and_and_comm

/-! ## Tables -/

structure Registers (definition : RouteDefinition) (route : NamedRoute) : Prop where
  name_eq : route.name = definition.name
  pattern_eq : route.capture.pattern = definition.pattern
  compiles : (Pattern.compile definition.pattern definition.groups).value =
    .ok route.capture.compiled
  defaults_eq : route.capture.defaults = definition.defaults

theorem names_of_registers {definitions : List RouteDefinition} {table : Table}
    (registers : List.Forall₂ Registers definitions table.routes) :
    table.names = definitions.map (·.name) := by
  rw [Table.names]
  generalize table.routes = routes at registers
  induction registers with
  | nil => rfl
  | cons first _ induction => rw [List.map_cons, List.map_cons, first.name_eq, induction]

theorem value_addAll_cons (table : Table) (definition : RouteDefinition)
    (rest : List RouteDefinition) :
    (table.addAll (definition :: rest)).value =
      match (table.add definition.name definition.pattern definition.groups).value with
      | .error error => .error error
      | .ok extended => ((extended.setDefaults definition.defaults).value.addAll rest).value := by
  rw [Table.addAll, Logged.value_bind]
  cases (table.add definition.name definition.pattern definition.groups).value with
  | error error => rfl
  | ok extended => rfl

theorem value_setDefaults_append (routes : List NamedRoute) (last : NamedRoute)
    (defaults : Defaults) :
    (Table.setDefaults ⟨routes ++ [last]⟩ defaults).value =
      ⟨routes ++ [{ last with capture := last.capture.setDefaults defaults }]⟩ := by
  simp [Table.setDefaults, List.getLast?_append]

theorem addAll_cases {earlier : List RouteDefinition} {table : Table}
    (registers : List.Forall₂ Registers earlier table.routes) (rest : List RouteDefinition) :
    (∃ extended, (table.addAll rest).value = .ok extended ∧ Accepted earlier rest ∧
        List.Forall₂ Registers (earlier ++ rest) extended.routes) ∨
      ∃ before definition after error, rest = before ++ definition :: after ∧
        Accepted earlier before ∧ refused? (earlier ++ before) definition = some error ∧
          (table.addAll rest).value = .error error := by
  induction rest generalizing earlier table with
  | nil => exact .inl ⟨table, rfl, trivial, by rwa [List.append_nil]⟩
  | cons definition rest induction =>
      have names := names_of_registers registers
      have additions := Table.add_cases table definition.name definition.pattern definition.groups
      rw [names] at additions
      rcases additions with ⟨error, reason, refused⟩ | ⟨compiled, accepted, _, _, compiles, added⟩
      · refine .inr ⟨[], definition, rest, error, rfl, trivial, ?_, ?_⟩
        · rw [List.append_nil]
          exact reason
        · rw [value_addAll_cons, refused]
      · have step : (table.addAll (definition :: rest)).value =
            (Table.addAll ⟨table.routes ++ [⟨definition.name, ⟨compiled, definition.defaults⟩⟩]⟩
              rest).value := by
          rw [value_addAll_cons, added]
          simp only [value_setDefaults_append, Capture.setDefaults]
        obtain ⟨_, compilation⟩ := Pattern.compilesBy_of_compile compiles
        have own : Registers definition ⟨definition.name, ⟨compiled, definition.defaults⟩⟩ :=
          ⟨rfl, compilation.pattern_eq, compiles, rfl⟩
        rw [step]
        rcases induction (List.rel_append registers (.cons own .nil)) with
          ⟨extended, built, others, all⟩ | ⟨before, later, after, error, rfl, others, reason, fails⟩
        · refine .inl ⟨extended, built, ⟨accepted, others⟩, ?_⟩
          rwa [List.append_assoc, List.singleton_append] at all
        · refine .inr ⟨definition :: before, later, after, error, rfl, ⟨accepted, others⟩, ?_,
            fails⟩
          rwa [List.append_assoc, List.singleton_append] at reason

theorem ofDefinitions_cases (definitions : List RouteDefinition) :
    (∃ table, (Table.ofDefinitions definitions).value = .ok table ∧ Accepted [] definitions ∧
        List.Forall₂ Registers definitions table.routes) ∨
      ∃ earlier definition later error, definitions = earlier ++ definition :: later ∧
        Accepted [] earlier ∧ refused? earlier definition = some error ∧
          (Table.ofDefinitions definitions).value = .error error := by
  have start : List.Forall₂ Registers [] Table.empty.routes := .nil
  exact addAll_cases start definitions

/-! ## Agreement -/

theorem reports_refused {earlier : List RouteDefinition} {definition : RouteDefinition}
    {error : RouteError} (refused : refused? earlier definition = some error)
    (later : List RouteDefinition) :
    ∃ others, (validate (earlier ++ definition :: later)).value =
        (validate earlier).value ++ ownErrors earlier definition ++ others ∧
      reported earlier.length error ∈ ownErrors earlier definition :=
  ⟨_, value_validate_middle earlier definition later, reported_mem_ownErrors refused⟩

/-- A list of routes passes the check just if a table can be built of it and no name is blank. The
table is then the routes as they were defined. If it cannot be built, that is because of the first
route that cannot be added, and the check reports the same of this route. -/
theorem validate_agrees_ofDefinitions (definitions : List RouteDefinition) :
    ((validate definitions).value = [] ↔
      (∃ table, (Table.ofDefinitions definitions).value = .ok table) ∧
        ∀ definition ∈ definitions, isBlankName definition.name = false) ∧
    (∀ table, (Table.ofDefinitions definitions).value = .ok table →
      List.Forall₂ Registers definitions table.routes) ∧
    ∀ error, (Table.ofDefinitions definitions).value = .error error →
      ∃ earlier definition later, definitions = earlier ++ definition :: later ∧
        Accepted [] earlier ∧ refused? earlier definition = some error ∧
          ∃ others, (validate definitions).value =
              (validate earlier).value ++ ownErrors earlier definition ++ others ∧
            reported earlier.length error ∈ ownErrors earlier definition := by
  rcases ofDefinitions_cases definitions with ⟨table, built, accepted, all⟩ |
    ⟨earlier, definition, later, error, rfl, accepted, refused, fails⟩
  · refine ⟨?_, ?_, ?_⟩
    · rw [value_validate, errorsAfter_eq_nil_iff]
      exact and_congr_left fun _ => iff_of_true accepted ⟨table, built⟩
    · intro other same
      rw [built] at same
      cases same
      exact all
    · intro error fails
      rw [built] at fails
      cases fails
  · have notAll : ¬Accepted [] (earlier ++ definition :: later) := by
      rw [accepted_append, Accepted, List.nil_append, refused]
      rintro ⟨_, impossible, _⟩
      cases impossible
    refine ⟨?_, ?_, ?_⟩
    · rw [value_validate, errorsAfter_eq_nil_iff, fails]
      exact and_congr_left fun _ => iff_of_false notAll fun ⟨_, built⟩ => nomatch built
    · intro table built
      rw [fails] at built
      cases built
    · intro other same
      rw [fails] at same
      cases same
      exact ⟨earlier, definition, later, rfl, accepted, refused, reports_refused refused later⟩

end UriDispatch.RouteFile
