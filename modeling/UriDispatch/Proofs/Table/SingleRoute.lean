import UriDispatch.Proofs.Table.Dispatch

/-! A route by itself behaves as a table in which it stands alone: both can be made of the same
patterns, and in use they answer alike and lead to the same calls. -/

namespace UriDispatch

/-! ## Routes in use -/

namespace Route

inductive Operation where
  | setDefaults (defaults : Defaults)
  | submit (uri : String)
deriving DecidableEq

def Operation.onTable : Operation → Table.Operation
  | .setDefaults defaults => .setDefaults defaults
  | .submit uri => .submit uri

structure Service where
  route : Route
  answers : List Bool
  calls : List Call

namespace Service

def perform (service : Service) : Operation → Service
  | .setDefaults defaults => { service with route := service.route.setDefaults defaults }
  | .submit uri =>
      { service with
        answers := service.answers ++ [(service.route.submit uri).value.isSome]
        calls := service.calls ++ (service.route.submit uri).value.toList }

def ofOperations (route : Route) (operations : List Operation) : Service :=
  operations.foldl perform ⟨route, [], []⟩

end Service

theorem value_submit (route : Route) (uri : String) :
    (route.submit uri).value = (route.capture.exec uri).value.map (⟨·, uri⟩) :=
  rfl

end Route

namespace Table

def Turn.submitted? (turn : Turn) : Option Bool :=
  match turn.answer with
  | .submitted isMatched => some isMatched
  | _ => none

def Service.answers (service : Service) : List Bool := service.turns.filterMap Turn.submitted?

/-! ## Single operations -/

def Holds (table : Table) (route : Route) : Prop := ∃ name, table.routes = [⟨name, route.capture⟩]

theorem Holds.submit {table : Table} {route : Route} (holds : table.Holds route) (uri : String) :
    (table.submit uri).value = (route.submit uri).value := by
  obtain ⟨name, alone⟩ := holds
  rw [value_submit, resolve, alone, value_resolveAmong_cons, Route.value_submit]
  cases (route.capture.exec uri).value <;> rfl

theorem Holds.setDefaults {table : Table} {route : Route} (holds : table.Holds route)
    (defaults : Defaults) :
    (table.setDefaults defaults).value.Holds (route.setDefaults defaults) := by
  obtain ⟨name, alone⟩ := holds
  refine ⟨name, ?_⟩
  rw [Table.setDefaults, alone]
  rfl

structure Mimics (service : Service) (single : Route.Service) : Prop where
  holds : service.session.table.Holds single.route
  answers : service.answers = single.answers
  calls : service.calls = single.calls

theorem Mimics.perform {service : Service} {single : Route.Service}
    (mimics : Mimics service single) (operation : Route.Operation) :
    Mimics (service.perform operation.onTable) (single.perform operation) := by
  cases operation with
  | setDefaults defaults =>
      refine ⟨mimics.holds.setDefaults defaults, ?_, ?_⟩
      · rw [Service.answers, Service.perform, List.filterMap_append]
        exact (List.append_nil _).trans mimics.answers
      · exact (List.append_nil _).trans mimics.calls
  | submit uri =>
      have same := mimics.holds.submit uri
      refine ⟨mimics.holds, ?_, ?_⟩
      · rw [Service.answers, Service.perform, List.filterMap_append, ← Service.answers,
          mimics.answers, Route.Service.perform, ← same]
        rfl
      · rw [Service.perform, Route.Service.perform, mimics.calls, ← same]
        rfl

/-! ## Whole runs -/

theorem Mimics.run {service : Service} {single : Route.Service} (mimics : Mimics service single)
    (operations : List Route.Operation) :
    Mimics ((operations.map Route.Operation.onTable).foldl Service.perform service)
      (operations.foldl Route.Service.perform single) := by
  induction operations generalizing service single with
  | nil => exact mimics
  | cons operation rest induction => exact induction (mimics.perform operation)

theorem add_empty {pattern : String} (notEmpty : pattern ≠ "") (fragments : Fragments)
    (name : String) :
    (∃ cause, (Route.compile pattern fragments).value = .error cause ∧
        (empty.add name pattern fragments).value = .error (.compile name cause)) ∨
      ∃ route, (Route.compile pattern fragments).value = .ok route ∧
        (empty.add name pattern fragments).value = .ok ⟨[⟨name, route.capture⟩]⟩ := by
  have own : (Route.compile pattern fragments).value =
      ((Pattern.compile pattern fragments).value.map (⟨·, .empty⟩)).map (⟨·⟩) :=
    rfl
  have fresh : name ∉ empty.names := List.not_mem_nil
  rcases add_cases empty name pattern fragments with
    ⟨error, reason, refused⟩ | ⟨compiled, _, _, _, compiles, added⟩
  · rw [refusal?, if_neg notEmpty, if_neg fresh] at reason
    split at reason
    · next cause fails =>
        cases reason
        exact .inl ⟨cause, by rw [own, fails]; rfl, refused⟩
    · cases reason
  · exact .inr ⟨⟨compiled, .empty⟩, by rw [own, compiles]; rfl, added⟩

/-- A route made of a pattern, and the table that an addition to an empty one makes of it: one can
be made just if the other can, and fails for the same reason, and under the same operations both
answer every submission alike and lead to the same calls in the same order. -/
structure Interchangeable (pattern : String) (fragments : Fragments) (name : String) : Prop where
  made_iff : (∃ route, (Route.compile pattern fragments).value = .ok route) ↔
    ∃ table, (empty.add name pattern fragments).value = .ok table
  error_iff : ∀ error, (empty.add name pattern fragments).value = .error error ↔
    ∃ cause, (Route.compile pattern fragments).value = .error cause ∧ error = .compile name cause
  runs : ∀ route, (Route.compile pattern fragments).value = .ok route →
    ∀ operations : List Route.Operation,
      (Service.ofOperations
          (.add name pattern fragments :: operations.map Route.Operation.onTable)).answers =
        (Route.Service.ofOperations route operations).answers ∧
      (Service.ofOperations
          (.add name pattern fragments :: operations.map Route.Operation.onTable)).calls =
        (Route.Service.ofOperations route operations).calls

/-- A route by itself is a table with nothing else in it. -/
theorem interchangeable {pattern : String} (notEmpty : pattern ≠ "") (fragments : Fragments)
    (name : String) : Interchangeable pattern fragments name := by
  rcases add_empty notEmpty fragments name with
    ⟨cause, fails, refused⟩ | ⟨route, compiles, added⟩
  · constructor
    · rw [fails, refused]
      exact iff_of_false (fun ⟨_, impossible⟩ => nomatch impossible)
        fun ⟨_, impossible⟩ => nomatch impossible
    · intro error
      rw [fails, refused]
      constructor
      · rintro ⟨⟩
        exact ⟨cause, rfl, rfl⟩
      · rintro ⟨_, ⟨⟩, rfl⟩
        rfl
    · intro route compiles
      rw [fails] at compiles
      cases compiles
  · constructor
    · exact iff_of_true ⟨route, compiles⟩ ⟨_, added⟩
    · intro error
      rw [compiles, added]
      exact iff_of_false (fun impossible => nomatch impossible)
        fun ⟨_, impossible, _⟩ => nomatch impossible
    · intro other same operations
      rw [compiles] at same
      cases same
      have start : Mimics (Service.initial.perform (.add name pattern fragments))
          ⟨route, [], []⟩ := by
        refine ⟨⟨name, ?_⟩, rfl, rfl⟩
        change (Operation.after empty (.add name pattern fragments)).routes = _
        rw [Operation.after, added]
      have run := start.run operations
      exact ⟨run.answers, run.calls⟩

theorem interchangeable_of_section : "/<page>(/<id>)" ≠ "" ∧
    Interchangeable "/<page>(/<id>)" (.ofList [("id", "(1|2)+")]) "pages" :=
  ⟨by decide, interchangeable (by decide) (.ofList [("id", "(1|2)+")]) "pages"⟩

end Table

end UriDispatch
