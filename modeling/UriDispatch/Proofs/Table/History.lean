import Mathlib.Data.List.Basic
import UriDispatch.Table
import UriDispatch.Proofs.Pattern.Compiled

/-! Tables over whole histories. A history tells which operations were made on a table that was
empty at first, and which of them failed; the routes of the table can be read off it. -/

namespace UriDispatch.Table

/-! ## Operations -/

inductive Operation where
  | add (name pattern : String) (fragments : Fragments)
  | setDefaults (defaults : Defaults)
  | resolve (uri : String)
  | submit (uri : String)
  | get (name : String)
deriving DecidableEq

namespace Operation

def outcome (table : Table) : Operation → Except RouteError Unit
  | .add name pattern fragments => (table.add name pattern fragments).value.map fun _ => ()
  | _ => .ok ()

def after (table : Table) : Operation → Table
  | .add name pattern fragments =>
      match (table.add name pattern fragments).value with
      | .ok extended => extended
      | .error _ => table
  | .setDefaults defaults => (table.setDefaults defaults).value
  | _ => table

end Operation

abbrev Step := Operation × Except RouteError Unit

structure Session where
  table : Table
  history : List Step

namespace Session

def initial : Session := ⟨∅, []⟩

def perform (session : Session) (operation : Operation) : Session where
  table := operation.after session.table
  history := session.history ++ [(operation, operation.outcome session.table)]

def ofOperations (operations : List Operation) : Session := operations.foldl perform initial

end Session

/-! ## Reading a history -/

namespace Step

def added? : Step → Option (String × String)
  | (.add name pattern _, .ok ()) => some (name, pattern)
  | _ => none

def route? : Step → Option (String × CompiledPattern)
  | (.add name pattern fragments, .ok ()) =>
      (Pattern.compile pattern fragments).value.toOption.map (name, ·)
  | _ => none

def defaults? : Step → Option Defaults
  | (.setDefaults defaults, _) => some defaults
  | _ => none

end Step

/-- The last defaults that were set before the next route was added. -/
def overlay (current : Defaults) : List Step → Defaults
  | [] => current
  | step :: later =>
      if step.route?.isSome then current
      else overlay (step.defaults?.getD current) later

def registered : List Step → List NamedRoute
  | [] => []
  | step :: later =>
      match step.route? with
      | none => registered later
      | some (name, compiled) => ⟨name, ⟨compiled, overlay .empty later⟩⟩ :: registered later

def NamedRoute.withDefaults (route : NamedRoute) (defaults : Defaults) : NamedRoute :=
  { route with capture := route.capture.setDefaults defaults }

theorem overlay_append (current : Defaults) (history : List Step) (step : Step)
    (noRoute : step.route? = none) :
    overlay current (history ++ [step]) =
      if (registered history).isEmpty then step.defaults?.getD (overlay current history)
      else overlay current history := by
  induction history generalizing current with
  | nil => simp [overlay, registered, noRoute]
  | cons head tail induction =>
      simp only [List.cons_append, overlay, registered]
      rcases Option.eq_none_or_eq_some head.route? with none | ⟨route, some⟩
      · simpa [none] using induction _
      · simp [some]

theorem overlay_append_route (current : Defaults) (history : List Step) (step : Step)
    (route : step.route?.isSome) : overlay current (history ++ [step]) = overlay current history := by
  induction history generalizing current with
  | nil => simp [overlay, route]
  | cons head tail induction => simp only [List.cons_append, overlay, induction]

theorem registered_append_route (history : List Step) (step : Step) {name : String}
    {compiled : CompiledPattern} (route : step.route? = some (name, compiled)) :
    registered (history ++ [step]) = registered history ++ [⟨name, ⟨compiled, .empty⟩⟩] := by
  induction history with
  | nil => simp [registered, route, overlay]
  | cons head tail induction =>
      simp only [List.cons_append, registered, induction]
      cases head.route? with
      | none => rfl
      | some earlier => simp [overlay_append_route _ _ _ (Option.isSome_of_eq_some route)]

theorem registered_append_same (history : List Step) (step : Step) (noRoute : step.route? = none)
    (noDefaults : step.defaults? = none) : registered (history ++ [step]) = registered history := by
  induction history with
  | nil => simp [registered, noRoute]
  | cons head tail induction =>
      simp only [List.cons_append, registered, induction]
      rw [overlay_append _ _ _ noRoute, noDefaults]
      simp

theorem registered_append_defaults (history : List Step) (step : Step) {defaults : Defaults}
    (noRoute : step.route? = none) (given : step.defaults? = some defaults) :
    registered (history ++ [step]) =
      match (registered history).getLast? with
      | none => registered history
      | some last => (registered history).dropLast ++ [NamedRoute.withDefaults last defaults] := by
  induction history with
  | nil => simp [registered, noRoute]
  | cons head tail induction =>
      simp only [List.cons_append, registered]
      cases head.route? with
      | none => exact induction
      | some route =>
          simp only [induction, overlay_append _ _ _ noRoute, given]
          cases equal : registered tail with
          | nil => simp [NamedRoute.withDefaults, Capture.setDefaults]
          | cons next others => simp [List.getLast?_cons, List.dropLast]

/-! ## Tables and histories -/

structure Follows (table : Table) (history : List Step) : Prop where
  routes_eq : table.routes = registered history
  added_eq : table.routes.map (fun route => (route.name, route.capture.pattern)) =
    history.filterMap Step.added?
  distinct : table.names.Nodup
  nonempty : ∀ route ∈ table.routes, route.capture.pattern ≠ ""

theorem follows_initial : Follows ∅ [] where
  routes_eq := rfl
  added_eq := rfl
  distinct := List.nodup_nil
  nonempty := fun _ member => nomatch member

theorem get?_isSome (table : Table) (name : String) :
    (table.get? name).isSome ↔ name ∈ table.names := by
  simp [get?, names]

theorem find?_of_mem {routes : List NamedRoute} (distinct : (routes.map (·.name)).Nodup)
    {route : NamedRoute} (member : route ∈ routes) :
    routes.find? (·.name = route.name) = some route := by
  induction routes with
  | nil => cases member
  | cons head tail induction =>
      rw [List.map_cons, List.nodup_cons] at distinct
      rcases List.mem_cons.mp member with rfl | inTail
      · exact List.find?_cons_of_pos (by simp)
      · have different : head.name ≠ route.name := fun equal =>
          distinct.1 (equal ▸ List.mem_map_of_mem inTail)
        rw [List.find?_cons_of_neg (by simpa using different)]
        exact induction distinct.2 inTail

theorem get?_of_mem {table : Table} (distinct : table.names.Nodup) {route : NamedRoute}
    (member : route ∈ table.routes) : table.get? route.name = some route.capture := by
  rw [get?, find?_of_mem distinct member, Option.map_some]

/-- Why an addition is refused, the first of the reasons that apply. -/
def refusal? (taken : List String) (name pattern : String) (fragments : Fragments) :
    Option RouteError :=
  if pattern = "" then some (.emptyPattern name)
  else if name ∈ taken then some (.duplicateRoute name)
  else
    match (Pattern.compile pattern fragments).value with
    | .error cause => some (.compile name cause)
    | .ok _ => none

theorem add_cases (table : Table) (name pattern : String) (fragments : Fragments) :
    (∃ error, refusal? table.names name pattern fragments = some error ∧
        (table.add name pattern fragments).value = .error error) ∨
      ∃ compiled, refusal? table.names name pattern fragments = none ∧
        pattern ≠ "" ∧ name ∉ table.names ∧
        (Pattern.compile pattern fragments).value = .ok compiled ∧
        (table.add name pattern fragments).value =
          .ok ⟨table.routes ++ [⟨name, ⟨compiled, .empty⟩⟩]⟩ := by
  unfold refusal? add
  by_cases empty : pattern = ""
  · exact .inl ⟨.emptyPattern name, by simp [empty]⟩
  · by_cases taken : name ∈ table.names
    · exact .inl ⟨.duplicateRoute name, by simp [empty, taken, get?_isSome]⟩
    · cases compiled : (Pattern.compile pattern fragments).value with
      | error cause =>
          refine .inl ⟨.compile name cause, ?_⟩
          simp [empty, taken, get?_isSome, Capture.compile, compiled, Except.map]
      | ok form =>
          refine .inr ⟨form, ?_⟩
          simp [empty, taken, get?_isSome, Capture.compile, compiled, Except.map]

theorem follows_add {table : Table} {history : List Step} (follows : Follows table history)
    (name pattern : String) (fragments : Fragments) :
    Follows ((Operation.add name pattern fragments).after table)
      (history ++ [(.add name pattern fragments,
        (Operation.add name pattern fragments).outcome table)]) := by
  rcases add_cases table name pattern fragments with
    ⟨error, _, refused⟩ | ⟨compiled, _, nonempty, fresh, compiles, added⟩
  · have outcome : (Operation.add name pattern fragments).outcome table = .error error := by
      rw [Operation.outcome, refused]
      rfl
    have same : (Operation.add name pattern fragments).after table = table := by
      rw [Operation.after, refused]
    rw [outcome, same]
    exact {
      routes_eq := by rw [registered_append_same _ _ rfl rfl, follows.routes_eq]
      added_eq := by
        rw [List.filterMap_append, ← follows.added_eq]
        exact (List.append_nil _).symm
      distinct := follows.distinct
      nonempty := follows.nonempty }
  · have outcome : (Operation.add name pattern fragments).outcome table = .ok () := by
      rw [Operation.outcome, added]
      rfl
    have extended : (Operation.add name pattern fragments).after table =
        ⟨table.routes ++ [⟨name, ⟨compiled, .empty⟩⟩]⟩ := by
      rw [Operation.after, added]
    have route : Step.route? (.add name pattern fragments, .ok ()) = some (name, compiled) := by
      rw [Step.route?, compiles]
      rfl
    obtain ⟨_, compilation⟩ := Pattern.compilesBy_of_compile compiles
    have carried : compiled.pattern = pattern := compilation.pattern_eq
    rw [outcome, extended]
    exact {
      routes_eq := by rw [registered_append_route _ _ route, ← follows.routes_eq]
      added_eq := by
        rw [List.map_append, follows.added_eq, List.filterMap_append]
        simp [Step.added?, Capture.pattern, carried]
      distinct := by
        simp only [names, List.map_append, List.map_cons, List.map_nil]
        rw [List.nodup_append]
        refine ⟨follows.distinct, by simp, ?_⟩
        intro earlier member other isNew equal
        rw [List.mem_singleton.mp isNew] at equal
        exact fresh (equal ▸ member)
      nonempty := by
        intro member inRoutes
        rcases List.mem_append.mp inRoutes with earlier | new
        · exact follows.nonempty member earlier
        · rw [List.mem_singleton.mp new]
          exact fun empty => nonempty (carried ▸ empty) }

theorem map_withDefaults {Value : Type} (value : NamedRoute → Value)
    (keeps : ∀ route defaults, value (NamedRoute.withDefaults route defaults) = value route)
    {routes : List NamedRoute} {last : NamedRoute} (equal : routes.getLast? = some last)
    (defaults : Defaults) :
    (routes.dropLast ++ [NamedRoute.withDefaults last defaults]).map value = routes.map value := by
  have parts : routes.dropLast ++ [last] = routes :=
    List.dropLast_append_getLast? last equal
  calc (routes.dropLast ++ [NamedRoute.withDefaults last defaults]).map value
      = (routes.dropLast ++ [last]).map value := by simp [keeps]
    _ = routes.map value := by rw [parts]

theorem follows_setDefaults {table : Table} {history : List Step}
    (follows : Follows table history) (defaults : Defaults) :
    Follows (table.setDefaults defaults).value
      (history ++ [(.setDefaults defaults, .ok ())]) := by
  have added_same : (history ++ [((.setDefaults defaults, .ok ()) : Step)]).filterMap
      Step.added? = history.filterMap Step.added? := by
    rw [List.filterMap_append]
    exact List.append_nil _
  have registered_eq := registered_append_defaults history (.setDefaults defaults, .ok ()) rfl rfl
  rw [← follows.routes_eq] at registered_eq
  cases equal : table.routes.getLast? with
  | none =>
      have same : (table.setDefaults defaults).value = table := by
        rw [setDefaults, equal]
        rfl
      rw [equal] at registered_eq
      rw [same]
      exact {
        routes_eq := registered_eq.symm
        added_eq := added_same ▸ follows.added_eq
        distinct := follows.distinct
        nonempty := follows.nonempty }
  | some last =>
      have changed : (table.setDefaults defaults).value.routes =
          table.routes.dropLast ++ [NamedRoute.withDefaults last defaults] := by
        rw [setDefaults, equal]
        rfl
      have names_same : (table.setDefaults defaults).value.names = table.names := by
        rw [names, names, changed, map_withDefaults _ (fun _ _ => rfl) equal]
      rw [equal] at registered_eq
      exact {
        routes_eq := changed.trans registered_eq.symm
        added_eq := by
          rw [added_same, ← follows.added_eq, changed, map_withDefaults _ (fun _ _ => rfl) equal]
        distinct := names_same ▸ follows.distinct
        nonempty := by
          intro route member
          rw [changed] at member
          rcases List.mem_append.mp member with earlier | isLast
          · exact follows.nonempty route (List.dropLast_subset _ earlier)
          · rw [List.mem_singleton.mp isLast]
            exact follows.nonempty last (List.mem_of_getLast? equal) }

theorem follows_perform {session : Session} (follows : Follows session.table session.history)
    (operation : Operation) :
    Follows (session.perform operation).table (session.perform operation).history := by
  cases operation with
  | add name pattern fragments => exact follows_add follows name pattern fragments
  | setDefaults defaults => exact follows_setDefaults follows defaults
  | resolve | submit | get =>
      exact {
        routes_eq := by
          rw [Session.perform, registered_append_same _ _ rfl rfl]
          exact follows.routes_eq
        added_eq := by
          rw [Session.perform, List.filterMap_append]
          exact follows.added_eq.trans (List.append_nil _).symm
        distinct := follows.distinct
        nonempty := follows.nonempty }

theorem follows_ofOperations (operations : List Operation) :
    Follows (Session.ofOperations operations).table
      (Session.ofOperations operations).history := by
  have carried (session : Session) (follows : Follows session.table session.history) :
      Follows (operations.foldl Session.perform session).table
        (operations.foldl Session.perform session).history := by
    induction operations generalizing session with
    | nil => exact follows
    | cons operation rest induction => exact induction _ (follows_perform follows operation)
  exact carried .initial follows_initial

/-! ## Sessions -/

theorem outcome_add (table : Table) (name pattern : String) (fragments : Fragments) :
    (Operation.add name pattern fragments).outcome table =
      match refusal? table.names name pattern fragments with
      | some error => .error error
      | none => .ok () := by
  rcases add_cases table name pattern fragments with
    ⟨error, reason, refused⟩ | ⟨compiled, reason, _, _, _, added⟩
  · rw [reason, Operation.outcome, refused]
    rfl
  · rw [reason, Operation.outcome, added]
    rfl

theorem after_of_error {table : Table} {operation : Operation} {error : RouteError}
    (fails : operation.outcome table = .error error) : operation.after table = table := by
  cases operation with
  | add name pattern fragments =>
      simp only [Operation.outcome] at fails
      simp only [Operation.after]
      cases added : (table.add name pattern fragments).value with
      | error => rfl
      | ok extended =>
          rw [added] at fails
          cases fails
  | setDefaults | resolve | submit | get => cases fails

theorem history_ofOperations (operations : List Operation) :
    (Session.ofOperations operations).history.map Prod.fst = operations := by
  have carried (session : Session) :
      (operations.foldl Session.perform session).history.map Prod.fst =
        session.history.map Prod.fst ++ operations := by
    induction operations generalizing session with
    | nil => exact (List.append_nil _).symm
    | cons operation rest induction =>
        rw [List.foldl_cons, induction, Session.perform, List.map_append, List.append_assoc]
        rfl
  exact carried .initial

structure Accounted (table : Table) (history : List Step) : Prop extends
    Follows table history where
  names_eq : table.names = (registered history).map (·.name)
  size_eq : table.size = (registered history).length
  isEmpty_iff : table.isEmpty ↔ registered history = []
  get?_isSome_iff : ∀ name, (table.get? name).isSome ↔ name ∈ table.names
  get?_eq : ∀ route ∈ table.routes, table.get? route.name = some route.capture
  add_outcome : ∀ name pattern fragments,
    (Operation.add name pattern fragments).outcome table =
      match refusal? table.names name pattern fragments with
      | some error => .error error
      | none => .ok ()
  failure_same : ∀ (operation : Operation) (error : RouteError),
    operation.outcome table = .error error → operation.after table = table
  reading_same : ∀ text, (Operation.resolve text).after table = table ∧
    (Operation.submit text).after table = table ∧ (Operation.get text).after table = table
  defaults_same : ∀ defaults, table.routes = [] →
    (Operation.setDefaults defaults).after table = table

/-- Whatever is done to a table that is empty at first, it is at each time the table of its
history. -/
theorem accounted_ofOperations (operations : List Operation) :
    (Session.ofOperations operations).history.map Prod.fst = operations ∧
      Accounted (Session.ofOperations operations).table
        (Session.ofOperations operations).history := by
  have follows := follows_ofOperations operations
  exact ⟨history_ofOperations operations, {
    toFollows := follows
    names_eq := by rw [names, follows.routes_eq]
    size_eq := by rw [size, follows.routes_eq]
    isEmpty_iff := by rw [isEmpty, follows.routes_eq, List.isEmpty_iff]
    get?_isSome_iff := get?_isSome _
    get?_eq := fun route member => get?_of_mem follows.distinct member
    add_outcome := outcome_add _
    failure_same := fun operation error fails => after_of_error fails
    reading_same := fun text => ⟨rfl, rfl, rfl⟩
    defaults_same := by
      intro defaults empty
      rw [Operation.after, setDefaults, empty]
      rfl }⟩

end UriDispatch.Table
