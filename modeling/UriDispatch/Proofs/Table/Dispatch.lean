import Mathlib.Data.List.Forall2
import Mathlib.Data.List.Induction
import UriDispatch.Proofs.Table.History

/-! What a table answers while it is in use, and the calls that it leads to. The first route that
matches a URI wins it, and each submission that is won leads to one call, with what the route made
of the URI under the defaults it had at that time. -/

namespace UriDispatch.Table

/-! ## The first route that matches -/

/-- A route of the list matches the URI, with the parameters found, and none before it does. -/
def Wins (routes : List NamedRoute) (uri : String) (found : Resolution) : Prop :=
  ∃ (index : Nat) (route : NamedRoute), routes[index]? = some route ∧ route.name = found.route ∧
    (route.capture.exec uri).value = some found.params ∧
      ∀ before < index, ∀ earlier, routes[before]? = some earlier →
        (earlier.capture.exec uri).value = none

theorem not_wins_nil (uri : String) (found : Resolution) : ¬Wins [] uri found := by
  rintro ⟨index, route, stands, _⟩
  cases stands

theorem wins_cons (route : NamedRoute) (rest : List NamedRoute) (uri : String)
    (found : Resolution) :
    Wins (route :: rest) uri found ↔
      (route.name = found.route ∧ (route.capture.exec uri).value = some found.params) ∨
        ((route.capture.exec uri).value = none ∧ Wins rest uri found) := by
  constructor
  · rintro ⟨index, winner, stands, named, matched, missed⟩
    cases index with
    | zero =>
        cases stands
        exact .inl ⟨named, matched⟩
    | succ index =>
        have firstMissed := missed 0 (Nat.succ_pos index) route rfl
        refine .inr ⟨firstMissed, index, winner, stands, named, matched, ?_⟩
        intro before less earlier earlierStands
        exact missed (before + 1) (Nat.succ_lt_succ less) earlier earlierStands
  · intro choice
    rcases choice with ⟨named, matched⟩ |
      ⟨firstMissed, index, winner, stands, named, matched, missed⟩
    · exact ⟨0, route, rfl, named, matched, fun before less => absurd less (Nat.not_lt_zero before)⟩
    · refine ⟨index + 1, winner, stands, named, matched, ?_⟩
      intro before less earlier earlierStands
      cases before with
      | zero =>
          cases earlierStands
          exact firstMissed
      | succ before =>
          exact missed before (Nat.lt_of_succ_lt_succ less) earlier earlierStands

theorem value_resolveAmong_cons (uri : String) (route : NamedRoute) (rest : List NamedRoute) :
    (resolveAmong uri (route :: rest)).value =
      match (route.capture.exec uri).value with
      | some params => some ⟨route.name, params⟩
      | none => (resolveAmong uri rest).value := by
  rw [resolveAmong, Logged.value_bind]
  cases (route.capture.exec uri).value with
  | none => rfl
  | some params => rfl

theorem value_resolveAmong (uri : String) (routes : List NamedRoute) (found : Resolution) :
    (resolveAmong uri routes).value = some found ↔ Wins routes uri found := by
  induction routes with
  | nil =>
      constructor
      · intro impossible
        cases impossible
      · intro wins
        exact absurd wins (not_wins_nil uri found)
  | cons route rest induction =>
      rw [value_resolveAmong_cons, wins_cons, ← induction]
      cases (route.capture.exec uri).value with
      | none => simp
      | some params =>
          obtain ⟨name, own⟩ := found
          simp

theorem value_resolve (table : Table) (uri : String) (found : Resolution) :
    (table.resolve uri).value = some found ↔ Wins table.routes uri found :=
  value_resolveAmong uri table.routes found

theorem value_submit (table : Table) (uri : String) :
    (table.submit uri).value = (table.resolve uri).value.map fun found => ⟨found.params, uri⟩ := by
  rw [submit, Logged.value_bind]
  cases (table.resolve uri).value with
  | none => rfl
  | some found => rfl

/-! ## A table in use -/

inductive Answer where
  | done (outcome : Except RouteError Unit)
  | resolved (found : Option Resolution)
  | submitted (isMatched : Bool)
  | got (capture : Option Capture)

namespace Operation

def call? (table : Table) : Operation → Option Call
  | .submit uri => (table.submit uri).value
  | _ => none

def answer (table : Table) : Operation → Answer
  | .resolve uri => .resolved (table.resolve uri).value
  | .submit uri => .submitted (table.submit uri).value.isSome
  | .get name => .got (table.get? name)
  | operation => .done (operation.outcome table)

end Operation

structure Turn where
  table : Table
  operation : Operation
  answer : Answer

namespace Turn

def isMatched (turn : Turn) : Bool :=
  match turn.answer with
  | .submitted isMatched => isMatched
  | _ => false

def LeadsTo (turn : Turn) (call : Call) : Prop :=
  turn.operation = .submit call.uri ∧
    ∃ found, Wins turn.table.routes call.uri found ∧ call.params = found.params

end Turn

structure Service where
  session : Session
  turns : List Turn
  calls : List Call

namespace Service

def initial : Service := ⟨.initial, [], []⟩

def perform (service : Service) (operation : Operation) : Service where
  session := service.session.perform operation
  turns := service.turns ++
    [⟨service.session.table, operation, operation.answer service.session.table⟩]
  calls := service.calls ++ (operation.call? service.session.table).toList

def ofOperations (operations : List Operation) : Service := operations.foldl perform initial

theorem ofOperations_append (operations later : List Operation) :
    ofOperations (operations ++ later) = later.foldl perform (ofOperations operations) :=
  List.foldl_append

theorem foldl_perform_extends (later : List Operation) (service : Service) :
    service.turns <+: (later.foldl perform service).turns ∧
      service.calls <+: (later.foldl perform service).calls := by
  induction later generalizing service with
  | nil => exact ⟨List.prefix_refl _, List.prefix_refl _⟩
  | cons operation rest induction =>
      have further := induction (service.perform operation)
      exact ⟨(List.prefix_append _ _).trans further.1, (List.prefix_append _ _).trans further.2⟩

end Service

/-! ## Single turns -/

theorem isMatched_iff (table : Table) (operation : Operation) :
    (Turn.mk table operation (operation.answer table)).isMatched =
      (operation.call? table).isSome := by
  cases operation with
  | submit uri => rfl
  | add | setDefaults | resolve | get => rfl

theorem leadsTo_of_call? {table : Table} {operation : Operation} {call : Call}
    (called : operation.call? table = some call) (answer : Answer) :
    (Turn.mk table operation answer).LeadsTo call := by
  cases operation with
  | submit uri =>
      rw [Operation.call?, value_submit] at called
      obtain ⟨found, resolved, rfl⟩ := Option.map_eq_some_iff.mp called
      exact ⟨rfl, found, (value_resolve table uri found).mp resolved, rfl⟩
  | add | setDefaults | resolve | get => cases called

theorem call?_eq_none_iff (table : Table) (operation : Operation) :
    operation.call? table = none ↔
      ∀ uri found, operation = .submit uri → ¬Wins table.routes uri found := by
  constructor
  · rintro none uri found rfl wins
    rw [Operation.call?, value_submit, (value_resolve table uri found).mpr wins] at none
    cases none
  · intro lost
    cases called : operation.call? table with
    | none => rfl
    | some call =>
        obtain ⟨submits, found, wins, _⟩ := leadsTo_of_call? called (.submitted true)
        exact absurd wins (lost call.uri found submits)

/-! ## Whole runs -/

structure Dispatched (operations : List Operation) (service : Service) : Prop where
  session_eq : service.session = .ofOperations operations
  length_eq : service.turns.length = operations.length
  turn_at : ∀ index turn, service.turns[index]? = some turn →
    operations[index]? = some turn.operation ∧
      turn.table.routes = registered (Session.ofOperations (operations.take index)).history
  resolved : ∀ turn ∈ service.turns, ∀ uri, turn.operation = .resolve uri →
    ∃ answer, turn.answer = .resolved answer ∧
      ∀ found, answer = some found ↔ Wins turn.table.routes uri found
  submitted : ∀ turn ∈ service.turns, ∀ uri, turn.operation = .submit uri →
    ∃ isMatched, turn.answer = .submitted isMatched ∧
      (isMatched = true ↔ (turn.table.resolve uri).value.isSome)
  calls_eq : List.Forall₂ Turn.LeadsTo (service.turns.filter Turn.isMatched) service.calls

theorem dispatched_initial : Dispatched [] .initial where
  session_eq := rfl
  length_eq := rfl
  turn_at := fun _ _ impossible => nomatch impossible
  resolved := fun _ member => nomatch member
  submitted := fun _ member => nomatch member
  calls_eq := .nil

theorem dispatched_perform {operations : List Operation} {service : Service}
    (dispatched : Dispatched operations service) (operation : Operation) :
    Dispatched (operations ++ [operation]) (service.perform operation) where
  session_eq := by
    rw [Service.perform, dispatched.session_eq, Session.ofOperations, Session.ofOperations,
      List.foldl_append]
    rfl
  length_eq := by
    rw [Service.perform, List.length_append, List.length_append, dispatched.length_eq]
    rfl
  turn_at := by
    intro index turn stands
    rw [Service.perform, List.getElem?_append] at stands
    split at stands
    · next inside =>
        have known := dispatched.turn_at index turn stands
        have within : index < operations.length := dispatched.length_eq ▸ inside
        rw [List.getElem?_append_left within, List.take_append_of_le_length (Nat.le_of_lt within)]
        exact known
    · next beyond =>
        rw [List.getElem?_singleton] at stands
        split at stands
        · next isLast =>
            cases stands
            have atEnd : index = operations.length := by
              rw [← dispatched.length_eq]
              omega
            rw [atEnd, List.take_left, ← dispatched.session_eq]
            refine ⟨by simp, ?_⟩
            rw [dispatched.session_eq]
            exact (follows_ofOperations operations).routes_eq
        · cases stands
  resolved := by
    intro turn member uri asks
    rcases List.mem_append.mp member with earlier | isNew
    · exact dispatched.resolved turn earlier uri asks
    · cases List.mem_singleton.mp isNew
      cases asks
      exact ⟨_, rfl, fun found => value_resolve service.session.table uri found⟩
  submitted := by
    intro turn member uri asks
    rcases List.mem_append.mp member with earlier | isNew
    · exact dispatched.submitted turn earlier uri asks
    · cases List.mem_singleton.mp isNew
      cases asks
      refine ⟨_, rfl, ?_⟩
      rw [value_submit, Option.isSome_map]
  calls_eq := by
    have matched := isMatched_iff service.session.table operation
    rw [Service.perform, List.filter_append, List.filter_singleton, matched]
    refine List.rel_append dispatched.calls_eq ?_
    cases called : operation.call? service.session.table with
    | none => exact .nil
    | some call => exact .cons (leadsTo_of_call? called _) .nil

/-- Whatever is done to a table that is empty at first, each URI goes to the first route that
matches it, and the calls that were made are one for each submission that was won, in order. -/
theorem dispatched_ofOperations (operations : List Operation) :
    Dispatched operations (.ofOperations operations) ∧
      (∀ later, (Service.ofOperations operations).turns <+:
          (Service.ofOperations (operations ++ later)).turns ∧
        (Service.ofOperations operations).calls <+:
          (Service.ofOperations (operations ++ later)).calls) ∧
      ∀ operation,
        (∀ uri found, operation = .submit uri →
            ¬Wins (Service.ofOperations operations).session.table.routes uri found) ↔
          (Service.ofOperations (operations ++ [operation])).calls =
            (Service.ofOperations operations).calls := by
  refine ⟨?_, ?_, ?_⟩
  · induction operations using List.reverseRecOn with
    | nil => exact dispatched_initial
    | append_singleton earlier operation induction =>
        rw [Service.ofOperations_append]
        exact dispatched_perform induction operation
  · intro later
    rw [Service.ofOperations_append]
    exact Service.foldl_perform_extends later _
  · intro operation
    rw [← call?_eq_none_iff, Service.ofOperations_append, List.foldl_cons, List.foldl_nil,
      Service.perform]
    simp

end UriDispatch.Table
