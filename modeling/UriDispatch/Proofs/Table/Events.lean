import UriDispatch.Proofs.Parameters
import UriDispatch.Proofs.Table.Dispatch

/-! What a table reports while it looks for a route. Each route that is tried reports once whether it
matches, so the events of a search show which routes have been tried: all up to the first one that
matches, in order, and none after it. -/

namespace UriDispatch

/-! ## Single routes -/

namespace Capture

theorem isSome_exec (capture : Capture) (uri : String) :
    (capture.exec uri).value.isSome = capture.isMatch uri := by
  rw [value_exec, Option.isSome_map]
  rfl

theorem events_exec (capture : Capture) (uri : String) :
    (capture.exec uri).events =
      [if capture.isMatch uri then .uriMatched capture.pattern uri
        else .uriMissed capture.pattern uri] := by
  rw [← isSome_exec]
  unfold exec
  split <;> rfl

end Capture

namespace Table

/-! ## Searches -/

def firstMatch (routes : List NamedRoute) (uri : String) : Nat :=
  routes.findIdx (·.capture.isMatch uri)

def trials (routes : List NamedRoute) (uri : String) : List Event :=
  (routes.take (firstMatch routes uri)).map (fun route => .uriMissed route.capture.pattern uri) ++
    (routes[firstMatch routes uri]?.map fun route => .uriMatched route.capture.pattern uri).toList

def resolution? (uri : String) (winner : NamedRoute) : Option Resolution :=
  (winner.capture.exec uri).value.map (⟨winner.name, ·⟩)

def verdict (uri : String) : Option NamedRoute → Event
  | some winner => .routeMatched winner.name uri
  | none => .noRouteMatched uri

section Steps

variable {route : NamedRoute} {rest : List NamedRoute} {uri : String}

theorem firstMatch_of_match (isMatch : route.capture.isMatch uri) :
    firstMatch (route :: rest) uri = 0 := by
  rw [firstMatch, List.findIdx_cons, isMatch, cond_true]

theorem firstMatch_of_miss (misses : route.capture.isMatch uri = false) :
    firstMatch (route :: rest) uri = firstMatch rest uri + 1 := by
  rw [firstMatch, List.findIdx_cons, misses, cond_false, firstMatch]

theorem resolveAmong_of_match (isMatch : route.capture.isMatch uri) :
    resolveAmong uri (route :: rest) =
      ⟨resolution? uri route, [.uriMatched route.capture.pattern uri]⟩ := by
  have events := route.capture.events_exec uri
  rw [if_pos isMatch] at events
  rw [← Capture.isSome_exec, Option.isSome_iff_exists] at isMatch
  rcases isMatch with ⟨params, found⟩
  rw [resolveAmong, resolution?, Logged.mk.injEq, Logged.value_bind, Logged.events_bind, events,
    found]
  exact ⟨rfl, rfl⟩

theorem resolveAmong_of_miss (misses : route.capture.isMatch uri = false) :
    resolveAmong uri (route :: rest) =
      ⟨(resolveAmong uri rest).value,
        .uriMissed route.capture.pattern uri :: (resolveAmong uri rest).events⟩ := by
  have events := route.capture.events_exec uri
  rw [misses, if_neg Bool.false_ne_true] at events
  rw [← Capture.isSome_exec, Option.isSome_eq_false_iff, Option.isNone_iff_eq_none] at misses
  rw [resolveAmong, Logged.mk.injEq, Logged.value_bind, Logged.events_bind, events, misses]
  exact ⟨rfl, rfl⟩

end Steps

theorem resolveAmong_eq (uri : String) (routes : List NamedRoute) :
    resolveAmong uri routes =
      ⟨routes[firstMatch routes uri]?.bind (resolution? uri), trials routes uri⟩ := by
  induction routes with
  | nil => rfl
  | cons route rest induction =>
      cases tried : route.capture.isMatch uri with
      | true =>
          rw [resolveAmong_of_match tried, trials, firstMatch_of_match tried]
          rfl
      | false =>
          rw [resolveAmong_of_miss tried, induction, trials, trials, firstMatch_of_miss tried]
          rfl

theorem search_cases (table : Table) (uri : String) :
    (∃ winner params, firstMatch table.routes uri < table.size ∧
        table.routes[firstMatch table.routes uri]? = some winner ∧
        resolution? uri winner = some ⟨winner.name, params⟩) ∨
      (¬firstMatch table.routes uri < table.size ∧
        table.routes[firstMatch table.routes uri]? = none) := by
  by_cases inside : firstMatch table.routes uri < table.routes.length
  · have isMatch : table.routes[firstMatch table.routes uri].capture.isMatch uri :=
      List.findIdx_getElem (w := inside)
    rw [← Capture.isSome_exec, Option.isSome_iff_exists] at isMatch
    rcases isMatch with ⟨params, found⟩
    refine .inl ⟨_, params, inside, List.getElem?_eq_getElem inside, ?_⟩
    rw [resolution?, found, Option.map_some]
  · exact .inr ⟨inside, List.getElem?_eq_none (Nat.le_of_not_lt inside)⟩

/-! ## Dispatch -/

theorem events_submit (table : Table) (uri : String) :
    (table.submit uri).events =
      trials table.routes uri ++ [verdict uri table.routes[firstMatch table.routes uri]?] := by
  rw [submit, Logged.events_bind, resolve, resolveAmong_eq]
  rcases search_cases table uri with ⟨winner, params, _, first, found⟩ | ⟨_, none⟩
  · rw [first, Option.bind_some, found]
    rfl
  · rw [none]
    rfl

theorem isSome_resolve (table : Table) (uri : String) :
    (table.resolve uri).value.isSome ↔ firstMatch table.routes uri < table.size := by
  rw [resolve, resolveAmong_eq]
  rcases search_cases table uri with ⟨winner, params, inside, first, found⟩ | ⟨outside, none⟩
  · rw [first, Option.bind_some, found]
    exact iff_of_true rfl inside
  · rw [none]
    exact iff_of_false Bool.false_ne_true outside

def shown (event : Event) : Event.Level × String := (event.level, event.message)

theorem shown_trials (table : Table) (uri : String) :
    (trials table.routes uri).map shown =
      List.replicate (firstMatch table.routes uri) (.trace, "No match") ++
        if firstMatch table.routes uri < table.size then [(.trace, "Matched")] else [] := by
  have within : firstMatch table.routes uri ≤ table.routes.length := List.findIdx_le_length
  rw [trials, List.map_append, List.map_map]
  congr 1
  · change (table.routes.take _).map (fun _ => (Event.Level.trace, "No match")) = _
    rw [List.map_const', List.length_take, Nat.min_eq_left within]
  · rcases search_cases table uri with ⟨winner, _, inside, first, _⟩ | ⟨outside, none⟩
    · rw [first, if_pos inside]
      rfl
    · rw [none, if_neg outside]
      rfl

theorem shown_verdict (table : Table) (uri : String) :
    shown (verdict uri table.routes[firstMatch table.routes uri]?) =
      (.debug, if firstMatch table.routes uri < table.size then "Route matched"
        else "No route matched") := by
  rcases search_cases table uri with ⟨winner, _, inside, first, _⟩ | ⟨outside, none⟩
  · rw [first, if_pos inside]
    rfl
  · rw [none, if_neg outside]
    rfl

structure Reported (table : Table) (uri : String) : Prop where
  resolve_events : (table.resolve uri).events = trials table.routes uri
  submit_events : (table.submit uri).events =
    trials table.routes uri ++ [verdict uri table.routes[firstMatch table.routes uri]?]
  resolve_value : (table.resolve uri).value =
    table.routes[firstMatch table.routes uri]?.bind (resolution? uri)
  submit_value : (table.submit uri).value =
    (table.resolve uri).value.map fun found => ⟨found.params, uri⟩
  isSome : (table.resolve uri).value.isSome ↔ firstMatch table.routes uri < table.size
  shown_trials : (trials table.routes uri).map shown =
    List.replicate (firstMatch table.routes uri) (.trace, "No match") ++
      if firstMatch table.routes uri < table.size then [(.trace, "Matched")] else []
  shown_verdict : shown (verdict uri table.routes[firstMatch table.routes uri]?) =
    (.debug, if firstMatch table.routes uri < table.size then "Route matched"
      else "No route matched")

/-- The events of a search show that routes are tried in order, each of them once, and none behind
the first that matches, which is the one that wins. A submission reports its winner after that, or
that there is none. -/
theorem reported_dispatch (table : Table) (uri : String) : Reported table uri where
  resolve_events := congrArg Logged.events (resolveAmong_eq uri table.routes)
  submit_events := events_submit table uri
  resolve_value := congrArg Logged.value (resolveAmong_eq uri table.routes)
  submit_value := value_submit table uri
  isSome := isSome_resolve table uri
  shown_trials := shown_trials table uri
  shown_verdict := shown_verdict table uri

end Table

end UriDispatch
