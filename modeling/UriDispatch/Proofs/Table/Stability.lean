import UriDispatch.Proofs.Parameters
import UriDispatch.Proofs.Pattern.Origins
import UriDispatch.Proofs.Table.Dispatch

/-! What further setup changes in the dispatch of a URI. A route that is added can only win what no
route has won before, and other defaults change no winner, but at most the parameters that the last
route fills in. -/

namespace UriDispatch

/-! ## Other defaults -/

namespace Capture

/-- The pattern matches the URI, and the group of the name has text of its own in the match. -/
def TakesPart (capture : Capture) (uri name : String) : Prop :=
  ∃ found index, capture.compiled.regex.find? uri.toList = some found ∧
    capture.names[index]? = some name ∧ (found.capture? (index + 1)).isSome

theorem get?_params_setDefaults {capture : Capture} (distinct : capture.names.Nodup)
    {uri : List Char} {found : Regex.Match} {index : Nat} {name : String}
    (named : capture.names[index]? = some name) (took : (found.capture? (index + 1)).isSome)
    (defaults : Defaults) :
    ((capture.setDefaults defaults).params uri found).get? name =
      (capture.params uri found).get? name := by
  obtain ⟨span, captured⟩ := Option.isSome_iff_exists.mp took
  have text : ∃ text, textOf? uri found (index + 1) = some text := by
    rw [textOf?, captured]
    exact ⟨_, rfl⟩
  obtain ⟨text, hasText⟩ := text
  have distinctToo : (capture.setDefaults defaults).names.Nodup := distinct
  rw [get?_params_of_name distinctToo named, get?_params_of_name distinct named, hasText]
  rfl

theorem exec_setDefaults {capture : Capture} (distinct : capture.names.Nodup)
    (defaults : Defaults) (uri : String) :
    ((capture.exec uri).value = none ∧
      ((capture.setDefaults defaults).exec uri).value = none) ∨
    ∃ before after, (capture.exec uri).value = some before ∧
      ((capture.setDefaults defaults).exec uri).value = some after ∧
        ∀ group, capture.TakesPart uri group → after.get? group = before.get? group := by
  have own := value_exec capture uri
  have other := value_exec (capture.setDefaults defaults) uri
  change _ = (capture.compiled.regex.find? uri.toList).map _ at other
  cases search : capture.compiled.regex.find? uri.toList with
  | none =>
      rw [search] at own other
      exact .inl ⟨own, other⟩
  | some found =>
      rw [search] at own other
      refine .inr ⟨_, _, own, other, ?_⟩
      rintro group ⟨same, index, matched, named, took⟩
      rw [search] at matched
      cases matched
      exact get?_params_setDefaults distinct named took defaults

end Capture

namespace Table

/-! ## Routes of a table in use -/

theorem compiles_of_registered {history : List Step} {route : NamedRoute}
    (member : route ∈ registered history) :
    ∃ pattern fragments,
      (Pattern.compile pattern fragments).value = .ok route.capture.compiled := by
  induction history with
  | nil => cases member
  | cons step later induction =>
      rw [registered] at member
      split at member
      · exact induction member
      · next name compiled made =>
          rcases List.mem_cons.mp member with rfl | inLater
          · unfold Step.route? at made
            split at made
            · next pattern fragments =>
                obtain ⟨found, compiles, equal⟩ := Option.map_eq_some_iff.mp made
                cases equal
                cases result : (Pattern.compile pattern fragments).value with
                | error error =>
                    rw [result] at compiles
                    cases compiles
                | ok form =>
                    rw [result] at compiles
                    cases compiles
                    exact ⟨pattern, fragments, result⟩
            · cases made
          · exact induction inLater

theorem nodup_names_of_follows {table : Table} {history : List Step}
    (follows : Follows table history) {route : NamedRoute} (member : route ∈ table.routes) :
    route.capture.names.Nodup := by
  rw [follows.routes_eq] at member
  obtain ⟨pattern, fragments, compiles⟩ := compiles_of_registered member
  obtain ⟨tree, compilation⟩ := Pattern.compilesBy_of_compile compiles
  exact (Pattern.source_trace compilation.built).2.2

/-! ## Routes at the end -/

theorem value_resolveAmong_last (uri : String) (front : List NamedRoute) (last : NamedRoute) :
    (resolveAmong uri (front ++ [last])).value =
      (resolveAmong uri front).value.or
        ((last.capture.exec uri).value.map fun params => ⟨last.name, params⟩) := by
  induction front with
  | nil =>
      rw [List.nil_append, value_resolveAmong_cons]
      cases (last.capture.exec uri).value <;> rfl
  | cons route rest induction =>
      rw [List.cons_append, value_resolveAmong_cons, value_resolveAmong_cons, induction]
      cases (route.capture.exec uri).value <;> rfl

theorem route_mem_of_resolveAmong {uri : String} {routes : List NamedRoute} {found : Resolution}
    (resolved : (resolveAmong uri routes).value = some found) :
    found.route ∈ routes.map (·.name) := by
  obtain ⟨index, route, stands, named, _⟩ := (value_resolveAmong uri routes found).mp resolved
  exact named ▸ List.mem_map_of_mem (List.mem_of_getElem? stands)

/-! ## Single operations -/

/-- What has become of the dispatch of a URI after a route was added under a name, or was not. The
routes there were stay in front, so that they win what they won. -/
structure Extends (table next : Table) (name uri : String) : Prop where
  kept : ∀ found, (table.resolve uri).value = some found →
    (next.resolve uri).value = some found
  gained : (table.resolve uri).value = none →
    ∀ found, (next.resolve uri).value = some found →
      ∃ route, next.routes = table.routes ++ [route] ∧ route.name = name ∧
        found.route = name ∧ (route.capture.exec uri).value = some found.params

structure Redefaults (table next : Table) (uri : String) : Prop where
  route_eq : (next.resolve uri).value.map (·.route) = (table.resolve uri).value.map (·.route)
  others : ∀ found, (table.resolve uri).value = some found →
    (∀ last ∈ table.routes.getLast?, found.route ≠ last.name) →
      (next.resolve uri).value = some found
  captured : ∀ last ∈ table.routes.getLast?, ∀ before after,
    (table.resolve uri).value = some before → before.route = last.name →
      (next.resolve uri).value = some after →
        ∀ group, last.capture.TakesPart uri group →
          after.params.get? group = before.params.get? group

theorem extends_add (table : Table) (name pattern : String) (fragments : Fragments)
    (uri : String) :
    Extends table ((Operation.add name pattern fragments).after table) name uri := by
  rcases add_cases table name pattern fragments with
    ⟨error, _, refused⟩ | ⟨compiled, _, _, _, _, added⟩
  · have same : (Operation.add name pattern fragments).after table = table := by
      rw [Operation.after, refused]
    rw [same]
    refine ⟨fun found resolved => resolved, fun missed found resolved => ?_⟩
    rw [missed] at resolved
    cases resolved
  · have extended : (Operation.add name pattern fragments).after table =
        ⟨table.routes ++ [⟨name, ⟨compiled, .empty⟩⟩]⟩ := by
      rw [Operation.after, added]
    rw [extended]
    constructor
    · intro found resolved
      rw [resolve] at resolved
      rw [resolve, value_resolveAmong_last, resolved]
      rfl
    · intro missed found resolved
      rw [resolve] at missed
      rw [resolve, value_resolveAmong_last, missed, Option.none_or] at resolved
      obtain ⟨params, executed, rfl⟩ := Option.map_eq_some_iff.mp resolved
      exact ⟨_, rfl, rfl, rfl, executed⟩

theorem after_setDefaults (table : Table) (defaults : Defaults) :
    (table.routes.getLast? = none ∧ (Operation.setDefaults defaults).after table = table) ∨
    ∃ front last, table.routes = front ++ [last] ∧
      ((Operation.setDefaults defaults).after table).routes =
        front ++ [NamedRoute.withDefaults last defaults] := by
  cases equal : table.routes.getLast? with
  | none =>
      refine .inl ⟨rfl, ?_⟩
      rw [Operation.after, setDefaults, equal]
      rfl
  | some last =>
      refine .inr ⟨table.routes.dropLast, last, ?_, ?_⟩
      · exact (List.dropLast_append_getLast? last equal).symm
      · rw [Operation.after, setDefaults, equal]
        rfl

theorem redefaults_setDefaults {table : Table} (distinct : table.names.Nodup)
    (declared : ∀ route ∈ table.routes, route.capture.names.Nodup) (defaults : Defaults)
    (uri : String) :
    Redefaults table ((Operation.setDefaults defaults).after table) uri := by
  rcases after_setDefaults table defaults with ⟨noRoute, same⟩ | ⟨front, last, parts, changed⟩
  · rw [same]
    refine ⟨rfl, fun found resolved _ => resolved, ?_⟩
    rw [noRoute]
    intro last impossible
    cases impossible
  · have before := value_resolveAmong_last uri front last
    have after := value_resolveAmong_last uri front (NamedRoute.withDefaults last defaults)
    rw [← parts, ← resolve] at before
    rw [← changed, ← resolve] at after
    have lastDeclared := declared last (parts ▸ List.mem_append_right front List.mem_cons_self)
    have isLast : table.routes.getLast? = some last := by rw [parts, List.getLast?_concat]
    rw [names, parts, List.map_append, List.nodup_append] at distinct
    rcases won : (resolveAmong uri front).value with _ | winner
    · rw [won, Option.none_or] at before after
      rcases Capture.exec_setDefaults lastDeclared defaults uri with
        ⟨missed, missedToo⟩ | ⟨params, paramsAfter, executed, executedToo, captured⟩
      · rw [missed, Option.map_none] at before
        rw [NamedRoute.withDefaults, missedToo, Option.map_none] at after
        refine ⟨by rw [before, after], ?_, ?_⟩
        · rw [before]
          intro found impossible
          cases impossible
        · rw [before]
          intro other _ found next impossible
          cases impossible
      · rw [executed, Option.map_some] at before
        rw [NamedRoute.withDefaults, executedToo, Option.map_some] at after
        refine ⟨by rw [before, after]; rfl, ?_, ?_⟩
        · rw [before, isLast]
          rintro found ⟨⟩ other
          exact absurd rfl (other last rfl)
        · rw [before, after, isLast]
          rintro other ⟨⟩ found next ⟨⟩ _ ⟨⟩
          exact captured
    · rw [won, Option.some_or] at before after
      refine ⟨by rw [before, after], ?_, ?_⟩
      · intro found resolved _
        rwa [before, ← after] at resolved
      · rw [before, isLast]
        rintro other ⟨⟩ found next ⟨⟩ named
        exact absurd named (distinct.2.2 _ (route_mem_of_resolveAmong won) _ List.mem_cons_self)

/-! ## Whole runs -/

theorem route_kept_perform {session : Session} (follows : Follows session.table session.history)
    (operation : Operation) {uri : String} {found : Resolution}
    (resolved : (session.table.resolve uri).value = some found) :
    ∃ next, ((session.perform operation).table.resolve uri).value = some next ∧
      next.route = found.route := by
  cases operation with
  | add name pattern fragments =>
      exact ⟨found, (extends_add session.table name pattern fragments uri).kept found resolved, rfl⟩
  | setDefaults defaults =>
      have kept := (redefaults_setDefaults follows.distinct
        (fun route member => nodup_names_of_follows follows member) defaults uri).route_eq
      rw [resolved, Option.map_some] at kept
      exact Option.map_eq_some_iff.mp kept
  | resolve | submit | get => exact ⟨found, resolved, rfl⟩

theorem route_kept {session : Session} (follows : Follows session.table session.history)
    (later : List Operation) {uri : String} {found : Resolution}
    (resolved : (session.table.resolve uri).value = some found) :
    ∃ next, ((later.foldl Session.perform session).table.resolve uri).value = some next ∧
      next.route = found.route := by
  induction later generalizing session found with
  | nil => exact ⟨found, resolved, rfl⟩
  | cons operation rest induction =>
      obtain ⟨middle, resolvedMiddle, same⟩ := route_kept_perform follows operation resolved
      obtain ⟨next, resolvedNext, sameNext⟩ :=
        induction (follows_perform follows operation) resolvedMiddle
      exact ⟨next, resolvedNext, sameNext.trans same⟩

/-- Whatever is done to a table that is empty at first, a URI that finds a route keeps it. An
addition, successful or not, leaves the parameters alone and gives other URIs at most the route that
was added. Other defaults change no more than what the last route made of a URI, and there nothing
that was captured. -/
theorem resolve_stable (operations : List Operation) (uri : String) :
    (Session.ofOperations operations).table.names.Nodup ∧
    (∀ name pattern fragments, Extends (Session.ofOperations operations).table
      ((Operation.add name pattern fragments).after (Session.ofOperations operations).table)
        name uri) ∧
    (∀ defaults, Redefaults (Session.ofOperations operations).table
      ((Operation.setDefaults defaults).after (Session.ofOperations operations).table) uri) ∧
    ∀ later found, ((Session.ofOperations operations).table.resolve uri).value = some found →
      ∃ next, ((Session.ofOperations (operations ++ later)).table.resolve uri).value = some next ∧
        next.route = found.route := by
  have follows := follows_ofOperations operations
  refine ⟨follows.distinct, fun name pattern fragments => ?_, fun defaults => ?_, ?_⟩
  · exact extends_add _ name pattern fragments uri
  · exact redefaults_setDefaults follows.distinct
      (fun route member => nodup_names_of_follows follows member) defaults uri
  · intro later found resolved
    rw [Session.ofOperations, List.foldl_append]
    exact route_kept follows later resolved

end Table

end UriDispatch
