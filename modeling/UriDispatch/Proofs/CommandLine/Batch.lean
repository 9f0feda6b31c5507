import Mathlib
import UriDispatch.CommandLine.Run
import UriDispatch.Proofs.CommandLine.Reading
import UriDispatch.Proofs.RouteFile.Agreement
import UriDispatch.Proofs.RouteFile.Loading
import UriDispatch.Proofs.Text.JsonRoundTrip

/-! Matching many URIs in one run. The run succeeds just if the route file can be loaded, and then
has a line for each URI that tells what a table of the file makes of it. -/

namespace UriDispatch.CommandLine

open Text (Json)

/-! ## Arguments -/

/-- Arguments that ask for the routes of a file. The log level may be set in any place. -/
inductive Asks (file : String) : List String → Prop where
  | plain {config : List String} (names : Writes .config file config) :
      Asks file ("match" :: config)
  | levelFirst {level : String} {setting config : List String}
      (sets : Writes .logLevel level setting) (names : Writes .config file config) :
      Asks file (setting ++ "match" :: config)
  | levelBefore {level : String} {setting config : List String}
      (sets : Writes .logLevel level setting) (names : Writes .config file config) :
      Asks file ("match" :: (setting ++ config))
  | levelAfter {level : String} {setting config : List String}
      (sets : Writes .logLevel level setting) (names : Writes .config file config) :
      Asks file ("match" :: (config ++ setting))

theorem known_logLevel : Known [.logLevel, .config] .logLevel where
  byName := by decide
  byLetter _ short := by cases short
  plain := List.forall_mem_ne'.mpr (by decide)
  someName := by decide

theorem known_config : Known [.logLevel, .config] .config where
  byName := by decide
  byLetter _ short := by
    cases short
    decide
  plain := List.forall_mem_ne'.mpr (by decide)
  someName := by decide

theorem known_logLevel_alone : Known [.logLevel] .logLevel where
  byName := by decide
  byLetter _ short := by cases short
  plain := List.forall_mem_ne'.mpr (by decide)
  someName := by decide

theorem readResolve_of_settings {file : String} (nonEmpty : file ≠ "")
    {arguments : List String} {uris : List String} (someUri : uris ≠ [])
    {settings : List (Flag × String)}
    (read : Arguments.read? [.logLevel, .config] arguments = some ⟨settings, uris⟩)
    (configs : (settings.filter (·.1 = Flag.config)).map (·.2) = [file])
    (levels : setsLevelOnce settings) : readResolve arguments = some (.resolve file uris) := by
  obtain ⟨uri, others, rfl⟩ := List.exists_cons_of_ne_nil someUri
  rw [readResolve, read]
  simp only [Option.bind_eq_bind, Option.bind_some, Arguments.values, configs, levels, nonEmpty,
    ne_eq, not_false_eq_true, and_self, if_true]

theorem read?_of_asks {file : String} (nonEmpty : file ≠ "") {arguments : List String}
    (asks : Asks file arguments) {uris : List String} (someUri : uris ≠ []) :
    Command.read? (arguments ++ "--" :: uris) = some (.resolve file uris) := by
  have ends := Arguments.read?_endOfOptions [.logLevel, .config] uris
  cases asks with
  | plain names =>
      have settings := Arguments.read?_setting names known_config ("--" :: uris)
      rw [ends] at settings
      exact readResolve_of_settings nonEmpty someUri settings rfl rfl
  | levelFirst sets names =>
      rename_i setting config
      have settings := Arguments.read?_setting names known_config ("--" :: uris)
      rw [ends] at settings
      have resolves := readResolve_of_settings nonEmpty someUri settings rfl rfl
      obtain ⟨first, others, rfl, item⟩ :=
        sets.readItem known_logLevel_alone ("match" :: (config ++ "--" :: uris))
      have word : readItem [] "match" (config ++ "--" :: uris) =
          some (.word "match", config ++ "--" :: uris) := rfl
      rw [List.append_assoc, List.cons_append, List.cons_append, Command.read?, item]
      simp only [Option.bind_eq_bind, Option.bind_some, word, readNamed, resolves]
  | levelBefore sets names =>
      rename_i setting config
      have inner := Arguments.read?_setting names known_config ("--" :: uris)
      have settings := Arguments.read?_setting sets known_logLevel (config ++ "--" :: uris)
      rw [inner, ends, ← List.append_assoc] at settings
      exact readResolve_of_settings nonEmpty someUri settings rfl rfl
  | levelAfter sets names =>
      rename_i setting config
      have inner := Arguments.read?_setting sets known_logLevel ("--" :: uris)
      have settings := Arguments.read?_setting names known_config (setting ++ "--" :: uris)
      rw [inner, ends, ← List.append_assoc] at settings
      exact readResolve_of_settings nonEmpty someUri settings rfl rfl

/-! ## Lines -/

inductive ShowsParams : Option Resolution → Json → Prop where
  | missed : ShowsParams none .null
  | found (resolution : Resolution) {members : List (String × Json)}
      (keys_eq : members.map (·.1) = resolution.params.keys)
      (lookup_eq : ∀ name, members.lookup name =
        (resolution.params.get? name).map (·.elim .null .string)) :
      ShowsParams (some resolution) (.object members)

/-- A single line that tells of a URI which route it finds, and with which parameters. Both are null
if it finds none. -/
structure Records (uri : String) (resolution : Option Resolution) (line : String) : Prop where
  single : '\n' ∉ line.toList
  reads : ∃ members params, Json.read? line = some (.object members) ∧
    members.Perm [("uri", .string uri), ("route", resolution.elim .null (.string ·.route)),
      ("params", params)] ∧ ShowsParams resolution params

theorem showsParams (resolution : Option Resolution) :
    ShowsParams resolution (resolution.elim .null (paramsJson ·.params)) := by
  cases resolution with
  | none => exact .missed
  | some found =>
      refine .found found ?_ fun name => ?_
      · rw [List.map_map]
        rfl
      · exact SortedMap.lookup_map (·.elim Json.null Json.string) found.params.entries name

theorem records_compact (uri : String) (resolution : Option Resolution) :
    Records uri resolution (resolutionJson uri resolution).compact := by
  refine ⟨Json.not_mem_compact (by decide) _, _, resolution.elim .null (paramsJson ·.params),
    Json.read?_compact _, ?_, showsParams resolution⟩
  exact (List.reverse_perm _).symm

/-! ## Outcomes -/

structure Batch (stored : RouteFile.Stored) (uris : List String) (outcome : Outcome) : Prop where
  code_eq_zero_iff : outcome.code = 0 ↔ ∃ file, (RouteFile.load stored).value = .ok file
  refused : ∀ error, (RouteFile.load stored).value = .error error →
    outcome.code = 1 ∧ outcome.output = ""
  resolved : ∀ file, (RouteFile.load stored).value = .ok file →
    ∃ table lines, (Table.ofDefinitions file.routes).value = .ok table ∧
      outcome.output = String.join (lines.map (· ++ "\n")) ∧
        List.Forall₂ (fun uri line => Records uri (table.resolve uri).value line) uris lines

theorem ofDefinitions_of_load {stored : RouteFile.Stored} {file : RouteFile}
    (loaded : (RouteFile.load stored).value = .ok file) :
    ∃ table, (Table.ofDefinitions file.routes).value = .ok table := by
  have valid := RouteFile.validate_of_load loaded
  rw [RouteFile.value_validate, RouteFile.errorsAfter_eq_nil_iff] at valid
  rcases RouteFile.ofDefinitions_cases file.routes with
    ⟨table, built, _⟩ | ⟨earlier, definition, later, error, parts, _, refused, _⟩
  · exact ⟨table, built⟩
  · rw [parts, RouteFile.accepted_append, RouteFile.Accepted, List.nil_append, refused] at valid
    cases valid.1.2.1

theorem runResolve_of_error {stored : RouteFile.Stored} {error : RouteFileError}
    (failed : (RouteFile.load stored).value = .error error) (uris : List String) :
    runResolve stored uris = .failure error.message := by
  rw [runResolve, failed]

theorem runResolve_of_ok {stored : RouteFile.Stored} {file : RouteFile}
    (loaded : (RouteFile.load stored).value = .ok file) {table : Table}
    (built : (Table.ofDefinitions file.routes).value = .ok table) (uris : List String) :
    runResolve stored uris = .success (String.join (uris.map fun uri =>
      line (resolutionJson uri (table.resolve uri).value).compact)) := by
  simp only [runResolve, loaded, built]

theorem batch_runResolve (stored : RouteFile.Stored) (uris : List String) :
    Batch stored uris (runResolve stored uris) := by
  cases loaded : (RouteFile.load stored).value with
  | error error =>
      rw [runResolve_of_error loaded]
      have failed : (Outcome.failure error.message).code ≠ 0 := Nat.one_ne_zero
      refine ⟨iff_of_false failed ?_, fun other _ => ⟨rfl, rfl⟩, ?_⟩
      · rw [loaded]
        exact fun ⟨file, impossible⟩ => nomatch impossible
      · rw [loaded]
        exact fun file impossible => nomatch impossible
  | ok file =>
      obtain ⟨table, built⟩ := ofDefinitions_of_load loaded
      rw [runResolve_of_ok loaded built]
      refine ⟨⟨fun _ => ⟨file, loaded⟩, fun _ => rfl⟩, ?_, ?_⟩
      · rw [loaded]
        exact fun error impossible => nomatch impossible
      · rw [loaded]
        rintro other ⟨⟩
        refine ⟨table, uris.map fun uri => (resolutionJson uri (table.resolve uri).value).compact,
          built, ?_, ?_⟩
        · rw [List.map_map]
          rfl
        · rw [List.forall₂_map_right_iff, List.forall₂_same]
          exact fun uri _ => records_compact uri _

theorem runResolve_congr {stored other : RouteFile.Stored}
    (same : RouteFile.SameButLevel stored other) (uris : List String) :
    runResolve stored uris = runResolve other uris := by
  have routes := RouteFile.value_load_routes same
  cases loaded : (RouteFile.load stored).value with
  | error error =>
      cases loadedOther : (RouteFile.load other).value with
      | error otherError =>
          rw [loaded, loadedOther] at routes
          rw [runResolve_of_error loaded, runResolve_of_error loadedOther, Except.error.inj routes]
      | ok otherFile =>
          rw [loaded, loadedOther] at routes
          cases routes
  | ok file =>
      cases loadedOther : (RouteFile.load other).value with
      | error otherError =>
          rw [loaded, loadedOther] at routes
          cases routes
      | ok otherFile =>
          rw [loaded, loadedOther] at routes
          have equal : file.routes = otherFile.routes := Except.ok.inj routes
          obtain ⟨table, built⟩ := ofDefinitions_of_load loaded
          rw [runResolve_of_ok loaded built, runResolve_of_ok loadedOther (equal ▸ built)]

private def example₁ : String := "[[routes]]\nname = \"r\"\npattern = \"<x>\"\n"

private def example₂ : String := example₁ ++ "[observability]\nlog_level = \"debug\"\n"

theorem sameButLevel_of_section :
    RouteFile.SameButLevel (some example₁.toUTF8) (some example₂.toUTF8) := by
  have first : Toml.parse example₁ = some [("routes", .array true
      [.table .header [("name", .string "r"), ("pattern", .string "<x>")]])] := by cbv
  have second : Toml.parse example₂ = some [("routes", .array true
      [.table .header [("name", .string "r"), ("pattern", .string "<x>")]]),
      ("observability", .table .header [("log_level", .string "debug")])] := by cbv
  refine .documents (by decide +kernel) (by decide +kernel) first second (.both _ ?_)
  exact .right ⟨rfl, "debug", by decide +kernel⟩ .nil

end UriDispatch.CommandLine
