import UriDispatch.RouteFile.Load

/-! What is loaded from a route file. All routes of a file have passed the check. The log level is
read from a section of its own, which may stand anywhere, and has no part in the routes or in what may
be wrong with them. -/

namespace UriDispatch.RouteFile

/-! ## Texts -/

theorem value_load_text {bytes : ByteArray} {text : String}
    (decodes : String.fromUTF8? bytes = some text) :
    (load (some bytes)).value = (parse text).value := by
  simp only [load, decodes, Logged.value_bind]
  cases (parse text).value <;> rfl

theorem value_parse {text : String} {entries : Toml.Entries}
    (parses : Toml.parse text = some entries) :
    (parse text).value =
      match ofEntries entries with
      | .error error => .error (.schema error)
      | .ok file =>
          if (validate file.routes).value.isEmpty then .ok file
          else .error (.invalid (validate file.routes).value) := by
  simp only [parse, parses]
  cases ofEntries entries <;> rfl

theorem validate_of_load {stored : Stored} {file : RouteFile}
    (loaded : (load stored).value = .ok file) : (validate file.routes).value = [] := by
  cases stored with
  | none => cases loaded
  | some bytes =>
      cases decodes : String.fromUTF8? bytes with
      | none =>
          simp only [load, decodes] at loaded
          cases loaded
      | some text =>
          rw [value_load_text decodes] at loaded
          cases parses : Toml.parse text with
          | none =>
              simp only [parse, parses] at loaded
              cases loaded
          | some entries =>
              rw [value_parse parses] at loaded
              split at loaded
              · cases loaded
              · split at loaded
                · next valid =>
                    cases loaded
                    exact List.isEmpty_iff.mp valid
                · cases loaded

/-! ## Log levels -/

def IsLevelSection (entry : String × Toml.Value) : Prop :=
  entry.1 = "observability" ∧ ∃ level, logLevelOf entry.2 = .ok level

inductive SameRoutes : Toml.Entries → Toml.Entries → Prop where
  | nil : SameRoutes [] []
  | both (entry : String × Toml.Value) {first second : Toml.Entries}
      (rest : SameRoutes first second) : SameRoutes (entry :: first) (entry :: second)
  | left {entry : String × Toml.Value} (level : IsLevelSection entry)
      {first second : Toml.Entries} (rest : SameRoutes first second) :
      SameRoutes (entry :: first) second
  | right {entry : String × Toml.Value} (level : IsLevelSection entry)
      {first second : Toml.Entries} (rest : SameRoutes first second) :
      SameRoutes first (entry :: second)

/-- What is stored under two names is the same, or both are texts of documents that tell the same
but for their log levels. -/
inductive SameButLevel : Stored → Stored → Prop where
  | same (stored : Stored) : SameButLevel stored stored
  | documents {bytes otherBytes : ByteArray} {text otherText : String}
      {entries otherEntries : Toml.Entries} (decodes : String.fromUTF8? bytes = some text)
      (decodesOther : String.fromUTF8? otherBytes = some otherText)
      (parses : Toml.parse text = some entries)
      (parsesOther : Toml.parse otherText = some otherEntries)
      (sections : SameRoutes entries otherEntries) :
      SameButLevel (some bytes) (some otherBytes)

theorem addSection_level {entry : String × Toml.Value} (level : IsLevelSection entry)
    (file : RouteFile) :
    ∃ text, addSection file entry.1 entry.2 = .ok { file with logLevel := text } := by
  obtain ⟨key, text, read⟩ := level
  refine ⟨text, ?_⟩
  rw [key, addSection]
  simp only [read]
  rfl

theorem addSection_routes {file other : RouteFile} (same : file.routes = other.routes)
    (entry : String × Toml.Value) :
    (addSection file entry.1 entry.2).map (·.routes) =
      (addSection other entry.1 entry.2).map (·.routes) := by
  unfold addSection
  split
  · cases logLevelOf entry.2 with
    | error error => rfl
    | ok level => exact congrArg Except.ok same
  · cases routesOf entry.2 with
    | error error => rfl
    | ok routes => rfl
  · exact congrArg Except.ok same

theorem foldlM_addSection_routes {entries otherEntries : Toml.Entries}
    (sections : SameRoutes entries otherEntries) {file other : RouteFile}
    (same : file.routes = other.routes) :
    (entries.foldlM (fun file entry => addSection file entry.1 entry.2) file).map (·.routes) =
      (otherEntries.foldlM (fun file entry => addSection file entry.1 entry.2) other).map
        (·.routes) := by
  induction sections generalizing file other with
  | nil => exact congrArg Except.ok same
  | both entry rest induction =>
      have own := addSection_routes same entry
      rw [List.foldlM_cons, List.foldlM_cons]
      cases added : addSection file entry.1 entry.2 with
      | error error =>
          rw [added] at own
          cases addedOther : addSection other entry.1 entry.2 with
          | error otherError =>
              rw [addedOther] at own
              cases own
              rfl
          | ok next =>
              rw [addedOther] at own
              cases own
      | ok next =>
          rw [added] at own
          cases addedOther : addSection other entry.1 entry.2 with
          | error otherError =>
              rw [addedOther] at own
              cases own
          | ok otherNext =>
              rw [addedOther] at own
              exact induction (Except.ok.inj own)
  | left level rest induction =>
      obtain ⟨text, added⟩ := addSection_level level file
      rw [List.foldlM_cons, added]
      exact induction same
  | right level rest induction =>
      obtain ⟨text, added⟩ := addSection_level level other
      rw [List.foldlM_cons, added]
      exact induction same

theorem ofEntries_routes {entries otherEntries : Toml.Entries}
    (sections : SameRoutes entries otherEntries) :
    (ofEntries entries).map (·.routes) = (ofEntries otherEntries).map (·.routes) :=
  foldlM_addSection_routes sections rfl

/-! ## Files of any log level -/

theorem value_parse_routes {text : String} {entries : Toml.Entries}
    (parses : Toml.parse text = some entries) :
    (parse text).value.map (·.routes) =
      match (ofEntries entries).map (·.routes) with
      | .error error => .error (.schema error)
      | .ok routes =>
          if (validate routes).value.isEmpty then .ok routes
          else .error (.invalid (validate routes).value) := by
  rw [value_parse parses]
  cases ofEntries entries with
  | error error => rfl
  | ok file =>
      simp only [Except.map]
      cases (validate file.routes).value.isEmpty <;> rfl

/-- The log level changes nothing about the routes that a file gives, or why it gives none. -/
theorem value_load_routes {stored other : Stored} (same : SameButLevel stored other) :
    (load stored).value.map (·.routes) = (load other).value.map (·.routes) := by
  cases same with
  | same => rfl
  | documents decodes decodesOther parses parsesOther sections =>
      rw [value_load_text decodes, value_load_text decodesOther, value_parse_routes parses,
        value_parse_routes parsesOther, ofEntries_routes sections]

end UriDispatch.RouteFile
