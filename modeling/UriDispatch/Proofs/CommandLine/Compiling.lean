import UriDispatch.CommandLine.Run
import UriDispatch.Proofs.CommandLine.Reading
import UriDispatch.Proofs.Maps
import UriDispatch.Proofs.Text.JsonRoundTrip

/-! Compiling a pattern from the command line. Each group is split where its name ends, whatever
stands in the fragment, and what is written tells all of the pattern that was compiled. -/

namespace UriDispatch.CommandLine

open Text (Json)

/-! ## Groups -/

def compileArguments (values : List String) (pattern : String) : List String :=
  "compile" :: (values.map ("--group=" ++ ·) ++ ["--", pattern])

def writeGroup (group : String × String) : String := group.1 ++ "=" ++ group.2

theorem readGroup_writeGroup {group : String × String} (plain : '=' ∉ group.1.toList) :
    readGroup (writeGroup group) = some group := by
  have letters : (writeGroup group).toList = group.1.toList ++ '=' :: group.2.toList := by
    rw [writeGroup, String.toList_append, String.toList_append, List.append_assoc]
    rfl
  have apart : ∀ letter ∈ group.1.toList, letter ≠ '=' := by
    rintro letter member rfl
    exact plain member
  rw [readGroup, letters, splitAtEquals_append apart, Option.map_some]
  simp only [String.ofList_toList]

theorem readGroup_of_not_mem {value : String} (plain : '=' ∉ value.toList) :
    readGroup value = none := by
  have whole : value.toList.dropWhile (· ≠ '=') = [] := by
    rw [List.dropWhile_eq_nil_iff]
    intro letter member
    apply decide_eq_true
    rintro rfl
    exact plain member
  rw [readGroup, splitAtEquals, whole]
  rfl

theorem mapM_readGroup {groups : List (String × String)}
    (plain : ∀ group ∈ groups, '=' ∉ group.1.toList) :
    (groups.map writeGroup).mapM readGroup = some groups := by
  induction groups with
  | nil => rfl
  | cons group rest induction =>
      rw [List.forall_mem_cons] at plain
      rw [List.map_cons, List.mapM_cons, readGroup_writeGroup plain.1, induction plain.2]
      rfl

theorem mapM_readGroup_eq_none {values : List String} {value : String} (member : value ∈ values)
    (plain : '=' ∉ value.toList) : values.mapM readGroup = none := by
  induction values with
  | nil => cases member
  | cons first rest induction =>
      rw [List.mapM_cons]
      rcases List.mem_cons.mp member with rfl | later
      · rw [readGroup_of_not_mem plain]
        rfl
      · rw [induction later]
        cases readGroup first <;> rfl

/-! ## Arguments -/

theorem known_group : Known [.logLevel, .group] .group where
  byName := by decide
  byLetter _ short := by
    cases short
    decide
  plain := List.forall_mem_ne'.mpr (by decide)
  someName := by decide

theorem writes_group (value : String) : Writes .group value ["--group=" ++ value] := by
  have spelled : "--" ++ Flag.group.name ++ "=" = "--group=" := by decide
  rw [← spelled]
  exact .attached

theorem read?_groups (values : List String) (pattern : String) :
    Arguments.read? [.logLevel, .group] (values.map ("--group=" ++ ·) ++ ["--", pattern]) =
      some ⟨values.map (Flag.group, ·), [pattern]⟩ := by
  induction values with
  | nil => exact Arguments.read?_endOfOptions _ _
  | cons value rest induction =>
      have first := Arguments.read?_setting (writes_group value) known_group
        (rest.map ("--group=" ++ ·) ++ ["--", pattern])
      rw [induction] at first
      exact first

theorem read?_compileArguments (values : List String) (pattern : String) :
    Command.read? (compileArguments values pattern) =
      (values.mapM readGroup).map (.compile pattern) := by
  have apart : Flag.group ≠ Flag.logLevel := by decide
  have noLevel : (values.map (Flag.group, ·)).filter (·.1 = Flag.logLevel) = [] := by
    simp [apart]
  have groups : ((values.map (Flag.group, ·)).filter (·.1 = Flag.group)).map (·.2) = values := by
    simp [List.filter_map, Function.comp_def]
  change readCompile (values.map ("--group=" ++ ·) ++ ["--", pattern]) = _
  rw [readCompile, read?_groups]
  simp only [Option.bind_eq_bind, Option.bind_some, Arguments.values, groups, setsLevelOnce,
    noLevel]
  cases values.mapM readGroup <;> rfl

/-! ## Outcomes -/

structure Compiling (pattern : String) (groups : Fragments) (outcome : Outcome) : Prop where
  code_eq_zero_iff : outcome.code = 0 ↔
    ∃ compiled, (Pattern.compile pattern groups).value = .ok compiled
  compiled : ∀ compiled, (Pattern.compile pattern groups).value = .ok compiled →
    ∃ members, Json.read? outcome.output = some (.object members) ∧
      members.Perm [("pattern", .string compiled.pattern),
        ("regex", .string compiled.regex.source),
        ("names", .list (compiled.names.map .string))]
  refused : ∀ error, (Pattern.compile pattern groups).value = .error error →
    outcome.code = 1 ∧ outcome.output = ""

theorem read?_line (value : Json) : Json.read? (line value.indented) = some value := by
  have letters : (line value.indented).toList = value.write .indented 0 ++ ['\n'] := by
    rw [line, String.toList_append, Json.indented, String.toList_ofList]
    rfl
  have finds := Json.readValue_write Json.Layout.spaced_indented 0 value ['\n']
  rw [← letters] at finds
  rcases finds with ⟨_, read⟩
  rw [Json.read?, read]
  rfl

theorem compiling_runCompile (pattern : String) (groups : List (String × String)) :
    Compiling pattern (.ofList groups) (runCompile pattern groups) := by
  rw [runCompile]
  cases result : (Pattern.compile pattern (.ofList groups)).value with
  | error error =>
      constructor
      · rw [result]
        exact iff_of_false Nat.one_ne_zero fun ⟨_, impossible⟩ => nomatch impossible
      · rw [result]
        exact fun _ impossible => nomatch impossible
      · exact fun _ _ => ⟨rfl, rfl⟩
  | ok compiled =>
      constructor
      · exact iff_of_true rfl ⟨compiled, result⟩
      · rw [result]
        rintro _ ⟨⟩
        refine ⟨_, read?_line (compiledJson compiled), ?_⟩
        exact (List.perm_append_singleton _ _).symm
      · rw [result]
        exact fun _ impossible => nomatch impossible

/-- A run with groups whose names have no equals sign compiles the pattern with these, where of
several groups with one name the last one counts. A group without any equals sign is a misuse. -/
theorem run_compileArguments (storage : String → RouteFile.Stored) (pattern : String)
    {pairs : List (String × String)} (plain : ∀ pair ∈ pairs, '=' ∉ pair.1.toList) :
    Command.read? (compileArguments (pairs.map writeGroup) pattern) =
      some (.compile pattern pairs) ∧
    (∃ groups : Fragments, (∀ name, groups.get? name = pairs.reverse.lookup name) ∧
      Compiling pattern groups
        (run storage (compileArguments (pairs.map writeGroup) pattern))) ∧
    ∀ values, (∃ value ∈ values, '=' ∉ value.toList) →
      (run storage (compileArguments values pattern)).code = 2 ∧
        (run storage (compileArguments values pattern)).output = "" := by
  have read : Command.read? (compileArguments (pairs.map writeGroup) pattern) =
      some (.compile pattern pairs) := by
    rw [read?_compileArguments, mapM_readGroup plain]
    rfl
  refine ⟨read, ⟨.ofList pairs, SortedMap.get?_ofList pairs, ?_⟩, ?_⟩
  · rw [run, read]
    exact compiling_runCompile pattern pairs
  · rintro values ⟨value, member, unmarked⟩
    have misuse : run storage (compileArguments values pattern) = .misuse := by
      rw [run, read?_compileArguments, mapM_readGroup_eq_none member unmarked]
      rfl
    rw [misuse]
    exact ⟨rfl, rfl⟩

theorem run_compileArguments_of_repeated :
    let pairs := [("id", "x"), ("", "(y"), ("id", "a=b|\"")]
    let arguments := compileArguments (pairs.map writeGroup) "/<id>"
    let outcome := run (fun _ => none) arguments
    arguments = ["compile", "--group=id=x", "--group==(y", "--group=id=a=b|\"", "--", "/<id>"] ∧
    Command.read? arguments = some (.compile "/<id>" pairs) ∧
    (∃ groups : Fragments, (∀ name, groups.get? name = pairs.reverse.lookup name) ∧
      Compiling "/<id>" groups outcome) ∧ outcome.code = 0 := by
  let pairs := [("id", "x"), ("", "(y"), ("id", "a=b|\"")]
  have plain : ∀ pair ∈ pairs, '=' ∉ pair.1.toList := by decide
  have runs := run_compileArguments (fun _ => none) "/<id>" plain
  exact ⟨by decide, runs.1, runs.2.1, by decide +kernel⟩

end UriDispatch.CommandLine
