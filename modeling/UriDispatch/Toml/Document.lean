import UriDispatch.Toml.Number
import UriDispatch.Toml.Quoted

/-! Whole TOML documents: values, keys, and the tables that headers and dotted keys build. -/

namespace UriDispatch.Toml

abbrev Entries := List (String × Value)

abbrev Path := List String

/-! ## Tables

Braces close a table, and a header of its own completes it for dotted keys. -/

def replaceEntry (entries : Entries) (key : String) (value : Value) : Entries :=
  entries.map fun entry => if entry.1 = key then (key, value) else entry

def insertAt (entries : Entries) (value : Value) (key : String) : (path : Path) → Option Entries
  | [] => if (entries.lookup key).isSome then none else some (entries ++ [(key, value)])
  | name :: path =>
      match entries.lookup name with
      | none => do
          let inner ← insertAt [] value key path
          return entries ++ [(name, .table .dotted inner)]
      | some (.table .braces _) | some (.table .header _) => none
      | some (.table origin inner) =>
          if path = [] ∧ origin ≠ .dotted then none
          else do
            return replaceEntry entries name (.table origin (← insertAt inner value key path))
      | some (.array true items) =>
          match items.getLast?, path with
          | some (.table origin inner), _ :: _ => do
              let last := Value.table origin (← insertAt inner value key path)
              return replaceEntry entries name (.array true (items.dropLast ++ [last]))
          | _, _ => none
      | some _ => none

/-- The entries with a change to the table that a header's path leads to. Tables on the way that
do not exist yet are made. -/
def changeAt (change : Entries → Option Entries) (entries : Entries) : Path → Option Entries
  | [] => change entries
  | name :: path =>
      match entries.lookup name with
      | none => do
          let inner ← changeAt change [] path
          return entries ++ [(name, .table .passedByHeader inner)]
      | some (.table .braces _) => none
      | some (.table origin inner) => do
          return replaceEntry entries name (.table origin (← changeAt change inner path))
      | some (.array true items) =>
          match items.getLast? with
          | some (.table origin inner) => do
              let last := Value.table origin (← changeAt change inner path)
              return replaceEntry entries name (.array true (items.dropLast ++ [last]))
          | _ => none
      | some _ => none

structure Pair where
  path : Path
  key : String
  value : Value

def insertPairs (entries : Entries) (pairs : List Pair) : Option Entries :=
  pairs.foldlM (fun entries pair => insertAt entries pair.value pair.key pair.path) entries

/-! ## Keys -/

private def isBareKey (character : Char) : Bool :=
  character.isAlphanum || character = '_' || character = '-'

private def readSimpleKey (input : List Char) : Option (Reading input String) :=
  match input with
  | [] => none
  | first :: rest =>
      if first = '"' ∨ first = '\'' then (readShortString first rest).map (·.after first)
      else if isBareKey first then
        some ⟨String.ofList (first :: rest.takeWhile isBareKey), rest.dropWhile isBareKey,
          Nat.lt_succ_of_le (length_dropWhile_le isBareKey rest)⟩
      else none

/-- One more part than this of a dotted key would be too many. -/
private def longestKey : Nat := 79

private def readParts (input : List Char) : Option (Reading input (List String)) :=
  have before := length_skipBlanks_le input
  match readSimpleKey (skipBlanks input) with
  | none => none
  | some ⟨part, rest, shorter⟩ =>
      have after := length_skipBlanks_le rest
      match equal : skipBlanks rest with
      | '.' :: more => do
          let parts ← readParts more
          return (parts.map (part :: ·)).widen (by
            rw [equal] at after; simp only [List.length_cons] at after; omega)
      | other => some ⟨[part], other, by rw [equal] at after; omega⟩
termination_by input.length
decreasing_by
  rw [equal] at after
  simp only [List.length_cons] at after
  omega

private def readKey (input : List Char) : Option (Reading input (Path × String)) := do
  let parts ← readParts input
  if parts.value.length ≤ longestKey then
    match parts.value.getLast? with
    | some last => return parts.map fun parts => (parts.dropLast, last)
    | none => none
  else none

/-! ## Values -/

private abbrev ReadValue := (input : List Char) → Option (Reading input Value)

private def readPair (readValue : ReadValue) (input : List Char) : Option (Reading input Pair) :=
  match readKey input with
  | some ⟨(path, key), '=' :: rest, shorter⟩ => do
      let value ← readValue (skipBlanks rest)
      have first := length_skipBlanks_le rest
      have second := length_skipBlanks_le value.rest
      have third := value.shorter
      return ⟨⟨path, key, value.value⟩, skipBlanks value.rest, by
        simp only [List.length_cons] at shorter; omega⟩
  | _ => none

private def readItems (readValue : ReadValue) (items : List Value) (input : List Char) :
    Option (Reading input Value) :=
  have before := length_skipLines_le input
  match equal : skipLines input with
  | ']' :: rest =>
      some ⟨.array false items.reverse, rest, by
        rw [equal] at before; simp only [List.length_cons] at before; omega⟩
  | other =>
      match readValue other with
      | none => none
      | some ⟨value, rest, shorter⟩ =>
          have after := length_skipLines_le rest
          match separator : skipLines rest with
          | ',' :: more => do
              return (← readItems readValue (value :: items) more).widen (by
                rw [equal] at before; rw [separator] at after
                simp only [List.length_cons] at *; omega)
          | ']' :: more =>
              some ⟨.array false (value :: items).reverse, more, by
                rw [equal] at before; rw [separator] at after
                simp only [List.length_cons] at *; omega⟩
          | _ => none
termination_by input.length
decreasing_by
  rw [equal] at before
  rw [separator] at after
  simp only [List.length_cons] at *
  omega

private def readPairs (readValue : ReadValue) (pairs : List Pair) (input : List Char) :
    Option (Reading input (List Pair)) :=
  match readPair readValue input with
  | none => none
  | some pair =>
      have bound := pair.shorter
      match equal : pair.rest with
      | ',' :: rest => do
          return (← readPairs readValue (pair.value :: pairs) rest).widen (by
            rw [equal] at bound; simp only [List.length_cons] at bound; omega)
      | '}' :: rest =>
          some ⟨(pair.value :: pairs).reverse, rest, by
            rw [equal] at bound; simp only [List.length_cons] at bound; omega⟩
      | _ => none
termination_by input.length
decreasing_by
  rw [equal] at bound
  simp only [List.length_cons] at bound
  omega

private def readTable (readValue : ReadValue) (input : List Char) : Option (Reading input Value) :=
  have bound := length_skipBlanks_le input
  match equal : skipBlanks input with
  | '}' :: rest =>
      some ⟨.table .braces [], rest, by
        rw [equal] at bound; simp only [List.length_cons] at bound; omega⟩
  | _ => do
      let pairs ← readPairs readValue [] input
      let entries ← insertPairs [] pairs.value
      return pairs.map fun _ => .table .braces entries

private def readWord (word : String) (value : Value) (input : List Char) :
    Option (Reading input Value) :=
  if found : word.toList.isPrefixOf input ∧ 0 < word.length then
    some ⟨value, input.drop word.length, by
      have fits := (List.isPrefixOf_iff_prefix.mp found.1).length_le
      rw [String.length_toList] at fits
      simp only [List.length_drop]; omega⟩
  else none

private def deepestValue : Nat := 79

private def readValue (levels : Nat) (input : List Char) : Option (Reading input Value) :=
  match input with
  | [] => none
  | first :: rest =>
      if first = '"' ∨ first = '\'' then
        (readString (first :: rest)).map (·.map .string)
      else if first = '[' then
        match levels with
        | 0 => none
        | levels + 1 => (readItems (readValue levels) [] rest).map (·.after first)
      else if first = '{' then
        match levels with
        | 0 => none
        | levels + 1 => (readTable (readValue levels) rest).map (·.after first)
      else
        readWord "true" (.boolean true) (first :: rest) <|>
        readWord "false" (.boolean false) (first :: rest) <|>
        readNumber (first :: rest)

/-! ## Documents -/

inductive Header where
  | table (path : Path) (key : String)
  | element (path : Path) (key : String)

structure Section where
  header : Option Header
  pairs : List Pair

private def readHeader (input : List Char) : Option (Reading input Header) :=
  match input with
  | '[' :: rest => do
      let ⟨(path, key), after, shorter⟩ ← readKey rest
      match after, shorter with
      | ']' :: ']' :: after, shorter =>
          let ⟨next, fits⟩ ← finishLine after
          return ⟨.element path key, next, by
            simp only [List.length_cons] at shorter fits ⊢; omega⟩
      | _, _ => none
  | other => do
      let ⟨(path, key), after, shorter⟩ ← readKey other
      match after, shorter with
      | ']' :: after, shorter =>
          let ⟨next, fits⟩ ← finishLine after
          return ⟨.table path key, next, by
            simp only [List.length_cons] at shorter fits ⊢; omega⟩
      | _, _ => none

private def readSections (header : Option Header) (pairs : List Pair) (input : List Char) :
    Option (List Section) :=
  have _bound := length_skipBlanks_le input
  match _equal : skipBlanks input with
  | [] => some [⟨header, pairs.reverse⟩]
  | first :: rest =>
      if first = '\n' ∨ first = '\r' ∨ first = '#' then
        match finishLine (first :: rest) with
        | none => none
        | some ⟨next, _⟩ => readSections header pairs next
      else if first = '[' then
        match readHeader rest with
        | none => none
        | some ⟨found, next, _⟩ => do
            return ⟨header, pairs.reverse⟩ :: (← readSections (some found) [] next)
      else
        match readPair (readValue deepestValue) (first :: rest) with
        | none => none
        | some ⟨pair, after, _⟩ =>
            match finishLine after with
            | none => none
            | some ⟨next, _⟩ => readSections header (pair :: pairs) next
termination_by input.length
decreasing_by
  all_goals
    rw [_equal] at _bound
    simp only [List.length_cons] at *
    omega

/-- The document with one more section. A table that a header completes stands where its header
does, and a header in double brackets adds a table to an array of them. -/
def addSection (document : Entries) (part : Section) : Option Entries :=
  match part.header with
  | none => insertPairs document part.pairs
  | some (.table path key) =>
      changeAt (fun entries =>
        match entries.lookup key with
        | none => do
            return entries ++ [(key, .table .header (← insertPairs [] part.pairs))]
        | some (.table .passedByHeader inner) => do
            let others := entries.filter (·.1 ≠ key)
            return others ++ [(key, .table .header (← insertPairs inner part.pairs))]
        | some _ => none) document path
  | some (.element path key) =>
      changeAt (fun entries => do
        let element := Value.table .header (← insertPairs [] part.pairs)
        match entries.lookup key with
        | none => return entries ++ [(key, .array true [element])]
        | some (.array true items) =>
            return replaceEntry entries key (.array true (items ++ [element]))
        | some _ => none) document path

/-- The table that a document stands for, if it is well formed. A byte order mark at its start
is no part of it. -/
def parse (text : String) : Option Entries := do
  let characters := match text.toList with
    | '\ufeff' :: rest => rest
    | other => other
  let sections ← readSections none [] characters
  sections.foldlM addSection []

end UriDispatch.Toml
