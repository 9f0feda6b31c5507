import UriDispatch.Pattern.Compile

/-! The arguments of the command line. Options may stand between the other words; each has a
value, in the same argument or in the next one. -/

namespace UriDispatch.CommandLine

/-! ## Options and words -/

structure Flag where
  name : String
  letter : Option Char
deriving DecidableEq, Repr

def Flag.logLevel : Flag := ⟨"log-level", none⟩

def Flag.group : Flag := ⟨"group", some 'g'⟩

def Flag.config : Flag := ⟨"config", some 'c'⟩

inductive Item where
  | setting (flag : Flag) (value : String)
  | word (text : String)
  | endOfOptions
deriving DecidableEq, Repr

def looksLikeOption (argument : List Char) : Bool :=
  match argument with
  | '-' :: _ :: _ => true
  | _ => false

def splitAtEquals (text : List Char) : Option (List Char × List Char) :=
  match text.dropWhile (· ≠ '=') with
  | _ :: after => some (text.takeWhile (· ≠ '='), after)
  | [] => none

def readSetting (flag : Flag) (attached : Option (List Char)) (rest : List String) :
    Option (Item × List String) :=
  match attached, rest with
  | some value, rest => some (.setting flag (String.ofList value), rest)
  | none, value :: rest =>
      if looksLikeOption value.toList then none else some (.setting flag value, rest)
  | none, [] => none

def readItem (known : List Flag) (argument : String) (rest : List String) :
    Option (Item × List String) :=
  match argument.toList with
  | ['-', '-'] => some (.endOfOptions, rest)
  | '-' :: '-' :: option => do
      let (name, attached) := match splitAtEquals option with
        | some (name, value) => (name, some value)
        | none => (option, none)
      readSetting (← known.find? (·.name = String.ofList name)) attached rest
  | '-' :: letter :: attached => do
      let flag ← known.find? (·.letter = some letter)
      match attached with
      | [] => readSetting flag none rest
      | '=' :: value => readSetting flag (some value) rest
      | value => readSetting flag (some value) rest
  | _ => some (.word argument, rest)

private theorem length_readSetting_le {flag : Flag} {attached : Option (List Char)}
    {rest after : List String} {item : Item}
    (found : readSetting flag attached rest = some (item, after)) :
    after.length ≤ rest.length := by
  unfold readSetting at found
  split at found
  · cases found
    exact Nat.le_refl _
  · split at found
    · cases found
    · cases found
      exact Nat.le_succ _
  · cases found

theorem length_readItem_le {known : List Flag} {argument : String} {rest after : List String}
    {item : Item} (found : readItem known argument rest = some (item, after)) :
    after.length ≤ rest.length := by
  unfold readItem at found
  split at found
  · cases found
    exact Nat.le_refl _
  · obtain ⟨flag, _, found⟩ := Option.bind_eq_some_iff.mp found
    exact length_readSetting_le found
  · obtain ⟨flag, _, found⟩ := Option.bind_eq_some_iff.mp found
    split at found <;> exact length_readSetting_le found
  · cases found
    exact Nat.le_refl _

structure Arguments where
  settings : List (Flag × String)
  words : List String
deriving DecidableEq, Repr

def Arguments.read? (known : List Flag) (arguments : List String) : Option Arguments :=
  match arguments with
  | [] => some ⟨[], []⟩
  | argument :: rest =>
      match found : readItem known argument rest with
      | none => none
      | some (.endOfOptions, after) => some ⟨[], after⟩
      | some (.setting flag value, after) => do
          have := length_readItem_le found
          let later ← Arguments.read? known after
          return { later with settings := (flag, value) :: later.settings }
      | some (.word text, after) => do
          have := length_readItem_le found
          let later ← Arguments.read? known after
          return { later with words := text :: later.words }
termination_by arguments.length

def Arguments.values (arguments : Arguments) (flag : Flag) : List String :=
  (arguments.settings.filter (·.1 = flag)).map (·.2)

/-! ## Commands -/

inductive Command where
  | compile (pattern : String) (groups : List (String × String))
  | resolve (file : String) (uris : List String)
deriving DecidableEq, Repr

def readGroup (text : String) : Option (String × String) :=
  (splitAtEquals text.toList).map fun (name, fragment) =>
    (String.ofList name, String.ofList fragment)

/-- The log level may be set once. It has no influence on what a command writes. -/
def setsLevelOnce (settings : List (Flag × String)) : Bool :=
  (settings.filter (·.1 = Flag.logLevel)).length ≤ 1

def readCompile (arguments : List String) : Option Command := do
  let arguments ← Arguments.read? [.logLevel, .group] arguments
  let groups ← (arguments.values .group).mapM readGroup
  match arguments.words with
  | [pattern] =>
      if setsLevelOnce arguments.settings then some (.compile pattern groups) else none
  | _ => none

def readResolve (arguments : List String) : Option Command := do
  let arguments ← Arguments.read? [.logLevel, .config] arguments
  match arguments.values .config, arguments.words with
  | [file], uri :: uris =>
      if setsLevelOnce arguments.settings ∧ file ≠ "" then some (.resolve file (uri :: uris))
      else none
  | _, _ => none

def readNamed (name : String) (arguments : List String) : Option Command :=
  match name with
  | "compile" => readCompile arguments
  | "match" => readResolve arguments
  | _ => none

/-- The command that the arguments ask for. The log level may be set before its name, and once
more after it. Help is no command here: to ask for it (`--help`, `-h`, `help`) is a misuse. -/
def Command.read? (arguments : List String) : Option Command :=
  match arguments with
  | [] => none
  | argument :: rest => do
      match ← readItem [.logLevel] argument rest with
      | (.word name, rest) => readNamed name rest
      | (.endOfOptions, _) => none
      | (.setting _ _, rest) =>
          match rest with
          | [] => none
          | argument :: rest =>
              match ← readItem [] argument rest with
              | (.word name, rest) => readNamed name rest
              | _ => none

end UriDispatch.CommandLine
