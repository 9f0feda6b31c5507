import UriDispatch.Unicode.Added
import UriDispatch.Unicode.Age
import UriDispatch.Unicode.BinaryProperty
import UriDispatch.Unicode.GeneralCategory
import UriDispatch.Unicode.Script
import UriDispatch.Unicode.ScriptExtension
import UriDispatch.Unicode.Segmentation

/-! Sets of characters by the name of a property, and the character classes built from them. -/

namespace UriDispatch.Unicode

/-! ## Classes -/

def digit : CharacterSet := decimalNumber

def word : CharacterSet :=
  .unions [alphabetic, mark, decimalNumber, connectorPunctuation, .ofTable "200c-200d"]

def isBlank (character : Char) : Bool := whiteSpace.contains character

example : isBlank '\u00a0' ∧ ¬isBlank '\u200b' := by decide

def isAlphabetic (character : Char) : Bool :=
  alphabetic.contains character || Added.alphabetic.contains character

def isAlphanumeric (character : Char) : Bool :=
  isAlphabetic character || number.contains character || Added.number.contains character

/-! ## Names

Case, blanks, hyphens and underscores in a property's name carry no meaning, and neither does
a leading `is`. -/

def foldName (letters : List Char) : List Char :=
  (letters.filter fun letter =>
    letter ≠ ' ' && letter ≠ '_' && letter ≠ '-' && letter.toNat < 0x80).map Char.toLower

/-- The form in which names are compared. The name `isc` is that of a property of its own. -/
def normalName (name : List Char) : String :=
  match name with
  | i :: s :: rest =>
      if i.toLower = 'i' ∧ s.toLower = 's' then
        if foldName rest = ['c'] then "isc" else String.ofList (foldName rest)
      else String.ofList (foldName name)
  | short => String.ofList (foldName short)

inductive LookupError where
  | unknownProperty
  | unknownValue
deriving DecidableEq, Repr

def find? {Value : Type} (name : String) (tables : List (List String × Value)) :
    Option Value :=
  (tables.find? fun entry => entry.1.contains name).map (·.2)

def contributoryProperties : List (List String × CharacterSet) :=
  [(["otheralphabetic", "oalpha"], alphabetic.difference (letter.union letterNumber)),
   (["othergraphemeextend", "ogrext"],
    graphemeExtend.difference (nonspacingMark.union enclosingMark)),
   (["otherlowercase", "olower"], lowercase.difference lowercaseLetter),
   (["othermath", "omath"], math.difference mathSymbol),
   (["otheruppercase", "oupper"], uppercase.difference uppercaseLetter)]

def binaryProperty? (name : String) : Option CharacterSet :=
  find? name [(["whitespace", "wspace", "space"], whiteSpace),
    (["alphabetic", "alpha"], alphabetic),
    (["graphemeextend", "grext"], graphemeExtend),
    (["lowercase", "lower"], lowercase),
    (["math"], math),
    (["uppercase", "upper"], uppercase)] <|>
  find? name contributoryProperties <|>
  (find? name propertyTables).map .ofTable

/-- The properties in the database that lead to no set here, whatever their value. -/
def otherProperties : List String :=
  ["bc", "bidiclass", "bidimirroringglyph", "bidipairedbracket", "bidipairedbrackettype", "blk",
    "block", "bmg", "bpb", "bpt", "canonicalcombiningclass", "casefolding", "ccc", "ce", "cf",
    "changeswhennfkccasefolded", "cjkaccountingnumeric", "cjkcompatibilityvariant", "cjkiicore",
    "cjkirggsource", "cjkirghsource", "cjkirgjsource", "cjkirgkpsource", "cjkirgksource",
    "cjkirgmsource", "cjkirgssource", "cjkirgtsource", "cjkirguksource", "cjkirgusource",
    "cjkirgvsource", "cjkothernumeric", "cjkprimarynumeric", "cjkrsunicode", "compex",
    "compositionexclusion", "cwkcf", "decompositionmapping", "decompositiontype", "dm", "dt",
    "ea", "eastasianwidth", "equideo", "equivalentunifiedideograph", "expandsonnfc",
    "expandsonnfd", "expandsonnfkc", "expandsonnfkd", "fcnfkc", "fcnfkcclosure",
    "fullcompositionexclusion", "hangulsyllabletype", "hst", "incb", "indicconjunctbreak",
    "indicpositionalcategory", "indicsyllabiccategory", "inpc", "insc", "isc", "jamoshortname",
    "jg", "joininggroup", "joiningtype", "jsn", "jt", "kaccountingnumeric",
    "kcompatibilityvariant", "kehcat", "kehdesc", "kehhg", "kehifao", "kehjsesh", "kehnomirror",
    "kehnorotate", "kiicore", "kirggsource", "kirghsource", "kirgjsource", "kirgkpsource",
    "kirgksource", "kirgmsource", "kirgssource", "kirgtsource", "kirguksource", "kirgusource",
    "kirgvsource", "kothernumeric", "kprimarynumeric", "krsunicode", "lb", "lc", "linebreak",
    "lowercasemapping", "na", "na1", "name", "namealias", "nfcqc", "nfcquickcheck", "nfdqc",
    "nfdquickcheck", "nfkccasefold", "nfkccf", "nfkcqc", "nfkcquickcheck", "nfkcscf",
    "nfkcsimplecasefold", "nfkdqc", "nfkdquickcheck", "nt", "numerictype", "numericvalue", "nv",
    "ocomment", "scf", "sfc", "simplecasefolding", "simplelowercasemapping",
    "simpletitlecasemapping", "simpleuppercasemapping", "slc", "stc", "suc", "tc",
    "titlecasemapping", "uc", "unicode1name", "unicoderadicalstroke", "uppercasemapping", "urs",
    "verticalorientation", "vo", "xonfc", "xonfd", "xonfkc", "xonfkd"]

def ascii : CharacterSet := ⟨[⟨0, 0x7F⟩]⟩

def wideCategories : List (List String × CharacterSet) :=
  [(["any"], .full), (["ascii"], ascii), (["assigned"], unassigned.complement)]

def category? (name : String) : Option (Except LookupError CharacterSet) :=
  if name = "cs" ∨ name = "surrogate" then some (.error .unknownValue)
  else (find? name (wideCategories ++ generalCategories)).map .ok

/-- The names of scripts to which no character belongs by its property alone. -/
def unlistedScripts : List String := ["unknown", "zzzz", "katakanaorhiragana", "hrkt"]

def script? (name : String) : Option CharacterSet :=
  (find? name scriptTables).map .ofTable

def scriptExtension? (name : String) : Option CharacterSet :=
  (find? name scriptExtensionTables).map .ofTable <|> script? name

def edition? (name : String) : List (List String × String) → Option CharacterSet
  | [] => none
  | (names, table) :: later =>
      if names.contains name then some (.ofTable table)
      else (edition? name later).map (CharacterSet.ofTable table).union

/-- The set for a property, a category or a script given by its name alone. A name that is
both a category's and a property's abbreviation is the category's. -/
def byName (name : List Char) : Except LookupError CharacterSet :=
  let name := normalName name
  match binaryProperty? name with
  | some set => .ok set
  | none =>
      match category? name with
      | some found => found
      | none =>
          match script? name with
          | some set => .ok set
          | none =>
              .error (if unlistedScripts.contains name then .unknownValue else .unknownProperty)

def orUnknownValue : Option CharacterSet → Except LookupError CharacterSet
  | some set => .ok set
  | none => .error .unknownValue

def byValue (property value : List Char) : Except LookupError CharacterSet :=
  let value := normalName value
  match normalName property with
  | "gc" | "generalcategory" => (category? value).getD (.error .unknownValue)
  | "sc" | "script" => orUnknownValue (script? value)
  | "scx" | "scriptextensions" => orUnknownValue (scriptExtension? value)
  | "age" => orUnknownValue (edition? value ageTables)
  | "gcb" | "graphemeclusterbreak" =>
      orUnknownValue ((find? value graphemeBreakTables).map .ofTable)
  | "wb" | "wordbreak" => orUnknownValue ((find? value wordBreakTables).map .ofTable)
  | "sb" | "sentencebreak" => orUnknownValue ((find? value sentenceBreakTables).map .ofTable)
  | name =>
      if (binaryProperty? name).isSome || otherProperties.contains name then .error .unknownValue
      else .error .unknownProperty

end UriDispatch.Unicode
