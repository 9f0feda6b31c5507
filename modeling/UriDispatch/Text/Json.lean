/-! JSON texts, on one line or laid out over several. Only the kinds of value that the library
writes are here. -/

namespace UriDispatch.Text

inductive Json where
  | null
  | string (text : String)
  | list (items : List Json)
  | object (members : List (String × Json))

namespace Json

/-! ## Strings -/

def hexadecimalDigit (value : Nat) : Char := Nat.digitChar value

/-- A character between quotation marks. Only what may not stand there as it is becomes an
escape, so that all other text stays readable. -/
def writeCharacter (character : Char) : List Char :=
  match character with
  | '"' => ['\\', '"']
  | '\\' => ['\\', '\\']
  | '\x08' => ['\\', 'b']
  | '\t' => ['\\', 't']
  | '\n' => ['\\', 'n']
  | '\x0c' => ['\\', 'f']
  | '\r' => ['\\', 'r']
  | other =>
      if other.toNat < 0x20 then
        ['\\', 'u', '0', '0', hexadecimalDigit (other.toNat / 16),
          hexadecimalDigit (other.toNat % 16)]
      else [other]

def writeString (text : String) : List Char :=
  '"' :: text.toList.flatMap writeCharacter ++ ['"']

/-! ## Values -/

/-- Where lines end inside lists and objects, by depth, and what stands between a key and its
value. Lists and objects without content are not broken up. -/
structure Layout where
  lineBreak : (depth : Nat) → List Char
  colon : List Char

def Layout.compact : Layout := ⟨fun _ => [], [':']⟩

def Layout.indented : Layout :=
  ⟨fun depth => '\n' :: List.replicate (2 * depth) ' ', [':', ' ']⟩

mutual
def write (layout : Layout) (depth : Nat) : Json → List Char
  | .null => ['n', 'u', 'l', 'l']
  | .string text => writeString text
  | .list [] => ['[', ']']
  | .list (first :: rest) =>
      '[' :: layout.lineBreak (depth + 1) ++ first.write layout (depth + 1) ++
        writeItems layout (depth + 1) rest ++ layout.lineBreak depth ++ [']']
  | .object [] => ['{', '}']
  | .object ((key, value) :: rest) =>
      '{' :: layout.lineBreak (depth + 1) ++ writeString key ++ layout.colon ++
        value.write layout (depth + 1) ++ writeMembers layout (depth + 1) rest ++
        layout.lineBreak depth ++ ['}']

def writeItems (layout : Layout) (depth : Nat) : List Json → List Char
  | [] => []
  | item :: rest =>
      ',' :: layout.lineBreak depth ++ item.write layout depth ++ writeItems layout depth rest

def writeMembers (layout : Layout) (depth : Nat) : List (String × Json) → List Char
  | [] => []
  | (key, value) :: rest =>
      ',' :: layout.lineBreak depth ++ writeString key ++ layout.colon ++
        value.write layout depth ++ writeMembers layout depth rest
end

def compact (value : Json) : String := String.ofList (value.write .compact 0)

def indented (value : Json) : String := String.ofList (value.write .indented 0)

private def example₁ : Json := .object [("names", .list [.string "a\n"]), ("uri", .null)]

example : example₁.compact = "\x7b\"names\":[\"a\\n\"],\"uri\":null\x7d" := by decide +kernel

example : (Json.list [.string "é", .list []]).indented = "[
  \"é\",
  []
]" := by decide +kernel

end Json

end UriDispatch.Text
