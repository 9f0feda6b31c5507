import UriDispatch.Unicode.Added
import UriDispatch.Unicode.BinaryProperty
import UriDispatch.Unicode.GeneralCategory

/-! Text between quotation marks in which everything can be seen: what would not show, or would
join with the character before it, is written as an escape. -/

namespace UriDispatch.Text

private def joining : CharacterSet :=
  (Unicode.graphemeExtend.union Unicode.Added.graphemeExtend).difference (.ofTable "ff9e-ff9f")

private def fillers : CharacterSet := .ofTable "115f-1160 3164 ffa0"

/-- The characters without a shape of their own. A blank is the only separator that counts as
having one. -/
private def invisible : CharacterSet :=
  .unions [Unicode.control, Unicode.formatControl, Unicode.privateUse,
    Unicode.unassigned.difference Unicode.Added.assigned, Unicode.lineSeparator,
    Unicode.paragraphSeparator, Unicode.spaceSeparator.difference (.singleton ' '), joining,
    fillers]

private def hexadecimal (code : Nat) : List Char := Nat.toDigits 16 code

def quotedCharacter (character : Char) : List Char :=
  match character with
  | '\x00' => ['\\', '0']
  | '\t' => ['\\', 't']
  | '\r' => ['\\', 'r']
  | '\n' => ['\\', 'n']
  | '"' => ['\\', '"']
  | '\\' => ['\\', '\\']
  | other =>
      if invisible.contains other then
        '\\' :: 'u' :: '{' :: hexadecimal other.toNat ++ ['}']
      else [other]

def quoted (text : String) : String :=
  String.ofList ('"' :: text.toList.flatMap quotedCharacter ++ ['"'])

def quotedList (texts : List String) : String :=
  "[" ++ ", ".intercalate (texts.map quoted) ++ "]"

end UriDispatch.Text
