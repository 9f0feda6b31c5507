/-! Digits, and characters by the numbers that are written for them. -/

namespace UriDispatch.Text

/-- The value of a digit to a base of at most 16. Letters of either case stand for ten and more. -/
def digitValue? (base : Nat) (digit : Char) : Option Nat :=
  let value? :=
    if '0' ≤ digit ∧ digit ≤ '9' then some (digit.toNat - '0'.toNat)
    else if 'a' ≤ digit ∧ digit ≤ 'f' then some (digit.toNat - 'a'.toNat + 10)
    else if 'A' ≤ digit ∧ digit ≤ 'F' then some (digit.toNat - 'A'.toNat + 10)
    else none
  value?.filter (· < base)

example : digitValue? 16 'F' = some 15 ∧ digitValue? 8 '9' = none := by decide

def character? (code : Nat) : Option Char :=
  if code.isValidChar then some (Char.ofNat code) else none

theorem character?_toNat (character : Char) : character? character.toNat = some character := by
  have valid : character.toNat.isValidChar := character.valid
  rw [character?, if_pos valid, Char.ofNat_toNat]

end UriDispatch.Text
