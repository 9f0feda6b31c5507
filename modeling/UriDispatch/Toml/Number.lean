import UriDispatch.Text.Digit
import UriDispatch.Text.Reading
import UriDispatch.Toml.Value

/-! The numbers of a TOML document, and its dates and times, which begin like numbers. -/

namespace UriDispatch.Toml

open Text (digitValue?)

/-! ## Digits -/

private def takeGroups (base : Nat) : List Char → List Nat × List Char
  | [] => ([], [])
  | '_' :: digit :: rest =>
      match digitValue? base digit with
      | some value =>
          let (digits, after) := takeGroups base rest
          (value :: digits, after)
      | none => ([], '_' :: digit :: rest)
  | digit :: rest =>
      match digitValue? base digit with
      | some value =>
          let (digits, after) := takeGroups base rest
          (value :: digits, after)
      | none => ([], digit :: rest)

private def takeDigits? (base : Nat) (input : List Char) : Option (List Nat × List Char) :=
  match input with
  | [] => none
  | first :: _ => (digitValue? base first).map fun _ => takeGroups base input

private def natural (base : Nat) (digits : List Nat) : Nat :=
  digits.foldl (fun value digit => base * value + digit) 0

/-! ## Integers -/

private def takeSign (input : List Char) : Option Bool × List Char :=
  match input with
  | '+' :: rest => (some false, rest)
  | '-' :: rest => (some true, rest)
  | other => (none, other)

private def takeInteger? (input : List Char) : Option (List Nat × List Char) :=
  match input with
  | '0' :: rest => some ([0], rest)
  | other => takeDigits? 10 other

private def integer? (negative : Bool) (magnitude : Nat) : Option Value :=
  if negative then if magnitude ≤ 0x8000000000000000 then some (.integer (-magnitude)) else none
  else if magnitude < 0x8000000000000000 then some (.integer magnitude) else none

private def takeRadix? (base : Nat) (input : List Char) : Option (Value × List Char) := do
  let (digits, rest) ← takeDigits? base input
  return (← integer? false (natural base digits), rest)

private def takeIntegerValue? (input : List Char) : Option (Value × List Char) :=
  match input with
  | '0' :: 'x' :: digits => takeRadix? 16 digits
  | '0' :: 'o' :: digits => takeRadix? 8 digits
  | '0' :: 'b' :: digits => takeRadix? 2 digits
  | other => do
      let (sign, unsigned) := takeSign other
      let (digits, rest) ← takeInteger? unsigned
      return (← integer? (sign.getD false) (natural 10 digits), rest)

/-! ## Floats -/

private def takeFraction? (input : List Char) : Option (List Nat × List Char) :=
  match input with
  | '.' :: rest => takeDigits? 10 rest
  | _ => none

private def takeExponent? (input : List Char) : Option (Int × List Char) :=
  match input with
  | mark :: rest =>
      if mark = 'e' ∨ mark = 'E' then do
        let (sign, unsigned) := takeSign rest
        let (digits, after) ← takeDigits? 10 unsigned
        let magnitude := natural 10 digits
        return (if sign = some true then -magnitude else magnitude, after)
      else none
  | [] => none

/-- A float with a fraction or an exponent or both. One that is too large is malformed, unless it
is negative. -/
private def takeDecimalFloat? (input : List Char) : Option (Value × List Char) := do
  let (sign, unsigned) := takeSign input
  let (whole, afterWhole) ← takeInteger? unsigned
  let (fraction, afterFraction) ← match takeFraction? afterWhole with
    | some found => some found
    | none => (takeExponent? afterWhole).map fun _ => ([], afterWhole)
  let (exponent, rest) := (takeExponent? afterFraction).getD (0, afterFraction)
  let number := Binary64.ofDecimal (sign = some true) (natural 10 (whole ++ fraction))
    (exponent - fraction.length)
  if number = .infinity false then none else return (.float number, rest)

private def takeSpecialFloat? (input : List Char) : Option (Value × List Char) :=
  let (sign, unsigned) := takeSign input
  match unsigned with
  | 'i' :: 'n' :: 'f' :: rest => some (.float (.infinity (sign = some true)), rest)
  | 'n' :: 'a' :: 'n' :: rest => some (.float .notANumber, rest)
  | _ => none

/-! ## Dates and times -/

private def takeField? (count least most : Nat) (input : List Char) : Option (Nat × List Char) := do
  let digits ← (input.take count).mapM (digitValue? 10)
  let value := natural 10 digits
  if digits.length = count ∧ least ≤ value ∧ value ≤ most then return (value, input.drop count)
  else none

private def takeMark? (mark : Char) (input : List Char) : Option (List Char) :=
  match input with
  | head :: rest => if head = mark then some rest else none
  | [] => none

private def daysIn (year month : Nat) : Nat :=
  if month = 2 then if year % 4 = 0 ∧ (year % 100 ≠ 0 ∨ year % 400 = 0) then 29 else 28
  else if month = 4 ∨ month = 6 ∨ month = 9 ∨ month = 11 then 30
  else 31

private def takeDate? (input : List Char) : Option (Date × List Char) := do
  let (year, rest) ← takeField? 4 0 9999 input
  let (month, rest) ← takeField? 2 1 12 (← takeMark? '-' rest)
  let (day, rest) ← takeField? 2 1 (daysIn year month) (← takeMark? '-' rest)
  return (⟨year, month, day⟩, rest)

/-- The first nine digits of a fraction are nanoseconds; the others are dropped. -/
private def takeNanoseconds? (input : List Char) : Option (Nat × List Char) := do
  let rest ← takeMark? '.' input
  let digits := rest.takeWhile Char.isDigit
  if digits.isEmpty then none
  let places := digits.filterMap (digitValue? 10) ++ List.replicate 9 0
  return (natural 10 (places.take 9), rest.dropWhile Char.isDigit)

private def takeTime? (input : List Char) : Option (Time × List Char) := do
  let (hour, rest) ← takeField? 2 0 23 input
  let (minute, rest) ← takeField? 2 0 59 (← takeMark? ':' rest)
  let (second, rest) ← takeField? 2 0 60 (← takeMark? ':' rest)
  let (nanosecond, rest) := (takeNanoseconds? rest).getD (0, rest)
  return (⟨hour, minute, second, nanosecond⟩, rest)

private def takeOffset? (input : List Char) : Option (Offset × List Char) :=
  match input with
  | [] => none
  | mark :: rest =>
      if mark = 'Z' ∨ mark = 'z' then some (.universal, rest)
      else if mark = '+' ∨ mark = '-' then do
        let (hours, rest) ← takeField? 2 0 23 rest
        let (minutes, rest) ← takeField? 2 0 59 (← takeMark? ':' rest)
        return (.minutes (mark = '-') (60 * hours + minutes), rest)
      else none

private def takeTimeOfDate? (input : List Char) :
    Option (Time × Option Offset × List Char) :=
  match input with
  | mark :: rest =>
      if mark = 'T' ∨ mark = 't' ∨ mark = ' ' then do
        let (time, rest) ← takeTime? rest
        match takeOffset? rest with
        | some (offset, rest) => return (time, some offset, rest)
        | none => return (time, none, rest)
      else none
  | [] => none

private def takeMoment? (input : List Char) : Option (Moment × List Char) :=
  match takeDate? input with
  | some (date, rest) =>
      match takeTimeOfDate? rest with
      | some (time, offset, rest) => some (.dateTime date time offset, rest)
      | none => some (.date date, rest)
  | none => (takeTime? input).map fun (time, rest) => (.time time, rest)

private def takeNumber? (input : List Char) : Option (Value × List Char) :=
  (takeMoment? input).map (fun (moment, rest) => (.moment moment, rest)) <|>
  takeDecimalFloat? input <|> takeSpecialFloat? input <|> takeIntegerValue? input

def readNumber (input : List Char) : Option (Reading input Value) :=
  match takeNumber? input with
  | some (value, rest) =>
      if shorter : rest.length < input.length then some ⟨value, rest, shorter⟩ else none
  | none => none

end UriDispatch.Toml
