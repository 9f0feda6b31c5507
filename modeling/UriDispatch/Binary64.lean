/-! Numbers in binary floating point with 53 significant bits: the nearest one to a decimal, and
the shortest decimal that leads back to it. All is worked out with natural numbers. -/

namespace UriDispatch

/-- A finite number is its mantissa times a power of two. -/
inductive Binary64 where
  | notANumber
  | infinity (negative : Bool)
  | finite (negative : Bool) (mantissa : Nat) (exponent : Int)
deriving DecidableEq, Repr

namespace Binary64

private structure Ratio where
  numerator : Nat
  denominator : Nat

namespace Ratio

private def scale (ratio : Ratio) (base : Nat) (exponent : Int) : Ratio :=
  if 0 ≤ exponent then ⟨ratio.numerator * Nat.pow base exponent.toNat, ratio.denominator⟩
  else ⟨ratio.numerator, ratio.denominator * Nat.pow base (-exponent).toNat⟩

private def le (left right : Ratio) : Bool :=
  left.numerator * right.denominator ≤ right.numerator * left.denominator

private def lt (left right : Ratio) : Bool := !right.le left

private def roundToEven (ratio : Ratio) : Nat :=
  let floor := ratio.numerator / ratio.denominator
  let twice := 2 * (ratio.numerator % ratio.denominator)
  if twice < ratio.denominator then floor
  else if twice = ratio.denominator ∧ floor % 2 = 0 then floor
  else floor + 1

private def decimalExponent (ratio : Ratio) : Int :=
  if ratio.denominator ≤ ratio.numerator then
    (Nat.toDigits 10 (ratio.numerator / ratio.denominator)).length - 1
  else
    -(search 400 1 : Nat)
where
  search : (rounds power : Nat) → Nat
    | 0, power => power
    | rounds + 1, power =>
        if ratio.denominator ≤ ratio.numerator * Nat.pow 10 power then power
        else search rounds (power + 1)

end Ratio

/-! ## From decimals -/

private def leastExponent : Int := -1074

private def greatestExponent : Int := 971

private def leastMantissa : Nat := 0x10000000000000

private def ofRatio (negative : Bool) (ratio : Ratio) : Binary64 :=
  let bits : Int := (ratio.numerator.log2 : Int) - ratio.denominator.log2
  let first := max (bits - 53) leastExponent
  let exponent :=
    if (ratio.scale 2 (-first)).roundToEven < 2 * leastMantissa then first else first + 1
  let mantissa := (ratio.scale 2 (-exponent)).roundToEven
  let (mantissa, exponent) :=
    if mantissa = 2 * leastMantissa then (leastMantissa, exponent + 1) else (mantissa, exponent)
  if greatestExponent < exponent then .infinity negative
  else .finite negative mantissa exponent

def ofDecimal (negative : Bool) (digits : Nat) (exponent : Int) : Binary64 :=
  let magnitude := exponent + (Nat.toDigits 10 digits).length
  if digits = 0 ∨ magnitude < -400 then .finite negative 0 leastExponent
  else if 400 < magnitude then .infinity negative
  else ofRatio negative (Ratio.scale ⟨digits, 1⟩ 10 exponent)

/-! ## To decimals -/

/-- The shortest digits and their exponent that lead back to a positive number: of two neighbours
with equally many digits, the nearer one. -/
private def shortest (mantissa : Nat) (exponent : Int) : Nat × Int :=
  let value := Ratio.scale ⟨mantissa, 1⟩ 2 exponent
  let above := Ratio.scale ⟨2 * mantissa + 1, 1⟩ 2 (exponent - 1)
  let below :=
    if mantissa = leastMantissa ∧ leastExponent < exponent then
      Ratio.scale ⟨4 * mantissa - 1, 1⟩ 2 (exponent - 2)
    else Ratio.scale ⟨2 * mantissa - 1, 1⟩ 2 (exponent - 1)
  let leadsBack (digits : Nat) (power : Int) : Bool :=
    let decimal := Ratio.scale ⟨digits, 1⟩ 10 power
    if mantissa % 2 = 0 then below.le decimal && decimal.le above
    else below.lt decimal && decimal.lt above
  let attempt (count : Nat) : Option (Nat × Int) :=
    let power := value.decimalExponent - count + 1
    let scaled := value.scale 10 (-power)
    let floor := scaled.numerator / scaled.denominator
    let upIsNearer := scaled.denominator ≤ 2 * (scaled.numerator % scaled.denominator)
    let up := if floor + 1 = Nat.pow 10 count then (1, power + count) else (floor + 1, power)
    match leadsBack floor power, leadsBack (floor + 1) power with
    | true, true => some (if upIsNearer then up else (floor, power))
    | true, false => some (floor, power)
    | false, true => some up
    | false, false => none
  ((List.range' 1 17).findSome? attempt).getD (mantissa, exponent)

private def positional (digits : Nat) (power : Int) : String :=
  let text := toString digits
  if 0 ≤ power then text ++ String.ofList (List.replicate power.toNat '0') ++ ".0"
  else
    let places := (-power).toNat
    let padded := List.replicate (places + 1 - text.length) '0' ++ text.toList
    let whole := padded.take (padded.length - places)
    let part := padded.drop (padded.length - places)
    String.ofList (whole ++ '.' :: part)

def text : Binary64 → String
  | .notANumber => "NaN"
  | .infinity negative => if negative then "-inf" else "inf"
  | .finite negative mantissa exponent =>
      let sign := if negative then "-" else ""
      if mantissa = 0 then sign ++ "0.0"
      else
        let (digits, power) := shortest mantissa exponent
        sign ++ positional digits power

end Binary64

end UriDispatch
