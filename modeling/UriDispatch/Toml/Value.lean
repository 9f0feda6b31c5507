import UriDispatch.Binary64

/-! The values of a TOML document. Tables remember how they came to be, since that decides how
later parts of a document may add to them. -/

namespace UriDispatch.Toml

structure Date where
  year : Nat
  month : Nat
  day : Nat
deriving DecidableEq, Repr

structure Time where
  hour : Nat
  minute : Nat
  second : Nat
  nanosecond : Nat
deriving DecidableEq, Repr

inductive Offset where
  | universal
  | minutes (behind : Bool) (count : Nat)
deriving DecidableEq, Repr

inductive Moment where
  | date (day : Date)
  | time (clock : Time)
  | dateTime (day : Date) (clock : Time) (offset : Option Offset)
deriving DecidableEq, Repr

/-- A table in braces is closed. One under a header of its own is complete, but headers may lead
through it. One that a header or a dotted key only passes through may be added to later. -/
inductive Origin where
  | braces
  | header
  | passedByHeader
  | dotted
deriving DecidableEq, Repr

/-- Only an array that is made of headers can grow. -/
inductive Value where
  | string (text : String)
  | integer (value : Int)
  | float (value : Binary64)
  | boolean (value : Bool)
  | moment (value : Moment)
  | array (growing : Bool) (items : List Value)
  | table (origin : Origin) (entries : List (String × Value))

/-! ## Moments as text -/

private def padded (width value : Nat) : String :=
  let digits := toString value
  String.ofList (List.replicate (width - digits.length) '0') ++ digits

def Date.text (date : Date) : String :=
  padded 4 date.year ++ "-" ++ padded 2 date.month ++ "-" ++ padded 2 date.day

def Time.text (time : Time) : String :=
  let fraction :=
    if time.nanosecond = 0 then ""
    else "." ++ String.ofList
      ((padded 9 time.nanosecond).toList.reverse.dropWhile (· = '0')).reverse
  padded 2 time.hour ++ ":" ++ padded 2 time.minute ++ ":" ++ padded 2 time.second ++ fraction

def Offset.text : Offset → String
  | .universal => "Z"
  | .minutes behind count =>
      (if behind ∧ count ≠ 0 then "-" else "+") ++ padded 2 (count / 60) ++ ":" ++
        padded 2 (count % 60)

def Moment.text : Moment → String
  | .date day => day.text
  | .time clock => clock.text
  | .dateTime day clock offset =>
      day.text ++ "T" ++ clock.text ++ (offset.map Offset.text).getD ""

end UriDispatch.Toml
