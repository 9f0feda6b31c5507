/-! Reading from the front of a text. A reader is given the text that is left and returns what
it found together with a shorter rest, so that readers which call each other end. -/

namespace UriDispatch

structure Reading (input : List Char) (Value : Type) where
  value : Value
  rest : List Char
  shorter : rest.length < input.length

theorem length_lt_cons (head : Char) (tail : List Char) : tail.length < (head :: tail).length :=
  Nat.lt_succ_self tail.length

theorem length_le_cons (head : Char) (tail : List Char) : tail.length ≤ (head :: tail).length :=
  Nat.le_succ tail.length

theorem length_le_cons_of_le (head : Char) {rest tail : List Char}
    (fits : rest.length ≤ tail.length) : rest.length ≤ (head :: tail).length :=
  Nat.le_trans fits (length_le_cons head tail)

namespace Reading

variable {input : List Char} {Value Other : Type}

def ofHead (head : Char) (rest : List Char) (value : Value) : Reading (head :: rest) Value :=
  ⟨value, rest, length_lt_cons head rest⟩

def map (transform : Value → Other) (reading : Reading input Value) : Reading input Other :=
  ⟨transform reading.value, reading.rest, reading.shorter⟩

def widen {tail : List Char} (reading : Reading tail Value)
    (fits : tail.length ≤ input.length) : Reading input Value :=
  ⟨reading.value, reading.rest, Nat.lt_of_lt_of_le reading.shorter fits⟩

def after {tail : List Char} (head : Char) (reading : Reading tail Value) :
    Reading (head :: tail) Value :=
  reading.widen (length_le_cons head tail)

end Reading

theorem length_dropWhile_le {Value : Type} (keep : Value → Bool) (values : List Value) :
    (values.dropWhile keep).length ≤ values.length :=
  (List.dropWhile_suffix keep).length_le

end UriDispatch
