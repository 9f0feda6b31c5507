import UriDispatch.Regex.Parser

/-! What the readers take. For each part of a regular expression there is a relation of the ways to
write it, with what it stands for and what is left behind it; the reader finds this and nothing
else. Whatever holds of a reader is then a matter of these few ways, not of the order in which they
are tried. -/

namespace UriDispatch.Regex

/-! ## Readings -/

theorem ok_of_bind {Error Found Value : Type} {first : Except Error Found}
    {next : Found → Except Error Value} {value : Value} (found : (first >>= next) = .ok value) :
    ∃ inner, first = .ok inner ∧ next inner = .ok value := by
  cases first with
  | error => cases found
  | ok inner => exact ⟨inner, rfl, found⟩

theorem ok_of_map {Error Found Value : Type} {first : Except Error Found}
    {transform : Found → Value} {value : Value} (found : first.map transform = .ok value) :
    ∃ inner, first = .ok inner ∧ transform inner = value := by
  cases first with
  | error => cases found
  | ok inner => exact ⟨inner, rfl, Except.ok.inj found⟩

theorem rest_of_map {Value Other : Type} {input : List Char} {transform : Value → Other}
    {read : Read input Value} {reading : Reading input Other}
    (found : Except.map (·.map transform) read = .ok reading) :
    ∃ inner, read = .ok inner ∧ reading = inner.map transform := by
  cases read with
  | error => cases found
  | ok inner =>
      cases found
      exact ⟨inner, rfl, rfl⟩

theorem rest_of_widen {Value : Type} {input tail : List Char} {read : Read tail Value}
    {fits : tail.length ≤ input.length} {reading : Reading input Value}
    (found : read.widen fits = .ok reading) :
    ∃ inner, read = .ok inner ∧ reading = inner.widen fits := by
  cases read with
  | error => cases found
  | ok inner =>
      cases found
      exact ⟨inner, rfl, rfl⟩

theorem ofHead_of_map {Value : Type} {head : Char} {tail : List Char} {read : Except Fault Value}
    {reading : Reading (head :: tail) Value}
    (found : read.map (Reading.ofHead head tail) = .ok reading) :
    ∃ value, read = .ok value ∧ reading = .ofHead head tail value := by
  cases read with
  | error => cases found
  | ok value =>
      cases found
      exact ⟨value, rfl, rfl⟩

def Reads {input : List Char} {Value : Type} (read : Read input Value) (value : Value)
    (rest : List Char) : Prop :=
  ∃ reading, read = .ok reading ∧ reading.value = value ∧ reading.rest = rest

def Leaves {input : List Char} {Value : Type}
    (read : Except Fault (Value × { rest : List Char // rest.length ≤ input.length }))
    (value : Value) (rest : List Char) : Prop :=
  ∃ fits, read = .ok (value, ⟨rest, fits⟩)

theorem Reads.unique {input : List Char} {Value : Type} {read : Read input Value} {value : Value}
    {rest : List Char} {reading : Reading input Value} (reads : Reads read value rest)
    (found : read = .ok reading) : reading.value = value ∧ reading.rest = rest := by
  rcases reads with ⟨other, equal, rfl, rfl⟩
  cases found.symm.trans equal
  exact ⟨rfl, rfl⟩

theorem Reads.map {input : List Char} {Value Other : Type} {read : Read input Value}
    {value : Value} {rest : List Char} (reads : Reads read value rest)
    (transform : Value → Other) :
    Reads (Except.map (·.map transform) read : Read input Other) (transform value) rest := by
  rcases reads with ⟨reading, rfl, rfl, rfl⟩
  exact ⟨_, rfl, rfl, rfl⟩

theorem Reads.widen {input tail : List Char} {Value : Type} {read : Read tail Value} {value : Value}
    {rest : List Char} (reads : Reads read value rest) (fits : tail.length ≤ input.length) :
    Reads (read.widen fits : Read input Value) value rest := by
  rcases reads with ⟨reading, rfl, rfl, rfl⟩
  exact ⟨reading.widen fits, rfl, rfl, rfl⟩

/-! ## Counts -/

inductive CountEnd (verbose : Bool) (count : Count) :
    List Char → Count × Bool → List Char → Prop where
  | greedy {tail rest : List Char} (shape : skip verbose tail = rest)
      (notLazy : rest.head? ≠ some '?') (ordered : count.most.all (count.least ≤ ·)) :
      CountEnd verbose count ('}' :: tail) (count, true) rest
  | lazy {tail rest : List Char} (shape : skip verbose tail = '?' :: rest)
      (ordered : count.most.all (count.least ≤ ·)) :
      CountEnd verbose count ('}' :: tail) (count, false) rest

theorem CountEnd.brace {verbose : Bool} {input rest : List Char} {count : Count}
    {value : Count × Bool} (ends : CountEnd verbose count input value rest) :
    ∃ tail, input = '}' :: tail := by
  cases ends with
  | greedy | lazy => exact ⟨_, rfl⟩

theorem countEnd_of_closeCount {verbose : Bool} {opening input : List Char} {count : Count}
    {reading : Reading input (Count × Bool)}
    (found : closeCount verbose opening count input = .ok reading) :
    CountEnd verbose count input reading.value reading.rest := by
  unfold closeCount at found
  split at found
  · split at found
    · next shape =>
        split at found
        · next ordered =>
            cases found
            exact .lazy shape ordered
        · cases found
    · next notLazy =>
        split at found
        · next ordered =>
            cases found
            refine .greedy rfl (fun mark => ?_) ordered
            rcases List.head?_eq_some_iff.mp mark with ⟨after, shape⟩
            exact notLazy after shape
        · cases found
  · cases found

theorem closeCount_of_countEnd {verbose : Bool} {input rest : List Char} {count : Count}
    {value : Count × Bool} (ends : CountEnd verbose count input value rest)
    (opening : List Char) : Reads (closeCount verbose opening count input) value rest := by
  cases ends with
  | greedy shape notLazy ordered =>
      rw [closeCount]
      split
      · next equal =>
          rw [← shape, equal] at notLazy
          exact absurd rfl notLazy
      · rw [if_pos ordered]
        exact ⟨_, rfl, rfl, shape⟩
  | lazy shape ordered =>
      rw [closeCount]
      split
      · next equal =>
          cases shape.symm.trans equal
          rw [if_pos ordered]
          exact ⟨_, rfl, rfl, rfl⟩
      · next notLazy => exact (notLazy _ shape).elim

inductive Counts (verbose : Bool) : List Char → Count × Bool → List Char → Prop where
  | exactly {input after rest : List Char} {exactly : Nat} {value : Count × Bool}
      (first : readDecimal verbose (skip verbose input) = (.ok exactly, '}' :: after))
      (closes : CountEnd verbose ⟨exactly, some exactly⟩ ('}' :: after) value rest) :
      Counts verbose input value rest
  | atLeast {input afterComma after rest : List Char} {least : Nat} {value : Count × Bool}
      (first : readDecimal verbose (skip verbose input) = (.ok least, ',' :: afterComma))
      (ends : skip verbose afterComma = '}' :: after)
      (closes : CountEnd verbose ⟨least, none⟩ ('}' :: after) value rest) :
      Counts verbose input value rest
  | between {input afterComma after rest : List Char} {least most : Nat} {value : Count × Bool}
      (first : readDecimal verbose (skip verbose input) = (.ok least, ',' :: afterComma))
      (second : readDecimal verbose (skip verbose afterComma) = (.ok most, '}' :: after))
      (closes : CountEnd verbose ⟨least, some most⟩ ('}' :: after) value rest) :
      Counts verbose input value rest

theorem counts_of_readCount {verbose : Bool} {opening input : List Char}
    {reading : Reading input (Count × Bool)}
    (found : readCount verbose opening input = .ok reading) :
    Counts verbose input reading.value reading.rest := by
  unfold readCount at found
  split at found
  · cases found
  · next head tail equal =>
      split at found
      · cases found
      · next least afterComma first =>
          rw [← equal] at first
          split at found
          · cases found
          · next after ends =>
              split at found
              · cases found
              · rcases rest_of_widen found with ⟨inner, closes, rfl⟩
                exact .atLeast first ends (countEnd_of_closeCount closes)
          · next next rest _ equal =>
              split at found
              · cases found
              · split at found
                · cases found
                · next after second =>
                    rw [← equal] at second
                    rcases rest_of_widen found with ⟨inner, read, rfl⟩
                    have closes := countEnd_of_closeCount read
                    rcases closes.brace with ⟨after, rfl⟩
                    exact .between first second closes
      · cases found
      · next exactly after _ _ first =>
          rw [← equal] at first
          rcases rest_of_widen found with ⟨inner, read, rfl⟩
          have closes := countEnd_of_closeCount read
          rcases closes.brace with ⟨after, rfl⟩
          exact .exactly first closes

theorem readDecimal_nonempty {verbose : Bool} {input rest : List Char} {value : Nat}
    (found : readDecimal verbose input = (.ok value, rest)) : input ≠ [] := by
  rintro rfl
  simp [readDecimal, takeDigits, fail] at found

theorem readDecimal_other {verbose : Bool} {mark : Char} {input rest : List Char} {value : Nat}
    (notBlank : Unicode.isBlank mark = false) (notDigit : isDecimal mark = false) :
    readDecimal verbose (mark :: input) ≠ (.ok value, rest) := by
  simp [readDecimal, takeDigits, notBlank, notDigit, fail]

theorem readCount_of_counts {verbose : Bool} {input rest : List Char} {value : Count × Bool}
    (counts : Counts verbose input value rest) (opening : List Char) :
    Reads (readCount verbose opening input) value rest := by
  cases counts with
  | exactly first closes =>
      rcases List.exists_cons_of_ne_nil (readDecimal_nonempty first) with ⟨head, tail, start⟩
      rw [start] at first
      rw [readCount]
      split
      · next equal => cases start.symm.trans equal
      · next equal =>
          cases start.symm.trans equal
          split
          · next other => cases first.symm.trans other
          · next other => cases first.symm.trans other
          · next other => cases first.symm.trans other
          · next other =>
              cases first.symm.trans other
              exact (closeCount_of_countEnd closes opening).widen _
  | atLeast first ends closes =>
      rcases List.exists_cons_of_ne_nil (readDecimal_nonempty first) with ⟨head, tail, start⟩
      rw [start] at first
      rw [readCount]
      split
      · next equal => cases start.symm.trans equal
      · next equal =>
          cases start.symm.trans equal
          split
          · next other => cases first.symm.trans other
          · next other =>
              cases first.symm.trans other
              split
              · next equal => cases ends.symm.trans equal
              · next equal =>
                  cases ends.symm.trans equal
                  exact (closeCount_of_countEnd closes opening).widen _
              · next notBrace equal =>
                  cases ends.symm.trans equal
                  exact (notBrace rfl).elim
          · next other => cases first.symm.trans other
          · next notComma other =>
              cases first.symm.trans other
              exact absurd rfl (notComma _)
  | between first second closes =>
      rcases List.exists_cons_of_ne_nil (readDecimal_nonempty first) with ⟨head, tail, start⟩
      rcases List.exists_cons_of_ne_nil (readDecimal_nonempty second) with ⟨next, others, middle⟩
      rw [start] at first
      rw [middle] at second
      rw [readCount]
      split
      · next equal => cases start.symm.trans equal
      · next equal =>
          cases start.symm.trans equal
          split
          · next other => cases first.symm.trans other
          · next other =>
              cases first.symm.trans other
              split
              · next equal => cases middle.symm.trans equal
              · next equal =>
                  cases middle.symm.trans equal
                  exact absurd second (readDecimal_other (by decide) (by decide))
              · next equal =>
                  cases middle.symm.trans equal
                  simp only
                  split
                  · next other => cases second.symm.trans other
                  · next other =>
                      cases second.symm.trans other
                      exact (closeCount_of_countEnd closes opening).widen _
          · next other => cases first.symm.trans other
          · next notComma other =>
              cases first.symm.trans other
              exact absurd rfl (notComma _)

/-! ## Parts in braces -/

inductive Braced (verbose : Bool) (isInside : Char → Bool) :
    List Char → List Char → List Char → Prop where
  | closing {input rest : List Char} (shape : skip verbose input = '}' :: rest) :
      Braced verbose isInside input [] rest
  | more {input tail inside rest : List Char} {character : Char}
      (shape : skip verbose input = character :: tail) (goesOn : character ≠ '}')
      (holds : isInside character) (behind : Braced verbose isInside tail inside rest) :
      Braced verbose isInside input (character :: inside) rest

theorem braced_of_readBracedDigits {verbose : Bool} {opening digits input value : List Char}
    {closing : { rest : List Char // rest.length ≤ input.length }}
    (found : readBracedDigits verbose opening digits input = .ok (value, closing)) :
    ∃ inside rest, Braced verbose isHexadecimal input inside rest ∧
      value = digits.reverse ++ inside ∧ closing.val = '}' :: rest := by
  fun_induction readBracedDigits verbose opening digits input generalizing value with
  | case1 => cases found
  | case2 digits input rest shape =>
      cases found
      exact ⟨[], rest, .closing shape, (List.append_nil _).symm, rfl⟩
  | case3 => cases found
  | case4 digits input digit tail shape _ goesOn isDigit value after fits read induction =>
      cases found
      rcases induction read with ⟨inside, rest, braced, rfl, ends⟩
      exact ⟨digit :: inside, rest, .more shape goesOn isDigit braced, by simp, ends⟩
  | case5 => cases found

theorem readBracedDigits_of_braced {verbose : Bool} {input inside rest : List Char}
    (braced : Braced verbose isHexadecimal input inside rest) (opening digits : List Char) :
    Leaves (readBracedDigits verbose opening digits input) (digits.reverse ++ inside)
      ('}' :: rest) := by
  induction braced generalizing digits with
  | closing shape =>
      rw [readBracedDigits, List.append_nil]
      split
      · next equal => cases shape.symm.trans equal
      · next equal =>
          cases shape.symm.trans equal
          exact ⟨_, if_pos rfl⟩
  | @more input tail inside rest character shape goesOn isDigit _ induction =>
      rcases induction (character :: digits) with ⟨fits, read⟩
      rw [List.reverse_cons, List.append_assoc, List.singleton_append] at read
      rw [readBracedDigits]
      split
      · next equal => cases shape.symm.trans equal
      · next equal =>
          cases shape.symm.trans equal
          rw [if_neg goesOn, if_pos isDigit, read]
          exact ⟨_, rfl⟩

theorem braced_of_readBracedName {verbose : Bool} {name input : List Char}
    {reading : Reading input (List Char)}
    (found : readBracedName verbose name input = .ok reading) :
    ∃ inside, Braced verbose (fun _ => true) input inside reading.rest ∧
      reading.value = name.reverse ++ inside := by
  fun_induction readBracedName verbose name input with
  | case1 => cases found
  | case2 name input rest shape =>
      cases found
      exact ⟨[], .closing shape, (List.append_nil _).symm⟩
  | case3 name input letter tail shape _ goesOn induction =>
      rcases rest_of_widen found with ⟨inner, read, rfl⟩
      rcases induction read with ⟨inside, braced, value⟩
      refine ⟨letter :: inside, .more shape goesOn rfl braced, ?_⟩
      change inner.value = _
      rw [value]
      simp

theorem readBracedName_of_braced {verbose : Bool} {input inside rest : List Char}
    (braced : Braced verbose (fun _ => true) input inside rest) (name : List Char) :
    Reads (readBracedName verbose name input) (name.reverse ++ inside) rest := by
  induction braced generalizing name with
  | closing shape =>
      rw [readBracedName, List.append_nil]
      split
      · next equal => cases shape.symm.trans equal
      · next equal =>
          cases shape.symm.trans equal
          exact ⟨_, if_pos rfl, rfl, rfl⟩
  | @more input tail inside rest character shape goesOn _ _ induction =>
      have reads := induction (character :: name)
      rw [List.reverse_cons, List.append_assoc, List.singleton_append] at reads
      rw [readBracedName]
      split
      · next equal => cases shape.symm.trans equal
      · next equal =>
          cases shape.symm.trans equal
          rw [if_neg goesOn]
          exact reads.widen _

/-! ## Characters by their code points -/

inductive Digits (verbose : Bool) : Nat → List Char → List Char → List Char → Prop where
  | last {count : Nat} {digit : Char} {tail : List Char} (few : count ≤ 1)
      (isDigit : isHexadecimal digit) :
      Digits verbose count (digit :: tail) [digit] (skip verbose tail)
  | more {count : Nat} {digit : Char} {tail digits rest : List Char}
      (isDigit : isHexadecimal digit)
      (behind : Digits verbose (count + 1) (skip verbose tail) digits rest) :
      Digits verbose (count + 2) (digit :: tail) (digit :: digits) rest

theorem Digits.head {verbose : Bool} {count : Nat} {input digits rest : List Char}
    (read : Digits verbose count input digits rest) :
    ∃ digit tail, input = digit :: tail ∧ isHexadecimal digit := by
  cases read with
  | last _ isDigit | more isDigit => exact ⟨_, _, rfl, isDigit⟩

theorem digits_of_readDigits {verbose : Bool} {before : List Char} {count : Nat}
    {input : List Char} {reading : Reading input (List Char)}
    (found : readDigits verbose before count input = .ok reading) :
    ∃ digits, Digits verbose count input digits reading.rest ∧
      reading.value = before.reverse ++ digits := by
  fun_induction readDigits verbose before count input with
  | case1 => cases found
  | case2 before digit tail isDigit _ count induction =>
      rcases rest_of_widen found with ⟨inner, read, rfl⟩
      rcases induction read with ⟨digits, behind, value⟩
      refine ⟨digit :: digits, .more isDigit behind, ?_⟩
      change inner.value = _
      rw [value]
      simp
  | case3 before count digit tail isDigit _ single =>
      cases found
      have few : count ≤ 1 :=
        Nat.le_of_not_lt fun many => single (count - 2) (by simp only [Nat.succ_eq_add_one]; omega)
      exact ⟨[digit], .last few isDigit, List.reverse_cons⟩
  | case4 => cases found

theorem readDigits_of_digits {verbose : Bool} {count : Nat} {input digits rest : List Char}
    (reads : Digits verbose count input digits rest) (before : List Char) :
    Reads (readDigits verbose before count input) (before.reverse ++ digits) rest := by
  induction reads generalizing before with
  | @last count digit tail few isDigit =>
      rw [readDigits, if_pos isDigit]
      split
      · omega
      · exact ⟨_, rfl, List.reverse_cons, rfl⟩
  | @more count digit tail digits rest isDigit _ induction =>
      have reads := induction (digit :: before)
      rw [List.reverse_cons, List.append_assoc, List.singleton_append] at reads
      rw [readDigits, if_pos isDigit]
      exact reads.widen _

inductive CodePoint (verbose : Bool) (opening : List Char) (letter : Char) :
    List Char → Literal → List Char → Prop where
  | braced {input inside digits rest : List Char} {character : Char}
      (shape : skip verbose input = '{' :: inside)
      (read : Braced verbose isHexadecimal inside digits rest) (nonempty : digits ≠ [])
      (valid : Text.character? (hexadecimalValue digits) = some character) :
      CodePoint verbose opening letter input
        ⟨.between opening (skip verbose rest), character, false⟩ (skip verbose rest)
  | fixed {input start digits rest : List Char} {character : Char}
      (shape : skip verbose input = start)
      (read : Digits verbose (digitCount letter) start digits rest)
      (valid : Text.character? (hexadecimalValue digits) = some character) :
      CodePoint verbose opening letter input ⟨.between opening rest, character, letter = 'x'⟩ rest

theorem codePoint_of_readHexadecimal {verbose : Bool} {opening : List Char} {letter : Char}
    {input : List Char} {reading : Reading input Literal}
    (found : readHexadecimal verbose opening letter input = .ok reading) :
    CodePoint verbose opening letter input reading.value reading.rest := by
  unfold readHexadecimal at found
  split at found
  · cases found
  · next inside shape =>
      split at found
      · cases found
      · next digits closing fits read =>
          rcases braced_of_readBracedDigits read with ⟨found', rest, braced, rfl, equal⟩
          split at found
          · cases found
          · next nonempty =>
              split at found
              · cases found
              · next valid =>
                  cases found
                  change closing = '}' :: rest at equal
                  subst equal
                  exact .braced shape braced (mt List.isEmpty_iff.mpr nonempty) valid
  · next shape =>
      split at found
      · cases found
      · next read =>
          rcases digits_of_readDigits read with ⟨digits, behind, rfl⟩
          split at found
          · cases found
          · next valid =>
              cases found
              exact .fixed shape behind valid

theorem readHexadecimal_of_codePoint {verbose : Bool} {opening : List Char} {letter : Char}
    {input rest : List Char} {literal : Literal}
    (codePoint : CodePoint verbose opening letter input literal rest) :
    Reads (readHexadecimal verbose opening letter input) literal rest := by
  cases codePoint with
  | @braced inside _ rest _ shape read nonempty valid =>
      rcases readBracedDigits_of_braced read ('{' :: inside) [] with ⟨fits, reads⟩
      rw [readHexadecimal]
      split
      · next equal => cases shape.symm.trans equal
      · next equal =>
          cases shape.symm.trans equal
          simp only [reads, List.reverse_nil, List.nil_append, List.isEmpty_iff, if_neg nonempty,
            valid]
          exact ⟨_, rfl, rfl, rfl⟩
      · next notBrace equal =>
          cases shape.symm.trans equal
          exact (notBrace rfl).elim
  | fixed shape read valid =>
      rcases readDigits_of_digits read [] with ⟨⟨value, rest, shorter⟩, found, rfl, rfl⟩
      rcases read.head with ⟨digit, tail, rfl, isDigit⟩
      rw [readHexadecimal]
      split
      · next equal => cases shape.symm.trans equal
      · next equal =>
          cases shape.symm.trans equal
          cases isDigit
      · next equal =>
          cases shape.symm.trans equal
          simp only [found, valid]
          exact ⟨_, rfl, rfl, rfl⟩

/-! ## Properties -/

inductive PropertyName (verbose : Bool) : List Char → PropertyQuery → List Char → Prop where
  | braced {input inside name rest : List Char} (shape : skip verbose input = '{' :: inside)
      (read : Braced verbose (fun _ => true) inside name rest) :
      PropertyName verbose input (propertyQuery name) rest
  | letter {input tail : List Char} {letter : Char} (shape : skip verbose input = letter :: tail)
      (notBrace : letter ≠ '{') (notBackslash : letter ≠ '\\') :
      PropertyName verbose input (.byName [letter]) (skip verbose tail)

theorem propertyName_of_readProperty {verbose : Bool} {input : List Char}
    {reading : Reading input PropertyQuery} (found : readProperty verbose input = .ok reading) :
    PropertyName verbose input reading.value reading.rest := by
  unfold readProperty at found
  split at found
  · cases found
  · next inside shape =>
      split at found
      · cases found
      · next read =>
          cases found
          rcases braced_of_readBracedName read with ⟨name, braced, rfl⟩
          exact .braced shape braced
  · cases found
  · next letter tail notBrace notBackslash shape =>
      cases found
      exact .letter shape (fun equal => notBrace equal) (fun equal => notBackslash equal)

theorem readProperty_of_propertyName {verbose : Bool} {input rest : List Char}
    {query : PropertyQuery} (name : PropertyName verbose input query rest) :
    Reads (readProperty verbose input) query rest := by
  rw [readProperty]
  cases name with
  | braced shape read =>
      rcases readBracedName_of_braced read [] with ⟨⟨_, _, _⟩, found, rfl, rfl⟩
      split
      · next equal => cases shape.symm.trans equal
      · next equal =>
          cases shape.symm.trans equal
          simp only [found]
          exact ⟨_, rfl, rfl, rfl⟩
      · next equal => cases shape.symm.trans equal
      · next notBrace _ equal =>
          cases shape.symm.trans equal
          exact (notBrace rfl).elim
  | letter shape notBrace notBackslash =>
      split
      · next equal => cases shape.symm.trans equal
      · next equal =>
          cases shape.symm.trans equal
          exact absurd rfl notBrace
      · next equal =>
          cases shape.symm.trans equal
          exact absurd rfl notBackslash
      · next equal =>
          cases shape.symm.trans equal
          exact ⟨_, rfl, rfl, rfl⟩

/-! ## Word boundaries -/

/-- A word boundary may have a name in braces. A brace that begins no name is left. -/
inductive Boundary (verbose : Bool) (opening : List Char) :
    List Char → Primitive → List Char → Prop where
  | named {afterBrace tail name rest : List Char} {first : Char} {kind : Assertion}
      (shape : skip verbose afterBrace = first :: tail) (isLetter : isBoundaryLetter first)
      (taken : takeBoundaryName verbose [] (first :: tail) = (name, '}' :: rest))
      (known : boundary? (String.ofList name) = some kind) :
      Boundary verbose opening ('{' :: afterBrace) (.assertion (.between opening rest) kind) rest
  | count {afterBrace tail : List Char} {first : Char}
      (shape : skip verbose afterBrace = first :: tail) (noName : ¬isBoundaryLetter first) :
      Boundary verbose opening ('{' :: afterBrace)
        (.assertion (.between opening ('{' :: afterBrace)) .wordBoundary) ('{' :: afterBrace)
  | plain {input : List Char} (noBrace : input.head? ≠ some '{') :
      Boundary verbose opening input (.assertion (.between opening input) .wordBoundary) input

theorem Boundary.assertion {verbose : Bool} {opening input rest : List Char}
    {primitive : Primitive} (boundary : Boundary verbose opening input primitive rest) :
    ∃ span kind, primitive = .assertion span kind := by
  cases boundary with
  | named | count | plain => exact ⟨_, _, rfl⟩

theorem boundary_of_readBoundary {verbose : Bool} {opening input : List Char}
    {primitive : Primitive} {rest : { rest : List Char // rest.length ≤ input.length }}
    (found : readBoundary verbose opening input = .ok (primitive, rest)) :
    Boundary verbose opening input primitive rest.val := by
  unfold readBoundary at found
  split at found
  · split at found
    · cases found
    · next shape =>
        split at found
        · next isLetter =>
            split at found
            · next taken =>
                split at found
                · next known =>
                    cases found
                    exact .named shape isLetter taken known
                · cases found
            · cases found
        · next noName =>
            cases found
            exact .count shape noName
  · next noBrace =>
      cases found
      refine .plain fun brace => ?_
      rcases List.head?_eq_some_iff.mp brace with ⟨tail, equal⟩
      exact noBrace tail equal

theorem readBoundary_of_boundary {verbose : Bool} {opening input rest : List Char}
    {primitive : Primitive} (boundary : Boundary verbose opening input primitive rest) :
    Leaves (readBoundary verbose opening input) primitive rest := by
  cases boundary with
  | named shape isLetter taken known =>
      rw [readBoundary]
      split
      · next equal => cases shape.symm.trans equal
      · next equal =>
          cases shape.symm.trans equal
          rw [if_pos isLetter]
          split
          · next equal =>
              cases taken.symm.trans equal
              simp only [known]
              exact ⟨_, rfl⟩
          · next notClosed equal =>
              cases taken.symm.trans equal
              exact (notClosed _ rfl).elim
  | count shape noName =>
      rw [readBoundary]
      split
      · next equal => cases shape.symm.trans equal
      · next equal =>
          cases shape.symm.trans equal
          rw [if_neg noName]
          exact ⟨_, rfl⟩
  | plain noBrace =>
      unfold readBoundary
      split
      · exact absurd rfl noBrace
      · exact ⟨_, rfl⟩

/-! ## Escapes -/

def singleEscape? (span : Span) (letter : Char) : Option Primitive :=
  if isEscapable letter then some (.literal ⟨span, letter, false⟩)
  else
    (controlEscape? letter).map (fun control => .literal ⟨span, control, false⟩) <|>
    (assertionEscape? letter).map (.assertion span) <|>
    (escapeClass? letter).map fun (name, negated) => .escape span name negated

theorem isAlphanum_of_isDecimal {letter : Char} (digit : isDecimal letter) : letter.isAlphanum := by
  have isDigit : letter.isDigit = true := digit
  rw [Char.isAlphanum, isDigit, Bool.or_true]

theorem not_isAlphanum_of_isEscapable {letter : Char} (escapable : isEscapable letter) :
    letter.isAlphanum = false := by
  unfold isEscapable isMeta at escapable
  rcases Bool.or_eq_true_iff.mp escapable with isMeta | others
  · have none : "\\.+*?()|[]\x7b\x7d^$#&-~".toList.all (!·.isAlphanum) := by decide
    simpa using List.all_eq_true.mp none letter (List.contains_iff_mem.mp isMeta)
  · simp only [Bool.and_eq_true, Bool.not_eq_true'] at others
    exact others.1.1.2

theorem not_reserved_of_singleEscape? {span : Span} {letter : Char} {primitive : Primitive}
    (known : singleEscape? span letter = some primitive) :
    isDecimal letter = false ∧ letter ∉ ['x', 'u', 'U', 'p', 'P', 'b'] := by
  unfold singleEscape? at known
  split at known
  · next escapable =>
      have noLetter := not_isAlphanum_of_isEscapable escapable
      refine ⟨Bool.eq_false_iff.mpr fun digit => ?_, fun reserved => ?_⟩
      · rw [isAlphanum_of_isDecimal digit] at noLetter
        cases noLetter
      · have all : ['x', 'u', 'U', 'p', 'P', 'b'].all Char.isAlphanum := by decide
        rw [List.all_eq_true.mp all letter reserved] at noLetter
        cases noLetter
  · cases control : controlEscape? letter with
    | some character =>
        unfold controlEscape? at control
        split at control
        case h_7 => cases control
        all_goals decide
    | none =>
        cases assertion : assertionEscape? letter with
        | some kind =>
            unfold assertionEscape? at assertion
            split at assertion
            case h_6 => cases assertion
            all_goals decide
        | none =>
            rw [control, assertion] at known
            rcases Option.map_eq_some_iff.mp known with ⟨name, found, _⟩
            unfold escapeClass? at found
            split at found
            case h_7 => cases found
            all_goals decide

inductive Escape (verbose : Bool) : List Char → Primitive → List Char → Prop where
  | codePoint {backslash letter : Char} {input rest : List Char} {literal : Literal}
      (isCodePoint : letter = 'x' ∨ letter = 'u' ∨ letter = 'U')
      (read : CodePoint verbose (backslash :: letter :: input) letter input literal rest) :
      Escape verbose (backslash :: letter :: input) (.literal literal) rest
  | property {backslash letter : Char} {input rest : List Char} {query : PropertyQuery}
      (isProperty : letter = 'p' ∨ letter = 'P') (read : PropertyName verbose input query rest) :
      Escape verbose (backslash :: letter :: input)
        (.property (.between (backslash :: letter :: input) rest) query (letter = 'P')) rest
  | boundary {backslash : Char} {input rest : List Char} {primitive : Primitive}
      (read : Boundary verbose (backslash :: 'b' :: input) input primitive rest) :
      Escape verbose (backslash :: 'b' :: input) primitive rest
  | single {backslash letter : Char} {rest : List Char} {primitive : Primitive}
      (known : singleEscape? (.between (backslash :: letter :: rest) rest) letter =
        some primitive) :
      Escape verbose (backslash :: letter :: rest) primitive rest

theorem Escape.shape {verbose : Bool} {backslash : Char} {tail rest : List Char}
    {primitive : Primitive} (escape : Escape verbose (backslash :: tail) primitive rest) :
    ∃ letter input, tail = letter :: input := by
  cases escape with
  | codePoint | property | boundary | single => exact ⟨_, _, rfl⟩

theorem Escape.toBoundary {verbose : Bool} {backslash : Char} {input rest : List Char}
    {primitive : Primitive} (escape : Escape verbose (backslash :: 'b' :: input) primitive rest) :
    Boundary verbose (backslash :: 'b' :: input) input primitive rest := by
  cases escape with
  | codePoint isCodePoint => exact absurd isCodePoint (by decide)
  | property isProperty => exact absurd isProperty (by decide)
  | boundary read => exact read
  | single known => exact absurd (not_reserved_of_singleEscape? known).2 (by decide)

theorem escape_of_readEscape {verbose : Bool} {input : List Char}
    {reading : Reading input Primitive} (found : readEscape verbose input = .ok reading) :
    Escape verbose input reading.value reading.rest := by
  unfold readEscape at found
  split at found
  · cases found
  · cases found
  · simp only at found
    split at found
    · cases found
    · split at found
      · next isCodePoint =>
          split at found
          · cases found
          · next read =>
              cases found
              exact .codePoint isCodePoint (codePoint_of_readHexadecimal read)
      · split at found
        · next isProperty =>
            split at found
            · cases found
            · next read =>
                cases found
                exact .property isProperty (propertyName_of_readProperty read)
        · split at found
          · next isBoundary =>
              subst isBoundary
              split at found
              · cases found
              · next read =>
                  cases found
                  exact .boundary (boundary_of_readBoundary read)
          · split at found
            · next known =>
                cases found
                exact .single known
            · cases found

theorem readEscape_of_escape {verbose : Bool} {input rest : List Char} {primitive : Primitive}
    (escape : Escape verbose input primitive rest) :
    Reads (readEscape verbose input) primitive rest := by
  cases escape with
  | @codePoint _ letter _ _ _ isCodePoint read =>
      rcases readHexadecimal_of_codePoint read with ⟨⟨_, _, _⟩, found, rfl, rfl⟩
      have notDecimal : ¬isDecimal letter := by
        rcases isCodePoint with rfl | rfl | rfl <;> decide
      unfold readEscape
      simp only [if_neg notDecimal, if_pos isCodePoint, found]
      exact ⟨_, rfl, rfl, rfl⟩
  | @property _ letter _ _ _ isProperty read =>
      rcases readProperty_of_propertyName read with ⟨⟨_, _, _⟩, found, rfl, rfl⟩
      have others : ¬isDecimal letter ∧ ¬(letter = 'x' ∨ letter = 'u' ∨ letter = 'U') := by
        rcases isProperty with rfl | rfl <;> decide
      unfold readEscape
      simp only [if_neg others.1, if_neg others.2, if_pos isProperty, found]
      exact ⟨_, rfl, rfl, rfl⟩
  | boundary read =>
      rcases readBoundary_of_boundary read with ⟨fits, found⟩
      have notDecimal : ¬isDecimal 'b' := by decide
      unfold readEscape
      simp only [if_neg notDecimal, Char.reduceEq, or_self, if_false, if_true, found]
      exact ⟨_, rfl, rfl, rfl⟩
  | single known =>
      have ⟨notDecimal, others⟩ := not_reserved_of_singleEscape? known
      unfold singleEscape? at known
      unfold readEscape
      simp only [List.mem_cons, List.not_mem_nil, or_false, not_or] at others
      simp only [notDecimal, others, or_self, Bool.false_eq_true, if_false, known]
      exact ⟨_, rfl, rfl, rfl⟩

end UriDispatch.Regex
