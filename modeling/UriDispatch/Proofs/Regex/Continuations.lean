import Mathlib.Data.List.TakeWhile
import UriDispatch.Proofs.Regex.Bare

/-! What follows what a reader takes. Without blanks to pass over, a reader takes the same and finds
the same whatever comes after it, but for a question mark after a repetition. -/

namespace UriDispatch.Regex

/-- A character that marks no class or group and does not change the meaning of the next one. -/
def isInert (character : Char) : Bool :=
  character ≠ '\\' && character ≠ '[' && character ≠ ']' && character ≠ '(' && character ≠ ')'

/-! ## Spans of characters -/

theorem inert_of {condition : Char → Bool} (excludes : condition '\\' = false ∧
    condition '[' = false ∧ condition ']' = false ∧ condition '(' = false ∧
      condition ')' = false) {character : Char} (holds : condition character) :
    isInert character := by
  simp only [isInert, Bool.and_eq_true, decide_eq_true_eq]
  have different {other : Char} (excluded : condition other = false) : character ≠ other := by
    rintro rfl
    rw [excluded] at holds
    cases holds
  exact ⟨⟨⟨⟨different excludes.1, different excludes.2.1⟩, different excludes.2.2.1⟩,
    different excludes.2.2.2.1⟩, different excludes.2.2.2.2⟩

theorem inert_of_isDecimal {character : Char} (digit : isDecimal character) : isInert character :=
  inert_of (by decide) digit

theorem inert_of_isHexadecimal {character : Char} (digit : isHexadecimal character) :
    isInert character :=
  inert_of (by decide) digit

theorem inert_of_isBlank {character : Char} (blank : Unicode.isBlank character) :
    isInert character :=
  inert_of (by decide) blank

theorem inert_append {first second : List Char} (left : ∀ character ∈ first, isInert character)
    (right : ∀ character ∈ second, isInert character) :
    ∀ character ∈ first ++ second, isInert character := by
  intro character member
  rcases List.mem_append.mp member with inFirst | inSecond
  · exact left character inFirst
  · exact right character inSecond

theorem not_of_dropWhile {condition : Char → Bool} {input rest : List Char} {mark : Char}
    (dropped : input.dropWhile condition = mark :: rest) : condition mark = false := by
  have head := List.head_dropWhile_not condition (l := input)
    (by rw [dropped]; exact List.cons_ne_nil mark rest)
  simpa only [dropped, List.head_cons] using head

theorem span_append {condition : Char → Bool} {input rest : List Char} {mark : Char}
    (dropped : input.dropWhile condition = mark :: rest) (other : List Char) :
    (input.takeWhile condition ++ mark :: other).takeWhile condition =
        input.takeWhile condition ∧
      (input.takeWhile condition ++ mark :: other).dropWhile condition = mark :: other := by
  have holds : ∀ character ∈ input.takeWhile condition, condition character = true :=
    fun character member => List.mem_takeWhile_imp member
  have fails : ¬condition mark = true := by
    rw [not_of_dropWhile dropped]
    exact Bool.false_ne_true
  constructor
  · rw [List.takeWhile_append_of_pos holds, List.takeWhile_cons_of_neg fails, List.append_nil]
  · rw [List.dropWhile_append_of_pos holds, List.dropWhile_cons_of_neg fails]

/-! ## Numbers -/

theorem takeDigits_false (digits input : List Char) :
    takeDigits false digits input =
      (digits.reverse ++ input.takeWhile isDecimal, input.dropWhile isDecimal) := by
  induction input generalizing digits with
  | nil => simp [takeDigits]
  | cons head tail induction =>
      rw [takeDigits]
      by_cases digit : isDecimal head
      · rw [if_pos digit, skip_false, induction, List.takeWhile_cons_of_pos digit,
          List.dropWhile_cons_of_pos digit]
        simp
      · rw [if_neg digit, List.takeWhile_cons_of_neg digit, List.dropWhile_cons_of_neg digit,
          List.append_nil]

theorem readDecimal_ok {input rest : List Char} {value : Nat} :
    readDecimal false input = (.ok value, rest) ↔
      ∃ digits after, (input.dropWhile Unicode.isBlank).takeWhile isDecimal = digits ∧
        (input.dropWhile Unicode.isBlank).dropWhile isDecimal = after ∧ digits ≠ [] ∧
        decimalValue digits ≤ greatestCount ∧ value = decimalValue digits ∧
        after.dropWhile Unicode.isBlank = rest := by
  simp only [readDecimal, takeDigits_false, List.reverse_nil, List.nil_append, skip_false,
    List.isEmpty_iff]
  constructor
  · intro found
    split at found
    · cases found
    · next some =>
        split at found
        · next fits =>
            cases found
            exact ⟨_, _, rfl, rfl, some, fits, rfl, rfl⟩
        · cases found
  · rintro ⟨_, _, rfl, rfl, some, fits, rfl, rfl⟩
    rw [if_neg some, if_pos fits]

theorem readDecimal_append {input rest : List Char} {mark : Char} {value : Nat}
    (found : readDecimal false input = (.ok value, mark :: rest)) :
    ∃ taken, input = taken ++ mark :: rest ∧ (∀ character ∈ taken, isInert character) ∧
      ∀ other, readDecimal false (taken ++ mark :: other) = (.ok value, mark :: other) := by
  rcases readDecimal_ok.mp found with ⟨digits, after, taken, left, some, fits, rfl, dropped⟩
  have start : input.dropWhile Unicode.isBlank = digits ++ after := by
    rw [← taken, ← left, List.takeWhile_append_dropWhile]
  have middle : after = after.takeWhile Unicode.isBlank ++ mark :: rest := by
    rw [← dropped, List.takeWhile_append_dropWhile]
  have whole : input = input.takeWhile Unicode.isBlank ++
      (digits ++ (after.takeWhile Unicode.isBlank ++ mark :: rest)) := by
    rw [← middle, ← start, List.takeWhile_append_dropWhile]
  refine ⟨input.takeWhile Unicode.isBlank ++ (digits ++ after.takeWhile Unicode.isBlank),
    ?_, ?_, fun other => ?_⟩
  · simpa only [List.append_assoc] using whole
  · refine inert_append ?_ (inert_append ?_ ?_)
    · exact fun character member => inert_of_isBlank (List.mem_takeWhile_imp member)
    · rw [← taken]
      exact fun character member => inert_of_isDecimal (List.mem_takeWhile_imp member)
    · exact fun character member => inert_of_isBlank (List.mem_takeWhile_imp member)
  · rcases List.exists_cons_of_ne_nil some with ⟨digit, digitsRest, rfl⟩
    have ends := span_append dropped other
    have begins := (span_append (start.trans (List.cons_append ..))
      (digitsRest ++ (after.takeWhile Unicode.isBlank ++ mark :: other))).2
    have second : ∃ next tail, after.takeWhile Unicode.isBlank ++ mark :: other = next :: tail ∧
        ∃ others, after = next :: others := by
      cases blanks : after.takeWhile Unicode.isBlank with
      | nil =>
          rw [blanks] at middle
          exact ⟨mark, other, rfl, rest, middle⟩
      | cons next tail =>
          rw [blanks] at middle
          exact ⟨next, tail ++ mark :: other, rfl, tail ++ mark :: rest, middle⟩
    rcases second with ⟨next, tail, equal, others, afterEqual⟩
    have numbers := span_append (left.trans afterEqual) tail
    rw [taken, ← equal] at numbers
    refine readDecimal_ok.mpr ⟨digit :: digitsRest,
      after.takeWhile Unicode.isBlank ++ mark :: other, ?_, ?_, some, fits, rfl, ends.2⟩
    · rw [List.append_assoc, List.append_assoc, List.cons_append, begins]
      exact numbers.1
    · rw [List.append_assoc, List.append_assoc, List.cons_append, begins]
      exact numbers.2

def Continues (rest other : List Char) : Prop := other.head? = some '?' → rest.head? = some '?'

theorem CountEnd.append {input rest : List Char} {count : Count} {value : Count × Bool}
    (ends : CountEnd false count input value rest) :
    ∃ taken, input = '}' :: taken ++ rest ∧ (∀ character ∈ taken, isInert character) ∧
      ∀ other, Continues rest other → CountEnd false count ('}' :: taken ++ other) value other := by
  cases ends with
  | greedy shape notLazy ordered =>
      subst shape
      exact ⟨[], rfl, by simp,
        fun other continues => .greedy rfl (fun mark => notLazy (continues mark)) ordered⟩
  | lazy shape ordered =>
      rw [skip_false] at shape
      subst shape
      exact ⟨['?'], rfl, by simp [isInert], fun other _ => .lazy rfl ordered⟩

theorem inert_cons {mark : Char} {taken : List Char} (first : isInert mark)
    (others : ∀ character ∈ taken, isInert character) :
    ∀ character ∈ mark :: taken, isInert character :=
  List.forall_mem_cons.mpr ⟨first, others⟩

theorem Counts.append {input rest : List Char} {value : Count × Bool}
    (counts : Counts false input value rest) :
    ∃ taken, input = taken ++ rest ∧ (∀ character ∈ taken, isInert character) ∧
      ∀ other, Continues rest other → Counts false (taken ++ other) value other := by
  cases counts with
  | exactly first closes =>
      rcases readDecimal_append first with ⟨digits, whole, inertDigits, number⟩
      rcases closes.append with ⟨closing, equal, inertClosing, closed⟩
      cases equal
      refine ⟨digits ++ '}' :: closing, by simpa using whole,
        inert_append inertDigits (inert_cons (by decide) inertClosing), ?_⟩
      intro other continues
      rw [List.append_assoc]
      exact .exactly (number _) (closed other continues)
  | atLeast first ends closes =>
      rw [skip_false] at ends
      subst ends
      rcases readDecimal_append first with ⟨digits, whole, inertDigits, number⟩
      rcases closes.append with ⟨closing, equal, inertClosing, closed⟩
      cases equal
      refine ⟨digits ++ ',' :: '}' :: closing, by simpa using whole,
        inert_append inertDigits
          (inert_cons (by decide) (inert_cons (by decide) inertClosing)), ?_⟩
      intro other continues
      rw [List.append_assoc]
      exact .atLeast (number _) rfl (closed other continues)
  | between first second closes =>
      rcases readDecimal_append first with ⟨digits, whole, inertDigits, number⟩
      rcases readDecimal_append second with ⟨others, rfl, inertOthers, number'⟩
      rcases closes.append with ⟨closing, equal, inertClosing, closed⟩
      cases equal
      refine ⟨digits ++ ',' :: (others ++ '}' :: closing), by simpa using whole,
        inert_append inertDigits (inert_cons (by decide)
          (inert_append inertOthers (inert_cons (by decide) inertClosing))), ?_⟩
      intro other continues
      rw [List.append_assoc, List.cons_append, List.append_assoc]
      exact .between (number _) (number' _) (closed other continues)

/-! ## Hexadecimal escapes -/

theorem Digits.append {count : Nat} {input digits rest : List Char}
    (read : Digits false count input digits rest) :
    input = digits ++ rest ∧ (∀ digit ∈ digits, isHexadecimal digit) ∧
      ∀ other, Digits false count (digits ++ other) digits other := by
  induction read with
  | last few isDigit =>
      exact ⟨rfl, List.forall_mem_singleton.mpr isDigit, fun other => .last few isDigit⟩
  | @more _ digit _ _ _ isDigit _ induction =>
      rcases induction with ⟨equal, all, again⟩
      exact ⟨congrArg (digit :: ·) equal, List.forall_mem_cons.mpr ⟨isDigit, all⟩,
        fun other => .more isDigit (again other)⟩

theorem Braced.append {isInside : Char → Bool} {input inside rest : List Char}
    (braced : Braced false isInside input inside rest) :
    input = inside ++ '}' :: rest ∧ (∀ character ∈ inside, isInside character) ∧
      ∀ other, Braced false isInside (inside ++ '}' :: other) inside other := by
  induction braced with
  | closing shape => exact ⟨shape, List.forall_mem_nil _, fun other => .closing rfl⟩
  | @more _ _ _ _ character shape goesOn holds _ induction =>
      rcases induction with ⟨equal, all, again⟩
      exact ⟨shape.trans (congrArg (character :: ·) equal),
        List.forall_mem_cons.mpr ⟨holds, all⟩, fun other => .more rfl goesOn holds (again other)⟩

theorem inert_braced {inside : List Char} (inert : ∀ character ∈ inside, isInert character) :
    ∀ character ∈ '{' :: (inside ++ ['}']), isInert character :=
  List.forall_mem_cons.mpr ⟨by decide, inert_append inert (by simp [isInert])⟩

theorem CodePoint.append {opening input rest : List Char} {letter : Char} {literal : Literal}
    (codePoint : CodePoint false opening letter input literal rest) :
    ∃ taken, input = taken ++ rest ∧ (∀ character ∈ taken, isInert character) ∧
      ∀ start other, ∃ moved, moved.bare = literal.bare ∧
        CodePoint false start letter (taken ++ other) moved other := by
  cases codePoint with
  | @braced _ digits _ character shape read nonempty valid =>
      rcases read.append with ⟨rfl, all, again⟩
      rw [skip_false] at shape
      subst shape
      refine ⟨'{' :: (digits ++ ['}']), by simp,
        inert_braced fun digit member => inert_of_isHexadecimal (all digit member),
        fun start other => ⟨⟨.between start other, character, false⟩, rfl, ?_⟩⟩
      rw [List.cons_append, List.append_assoc, List.singleton_append]
      exact .braced rfl (again other) nonempty valid
  | @fixed _ digits _ character shape read valid =>
      rcases read.append with ⟨rfl, all, again⟩
      exact ⟨digits, shape, fun digit member => inert_of_isHexadecimal (all digit member),
        fun start other => ⟨⟨.between start other, character, letter = 'x'⟩, rfl,
          .fixed rfl (again other) valid⟩⟩

/-! ## Properties -/

theorem splitAt?_eq {separator text before after : List Char}
    (split : splitAt? separator text = some (before, after)) :
    text = before ++ separator ++ after := by
  induction text generalizing before with
  | nil => cases split
  | cons head tail induction =>
      simp only [splitAt?] at split
      split at split
      · next isPrefix =>
          cases split
          rcases List.isPrefixOf_iff_prefix.mp isPrefix with ⟨rest, equal⟩
          rw [← equal, List.drop_left]
          rfl
      · rcases Option.map_eq_some_iff.mp split with ⟨⟨first, last⟩, found, equal⟩
        cases equal
        rw [induction found]
        rfl

def PropertyQuery.letters : PropertyQuery → List Char
  | .byName name => name
  | .byValue property value _ => property ++ value

theorem inert_propertyQuery {text : List Char}
    (inert : ∀ character ∈ (propertyQuery text).letters, isInert character) :
    ∀ character ∈ text, isInert character := by
  unfold propertyQuery at inert
  split at inert
  · next property value found =>
      rw [splitAt?_eq found]
      have parts := List.forall_mem_append.mp inert
      exact inert_append (inert_append parts.1 (by simp [isInert])) parts.2
  · split at inert
    · next property value found =>
        have parts := List.forall_mem_append.mp inert
        rw [Option.orElse_eq_orElse, Option.orElse_eq_or] at found
        rcases Option.or_eq_some_iff.mp found with first | ⟨_, second⟩
        · rw [splitAt?_eq first]
          exact inert_append (inert_append parts.1 (by simp [isInert])) parts.2
        · rw [splitAt?_eq second]
          exact inert_append (inert_append parts.1 (by simp [isInert])) parts.2
    · exact inert

theorem PropertyName.append {input rest : List Char} {query : PropertyQuery}
    (name : PropertyName false input query rest) :
    ∃ taken, input = taken ++ rest ∧
      ((∀ character ∈ query.letters, isInert character) →
        ∀ character ∈ taken, isInert character) ∧
      ∀ other, PropertyName false (taken ++ other) query other := by
  cases name with
  | @braced _ name _ shape read =>
      rcases read.append with ⟨rfl, _, again⟩
      rw [skip_false] at shape
      subst shape
      refine ⟨'{' :: (name ++ ['}']), by simp,
        fun inert => inert_braced (inert_propertyQuery inert), fun other => ?_⟩
      rw [List.cons_append, List.append_assoc, List.singleton_append]
      exact .braced rfl (again other)
  | @letter _ letter shape notBrace notBackslash =>
      exact ⟨[letter], shape, fun inert => inert, fun other => .letter rfl notBrace notBackslash⟩

/-! ## Escapes -/

def Primitive.letters : Primitive → List Char
  | .property _ query _ => query.letters
  | _ => []

theorem singleEscape?_bare {span : Span} {letter : Char} {primitive : Primitive}
    (known : singleEscape? span letter = some primitive) (other : Span) :
    ∃ moved, singleEscape? other letter = some moved ∧ moved.bare = primitive.bare := by
  unfold singleEscape? at known ⊢
  split at known
  · next escapable =>
      cases known
      exact ⟨_, if_pos escapable, rfl⟩
  · next notEscapable =>
      rw [if_neg notEscapable]
      cases control : controlEscape? letter with
      | some character =>
          rw [control] at known
          cases known
          exact ⟨_, rfl, rfl⟩
      | none =>
          rw [control] at known
          cases assertion : assertionEscape? letter with
          | some kind =>
              rw [assertion] at known
              cases known
              exact ⟨_, rfl, rfl⟩
          | none =>
              rw [assertion] at known
              rcases Option.map_eq_some_iff.mp known with ⟨⟨name, negated⟩, found, rfl⟩
              rw [found]
              exact ⟨_, rfl, rfl⟩

theorem Escape.append {backslash letter : Char} {input rest : List Char} {primitive : Primitive}
    (escape : Escape false (backslash :: letter :: input) primitive rest)
    (notBoundary : letter ≠ 'b') :
    ∃ taken, input = taken ++ rest ∧
      ((∀ character ∈ primitive.letters, isInert character) →
        ∀ character ∈ taken, isInert character) ∧
      ∀ other, ∃ moved, moved.bare = primitive.bare ∧
        Escape false (backslash :: letter :: (taken ++ other)) moved other := by
  cases escape with
  | codePoint isCodePoint read =>
      rcases read.append with ⟨taken, equal, allInert, again⟩
      refine ⟨taken, equal, fun _ => allInert, fun other => ?_⟩
      rcases again (backslash :: letter :: (taken ++ other)) other with ⟨moved, same, reads⟩
      exact ⟨.literal moved, congrArg Primitive.literal same, .codePoint isCodePoint reads⟩
  | property isProperty read =>
      rcases read.append with ⟨taken, equal, inert, again⟩
      refine ⟨taken, equal, inert, fun other => ?_⟩
      refine ⟨_, ?_, .property isProperty (again other)⟩
      rfl
  | boundary => exact absurd rfl notBoundary
  | single known =>
      refine ⟨[], rfl, fun _ => List.forall_mem_nil _, fun other => ?_⟩
      rcases singleEscape?_bare known (.between (backslash :: letter :: other) other) with
        ⟨moved, found, same⟩
      exact ⟨moved, same, .single found⟩

theorem Single.append {mark : Char} {tail rest : List Char} {primitive : Primitive}
    (single : Single false (mark :: tail) primitive rest) (notEscape : mark ≠ '\\') :
    tail = rest ∧ ∀ other, ∃ moved, moved.bare = primitive.bare ∧
      Single false (mark :: other) moved other := by
  cases single with
  | escape => exact absurd rfl notEscape
  | dot => exact ⟨rfl, fun other => ⟨_, by rfl, .dot⟩⟩
  | lineStart => exact ⟨rfl, fun other => ⟨_, by rfl, .lineStart⟩⟩
  | lineEnd => exact ⟨rfl, fun other => ⟨_, by rfl, .lineEnd⟩⟩
  | literal isOther => exact ⟨rfl, fun other => ⟨_, by rfl, .literal isOther⟩⟩

/-! ## Operators -/

/-- The part of a text that is an operator on the last item. It is one in other states and before
other texts too. -/
structure Operates (state : ParserState) (input : List Char) (next : ParserState)
    (rest part : List Char) (count : Count) (greedy : Bool) : Prop where
  equal : input = part ++ rest
  inert : ∀ character ∈ part, isInert character
  repeated : repeatOperand state input rest count greedy = .ok next
  again : ∀ {moved last : ParserState} {other : List Char}, moved.verbose = false →
    Continues rest other → repeatOperand moved (part ++ other) other count greedy = .ok last →
      StepForm moved (part ++ other) last other

theorem inert_of_repetitionMark {mark : Char} {count : Count}
    (isMark : (mark, count) ∈ repetitionMarks) : isInert mark := by
  have all : repetitionMarks.all (isInert ·.1) := by decide
  exact List.all_eq_true.mp all _ isMark

theorem Repetition.operates {state next : ParserState} {mark : Char} {count : Count}
    {tail rest : List Char} (repetition : Repetition state count (mark :: tail) next rest)
    (isMark : (mark, count) ∈ repetitionMarks) :
    ∃ part greedy, Operates state (mark :: tail) next rest part count greedy := by
  have inert := inert_of_repetitionMark isMark
  cases repetition with
  | lazy repeated =>
      refine ⟨[mark, '?'], false, rfl, inert_cons inert (by simp [isInert]), repeated, ?_⟩
      intro moved last other _ _ repeated
      exact .repeats isMark (.lazy repeated)
  | greedy notLazy repeated =>
      refine ⟨[mark], true, rfl, inert_cons inert (by simp), repeated, ?_⟩
      intro moved last other _ continues repeated
      exact .repeats isMark (.greedy (fun isLazy => notLazy (continues isLazy)) repeated)

theorem CountedRepetition.operates {state next : ParserState} {tail rest : List Char}
    (counted : CountedRepetition state ('{' :: tail) next rest)
    (notVerbose : state.verbose = false) :
    ∃ part count greedy, Operates state ('{' :: tail) next rest part count greedy := by
  cases counted with
  | intro counts repeated =>
      rw [notVerbose] at counts
      rcases counts.append with ⟨part, rfl, inert, again⟩
      refine ⟨'{' :: part, _, _, rfl, inert_cons (by decide) inert, repeated, ?_⟩
      intro moved last other verbose continues repeated
      refine .counted (.intro ?_ repeated)
      rw [verbose]
      exact again other continues

end UriDispatch.Regex
