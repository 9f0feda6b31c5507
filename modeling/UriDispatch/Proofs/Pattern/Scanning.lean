import UriDispatch.Pattern.Fragment
import UriDispatch.Proofs.Regex.Continuations

/-! Fragments that say what they match and nothing else, and the parts of them that stay as they are
when their groups are kept from capturing. -/

namespace UriDispatch.Fragment

open Regex (isInert)

def isAssertion (letter : Char) : Bool := "AzbB<>".toList.contains letter

/-- Whether a fragment has only literals, escapes, dots, classes, bars, plain groups and
repetitions: no group marks of other kinds, no assertions, no class within a class. -/
def isPlainFrom : Context → List Char → Bool
  | _, [] => true
  | _, ['\\'] => true
  | context, '\\' :: letter :: rest =>
      let next := if context = .outside then .outside else Context.inClass
      !isAssertion letter && isPlainFrom next rest
  | .outside, '[' :: rest => isPlainFrom .classStart rest
  | .outside, '(' :: rest => rest.head? ≠ some '?' && isPlainFrom .outside rest
  | .outside, character :: rest => character ≠ '^' && character ≠ '$' && isPlainFrom .outside rest
  | .classStart, '^' :: rest => isPlainFrom .afterNegation rest
  | .inClass, ']' :: rest => isPlainFrom .outside rest
  | _, character :: rest => character ≠ '[' && isPlainFrom .inClass rest

def isPlain (fragment : List Char) : Bool := isPlainFrom .outside fragment

example : isPlain "(a|[(?^]\\(?){2}".toList = true := by cbv
example : isPlain "(?:a)".toList = false := by cbv

/-! ## Single characters -/

theorem demoteFrom_escape (depth : Nat) (context : Context) (letter : Char) (rest : List Char) :
    demoteFrom depth context ('\\' :: letter :: rest) =
      (demoteFrom depth (if context = .outside then .outside else .inClass) rest).map
        ('\\' :: letter :: ·) := by
  cases context <;> rfl

theorem isPlainFrom_escape (context : Context) (letter : Char) (rest : List Char) :
    isPlainFrom context ('\\' :: letter :: rest) =
      (!isAssertion letter &&
        isPlainFrom (if context = .outside then .outside else .inClass) rest) := by
  cases context <;> rfl

theorem demoteFrom_head {depth : Nat} {input demoted : List Char}
    (demotes : demoteFrom depth .outside input = some demoted) : demoted.head? = input.head? := by
  unfold demoteFrom at demotes
  split at demotes
  · split at demotes
    · cases demotes
      rfl
    · cases demotes
  · split at demotes
    · cases demotes
      rfl
    · cases demotes
  · rcases Option.map_eq_some_iff.mp demotes with ⟨inner, _, rfl⟩
    rfl
  · rcases Option.map_eq_some_iff.mp demotes with ⟨inner, _, rfl⟩
    rfl
  · rcases Option.map_eq_some_iff.mp demotes with ⟨inner, _, rfl⟩
    split <;> rfl
  · split at demotes
    · cases demotes
    · rcases Option.map_eq_some_iff.mp demotes with ⟨inner, _, rfl⟩
      rfl
  · rcases Option.map_eq_some_iff.mp demotes with ⟨inner, _, rfl⟩
    rfl
  · rcases Option.map_eq_some_iff.mp demotes with ⟨inner, _, rfl⟩
    rfl
  · rcases Option.map_eq_some_iff.mp demotes with ⟨inner, _, rfl⟩
    rfl
  · rcases Option.map_eq_some_iff.mp demotes with ⟨inner, _, rfl⟩
    rfl

def isOrdinary (character : Char) : Bool :=
  character ≠ '\\' && character ≠ '[' && character ≠ '(' && character ≠ ')'

theorem ordinary_of_inert {character : Char} (inert : isInert character) :
    isOrdinary character := by
  simp only [isInert, Bool.and_eq_true, decide_eq_true_eq] at inert
  simp [isOrdinary, inert]

theorem demoteFrom_outside {character : Char} (ordinary : isOrdinary character) (depth : Nat)
    (rest : List Char) : demoteFrom depth .outside (character :: rest) =
      (demoteFrom depth .outside rest).map (character :: ·) := by
  simp only [isOrdinary, Bool.and_eq_true, decide_eq_true_eq] at ordinary
  rw [demoteFrom] <;> simp [ordinary]

theorem isPlainFrom_outside {character : Char} (ordinary : isOrdinary character)
    (rest : List Char) : isPlainFrom .outside (character :: rest) =
      (character ≠ '^' && character ≠ '$' && isPlainFrom .outside rest) := by
  simp only [isOrdinary, Bool.and_eq_true, decide_eq_true_eq] at ordinary
  rw [isPlainFrom] <;> simp [ordinary]

theorem demoteFrom_inClass {character : Char} (notBackslash : character ≠ '\\')
    (notClosing : character ≠ ']') (depth : Nat) (rest : List Char) :
    demoteFrom depth .inClass (character :: rest) =
      (demoteFrom depth .inClass rest).map (character :: ·) := by
  rw [demoteFrom] <;> simp [notBackslash, notClosing]

theorem isPlainFrom_inClass {character : Char} (notBackslash : character ≠ '\\')
    (notClosing : character ≠ ']') (rest : List Char) :
    isPlainFrom .inClass (character :: rest) = (character ≠ '[' && isPlainFrom .inClass rest) := by
  rw [isPlainFrom] <;> simp [notBackslash, notClosing]

/-- What a class begins with counts no more than what follows, unless it is a negation or a bracket
that closes none. -/
theorem demoteFrom_start {context : Context} (inside : context ≠ .outside) {character : Char}
    (notNegation : context = .classStart → character ≠ '^') (notClosing : character ≠ ']') (depth : Nat)
    (rest : List Char) : demoteFrom depth context (character :: rest) =
      demoteFrom depth .inClass (character :: rest) := by
  by_cases backslash : character = '\\'
  · subst backslash
    cases rest with
    | nil => cases context <;> rfl
    | cons letter rest => simp only [demoteFrom_escape, if_neg inside, reduceCtorEq, if_false]
  · rw [demoteFrom_inClass backslash notClosing]
    cases context with
    | outside => exact absurd rfl inside
    | classStart => rw [demoteFrom] <;> simp [backslash, notNegation rfl]
    | afterNegation => rw [demoteFrom] <;> simp [backslash]
    | inClass => exact demoteFrom_inClass backslash notClosing depth rest

theorem isPlainFrom_start {context : Context} (inside : context ≠ .outside) {character : Char}
    (notNegation : context = .classStart → character ≠ '^') (notClosing : character ≠ ']')
    (rest : List Char) :
    isPlainFrom context (character :: rest) = isPlainFrom .inClass (character :: rest) := by
  by_cases backslash : character = '\\'
  · subst backslash
    cases rest with
    | nil => cases context <;> rfl
    | cons letter rest => simp only [isPlainFrom_escape, if_neg inside, reduceCtorEq, if_false]
  · rw [isPlainFrom_inClass backslash notClosing]
    cases context with
    | outside => exact absurd rfl inside
    | classStart => rw [isPlainFrom] <;> simp [backslash, notNegation rfl]
    | afterNegation => rw [isPlainFrom] <;> simp [backslash]
    | inClass => exact isPlainFrom_inClass backslash notClosing rest

/-! ## Classes by themselves -/

def behindClass : Context → List Char → Option (List Char)
  | .outside, rest => some rest
  | _, [] => some []
  | _, ['\\'] => some []
  | _, '\\' :: _ :: rest => behindClass .inClass rest
  | .classStart, '^' :: rest => behindClass .afterNegation rest
  | .inClass, ']' :: rest => some rest
  | _, character :: rest => if character = '[' then none else behindClass .inClass rest

example : behindClass .classStart "^]()\\]]+".toList = some "+".toList := by cbv
example : behindClass .classStart "a[b]]".toList = none := by cbv

theorem behindClass_outside (rest : List Char) : behindClass .outside rest = some rest := by
  rw [behindClass]

section BehindClass

variable {context : Context} (inside : context ≠ .outside) (rest : List Char)

include inside in
theorem behindClass_escape (letter : Char) :
    behindClass context ('\\' :: letter :: rest) = behindClass .inClass rest := by
  cases context with
  | outside => exact absurd rfl inside
  | classStart | afterNegation | inClass => rfl

theorem behindClass_inClass {character : Char} (notBackslash : character ≠ '\\')
    (notClosing : character ≠ ']') : behindClass .inClass (character :: rest) =
      if character = '[' then none else behindClass .inClass rest := by
  rw [behindClass] <;> simp [notBackslash, notClosing]

include inside in
theorem behindClass_first {character : Char} (notBackslash : character ≠ '\\')
    (notNegation : context = .classStart → character ≠ '^')
    (notClosing : context = .inClass → character ≠ ']') : behindClass context (character :: rest) =
      if character = '[' then none else behindClass .inClass rest := by
  cases context with
  | outside => exact absurd rfl inside
  | classStart => rw [behindClass] <;> simp [notBackslash, notNegation rfl]
  | afterNegation => rw [behindClass] <;> simp [notBackslash]
  | inClass => exact behindClass_inClass rest notBackslash (notClosing rfl)

include inside in
theorem behindClass_start {character : Char}
    (notNegation : context = .classStart → character ≠ '^') (notClosing : character ≠ ']') :
    behindClass context (character :: rest) = behindClass .inClass (character :: rest) := by
  by_cases backslash : character = '\\'
  · subst backslash
    cases rest with
    | nil =>
        cases context with
        | outside => exact absurd rfl inside
        | classStart | afterNegation | inClass => rfl
    | cons letter rest => rw [behindClass_escape inside, behindClass_escape (by decide)]
  · rw [behindClass_first inside rest backslash notNegation fun _ => notClosing,
      behindClass_inClass rest backslash notClosing]

end BehindClass

theorem exists_behindClass {context : Context} {input : List Char}
    (plain : isPlainFrom context input) : ∃ left, behindClass context input = some left := by
  fun_induction isPlainFrom context input with
  | case1 context => cases context <;> exact ⟨_, rfl⟩
  | case2 context => cases context <;> exact ⟨_, rfl⟩
  | case3 context letter rest =>
      rename_i next induction
      rw [Bool.and_eq_true] at plain
      by_cases outside : context = .outside
      · subst outside
        exact ⟨_, rfl⟩
      · rw [behindClass_escape outside]
        simpa only [next, if_neg outside] using induction plain.2
  | case4 | case5 | case6 => exact ⟨_, rfl⟩
  | case7 rest induction => exact induction plain
  | case8 rest induction => exact ⟨_, rfl⟩
  | case9 context character rest =>
      rename_i induction
      rw [Bool.and_eq_true, decide_eq_true_eq] at plain
      rcases induction plain.2 with ⟨left, known⟩
      refine ⟨left, ?_⟩
      rw [behindClass] <;> simp_all

/-! ## Parts that stay -/

/-- Between the two contexts a part of a fragment stays as it is. -/
structure Passes (start stop : Context) (part : List Char) : Prop where
  demotes : ∀ depth rest, demoteFrom depth start (part ++ rest) =
    (demoteFrom depth stop rest).map (part ++ ·)
  plain : ∀ rest, isPlainFrom start (part ++ rest) → isPlainFrom stop rest

namespace Passes

variable {start middle stop : Context} {part other : List Char}

theorem nothing (context : Context) : Passes context context [] where
  demotes depth rest := by
    change _ = (demoteFrom depth context rest).map id
    rw [Option.map_id]
    rfl
  plain _ plain := plain

theorem append (first : Passes start middle part) (second : Passes middle stop other) :
    Passes start stop (part ++ other) where
  demotes depth rest := by
    rw [List.append_assoc, first.demotes, second.demotes, Option.map_map]
    refine congrArg (Option.map · _) (funext fun found => ?_)
    exact (List.append_assoc ..).symm
  plain rest plain := by
    rw [List.append_assoc] at plain
    exact second.plain rest (first.plain _ plain)

theorem escape (context : Context) (letter : Char) :
    Passes context (if context = .outside then .outside else .inClass) ['\\', letter] where
  demotes depth rest := demoteFrom_escape depth context letter rest
  plain rest plain := by
    change isPlainFrom context ('\\' :: letter :: rest) = true at plain
    rw [isPlainFrom_escape, Bool.and_eq_true] at plain
    exact plain.2

theorem single {character : Char} (ordinary : isOrdinary character) :
    Passes .outside .outside [character] where
  demotes := demoteFrom_outside ordinary
  plain rest plain := by
    change isPlainFrom .outside (character :: rest) = true at plain
    rw [isPlainFrom_outside ordinary, Bool.and_eq_true] at plain
    exact plain.2

theorem outside (inert : ∀ character ∈ part, isInert character) :
    Passes .outside .outside part := by
  induction part with
  | nil => exact nothing _
  | cons head tail induction =>
      rw [List.forall_mem_cons] at inert
      exact (single (ordinary_of_inert inert.1)).append (induction inert.2)

theorem member {character : Char} (notBackslash : character ≠ '\\')
    (notClosing : character ≠ ']') : Passes .inClass .inClass [character] where
  demotes := demoteFrom_inClass notBackslash notClosing
  plain rest plain := by
    change isPlainFrom .inClass (character :: rest) = true at plain
    rw [isPlainFrom_inClass notBackslash notClosing, Bool.and_eq_true] at plain
    exact plain.2

theorem inClass (inert : ∀ character ∈ part, isInert character) :
    Passes .inClass .inClass part := by
  induction part with
  | nil => exact nothing _
  | cons head tail induction =>
      rw [List.forall_mem_cons] at inert
      have marks := inert.1
      simp only [isInert, Bool.and_eq_true, decide_eq_true_eq] at marks
      exact (member marks.1.1.1.1 marks.1.1.2).append (induction inert.2)

theorem first {context : Context} (inside : context ≠ .outside) {character : Char}
    (notBackslash : character ≠ '\\') (notNegation : context = .classStart → character ≠ '^')
    (notClosing : context = .inClass → character ≠ ']') :
    Passes context .inClass [character] := by
  have starts (depth : Nat) (rest : List Char) : demoteFrom depth context (character :: rest) =
      (demoteFrom depth .inClass rest).map (character :: ·) := by
    cases context with
    | outside => exact absurd rfl inside
    | classStart => rw [demoteFrom] <;> simp [notBackslash, notNegation rfl]
    | afterNegation => rw [demoteFrom] <;> simp [notBackslash]
    | inClass => exact demoteFrom_inClass notBackslash (notClosing rfl) depth rest
  have plainly (rest : List Char) : isPlainFrom context (character :: rest) =
      (character ≠ '[' && isPlainFrom .inClass rest) := by
    cases context with
    | outside => exact absurd rfl inside
    | classStart => rw [isPlainFrom] <;> simp [notBackslash, notNegation rfl]
    | afterNegation => rw [isPlainFrom] <;> simp [notBackslash]
    | inClass => exact isPlainFrom_inClass notBackslash (notClosing rfl) rest
  refine ⟨starts, fun rest plain => ?_⟩
  change isPlainFrom context (character :: rest) = true at plain
  rw [plainly, Bool.and_eq_true] at plain
  exact plain.2

theorem bracket : Passes .outside .classStart ['['] := ⟨fun _ _ => rfl, fun _ plain => plain⟩

theorem closing : Passes .inClass .outside [']'] := ⟨fun _ _ => rfl, fun _ plain => plain⟩

end Passes

structure Within (start stop : Context) (part : List Char) : Prop extends
    Passes start stop part where
  behind : ∀ rest left, behindClass start (part ++ rest) = some left →
    behindClass stop rest = some left

namespace Within

variable {start middle stop context : Context} {part other : List Char} {character : Char}

theorem nothing (context : Context) : Within context context [] :=
  ⟨.nothing context, fun _ _ known => known⟩

theorem append (first : Within start middle part) (second : Within middle stop other) :
    Within start stop (part ++ other) := by
  refine ⟨first.toPasses.append second.toPasses, fun rest left known => ?_⟩
  rw [List.append_assoc] at known
  exact second.behind rest left (first.behind _ left known)

theorem escape (inside : context ≠ .outside) (letter : Char) :
    Within context .inClass ['\\', letter] := by
  have passes := Passes.escape context letter
  rw [if_neg inside] at passes
  refine ⟨passes, fun rest left known => ?_⟩
  rwa [← behindClass_escape inside rest letter]

theorem first (inside : context ≠ .outside) (notBackslash : character ≠ '\\')
    (notNegation : context = .classStart → character ≠ '^')
    (notClosing : context = .inClass → character ≠ ']') : Within context .inClass [character] := by
  refine ⟨.first inside notBackslash notNegation notClosing, fun rest left known => ?_⟩
  change behindClass context (character :: rest) = some left at known
  rw [behindClass_first inside rest notBackslash notNegation notClosing] at known
  split at known
  · cases known
  · exact known

theorem member (notBackslash : character ≠ '\\') (notClosing : character ≠ ']') :
    Within .inClass .inClass [character] :=
  first (by decide) notBackslash (fun impossible => nomatch impossible) fun _ => notClosing

theorem inClass (inert : ∀ character ∈ part, isInert character) :
    Within .inClass .inClass part := by
  induction part with
  | nil => exact nothing _
  | cons head tail induction =>
      rw [List.forall_mem_cons] at inert
      have marks := inert.1
      simp only [isInert, Bool.and_eq_true, decide_eq_true_eq] at marks
      exact (member marks.1.1.1.1 marks.1.1.2).append (induction inert.2)

theorem hyphens (inside : context ≠ .outside) {count : Nat} (some : count ≠ 0) :
    Within context .inClass (List.replicate count '-') := by
  rcases Nat.exists_eq_succ_of_ne_zero some with ⟨others, rfl⟩
  have single : Within context .inClass ['-'] :=
    first inside (by decide) (fun _ => by decide) (fun _ => by decide)
  refine single.append (inClass fun character member => ?_)
  rw [(List.mem_replicate.mp member).2]
  decide

theorem negation : Within .classStart .afterNegation ['^'] :=
  ⟨⟨fun _ _ => rfl, fun _ plain => plain⟩, fun _ _ known => known⟩

theorem closing : Within .inClass .outside [']'] :=
  ⟨.closing, fun rest _ known => (behindClass_outside rest).trans known⟩

end Within

end UriDispatch.Fragment
