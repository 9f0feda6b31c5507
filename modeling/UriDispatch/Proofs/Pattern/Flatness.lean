import UriDispatch.Proofs.Pattern.FragmentClasses

/-! Fragments whose parentheses show what they are. Demotion has one flag for being in a class, and
knows neither names of groups nor the verbose mode. In a flat fragment these make no difference, nor
in one of which the classes may hold others but hide no parenthesis from it. -/

namespace UriDispatch.Fragment

/-- Whether a name that follows a parenthesis is closed before any bracket or like mark, and flags
that do so leave the verbose mode off. -/
def leadsPlainly (rest : List Char) : Bool :=
  match rest.takeWhile isOrdinary with
  | '?' :: 'P' :: '<' :: name => '>' ∈ name
  | '?' :: '<' :: name => '>' ∈ name
  | '?' :: flags => 'x' ∉ flags.takeWhile fun letter => letter ∉ [':', '-']
  | _ => true

/-- Whether the classes and escapes of a fragment are complete, no class holds another one, and each
parenthesis leads plainly to what it opens. -/
def isFlatFrom : Context → List Char → Bool
  | context, [] => context = .outside
  | _, ['\\'] => false
  | context, '\\' :: _ :: rest =>
      isFlatFrom (if context = .outside then .outside else .inClass) rest
  | .outside, '[' :: rest => isFlatFrom .classStart rest
  | .outside, '(' :: rest => leadsPlainly rest && isFlatFrom .outside rest
  | .outside, _ :: rest => isFlatFrom .outside rest
  | .classStart, '^' :: rest => isFlatFrom .afterNegation rest
  | .inClass, ']' :: rest => isFlatFrom .outside rest
  | _, character :: rest => character ≠ '[' && isFlatFrom .inClass rest

def isFlat (fragment : List Char) : Bool := isFlatFrom .outside fragment

example : isFlat "(?P<a>[^()]]+|(?i:\\)))".toList = true := by decide
example : isFlat "[[a](b)]".toList = false := by decide
example : isFlat "(?x)a #(".toList = false := by decide

/-- Whether demotion finds no parenthesis in a part of a fragment, and is outside of classes behind
it. -/
def staysFrom : Context → List Char → Bool
  | context, [] => context = .outside
  | _, ['\\'] => false
  | context, '\\' :: _ :: rest =>
      staysFrom (if context = .outside then .outside else .inClass) rest
  | .outside, '[' :: rest => staysFrom .classStart rest
  | .outside, character :: rest =>
      character ≠ '(' && character ≠ ')' && staysFrom .outside rest
  | .classStart, '^' :: rest => staysFrom .afterNegation rest
  | .inClass, ']' :: rest => staysFrom .outside rest
  | _, _ :: rest => staysFrom .inClass rest

/-- The same as being flat, but for classes that hold others: such a class has to be complete as
classes are read, and demotion has to leave it as it is. -/
def isSelfContained (fragment : List Char) : Bool :=
  match fragment with
  | [] => true
  | ['\\'] => false
  | '\\' :: _ :: rest => isSelfContained rest
  | '(' :: rest => leadsPlainly rest && isSelfContained rest
  | '[' :: rest =>
      isFlatFrom .classStart rest ||
        match Regex.readClass false ('[' :: rest) with
        | .error _ => false
        | .ok ⟨_, left, _⟩ =>
            staysFrom .classStart (rest.take (rest.length - left.length)) && isSelfContained left
  | _ :: rest => isSelfContained rest
termination_by fragment.length
decreasing_by
  all_goals
    simp only [List.length_cons] at *
    omega

example : isSelfContained "([[:alpha:]]|[a[()]&&[^b]-])+".toList = true := by decide +kernel
example : isSelfContained "[[a](b)]".toList = false := by decide +kernel

theorem isSelfContained_of_flat {fragment : List Char} (flat : isFlatFrom .outside fragment) :
    isSelfContained fragment := by
  fun_induction isSelfContained fragment with
  | case1 => rfl
  | case2 => cases flat
  | case3 letter rest induction => exact induction flat
  | case4 rest induction =>
      rw [isFlatFrom, Bool.and_eq_true] at flat
      rw [Bool.and_eq_true]
      exact ⟨flat.1, induction flat.2⟩
  | case5 => exact Bool.or_eq_true_iff.mpr (.inl flat)
  | case6 character rest =>
      rename_i induction
      apply induction
      rw [isFlatFrom] at flat
      all_goals assumption

/-! ## Characters outside of classes -/

theorem isSelfContained_outside {character : Char} (ordinary : isOrdinary character)
    (rest : List Char) : isSelfContained (character :: rest) = isSelfContained rest := by
  simp only [isOrdinary, Bool.and_eq_true, decide_eq_true_eq] at ordinary
  rw [isSelfContained] <;> simp [ordinary]

theorem isSelfContained_closing (rest : List Char) :
    isSelfContained (')' :: rest) = isSelfContained rest := by
  rw [isSelfContained] <;> simp

section Ordinary

variable {part : List Char} (ordinary : ∀ character ∈ part, isOrdinary character)

include ordinary

theorem isSelfContained_ordinary (rest : List Char) :
    isSelfContained (part ++ rest) = isSelfContained rest := by
  induction part with
  | nil => rfl
  | cons head tail induction =>
      rw [List.forall_mem_cons] at ordinary
      rw [List.cons_append, isSelfContained_outside ordinary.1, induction ordinary.2]

theorem demoteFrom_ordinary (depth : Nat) (rest : List Char) :
    demoteFrom depth .outside (part ++ rest) =
      (demoteFrom depth .outside rest).map (part ++ ·) := by
  induction part with
  | nil =>
      change _ = (demoteFrom depth .outside rest).map id
      rw [Option.map_id]
      rfl
  | cons head tail induction =>
      rw [List.forall_mem_cons] at ordinary
      rw [List.cons_append, demoteFrom_outside ordinary.1, induction ordinary.2, Option.map_map]
      rfl

theorem exists_ordinary {depth : Nat} {fragment demoted after rest : List Char}
    (demotes : demoteFrom depth .outside fragment = some demoted)
    (equal : demoted ++ ')' :: after = part ++ rest) :
    ∃ left demotedLeft, fragment = part ++ left ∧
      demoteFrom depth .outside left = some demotedLeft ∧ rest = demotedLeft ++ ')' :: after := by
  induction part generalizing fragment demoted with
  | nil => exact ⟨fragment, demoted, rfl, demotes, equal.symm⟩
  | cons head tail induction =>
      rw [List.forall_mem_cons] at ordinary
      have same := demoteFrom_head demotes
      cases fragment with
      | nil =>
          rw [List.head?_nil, List.head?_eq_none_iff] at same
          subst same
          cases (List.cons.inj equal).1
          exact absurd ordinary.1 (by decide)
      | cons first others =>
          rcases List.head?_eq_some_iff.mp same with ⟨more, rfl⟩
          rcases List.cons.inj equal with ⟨rfl, equalTail⟩
          rw [demoteFrom_outside ordinary.1] at demotes
          rcases Option.map_eq_some_iff.mp demotes with ⟨inner, demotesInner, same⟩
          cases same
          rcases induction ordinary.2 demotesInner equalTail with ⟨left, demotedLeft, rfl, result⟩
          exact ⟨left, demotedLeft, rfl, result⟩

end Ordinary

/-! ## Runs of characters -/

inductive IsRun : List Char → Prop where
  | plain {part : List Char} (ordinary : ∀ character ∈ part, isOrdinary character) : IsRun part
  | escape (letter : Char) {part : List Char}
      (ordinary : ∀ character ∈ part, isOrdinary character) : IsRun ('\\' :: letter :: part)

namespace IsRun

variable {part : List Char} (run : IsRun part)

include run

theorem demoteFrom_append (depth : Nat) (rest : List Char) :
    demoteFrom depth .outside (part ++ rest) =
      (demoteFrom depth .outside rest).map (part ++ ·) := by
  cases run with
  | plain ordinary => exact demoteFrom_ordinary ordinary depth rest
  | @escape letter part ordinary =>
      change demoteFrom depth .outside ('\\' :: letter :: (part ++ rest)) = _
      rw [demoteFrom_escape, if_pos rfl, demoteFrom_ordinary ordinary, Option.map_map]
      rfl

theorem isSelfContained_append (rest : List Char) :
    isSelfContained (part ++ rest) = isSelfContained rest := by
  cases run with
  | plain ordinary => exact isSelfContained_ordinary ordinary rest
  | @escape letter part ordinary =>
      rw [List.cons_append, List.cons_append, isSelfContained, isSelfContained_ordinary ordinary]

theorem exists_append {depth : Nat} {fragment demoted after rest : List Char}
    (contained : isSelfContained fragment)
    (demotes : demoteFrom depth .outside fragment = some demoted)
    (equal : demoted ++ ')' :: after = part ++ rest) :
    ∃ left demotedLeft, fragment = part ++ left ∧
      demoteFrom depth .outside left = some demotedLeft ∧ rest = demotedLeft ++ ')' :: after := by
  cases run with
  | plain ordinary => exact exists_ordinary ordinary demotes equal
  | escape letter ordinary =>
      have same := demoteFrom_head demotes
      cases fragment with
      | nil =>
          rw [List.head?_nil, List.head?_eq_none_iff] at same
          subst same
          cases equal
      | cons first others =>
          rcases List.head?_eq_some_iff.mp same with ⟨more, rfl⟩
          rcases List.cons.inj equal with ⟨rfl, equalTail⟩
          cases others with
          | nil =>
              rw [isSelfContained] at contained
              cases contained
          | cons second others =>
              rw [demoteFrom_escape, if_pos rfl] at demotes
              rcases Option.map_eq_some_iff.mp demotes with ⟨inner, demotesInner, same⟩
              cases same
              rcases List.cons.inj equalTail with ⟨rfl, equalInner⟩
              rcases exists_ordinary ordinary demotesInner equalInner with
                ⟨left, demotedLeft, rfl, result⟩
              exact ⟨left, demotedLeft, rfl, result⟩

end IsRun

/-! ## Leads -/

/-- What stands between a parenthesis and the text behind the opening: the marks of a group, or all of
a setting of flags. -/
inductive IsLead : List Char → Nat → Prop where
  | opens {marks : List Char} (ordinary : ∀ mark ∈ marks, isOrdinary mark) : IsLead ('?' :: marks) 1
  | sets {marks : List Char} (ordinary : ∀ mark ∈ marks, isOrdinary mark) :
      IsLead ('?' :: marks ++ [')']) 0

theorem ordinary_question {marks : List Char} (ordinary : ∀ mark ∈ marks, isOrdinary mark) :
    ∀ mark ∈ '?' :: marks, isOrdinary mark :=
  List.forall_mem_cons.mpr ⟨by decide, ordinary⟩

theorem demoteFrom_lead {part : List Char} {opened : Nat} (lead : IsLead part opened) (depth : Nat)
    (rest : List Char) : demoteFrom depth .outside ('(' :: part ++ rest) =
      (demoteFrom (depth + opened) .outside rest).map ('(' :: part ++ ·) := by
  cases lead with
  | opens ordinary =>
      change (demoteFrom (depth + 1) .outside ('?' :: _ ++ rest)).map ('(' :: ·) = _
      rw [demoteFrom_ordinary (ordinary_question ordinary), Option.map_map]
      rfl
  | @sets marks ordinary =>
      change (demoteFrom (depth + 1) .outside ('?' :: marks ++ [')'] ++ rest)).map ('(' :: ·) = _
      rw [List.append_assoc, demoteFrom_ordinary (ordinary_question ordinary)]
      change (((demoteFrom depth .outside rest).map (')' :: ·)).map _).map _ = _
      rw [Option.map_map, Option.map_map]
      simp [Function.comp_def]

theorem isSelfContained_lead {part : List Char} {opened : Nat} (lead : IsLead part opened)
    {rest : List Char} (contained : isSelfContained (part ++ rest)) : isSelfContained rest := by
  cases lead with
  | opens ordinary => rwa [isSelfContained_ordinary (ordinary_question ordinary)] at contained
  | sets ordinary =>
      rw [List.append_assoc, isSelfContained_ordinary (ordinary_question ordinary)] at contained
      rwa [← isSelfContained_closing rest]

theorem exists_lead_append {part : List Char} {opened : Nat} (lead : IsLead part opened) {depth : Nat}
    {fragment demoted after rest : List Char}
    (demotes : demoteFrom (depth + 1) .outside fragment = some demoted)
    (equal : demoted ++ ')' :: after = part ++ rest) :
    ∃ left demotedLeft, fragment = part ++ left ∧
      demoteFrom (depth + opened) .outside left = some demotedLeft ∧
        rest = demotedLeft ++ ')' :: after := by
  cases lead with
  | opens ordinary => exact exists_ordinary (ordinary_question ordinary) demotes equal
  | @sets marks ordinary =>
      rw [List.append_assoc] at equal
      rcases exists_ordinary (ordinary_question ordinary) demotes equal with
        ⟨closing, demotedClosing, rfl, demotesClosing, equalClosing⟩
      -- The group that is open keeps the parenthesis from being the one after the fragment.
      cases closing with
      | nil => cases demotesClosing
      | cons first left =>
          rcases List.head?_eq_some_iff.mp (demoteFrom_head demotesClosing) with ⟨others, rfl⟩
          rcases List.cons.inj equalClosing with ⟨rfl, equalRest⟩
          rcases Option.map_eq_some_iff.mp demotesClosing with ⟨inner, demotesInner, same⟩
          cases same
          exact ⟨left, others, by simp, demotesInner, equalRest⟩

theorem takeWhile_demoted {depth : Nat} {fragment demoted : List Char}
    (demotes : demoteFrom depth .outside fragment = some demoted) (after : List Char) :
    (demoted ++ ')' :: after).takeWhile isOrdinary = fragment.takeWhile isOrdinary := by
  induction fragment generalizing demoted with
  | nil =>
      have same := demoteFrom_head demotes
      rw [List.head?_nil, List.head?_eq_none_iff] at same
      subst same
      rfl
  | cons head tail induction =>
      by_cases ordinary : isOrdinary head
      · rw [demoteFrom_outside ordinary] at demotes
        rcases Option.map_eq_some_iff.mp demotes with ⟨inner, demotesInner, rfl⟩
        rw [List.cons_append, List.takeWhile_cons_of_pos ordinary,
          List.takeWhile_cons_of_pos ordinary, induction demotesInner]
      · rcases List.head?_eq_some_iff.mp (demoteFrom_head demotes) with ⟨others, rfl⟩
        rw [List.cons_append, List.takeWhile_cons_of_neg ordinary,
          List.takeWhile_cons_of_neg ordinary]

theorem leadsPlainly_demoted {depth : Nat} {fragment demoted : List Char}
    (demotes : demoteFrom depth .outside fragment = some demoted) (after : List Char) :
    leadsPlainly (demoted ++ ')' :: after) = leadsPlainly fragment := by
  rw [leadsPlainly, leadsPlainly, takeWhile_demoted demotes]

/-! ## Classes -/

theorem not_backslash {character : Char} {rest : List Char}
    (notLast : character = '\\' → rest = [] → False)
    (notEscape : ∀ letter others, character = '\\' → rest = letter :: others → False) :
    character ≠ '\\' := by
  rintro rfl
  cases rest with
  | nil => exact notLast rfl rfl
  | cons letter others => exact notEscape letter others rfl rfl

theorem exists_class {context : Context} {input : List Char} (inside : context ≠ .outside)
    (flat : isFlatFrom context input) :
    ∃ part left, input = part ++ left ∧ isFlatFrom .outside left ∧ staysFrom context part ∧
      ∀ rest, behindClass context (part ++ rest) = some rest := by
  fun_induction isFlatFrom context input with
  | case1 context => exact absurd (decide_eq_true_eq.mp flat) inside
  | case2 => cases flat
  | case3 context letter rest =>
      rename_i induction
      rw [if_neg inside] at flat induction
      rcases induction (by decide) flat with ⟨part, left, rfl, flatLeft, stays, behind⟩
      refine ⟨'\\' :: letter :: part, left, rfl, flatLeft, ?_, fun rest => ?_⟩
      · rwa [staysFrom, if_neg inside]
      · exact (behindClass_escape inside _ letter).trans (behind rest)
  | case4 | case5 | case6 => exact absurd rfl inside
  | case7 rest induction =>
      rcases induction (by decide) flat with ⟨part, left, rfl, flatLeft, stays, behind⟩
      exact ⟨'^' :: part, left, rfl, flatLeft, stays, behind⟩
  | case8 rest induction =>
      exact ⟨[']'], rest, rfl, flat, by decide, fun _ => rfl⟩
  | case9 context character rest notLast notEscape =>
      rename_i notNegation notClosing induction
      have notBackslash := not_backslash notLast notEscape
      rw [Bool.and_eq_true, decide_eq_true_eq] at flat
      rcases induction (by decide) flat.2 with ⟨part, left, rfl, flatLeft, stays, behind⟩
      refine ⟨character :: part, left, rfl, flatLeft, ?_, fun rest => ?_⟩
      · rw [staysFrom] <;> first | assumption | simp [notBackslash]
      · refine (behindClass_first inside _ notBackslash notNegation notClosing).trans ?_
        rw [if_neg flat.1]
        exact behind rest

theorem passes_of_stays {context : Context} {part : List Char} (stays : staysFrom context part) :
    Passes context .outside part := by
  fun_induction staysFrom context part with
  | case1 context =>
      cases decide_eq_true_eq.mp stays
      exact .nothing _
  | case2 => cases stays
  | case3 context letter rest induction =>
      exact (Passes.escape context letter).append (induction stays)
  | case4 rest induction => exact Passes.bracket.append (induction stays)
  | case5 character rest =>
      rename_i notLast notEscape notBracket induction
      simp only [Bool.and_eq_true, decide_eq_true_eq] at stays
      have ordinary : isOrdinary character := by
        simp [isOrdinary, not_backslash notLast notEscape, show character ≠ '[' from notBracket,
          stays.1]
      exact (Passes.single ordinary).append (induction stays.2)
  | case6 rest induction => exact Within.negation.toPasses.append (induction stays)
  | case7 rest induction => exact Passes.closing.append (induction stays)
  | case8 context character rest notLast notEscape =>
      rename_i inside notNegation notClosing induction
      have notBackslash := not_backslash notLast notEscape
      exact (Passes.first inside notBackslash notNegation notClosing).append (induction stays)

/-- A class of such a fragment stays as it is, and ends at the same place wherever it is read. -/
theorem exists_contained_class {tail : List Char} (contained : isSelfContained ('[' :: tail)) :
    ∃ part left, tail = part ++ left ∧ isSelfContained left ∧
      (∀ depth rest, demoteFrom depth .outside ('[' :: part ++ rest) =
        (demoteFrom depth .outside rest).map ('[' :: part ++ ·)) ∧
      ∀ {tree : Regex.Tree} {rest other}, Regex.ClassForm false ('[' :: (part ++ other)) tree rest →
        (∀ letter ∈ tree.letters, Regex.isInert letter) → rest = other := by
  have demotes {part : List Char} (stays : staysFrom .classStart part) :=
    (Passes.bracket.append (passes_of_stays stays)).demotes
  rw [isSelfContained, Bool.or_eq_true] at contained
  rcases contained with flat | read
  · rcases exists_class (show Context.classStart ≠ .outside by decide) flat with
      ⟨part, left, rfl, flatLeft, stays, behind⟩
    refine ⟨part, left, rfl, isSelfContained_of_flat flatLeft, demotes stays,
      fun {_ _ other} form inert => ?_⟩
    rcases form.append with ⟨_, _, flatly, _⟩
    exact (flatly other (behind other) inert).1
  · split at read
    · cases read
    · next class' left shorter found =>
        rw [Bool.and_eq_true] at read
        rcases (Regex.class_of_readClass found).append with ⟨part, equal, _, again⟩
        change tail = part ++ left at equal
        subst equal
        have taken : (part ++ left).take ((part ++ left).length - left.length) = part := by simp
        rw [taken] at read
        refine ⟨part, left, rfl, read.2, demotes read.1, fun {_ _ other} form _ => ?_⟩
        rcases again other with ⟨_, _, formToo⟩
        rcases Regex.readClass_of_class form with ⟨_, foundThere, _, rfl⟩
        exact ((Regex.readClass_of_class formToo).unique foundThere).2

end UriDispatch.Fragment
