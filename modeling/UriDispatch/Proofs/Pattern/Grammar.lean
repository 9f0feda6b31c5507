import UriDispatch.Pattern.Source
import UriDispatch.Proofs.Pattern.Scanning

/-! A grammar of fragments. Demotion keeps a count of open parentheses and a mark for being in a
class; the grammar has groups within groups, and classes as a whole. Demotion accepts just the
fragments that the grammar derives, and the derivation tells what it writes. -/

namespace UriDispatch.Fragment

/-! ## Classes -/

inductive Members : List Char → Prop
  | none : Members []
  | escape (letter : Char) {rest : List Char} (more : Members rest) :
      Members ('\\' :: letter :: rest)
  | single {character : Char} {rest : List Char} (notBackslash : character ≠ '\\')
      (notClosing : character ≠ ']') (more : Members rest) : Members (character :: rest)

/-- What a class begins with behind its bracket, before the rest. A negation is taken wherever one
follows, and a closing bracket that follows then is a member. -/
inductive ClassLead : List Char → List Char → Prop
  | none {rest : List Char} (noNegation : rest.head? ≠ some '^')
      (noBracket : rest.head? ≠ some ']') : ClassLead [] rest
  | bracket (rest : List Char) : ClassLead [']'] rest
  | negation {rest : List Char} (noBracket : rest.head? ≠ some ']') : ClassLead ['^'] rest
  | negatedBracket (rest : List Char) : ClassLead ['^', ']'] rest

inductive IsClass : List Char → Prop
  | closed {lead members : List Char} (begins : ClassLead lead (members ++ [']']))
      (inside : Members members) : IsClass ('[' :: lead ++ members ++ [']'])

/-! ## Fragments -/

inductive Region where
  | outermost
  | inGroup
deriving DecidableEq, Repr

/-- How a group is opened after demotion. What follows its parenthesis is its body, or the other
parenthesis. -/
def opening (body : List Char) : List Char :=
  if body.head? = some '?' then ['('] else ['(', '?', ':']

/-- A text that has balanced parentheses, and the same text with a mark in each of its plain groups.
Only a fragment as a whole may break off after a backslash or in a class. -/
inductive Derives : Region → List Char → List Char → Prop
  | nothing (region : Region) : Derives region [] []
  | character {region : Region} {single : Char} {rest marked : List Char}
      (ordinary : isOrdinary single) (more : Derives region rest marked) :
      Derives region (single :: rest) (single :: marked)
  | escape {region : Region} (letter : Char) {rest marked : List Char}
      (more : Derives region rest marked) :
      Derives region ('\\' :: letter :: rest) ('\\' :: letter :: marked)
  | backslash : Derives .outermost ['\\'] ['\\']
  | bracketed {region : Region} {part rest marked : List Char} (isClass : IsClass part)
      (more : Derives region rest marked) : Derives region (part ++ rest) (part ++ marked)
  | unclosed {text : List Char} (neverCloses : ∀ part, IsClass part → ¬part <+: '[' :: text) :
      Derives .outermost ('[' :: text) ('[' :: text)
  | group {region : Region} {body inside rest marked : List Char}
      (within : Derives .inGroup body inside) (more : Derives region rest marked) :
      Derives region ('(' :: body ++ ')' :: rest) (opening body ++ inside ++ ')' :: marked)

/-! ## Reading classes -/

namespace ClassLead

theorem congr {lead rest other : List Char} (begins : ClassLead lead rest)
    (same : other.head? = rest.head?) : ClassLead lead other := by
  cases begins with
  | none noNegation noBracket => exact .none (same ▸ noNegation) (same ▸ noBracket)
  | bracket => exact .bracket other
  | negation noBracket => exact .negation (same ▸ noBracket)
  | negatedBracket => exact .negatedBracket other

theorem exists_lead (text : List Char) : ∃ lead rest, text = lead ++ rest ∧ ClassLead lead rest := by
  by_cases negation : text.head? = some '^'
  · rcases List.head?_eq_some_iff.mp negation with ⟨behind, rfl⟩
    by_cases bracket : behind.head? = some ']'
    · rcases List.head?_eq_some_iff.mp bracket with ⟨rest, rfl⟩
      exact ⟨_, rest, rfl, .negatedBracket rest⟩
    · exact ⟨_, behind, rfl, .negation bracket⟩
  · by_cases bracket : text.head? = some ']'
    · rcases List.head?_eq_some_iff.mp bracket with ⟨rest, rfl⟩
      exact ⟨_, rest, rfl, .bracket rest⟩
    · exact ⟨[], text, rfl, .none negation bracket⟩

theorem demoteFrom_append {lead rest : List Char} (begins : ClassLead lead rest) (depth : Nat) :
    demoteFrom depth .classStart (lead ++ rest) =
      (demoteFrom depth .inClass rest).map (lead ++ ·) := by
  have inside (context : Context) (isInside : context ≠ .outside)
      (noNegation : context = .classStart → rest.head? ≠ some '^')
      (noBracket : rest.head? ≠ some ']') :
      demoteFrom depth context rest = demoteFrom depth .inClass rest := by
    cases rest with
    | nil => cases context <;> rfl
    | cons character behind =>
        apply demoteFrom_start isInside
        · exact fun isStart equal => noNegation isStart (congrArg some equal)
        · exact fun equal => noBracket (congrArg some equal)
  cases begins with
  | none noNegation noBracket =>
      change _ = (demoteFrom depth .inClass rest).map id
      rw [Option.map_id]
      exact inside .classStart (by decide) (fun _ => noNegation) noBracket
  | bracket => rfl
  | negation noBracket =>
      change (demoteFrom depth .afterNegation rest).map _ = _
      rw [inside .afterNegation (by decide) (fun isStart => by cases isStart) noBracket]
      rfl
  | negatedBracket =>
      change Option.map _ (Option.map _ _) = _
      rw [Option.map_map]
      rfl

end ClassLead

theorem Members.passes {members : List Char} (inside : Members members) :
    Passes .inClass .inClass members := by
  induction inside with
  | none => exact .nothing _
  | escape letter more induction => exact (Passes.escape .inClass letter).append induction
  | single notBackslash notClosing more induction =>
      exact (Passes.member notBackslash notClosing).append induction

theorem head?_append_bracket (members rest : List Char) :
    (members ++ ']' :: rest).head? = (members ++ [']']).head? := by
  cases members <;> rfl

theorem IsClass.demoteFrom_append {part : List Char} (isClass : IsClass part) (depth : Nat)
    (rest : List Char) : demoteFrom depth .outside (part ++ rest) =
      (demoteFrom depth .outside rest).map (part ++ ·) := by
  cases isClass with
  | @closed lead members begins inside =>
      have whole := begins.congr (head?_append_bracket members rest)
      have stays := (inside.passes.append .closing).demotes depth rest
      have parts (rest : List Char) : '[' :: lead ++ members ++ [']'] ++ rest =
          '[' :: (lead ++ (members ++ ']' :: rest)) := by simp
      rw [parts, demoteFrom, whole.demoteFrom_append]
      rw [List.append_assoc, List.singleton_append] at stays
      rw [stays, Option.map_map, Option.map_map]
      congr 1
      funext found
      simp

theorem exists_members (text : List Char) : ∃ members rest, Members members ∧
    text = members ++ rest ∧ (rest = [] ∨ rest = ['\\'] ∨ rest.head? = some ']') := by
  induction size : text.length using Nat.strongRecOn generalizing text with
  | ind size induction =>
      subst size
      cases text with
      | nil => exact ⟨[], [], .none, rfl, .inl rfl⟩
      | cons character behind =>
          by_cases closing : character = ']'
          · exact ⟨[], _, .none, rfl, .inr (.inr (congrArg some closing))⟩
          by_cases backslash : character = '\\'
          · subst backslash
            cases behind with
            | nil => exact ⟨[], _, .none, rfl, .inr (.inl rfl)⟩
            | cons letter behind =>
                have shorter : behind.length < ('\\' :: letter :: behind).length :=
                  Nat.lt_succ_of_lt (Nat.lt_succ_self _)
                rcases induction _ shorter behind rfl with ⟨members, rest, inside, rfl, stops⟩
                exact ⟨_, rest, .escape letter inside, rfl, stops⟩
          · rcases induction _ (by simp) behind rfl with ⟨members, rest, inside, rfl, stops⟩
            exact ⟨_, rest, .single backslash closing inside, rfl, stops⟩

theorem demoteFrom_unclosed {text : List Char}
    (unclosed : ∀ part, IsClass part → ¬part <+: '[' :: text) (depth : Nat) :
    demoteFrom depth .outside ('[' :: text) = if depth = 0 then some ('[' :: text) else none := by
  rcases ClassLead.exists_lead text with ⟨lead, behind, rfl, begins⟩
  rcases exists_members behind with ⟨members, rest, inside, rfl, stops⟩
  rw [demoteFrom, begins.demoteFrom_append, inside.passes.demotes]
  rcases stops with rfl | rfl | bracket
  · by_cases closed : depth = 0 <;> simp [demoteFrom, closed]
  · by_cases closed : depth = 0 <;> simp [demoteFrom, closed]
  · rcases List.head?_eq_some_iff.mp bracket with ⟨others, rfl⟩
    have own := begins.congr (head?_append_bracket members others).symm
    exact absurd ⟨others, by simp⟩ (unclosed _ (.closed own inside))

/-! ## Fronts of texts -/

structure Stays (part : List Char) : Prop where
  notEmpty : part ≠ []
  demotes : ∀ depth rest, demoteFrom depth .outside (part ++ rest) =
    (demoteFrom depth .outside rest).map (part ++ ·)
  derives : ∀ {region rest marked}, Derives region rest marked →
    Derives region (part ++ rest) (part ++ marked)

structure BreaksOff (text : List Char) : Prop where
  demotes : ∀ depth, demoteFrom depth .outside text = if depth = 0 then some text else none
  derives : Derives .outermost text text

theorem Stays.character {single : Char} (ordinary : isOrdinary single) : Stays [single] where
  notEmpty := List.cons_ne_nil _ _
  demotes := demoteFrom_outside ordinary
  derives := .character ordinary

theorem Stays.escape (letter : Char) : Stays ['\\', letter] where
  notEmpty := List.cons_ne_nil _ _
  demotes := fun depth rest => demoteFrom_escape depth .outside letter rest
  derives := .escape letter

theorem Stays.bracketed {part : List Char} (isClass : IsClass part) : Stays part where
  notEmpty := by
    cases isClass
    simp
  demotes := isClass.demoteFrom_append
  derives := .bracketed isClass

theorem Stays.before {part text marked rest : List Char} (stays : Stays part) {depth : Nat}
    (writes : demoteFrom depth .outside (text ++ rest) =
      (demoteFrom depth .outside rest).map (marked ++ ·)) :
    demoteFrom depth .outside (part ++ text ++ rest) =
      (demoteFrom depth .outside rest).map (part ++ marked ++ ·) := by
  rw [List.append_assoc, stays.demotes, writes, Option.map_map]
  simp [Function.comp_def]

theorem front_cases (text : List Char) :
    (∃ part rest, Stays part ∧ text = part ++ rest) ∨ BreaksOff text ∨
      (∃ rest, text = '(' :: rest) ∨ ∃ rest, text = ')' :: rest := by
  cases text with
  | nil => exact .inr (.inl ⟨fun _ => rfl, .nothing _⟩)
  | cons character rest =>
      by_cases ordinary : isOrdinary character
      · exact .inl ⟨[character], rest, .character ordinary, rfl⟩
      have marks : character = '\\' ∨ character = '[' ∨ character = '(' ∨ character = ')' := by
        simp only [isOrdinary, Bool.and_eq_true, decide_eq_true_eq] at ordinary
        tauto
      rcases marks with rfl | rfl | rfl | rfl
      · cases rest with
        | nil => exact .inr (.inl ⟨fun _ => rfl, .backslash⟩)
        | cons letter rest => exact .inl ⟨_, rest, .escape letter, rfl⟩
      · by_cases closes : ∃ part, IsClass part ∧ part <+: '[' :: rest
        · rcases closes with ⟨part, isClass, after, equal⟩
          exact .inl ⟨part, after, .bracketed isClass, equal.symm⟩
        · have neverCloses : ∀ part, IsClass part → ¬part <+: '[' :: rest :=
            fun part isClass leads => closes ⟨part, isClass, leads⟩
          exact .inr (.inl ⟨demoteFrom_unclosed neverCloses, .unclosed neverCloses⟩)
      · exact .inr (.inr (.inl ⟨rest, rfl⟩))
      · exact .inr (.inr (.inr ⟨rest, rfl⟩))

theorem demoteFrom_opening (depth : Nat) (rest : List Char) :
    demoteFrom depth .outside ('(' :: rest) =
      (demoteFrom (depth + 1) .outside rest).map (opening rest ++ ·) := rfl

theorem demoteFrom_closing (depth : Nat) (rest : List Char) :
    demoteFrom (depth + 1) .outside (')' :: rest) =
      (demoteFrom depth .outside rest).map (')' :: ·) := rfl

theorem opening_append (body rest : List Char) : opening (body ++ ')' :: rest) = opening body := by
  cases body <;> rfl

/-! ## Derived texts -/

/-- Demotion writes for a derived text what the derivation tells, whatever follows the text. -/
theorem Derives.demoteFrom_append {region : Region} {text marked : List Char}
    (derives : Derives region text marked) (depth : Nat) (rest : List Char)
    (ends : region = .outermost → depth = 0 ∧ rest = []) :
    demoteFrom depth .outside (text ++ rest) =
      (demoteFrom depth .outside rest).map (marked ++ ·) := by
  induction derives generalizing depth rest with
  | nothing => exact Option.map_id.symm ▸ rfl
  | character ordinary more induction =>
      exact (Stays.character ordinary).before (induction depth rest ends)
  | escape letter more induction =>
      exact (Stays.escape letter).before (induction depth rest ends)
  | bracketed isClass more induction =>
      exact (Stays.bracketed isClass).before (induction depth rest ends)
  | backslash =>
      rcases ends rfl with ⟨rfl, rfl⟩
      rfl
  | unclosed neverCloses =>
      rcases ends rfl with ⟨rfl, rfl⟩
      rw [List.append_nil, demoteFrom_unclosed neverCloses]
      simp [demoteFrom]
  | @group region body inside after marked within more inner outer =>
      have parts : '(' :: body ++ ')' :: after ++ rest =
          '(' :: (body ++ ')' :: (after ++ rest)) := by simp
      rw [parts, demoteFrom_opening, opening_append,
        inner (depth + 1) _ (fun impossible => by cases impossible), demoteFrom_closing,
        outer depth rest ends]
      simp [Function.comp_def]

/-- What is read while groups are open: the rest of each of them, and what follows the outermost. -/
inductive Nested : Nat → List Char → List Char → Prop
  | outermost {text marked : List Char} (derives : Derives .outermost text marked) :
      Nested 0 text marked
  | group {depth : Nat} {body inside rest marked : List Char}
      (within : Derives .inGroup body inside) (more : Nested depth rest marked) :
      Nested (depth + 1) (body ++ ')' :: rest) (inside ++ ')' :: marked)

theorem Nested.prepend {depth : Nat} {text marked : List Char} (nested : Nested depth text marked)
    (part written : List Char) (adds : ∀ {region text marked}, Derives region text marked →
      Derives region (part ++ text) (written ++ marked)) :
    Nested depth (part ++ text) (written ++ marked) := by
  cases nested with
  | outermost derives => exact .outermost (adds derives)
  | group within more =>
      rw [← List.append_assoc, ← List.append_assoc]
      exact .group (adds within) more

theorem nested_of_demoteFrom {depth : Nat} {input output : List Char}
    (demotes : demoteFrom depth .outside input = some output) : Nested depth input output := by
  induction size : input.length using Nat.strongRecOn generalizing depth input output with
  | ind size induction =>
      subst size
      rcases front_cases input with ⟨part, rest, stays, rfl⟩ | breaksOff | ⟨rest, rfl⟩ | ⟨rest, rfl⟩
      · have shorter : rest.length < (part ++ rest).length := by
          have positive := List.length_pos_of_ne_nil stays.notEmpty
          rw [List.length_append]
          omega
        rw [stays.demotes] at demotes
        rcases Option.map_eq_some_iff.mp demotes with ⟨others, found, rfl⟩
        exact (induction _ shorter found rfl).prepend part part stays.derives
      · rw [breaksOff.demotes] at demotes
        split at demotes
        · next closed =>
            cases demotes
            exact closed ▸ .outermost breaksOff.derives
        · cases demotes
      · rw [demoteFrom_opening] at demotes
        rcases Option.map_eq_some_iff.mp demotes with ⟨others, found, rfl⟩
        have nested := induction _ (by simp) found rfl
        cases nested with
        | @group depth body inside after marked within more =>
            -- The group that was open is complete by now, and stands before the one around it.
            have adds {region : Region} {text written : List Char}
                (derives : Derives region text written) :
                Derives region ('(' :: body ++ [')'] ++ text)
                  (opening body ++ inside ++ [')'] ++ written) := by
              rw [List.append_assoc, List.append_assoc]
              exact .group within derives
            rw [opening_append]
            simpa using more.prepend _ _ adds
      · cases depth with
        | zero => cases demotes
        | succ depth =>
            rw [demoteFrom_closing] at demotes
            rcases Option.map_eq_some_iff.mp demotes with ⟨others, found, rfl⟩
            exact .group (.nothing _) (induction _ (by simp) found rfl)

theorem demote_eq_some_iff (fragment demoted : List Char) :
    demote fragment = some demoted ↔ Derives .outermost fragment demoted := by
  constructor
  · intro demotes
    cases nested_of_demoteFrom demotes with
    | outermost derives => exact derives
  · intro derives
    have written := derives.demoteFrom_append 0 [] fun _ => ⟨rfl, rfl⟩
    rw [List.append_nil] at written
    rw [demote, written]
    simp [demoteFrom]

end UriDispatch.Fragment

namespace UriDispatch.Pattern

open Fragment (Derives)

/-- A fragment is accepted just if it is derived, with the marks of its derivation, and else is
reported as it was given. What follows a fragment that does not break off is read by itself. -/
theorem groupBody_iff_derives {fragments : Fragments} {name fragment : String}
    (given : fragments.get? name = some fragment) :
    (∀ demoted, groupBody fragments name = .ok demoted ↔
      Derives .outermost fragment.toList demoted) ∧
    (groupBody fragments name = .error (.unbalancedFragment name fragment) ↔
      ∀ demoted, ¬Derives .outermost fragment.toList demoted) ∧
    ∀ demoted, Derives .inGroup fragment.toList demoted → ∀ rest,
      Fragment.demote (fragment.toList ++ rest) = (Fragment.demote rest).map (demoted ++ ·) := by
  have known := Fragment.demote_eq_some_iff fragment.toList
  have accepted {demoted : List Char} (demotes : Fragment.demote fragment.toList = some demoted) :
      groupBody fragments name = .ok demoted := by
    simp only [groupBody, given, demotes]
  have refused (unbalanced : Fragment.demote fragment.toList = none) :
      groupBody fragments name = .error (.unbalancedFragment name fragment) := by
    simp only [groupBody, given, unbalanced]
  refine ⟨?_, ?_, ?_⟩
  · intro demoted
    rw [← known]
    cases demotes : Fragment.demote fragment.toList with
    | none => simp [refused demotes]
    | some found => simp [accepted demotes]
  · simp only [← known]
    cases demotes : Fragment.demote fragment.toList with
    | none => simp [refused demotes]
    | some found => simp [accepted demotes]
  · intro demoted derives rest
    exact derives.demoteFrom_append 0 rest fun impossible => by cases impossible

theorem groupBody_iff_derives_of_class :
    (SortedMap.ofList [("a", "((?i)x|[^](]\\))")]).get? "a" = some "((?i)x|[^](]\\))" ∧
    Derives .outermost "((?i)x|[^](]\\))".toList "(?:(?i)x|[^](]\\))".toList ∧
    Derives .inGroup "((?i)x|[^](]\\))".toList "(?:(?i)x|[^](]\\))".toList ∧
    Fragment.demote ("((?i)x|[^](]\\))".toList ++ "(y)[".toList) =
      (Fragment.demote "(y)[".toList).map ("(?:(?i)x|[^](]\\))".toList ++ ·) := by
  have given : (SortedMap.ofList [("a", "((?i)x|[^](]\\))")]).get? "a" =
      some "((?i)x|[^](]\\))" := by decide +kernel
  have flags : Derives .inGroup ['?', 'i'] ['?', 'i'] :=
    .character (by decide) (.character (by decide) (.nothing _))
  have isClass : Fragment.IsClass ['[', '^', ']', '(', ']'] :=
    .closed (.negatedBracket _) (.single (by decide) (by decide) .none)
  have body : Derives .inGroup
      ['(', '?', 'i', ')', 'x', '|', '[', '^', ']', '(', ']', '\\', ')']
      ['(', '?', 'i', ')', 'x', '|', '[', '^', ']', '(', ']', '\\', ')'] :=
    .group flags (.character (by decide) (.character (by decide)
      (.bracketed isClass (.escape ')' (.nothing _)))))
  have derives : Derives .inGroup "((?i)x|[^](]\\))".toList "(?:(?i)x|[^](]\\))".toList := by
    have text : "((?i)x|[^](]\\))".toList =
        '(' :: ['(', '?', 'i', ')', 'x', '|', '[', '^', ']', '(', ']', '\\', ')'] ++ [')'] := by
      decide +kernel
    have marked : "(?:(?i)x|[^](]\\))".toList =
        Fragment.opening ['(', '?', 'i', ')', 'x', '|', '[', '^', ']', '(', ']', '\\', ')'] ++
          ['(', '?', 'i', ')', 'x', '|', '[', '^', ']', '(', ']', '\\', ')'] ++ [')'] := by
      decide +kernel
    rw [text, marked]
    exact .group body (.nothing _)
  exact ⟨given, ((groupBody_iff_derives given).1 _).mp (by decide +kernel), derives,
    (groupBody_iff_derives given).2.2 _ derives _⟩

end UriDispatch.Pattern
