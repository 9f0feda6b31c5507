import UriDispatch.Proofs.Pattern.Outline

/-! Patterns are compiled as if in one go. A pattern is rewritten twice before names are looked for
in what came of it; the outcome is still told by the pattern as its author wrote it, read once from
left to right. -/

namespace UriDispatch.Pattern

/-! ## Cutting -/

structure Begins (text name after : List Char) : Prop where
  text_eq : text = '<' :: name ++ '>' :: after
  notEmpty : name ≠ []
  letters : ∀ letter ∈ name, isNameCharacter letter

/-- A text cut from left to right, where each name is taken as soon as it begins. -/
inductive Cut : List Char → List Piece → Prop
  | done : Cut [] []
  | name {text letters after : List Char} {parts : List Piece} (begins : Begins text letters after)
      (rest : Cut after parts) : Cut text (.name letters :: parts)
  | character {single : Char} {after : List Char} {parts : List Piece}
      (noName : ∀ letters others, ¬Begins (single :: after) letters others)
      (rest : Cut after parts) : Cut (single :: after) (.character single :: parts)

theorem begins_iff_readName? (text name after : List Char) :
    Begins ('<' :: text) name after ↔ readName? text = some (name, after) := by
  constructor
  · rintro ⟨equal, notEmpty, letters⟩
    rw [List.cons_append, List.cons.injEq] at equal
    obtain ⟨-, rfl⟩ := equal
    have taken : (name ++ '>' :: after).takeWhile isNameCharacter = name := by
      rw [List.takeWhile_append_of_pos letters, List.takeWhile_cons_of_neg (by decide),
        List.append_nil]
    have left : (name ++ '>' :: after).dropWhile isNameCharacter = '>' :: after := by
      rw [List.dropWhile_append_of_pos letters, List.dropWhile_cons_of_neg (by decide)]
    simp only [readName?, taken, left, List.isEmpty_iff, if_neg notEmpty]
  · intro found
    simp only [readName?] at found
    split at found
    · next rest left =>
        split at found
        · cases found
        · next notEmpty =>
            cases found
            refine ⟨?_, fun empty => notEmpty (List.isEmpty_iff.mpr empty), ?_⟩
            · rw [List.cons_append, ← left, List.takeWhile_append_dropWhile]
            · exact fun letter member => List.mem_takeWhile_imp member
    · cases found

theorem begins_bracket {single : Char} {text name after : List Char}
    (begins : Begins (single :: text) name after) : single = '<' := by
  have equal := begins.text_eq
  rw [List.cons_append, List.cons.injEq] at equal
  exact equal.1

theorem cut_iff (text : List Char) (parts : List Piece) : Cut text parts ↔ parts = pieces text := by
  constructor
  · intro cut
    induction cut with
    | done => rw [pieces]
    | @name text letters after parts begins rest induction =>
        have bracket := begins.text_eq
        rw [List.cons_append] at bracket
        subst bracket
        rw [pieces_of_readName? ((begins_iff_readName? _ _ _).mp begins), induction]
    | @character single after parts noName rest induction =>
        by_cases bracket : single = '<'
        · subst bracket
          have missing : readName? after = none := by
            rw [Option.eq_none_iff_forall_ne_some]
            rintro ⟨letters, others⟩ found
            exact noName letters others ((begins_iff_readName? _ _ _).mpr found)
          rw [pieces_of_readName?_none missing, induction]
        · rw [pieces_cons bracket, induction]
  · rintro rfl
    fun_induction pieces text with
    | case1 => exact .done
    | case2 rest name after found induction =>
        exact .name ((begins_iff_readName? _ _ _).mpr found) induction
    | case3 rest missing induction =>
        refine .character (fun letters others begins => ?_) induction
        rw [begins_iff_readName?, missing] at begins
        cases begins
    | case4 single rest different induction =>
        exact .character (fun _ _ begins => different (begins_bracket begins)) induction

/-! ## Translating -/

def translateCharacter (single : Char) : List Char :=
  if single ∈ plainOperators then ['\\', single]
  else if single = '(' then ['(', '?', ':']
  else if single = ')' then [')', '?']
  else [single]

def Piece.translate (fragments : Fragments) : Piece → List Char
  | .character single => translateCharacter single
  | .name letters => '(' :: groupText fragments (String.ofList letters) ++ [')']

theorem rewriteCharacter_eq (single : Char) :
    rewriteCharacter single = translateCharacter single := by
  unfold translateCharacter
  split
  · next operator => exact rewriteCharacter_operator operator
  · next plain =>
      split
      · next isOpen =>
          subst isOpen
          rfl
      · next notOpen =>
          split
          · next isClose =>
              subst isClose
              rfl
          · next notClose => exact rewriteCharacter_self plain notOpen notClose

def translate (fragments : Fragments) (parts : List Piece) : List Char :=
  parts.flatMap (Piece.translate fragments)

theorem translate_cons (fragments : Fragments) (part : Piece) (rest : List Piece) :
    translate fragments (part :: rest) = part.translate fragments ++ translate fragments rest :=
  List.flatMap_cons

/-! ## Faults -/

def fault? (fragments : Fragments) (earlier : List String) (name : String) : Option SourceError :=
  if name ∈ earlier then some (.duplicateName name)
  else
    match fragments.get? name with
    | none => none
    | some fragment =>
        if Fragment.demote fragment.toList = none then some (.unbalancedFragment name fragment)
        else none

def Faultless (fragments : Fragments) (names : List String) : Prop :=
  ∀ earlier name later, names = earlier ++ name :: later → fault? fragments earlier name = none

def firstFault? (fragments : Fragments) (seen : List String) : List String → Option SourceError
  | [] => none
  | name :: rest => (fault? fragments seen name).or (firstFault? fragments (seen ++ [name]) rest)

theorem firstFault?_append (fragments : Fragments) (seen first second : List String) :
    firstFault? fragments seen (first ++ second) =
      (firstFault? fragments seen first).or (firstFault? fragments (seen ++ first) second) := by
  induction first generalizing seen with
  | nil => rw [List.nil_append, List.append_nil, firstFault?, Option.none_or]
  | cons name rest induction =>
      rw [List.cons_append, firstFault?, firstFault?, induction, Option.or_assoc,
        List.append_assoc, List.singleton_append]

theorem firstFault?_eq_some {fragments : Fragments} {seen names : List String}
    {error : SourceError} (found : firstFault? fragments seen names = some error) :
    ∃ earlier name later, names = earlier ++ name :: later ∧
      firstFault? fragments seen earlier = none ∧
        fault? fragments (seen ++ earlier) name = some error := by
  induction names generalizing seen with
  | nil => cases found
  | cons name rest induction =>
      rw [firstFault?, Option.or_eq_some_iff] at found
      rcases found with own | ⟨fine, inRest⟩
      · exact ⟨[], name, rest, rfl, rfl, by rwa [List.append_nil]⟩
      · obtain ⟨earlier, other, later, rfl, faultless, refused⟩ := induction inRest
        refine ⟨name :: earlier, other, later, rfl, ?_, ?_⟩
        · rw [firstFault?, fine, Option.none_or, faultless]
        · rwa [List.append_assoc, List.singleton_append] at refused

theorem firstFault?_eq_none_iff (fragments : Fragments) (names : List String) :
    firstFault? fragments [] names = none ↔ Faultless fragments names := by
  constructor
  · rintro none earlier name later rfl
    rw [firstFault?_append, Option.or_eq_none_iff, List.nil_append, firstFault?,
      Option.or_eq_none_iff] at none
    exact none.2.1
  · intro faultless
    rw [Option.eq_none_iff_forall_ne_some]
    intro error found
    obtain ⟨earlier, name, later, split, -, refused⟩ := firstFault?_eq_some found
    rw [List.nil_append, faultless earlier name later split] at refused
    cases refused

theorem firstFault?_eq_some_iff (fragments : Fragments) (names : List String)
    (error : SourceError) :
    firstFault? fragments [] names = some error ↔
      ∃ earlier name later, names = earlier ++ name :: later ∧ Faultless fragments earlier ∧
        fault? fragments earlier name = some error := by
  constructor
  · intro found
    obtain ⟨earlier, name, later, split, faultless, refused⟩ := firstFault?_eq_some found
    exact ⟨earlier, name, later, split, (firstFault?_eq_none_iff _ _).mp faultless, refused⟩
  · rintro ⟨earlier, name, later, rfl, faultless, refused⟩
    rw [firstFault?_append, (firstFault?_eq_none_iff _ _).mpr faultless, Option.none_or,
      List.nil_append, firstFault?, refused, Option.some_or]

/-! ## Splicing -/

theorem splice_characters (fragments : Fragments) (seen : List String) (text : List Char)
    (rest : List Piece) :
    splice fragments seen (text.map Piece.character ++ rest) =
      (splice fragments seen rest).map fun (after, names) => (text ++ after, names) := by
  induction text with
  | nil =>
      rw [List.map_nil, List.nil_append]
      cases splice fragments seen rest <;> rfl
  | cons single text induction =>
      rw [List.map_cons, List.cons_append, splice, induction]
      cases splice fragments seen rest <;> rfl

theorem groupBody_of_fault? {fragments : Fragments} {seen : List String} {name : String}
    (fresh : name ∉ seen) :
    groupBody fragments name =
      match fault? fragments seen name with
      | some error => .error error
      | none => .ok (groupText fragments name) := by
  rw [fault?, if_neg fresh, groupText, groupBody]
  cases fragments.get? name with
  | none => rfl
  | some fragment =>
      cases demoted : Fragment.demote fragment.toList <;> simp [demoted, Except.toOption]

/-- Names are spliced into a rewritten pattern as they are translated, up to the first fault. -/
theorem splice_rewrite (fragments : Fragments) (seen : List String) (parts : List Piece) :
    splice fragments seen (parts.flatMap Piece.rewrite) =
      match firstFault? fragments seen (parts.filterMap Piece.name?) with
      | some error => .error error
      | none => .ok (translate fragments parts, seen ++ parts.filterMap Piece.name?) := by
  induction parts generalizing seen with
  | nil =>
      rw [List.filterMap_nil, List.append_nil]
      rfl
  | cons part rest induction =>
      cases part with
      | character single =>
          rw [List.flatMap_cons, Piece.rewrite, splice_characters, induction,
            List.filterMap_cons_none rfl, translate_cons, Piece.translate, rewriteCharacter_eq]
          cases firstFault? fragments seen (rest.filterMap Piece.name?) <;> rfl
      | name letters =>
          have named : Piece.name? (.name letters) = some (String.ofList letters) := rfl
          rw [List.flatMap_cons, Piece.rewrite, List.singleton_append, splice, induction,
            List.filterMap_cons_some named, firstFault?]
          -- A repeated name is refused before its fragment is looked at, by both sides alike.
          by_cases taken : String.ofList letters ∈ seen
          · simp only [if_pos taken, fault?, Option.some_or]
          · simp only [if_neg taken, groupBody_of_fault? taken]
            cases fault? fragments seen (String.ofList letters) with
            | some error => rfl
            | none =>
                cases firstFault? fragments (seen ++ [String.ofList letters])
                    (rest.filterMap Piece.name?) with
                | some error => rfl
                | none => simp [translate_cons, Piece.translate, Except.map]

theorem splice_congr {fragments others : Fragments} {parts : List Piece}
    (same : ∀ name ∈ parts.filterMap Piece.name?, groupBody others name = groupBody fragments name)
    (seen : List String) : splice others seen parts = splice fragments seen parts := by
  induction parts generalizing seen with
  | nil => rfl
  | cons part rest induction =>
      cases part with
      | character single => rw [splice, splice, induction same]
      | name letters =>
          have named : Piece.name? (.name letters) = some (String.ofList letters) := rfl
          rw [List.filterMap_cons_some named, List.forall_mem_cons] at same
          rw [splice, splice, same.1, induction same.2]

/-! ## Compiling -/

theorem value_compile (pattern : String) (fragments : Fragments) :
    (compile pattern fragments).value =
      match source pattern fragments with
      | .error error => .error error.toCaptureError
      | .ok (text, names) => build pattern text names := by
  unfold compile
  cases source pattern fragments with
  | error error => rfl
  | ok built =>
      simp only [Logged.value_bind]
      cases build pattern built.1 built.2 <;> rfl

def sourceText (fragments : Fragments) (parts : List Piece) : String :=
  String.ofList ('^' :: translate fragments parts ++ ['$'])

theorem source_eq (pattern : String) (fragments : Fragments) :
    source pattern fragments =
      match firstFault? fragments [] (tokens pattern) with
      | some error => .error error
      | none => .ok (sourceText fragments (pieces pattern.toList), tokens pattern) := by
  rw [source, pieces_rewritten, splice_rewrite]
  change (match firstFault? fragments [] (tokens pattern) with
    | some error => _
    | none => _ : Except _ _).map _ = _
  cases firstFault? fragments [] (tokens pattern) <;> rfl

theorem text_of_source {pattern : String} {fragments : Fragments} {text : String}
    {names : List String} (built : source pattern fragments = .ok (text, names)) :
    text = sourceText fragments (pieces pattern.toList) := by
  rw [source_eq] at built
  split at built
  · cases built
  · rw [Except.ok.injEq, Prod.mk.injEq] at built
    exact built.1.symm

theorem source_of_groupBody {pattern : String} {fragments others : Fragments}
    (same : ∀ name ∈ tokens pattern, groupBody others name = groupBody fragments name) :
    source pattern others = source pattern fragments := by
  rw [source, source, splice_congr]
  rwa [pieces_rewritten, filterMap_name?_rewrite]

theorem source_congr {pattern : String} {fragments others : Fragments}
    (same : ∀ name ∈ tokens pattern, others.get? name = fragments.get? name) :
    source pattern others = source pattern fragments := by
  apply source_of_groupBody
  intro name member
  rw [groupBody, groupBody, same name member]

structure Translated (pattern : String) (fragments : Fragments) (parts : List Piece)
    (outcome : Except CaptureError CompiledPattern) : Prop where
  fails : ∀ earlier name later error,
    parts.filterMap Piece.name? = earlier ++ name :: later → Faultless fragments earlier →
      fault? fragments earlier name = some error → outcome = .error error.toCaptureError
  builds : Faultless fragments (parts.filterMap Piece.name?) →
    outcome = build pattern (sourceText fragments parts) (parts.filterMap Piece.name?)
  decided : Faultless fragments (parts.filterMap Piece.name?) ∨
    ∃ earlier name later error, parts.filterMap Piece.name? = earlier ++ name :: later ∧
      Faultless fragments earlier ∧ fault? fragments earlier name = some error
  succeeds : ∀ compiled, outcome = .ok compiled →
    compiled.pattern = pattern ∧ compiled.names = parts.filterMap Piece.name? ∧
      compiled.names.Nodup ∧ compiled.regex.source = sourceText fragments parts
  unasked : ∀ others : Fragments,
    (∀ name ∈ parts.filterMap Piece.name?, others.get? name = fragments.get? name) →
      (compile pattern others).value = outcome

/-- A pattern is cut in one way, and what it is compiled to is told by its parts. -/
theorem compile_translates (pattern : String) (fragments : Fragments) :
    ∃ parts, (∀ others, Cut pattern.toList others ↔ others = parts) ∧
      Translated pattern fragments parts (compile pattern fragments).value := by
  refine ⟨pieces pattern.toList, cut_iff pattern.toList, ?_⟩
  have value := value_compile pattern fragments
  rw [source_eq, tokens] at value
  constructor
  · intro earlier name later error split faultless refused
    have first := (firstFault?_eq_some_iff fragments _ error).mpr
      ⟨earlier, name, later, split, faultless, refused⟩
    rw [value, first]
  · intro faultless
    rw [value, (firstFault?_eq_none_iff _ _).mpr faultless]
  · rcases Option.eq_none_or_eq_some (firstFault? fragments [] (tokens pattern)) with
      none | ⟨error, some⟩
    · exact .inl ((firstFault?_eq_none_iff _ _).mp none)
    · obtain ⟨earlier, name, later, found⟩ := (firstFault?_eq_some_iff _ _ _).mp some
      exact .inr ⟨earlier, name, later, error, found⟩
  · intro compiled succeeds
    obtain ⟨tree, compilation⟩ := compilesBy_of_compile succeeds
    obtain ⟨-, names, distinct⟩ := source_trace compilation.built
    exact ⟨compilation.pattern_eq, names, distinct, text_of_source compilation.built⟩
  · intro others same
    rw [value_compile, value_compile, source_congr same]

end UriDispatch.Pattern
