import UriDispatch.Proofs.Regex.Moves

/-! What a reader leaves is the end of the text it was given. A place in a source, which is the
number of characters after it, thus keeps its meaning from one reader to the next. -/

namespace UriDispatch.Regex

/-! ## Blanks and numbers -/

theorem dropBlanks_suffix (inComment : Bool) (input : List Char) :
    dropBlanks inComment input <:+ input := by
  induction input generalizing inComment with
  | nil => exact List.suffix_refl _
  | cons head tail induction =>
      simp only [dropBlanks]
      split
      · exact (induction _).trans (List.suffix_cons head tail)
      · split
        · exact (induction _).trans (List.suffix_cons head tail)
        · split
          · exact (induction _).trans (List.suffix_cons head tail)
          · exact List.suffix_refl _

theorem skip_suffix (verbose : Bool) (input : List Char) : skip verbose input <:+ input := by
  cases verbose with
  | false => exact List.suffix_refl _
  | true => exact dropBlanks_suffix false input

theorem suffix_of_skip {verbose : Bool} {input rest : List Char}
    (shape : skip verbose input = rest) : rest <:+ input :=
  shape ▸ skip_suffix verbose input

theorem takeDigits_suffix (verbose : Bool) (digits input : List Char) :
    (takeDigits verbose digits input).2 <:+ input := by
  fun_induction takeDigits verbose digits input with
  | case1 => exact List.suffix_refl _
  | case2 digits digit rest _ _ induction =>
      exact (induction.trans (skip_suffix verbose rest)).trans (List.suffix_cons digit rest)
  | case3 => exact List.suffix_refl _

theorem readDecimal_suffix (verbose : Bool) (input : List Char) :
    (readDecimal verbose input).2 <:+ input := by
  have rest : skip verbose
      ((takeDigits verbose [] (input.dropWhile Unicode.isBlank)).2.dropWhile Unicode.isBlank)
        <:+ input :=
    (((skip_suffix verbose _).trans (List.dropWhile_suffix _)).trans
      (takeDigits_suffix verbose [] _)).trans (List.dropWhile_suffix _)
  simp only [readDecimal]
  split
  · exact rest
  · split
    · exact rest
    · exact rest

theorem CountEnd.suffix {verbose : Bool} {input rest : List Char} {count : Count}
    {value : Count × Bool} (ends : CountEnd verbose count input value rest) : rest <:+ input := by
  cases ends with
  | @greedy tail _ shape => exact (suffix_of_skip shape).trans (List.suffix_cons '}' tail)
  | @lazy tail rest shape =>
      exact (List.suffix_cons '?' rest).trans
        ((suffix_of_skip shape).trans (List.suffix_cons '}' tail))

theorem Counts.suffix {verbose : Bool} {input rest : List Char} {value : Count × Bool}
    (counts : Counts verbose input value rest) : rest <:+ input := by
  have number {text left : List Char} {count : Nat}
      (found : readDecimal verbose (skip verbose text) = (.ok count, left)) : left <:+ text := by
    have taken := readDecimal_suffix verbose (skip verbose text)
    rw [found] at taken
    exact taken.trans (skip_suffix verbose text)
  cases counts with
  | exactly first closes => exact closes.suffix.trans (number first)
  | @atLeast afterComma _ _ _ _ first ends closes =>
      have behindComma := (suffix_of_skip ends).trans (List.suffix_cons ',' afterComma)
      exact closes.suffix.trans (behindComma.trans (number first))
  | @between afterComma _ _ _ _ _ first second closes =>
      have behindComma := (number second).trans (List.suffix_cons ',' afterComma)
      exact closes.suffix.trans (behindComma.trans (number first))

/-! ## Escapes -/

theorem Braced.suffix {verbose : Bool} {isInside : Char → Bool} {input inside rest : List Char}
    (braced : Braced verbose isInside input inside rest) : '}' :: rest <:+ input := by
  induction braced with
  | closing shape => exact suffix_of_skip shape
  | more shape _ _ _ induction =>
      exact (induction.trans (List.suffix_cons _ _)).trans (suffix_of_skip shape)

theorem Digits.suffix {verbose : Bool} {count : Nat} {input digits rest : List Char}
    (read : Digits verbose count input digits rest) : rest <:+ input := by
  induction read with
  | last => exact (skip_suffix verbose _).trans (List.suffix_cons _ _)
  | more _ _ induction =>
      exact (induction.trans (skip_suffix verbose _)).trans (List.suffix_cons _ _)

theorem CodePoint.suffix {verbose : Bool} {opening : List Char} {letter : Char}
    {input rest : List Char} {literal : Literal}
    (codePoint : CodePoint verbose opening letter input literal rest) : rest <:+ input := by
  cases codePoint with
  | @braced inside _ last _ shape read =>
      have closing := read.suffix.trans ((List.suffix_cons '{' inside).trans (suffix_of_skip shape))
      exact (skip_suffix verbose last).trans ((List.suffix_cons '}' last).trans closing)
  | fixed shape read => exact read.suffix.trans (suffix_of_skip shape)

theorem PropertyName.suffix {verbose : Bool} {input rest : List Char} {query : PropertyQuery}
    (name : PropertyName verbose input query rest) : rest <:+ input := by
  cases name with
  | @braced inside _ rest shape read =>
      have closing := read.suffix.trans ((List.suffix_cons '{' inside).trans (suffix_of_skip shape))
      exact (List.suffix_cons '}' rest).trans closing
  | @letter tail letter shape =>
      exact (skip_suffix verbose tail).trans
        ((List.suffix_cons letter tail).trans (suffix_of_skip shape))

theorem takeBoundaryName_suffix (verbose : Bool) (name input : List Char) :
    (takeBoundaryName verbose name input).2 <:+ input := by
  fun_induction takeBoundaryName verbose name input with
  | case1 => exact List.suffix_refl _
  | case2 name letter rest _ _ induction =>
      exact (induction.trans (skip_suffix verbose rest)).trans (List.suffix_cons letter rest)
  | case3 => exact List.suffix_refl _

theorem Boundary.suffix {verbose : Bool} {opening input rest : List Char} {primitive : Primitive}
    (boundary : Boundary verbose opening input primitive rest) : rest <:+ input := by
  cases boundary with
  | @named afterBrace tail _ rest first _ shape _ taken =>
      have name := takeBoundaryName_suffix verbose [] (first :: tail)
      rw [taken] at name
      have closing := name.trans ((suffix_of_skip shape).trans (List.suffix_cons '{' afterBrace))
      exact (List.suffix_cons '}' rest).trans closing
  | count | plain => exact List.suffix_refl _

theorem Escape.inside {verbose : Bool} {backslash letter : Char} {input rest : List Char}
    {primitive : Primitive}
    (escape : Escape verbose (backslash :: letter :: input) primitive rest) : rest <:+ input := by
  cases escape with
  | codePoint _ read => exact read.suffix
  | property _ read => exact read.suffix
  | boundary read => exact read.suffix
  | single => exact List.suffix_refl _

theorem Escape.suffix {verbose : Bool} {input rest : List Char} {primitive : Primitive}
    (escape : Escape verbose input primitive rest) : rest <:+ input := by
  have shape : ∃ backslash letter tail, input = backslash :: letter :: tail := by
    cases escape <;> exact ⟨_, _, _, rfl⟩
  rcases shape with ⟨backslash, letter, tail, rfl⟩
  exact escape.inside.trans ((List.suffix_cons letter tail).trans (List.suffix_cons backslash _))

theorem Single.suffix {verbose : Bool} {input rest : List Char} {primitive : Primitive}
    (single : Single verbose input primitive rest) : rest <:+ input := by
  cases single with
  | escape read => exact read.suffix
  | dot | lineStart | lineEnd | literal => exact List.suffix_cons _ _

/-! ## Classes -/

theorem Negation.suffix {verbose negated : Bool} {input rest : List Char}
    (negation : Negation verbose input negated rest) : rest <:+ input := by
  cases negation with
  | @caret tail _ shape => exact (suffix_of_skip shape).trans (List.suffix_cons '^' tail)
  | none => exact List.suffix_refl _

theorem Hyphens.suffix {verbose : Bool} {items result : Items} {input rest : List Char}
    (hyphens : Hyphens verbose items input result rest) : rest <:+ input := by
  induction hyphens with
  | none => exact List.suffix_refl _
  | more shape _ _ induction =>
      exact induction.trans ((suffix_of_skip shape).trans (List.suffix_cons '-' _))

theorem FirstBracket.suffix {verbose : Bool} {items result : Items} {input rest : List Char}
    (firstBracket : FirstBracket verbose items input result rest) : rest <:+ input := by
  cases firstBracket with
  | @member tail _ shape => exact (suffix_of_skip shape).trans (List.suffix_cons ']' tail)
  | none => exact List.suffix_refl _

theorem ClassOpening.suffix {verbose : Bool} {input rest : List Char} {opened : OpenClass}
    (opening : ClassOpening verbose input opened rest) : rest <:+ input := by
  cases opening with
  | @intro bracket tail _ _ _ _ _ _ _ shape _ negation hyphens firstBracket =>
      have inside := firstBracket.suffix.trans (hyphens.suffix.trans negation.suffix)
      exact inside.trans ((suffix_of_skip shape).trans (List.suffix_cons bracket tail))

theorem readNamedClass?_suffix {input : List Char} {reading : Reading input ClassSet}
    (found : readNamedClass? input = some reading) : reading.rest <:+ input := by
  rcases text_of_readNamedClass? found with ⟨negated, name, _, _, _, equal, _⟩
  exact ⟨namedText negated name, equal.symm⟩

theorem Member.suffix {verbose : Bool} {input rest : List Char} {primitive : Primitive}
    (member : Member verbose input primitive rest) : rest <:+ input := by
  cases member with
  | escape read => exact read.suffix
  | literal => exact List.suffix_cons _ _

theorem Itemizes.suffix {verbose : Bool} {input rest : List Char} {item : ClassSet}
    (itemizes : Itemizes verbose input item rest) : rest <:+ input := by
  have member {text left : List Char} {primitive : Primitive}
      (reads : Reads (readMember verbose text) primitive left) : left <:+ text := by
    rcases reads with ⟨reading, found, _, rfl⟩
    exact (member_of_readMember found).suffix
  cases itemizes with
  | single first skipped => exact (suffix_of_skip skipped).trans (member first)
  | @range _ afterHyphen _ _ _ _ _ _ _ first hyphen _ skipped second =>
      have behindHyphen := (List.suffix_cons '-' afterHyphen).trans
        ((suffix_of_skip hyphen).trans (member first))
      exact (member second).trans ((suffix_of_skip skipped).trans behindHyphen)

theorem Itemizes.shorter {verbose : Bool} {input rest : List Char} {item : ClassSet}
    (itemizes : Itemizes verbose input item rest) : rest.length < input.length := by
  rcases readItem_of_itemizes ⟨.classUnclosed, .emptyAt input, none⟩ itemizes with
    ⟨reading, _, _, rfl⟩
  exact reading.shorter

theorem ClassBody.suffix {verbose : Bool} {current : OpenClass} {outer : List OpenClass}
    {input rest : List Char} {closed : ClosedClass}
    (body : ClassBody verbose current outer input closed rest) : rest <:+ input := by
  induction body with
  | @closing _ _ rest shape => exact (List.suffix_cons ']' rest).trans (suffix_of_skip shape)
  | @inner _ _ _ _ tail _ _ shape _ induction =>
      exact induction.trans ((List.suffix_cons ']' tail).trans (suffix_of_skip shape))
  | named shape known _ induction =>
      exact induction.trans ((readNamedClass?_suffix known).trans (suffix_of_skip shape))
  | nested shape _ opening _ induction =>
      exact induction.trans (opening.suffix.trans (suffix_of_skip shape))
  | @operator _ _ _ tail _ mark _ _ shape _ _ induction =>
      have marks := (List.suffix_cons mark tail).trans (List.suffix_cons mark _)
      exact induction.trans (marks.trans (suffix_of_skip shape))
  | item shape _ _ read _ induction =>
      exact induction.trans (read.suffix.trans (suffix_of_skip shape))

theorem ClassForm.suffix {verbose : Bool} {input rest : List Char} {tree : Tree}
    (form : ClassForm verbose input tree rest) : rest <:+ input := by
  cases form with
  | intro opening body => exact body.suffix.trans opening.suffix

/-! ## Groups and repetitions -/

theorem stripLead?_suffix {lead : String} {input rest : List Char}
    (stripped : stripLead? lead input = some rest) : rest <:+ input := by
  unfold stripLead? at stripped
  split at stripped
  · cases stripped
    exact List.drop_suffix _ _
  · cases stripped

theorem Spelling.suffix {before input letters rest : List Char}
    (read : Spelling before input letters rest) : rest <:+ input := by
  induction read with
  | closing => exact List.suffix_cons _ _
  | more _ _ _ induction => exact induction.trans (List.suffix_cons _ _)

theorem GroupName.suffix {names : List (List Char × Span)} {input rest : List Char}
    {name : List Char × Span} (isName : GroupName names input name rest) : rest <:+ input := by
  cases isName with
  | intro read => exact read.suffix

theorem FlagRun.suffix {list result : FlagList} {input rest : List Char}
    (flags : FlagRun list input result rest) : rest <:+ input := by
  induction flags with
  | closing => exact List.suffix_refl _
  | negation _ _ induction | flag _ _ _ induction => exact induction.trans (List.suffix_cons _ _)

theorem GroupOpening.suffix {state next : ParserState} {opening : Span} {inside rest : List Char}
    (opens : GroupOpening state opening inside next rest) : rest <:+ inside := by
  have behindFlags {start : List Char} {list : FlagList} {mark : Char}
      (run : FlagRun ⟨[], none, false⟩ start list (mark :: rest)) : rest <:+ '?' :: start :=
    (List.suffix_cons mark rest).trans (run.suffix.trans (List.suffix_cons '?' start))
  cases opens with
  | named _ lead isName =>
      rcases Option.or_eq_some_iff.mp lead with found | ⟨_, found⟩
      · exact isName.suffix.trans (stripLead?_suffix found)
      · exact isName.suffix.trans (stripLead?_suffix found)
  | flags _ _ run => exact behindFlags run
  | plain _ _ run => exact behindFlags run
  | capture => exact List.suffix_refl _

theorem Repetition.suffix {state next : ParserState} {count : Count} {input rest : List Char}
    (repetition : Repetition state count input next rest) : rest <:+ input := by
  cases repetition with
  | lazy => exact (List.suffix_cons '?' rest).trans (List.suffix_cons _ _)
  | greedy => exact List.suffix_cons _ _

theorem CountedRepetition.suffix {state next : ParserState} {input rest : List Char}
    (counted : CountedRepetition state input next rest) : rest <:+ input := by
  cases counted with
  | intro counts => exact counts.suffix.trans (List.suffix_cons _ _)

theorem StepForm.suffix {state next : ParserState} {input rest : List Char}
    (form : StepForm state input next rest) : rest <:+ input := by
  cases form with
  | opens shape opening =>
      exact opening.suffix.trans ((suffix_of_skip shape).trans (List.suffix_cons _ _))
  | closes | bar => exact List.suffix_cons _ _
  | bracketed form => exact form.suffix
  | repeats _ repetition => exact repetition.suffix
  | counted counted => exact counted.suffix
  | single _ single => exact single.suffix

theorem step_suffix {state : ParserState} {input : List Char}
    {reading : Reading input ParserState}
    (found : step state input = .ok reading) : reading.rest <:+ input :=
  (form_of_step found).suffix

end UriDispatch.Regex
