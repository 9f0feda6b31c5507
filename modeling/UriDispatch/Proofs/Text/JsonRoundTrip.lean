import Mathlib.Data.Nat.Init
import UriDispatch.Proofs.Text.JsonReading

/-! JSON texts that were written here. In any layout they are read as the value that they were
written for: each reader is followed through what was written, up to a rest of which nothing needs to
be known. Without line breaks a text is a single line, whatever the value. -/

namespace UriDispatch.Text.Json

def Finds {input : List Char} {Value : Type} (reading : Option (Reading input Value))
    (value : Value) (rest : List Char) : Prop :=
  ∃ shorter, reading = some ⟨value, rest, shorter⟩

theorem Finds.widen {tail input : List Char} {Value : Type} {reading : Option (Reading tail Value)}
    {value : Value} {rest : List Char} (finds : Finds reading value rest)
    (fits : tail.length ≤ input.length) :
    Finds (reading.map (·.widen fits) : Option (Reading input Value)) value rest := by
  obtain ⟨shorter, rfl⟩ := finds
  exact ⟨Nat.lt_of_lt_of_le shorter fits, rfl⟩

/-! ## Strings -/

theorem digitValue?_hexadecimalDigit (value : Nat) (small : value < 16) :
    digitValue? 16 (hexadecimalDigit value) = some value := by
  have all : ∀ value : Fin 16, digitValue? 16 (hexadecimalDigit value) = some value.val := by decide
  exact all ⟨value, small⟩

theorem readEscape_control {character : Char} (control : character.toNat < 0x20)
    (rest : List Char) :
    Finds (readEscape ('u' :: '0' :: '0' :: hexadecimalDigit (character.toNat / 16) ::
      hexadecimalDigit (character.toNat % 16) :: rest)) character rest := by
  have high := digitValue?_hexadecimalDigit (character.toNat / 16) (by omega)
  have low := digitValue?_hexadecimalDigit (character.toNat % 16) (by omega)
  have zero : digitValue? 16 '0' = some 0 := rfl
  have sum : ((0 * 16 + 0) * 16 + character.toNat / 16) * 16 + character.toNat % 16 =
      character.toNat := by omega
  refine ⟨by simp only [List.length_cons]; omega, ?_⟩
  simp only [readEscape, readUnit, zero, high, low, Option.bind_eq_bind, Option.bind_some, sum,
    character?_toNat, Option.map_some]
  exact if_neg (by omega)

theorem writeCharacter_cases (character : Char) :
    (∃ escape, writeCharacter character = '\\' :: escape ∧
        ∀ rest, Finds (readEscape (escape ++ rest)) character rest) ∨
      writeCharacter character = [character] ∧ character ≠ '"' ∧ character ≠ '\\' ∧
        0x20 ≤ character.toNat := by
  unfold writeCharacter
  split
  case h_8 quote backslash _ _ _ _ _ =>
      split
      · next control => exact .inl ⟨_, rfl, readEscape_control control⟩
      · next shown => exact .inr ⟨rfl, quote, backslash, Nat.le_of_not_lt shown⟩
  all_goals exact .inl ⟨_, rfl, fun rest => ⟨Nat.lt_succ_self _, rfl⟩⟩

theorem readText_flatMap (letters text rest : List Char) :
    Finds (readText letters (text.flatMap writeCharacter ++ '"' :: rest))
      (String.ofList (letters.reverse ++ text)) rest := by
  induction text generalizing letters with
  | nil =>
      rw [List.flatMap_nil, List.nil_append, List.append_nil, readText]
      exact ⟨length_lt_cons '"' rest, rfl⟩
  | cons character text induction =>
      have next := induction (character :: letters)
      rw [List.reverse_cons, List.append_assoc, List.singleton_append] at next
      rw [List.flatMap_cons, List.append_assoc]
      rcases writeCharacter_cases character with
        ⟨escape, written, reads⟩ | ⟨written, notQuote, notBackslash, shown⟩
      · obtain ⟨shorter, read⟩ := reads (text.flatMap writeCharacter ++ '"' :: rest)
        rw [written, List.cons_append, readText, read]
        exact next.widen _
      · rw [written, List.singleton_append, readText, if_neg (Nat.not_lt_of_le shown)]
        · exact next.widen _
        · exact notQuote
        · exact notBackslash

/-! ## Values -/

/-- What a layout puts between the parts of a value is passed over in reading. -/
structure Layout.Spaced (layout : Layout) : Prop where
  lineBreak_blank : ∀ depth, (layout.lineBreak depth).all isBlank
  colon_eq : ∃ before after, layout.colon = before ++ ':' :: after ∧ before.all isBlank ∧
    after.all isBlank

theorem readMark_append (blanks : List Char) (blank : blanks.all isBlank) {mark : Char}
    (shown : isBlank mark = false) (rest : List Char) :
    Finds (readMark mark (blanks ++ mark :: rest)) () rest := by
  induction blanks with
  | nil =>
      rw [List.nil_append, readMark, shown, if_neg Bool.false_ne_true, if_pos rfl]
      exact ⟨length_lt_cons mark rest, rfl⟩
  | cons head blanks induction =>
      rw [List.all_cons, Bool.and_eq_true] at blank
      rw [List.cons_append, readMark, if_pos blank.1]
      exact (induction blank.2).widen _

theorem readMark_cons {mark : Char} (shown : isBlank mark = false) (rest : List Char) :
    Finds (readMark mark (mark :: rest)) () rest :=
  readMark_append [] rfl shown rest

theorem readMark_other (blanks : List Char) (blank : blanks.all isBlank) {head mark : Char}
    (shown : isBlank head = false) (other : head ≠ mark) (rest : List Char) :
    readMark mark (blanks ++ head :: rest) = none := by
  induction blanks with
  | nil => rw [List.nil_append, readMark, shown, if_neg Bool.false_ne_true, if_neg other]
  | cons first blanks induction =>
      rw [List.all_cons, Bool.and_eq_true] at blank
      rw [List.cons_append, readMark, if_pos blank.1, induction blank.2]
      rfl

theorem readValue_blanks {blanks : List Char} (blank : blanks.all isBlank) {input rest : List Char}
    {value : Json} (finds : Finds (readValue input) value rest) :
    Finds (readValue (blanks ++ input)) value rest := by
  induction blanks with
  | nil => exact finds
  | cons head blanks induction =>
      rw [List.all_cons, Bool.and_eq_true] at blank
      have notMark {mark : Char} (shown : isBlank mark = false) : head ≠ mark := by
        rintro rfl
        rw [shown] at blank
        exact Bool.false_ne_true blank.1
      rw [List.cons_append, readValue, if_pos blank.1]
      · exact (induction blank.2).widen _
      · exact fun _ isMark _ => notMark (by decide) isMark
      · exact notMark (by decide)
      · exact notMark (by decide)
      · exact notMark (by decide)

theorem readValue_null (rest : List Char) :
    Finds (readValue ('n' :: 'u' :: 'l' :: 'l' :: rest)) .null rest := by
  rw [readValue]
  exact ⟨_, rfl⟩

theorem readValue_writeString (text : String) (rest : List Char) :
    Finds (readValue (writeString text ++ rest)) (.string text) rest := by
  obtain ⟨shorter, read⟩ := readText_flatMap [] text.toList rest
  rw [List.reverse_nil, List.nil_append, String.ofList_toList] at read
  rw [writeString, List.append_assoc, List.singleton_append, List.cons_append, readValue, read]
  exact ⟨_, rfl⟩

theorem readValue_list {inside more rest : List Char} {first : Json} {items : List Json}
    (opens : readMark ']' inside = none) (finds : Finds (readValue inside) first more)
    (others : Finds (readItems more) items rest) :
    Finds (readValue ('[' :: inside)) (.list (first :: items)) rest := by
  obtain ⟨_, read⟩ := finds
  obtain ⟨_, readOthers⟩ := others
  simp only [readValue, opens, read, readOthers]
  exact ⟨_, rfl⟩

theorem readValue_list_nil {inside rest : List Char} (closes : Finds (readMark ']' inside) () rest) :
    Finds (readValue ('[' :: inside)) (.list []) rest := by
  obtain ⟨_, read⟩ := closes
  simp only [readValue, read]
  exact ⟨_, rfl⟩

theorem readItems_cons {next more rest : List Char} {first : Json} {items : List Json}
    (finds : Finds (readValue next) first more) (others : Finds (readItems more) items rest) :
    Finds (readItems (',' :: next)) (first :: items) rest := by
  have continues : readMark ']' (',' :: next) = none :=
    readMark_other [] rfl (by decide) (by decide) next
  obtain ⟨_, comma⟩ := readMark_cons (by decide : isBlank ',' = false) next
  obtain ⟨_, read⟩ := finds
  obtain ⟨_, readOthers⟩ := others
  rw [readItems]
  simp only [continues, comma, read, readOthers]
  exact ⟨_, rfl⟩

theorem readItems_nil {blanks : List Char} (blank : blanks.all isBlank) (rest : List Char) :
    Finds (readItems (blanks ++ ']' :: rest)) [] rest := by
  obtain ⟨_, closes⟩ := readMark_append _ blank (by decide : isBlank ']' = false) rest
  rw [readItems, closes]
  exact ⟨_, rfl⟩

theorem readValue_object {inside more rest : List Char} {first : String × Json}
    {members : List (String × Json)} (opens : readMark '}' inside = none)
    (finds : Finds (readMember inside) first more)
    (others : Finds (readMembers more) members rest) :
    Finds (readValue ('{' :: inside)) (.object (first :: members)) rest := by
  obtain ⟨_, read⟩ := finds
  obtain ⟨_, readOthers⟩ := others
  simp only [readValue, opens, read, readOthers]
  exact ⟨_, rfl⟩

theorem readValue_object_nil {inside rest : List Char}
    (closes : Finds (readMark '}' inside) () rest) :
    Finds (readValue ('{' :: inside)) (.object []) rest := by
  obtain ⟨_, read⟩ := closes
  simp only [readValue, read]
  exact ⟨_, rfl⟩

theorem readMember_write {layout : Layout} (spaced : layout.Spaced) {blanks : List Char}
    (blank : blanks.all isBlank) (key : String) {input rest : List Char} {value : Json}
    (finds : Finds (readValue input) value rest) :
    Finds (readMember (blanks ++ (writeString key ++ (layout.colon ++ input)))) (key, value)
      rest := by
  obtain ⟨before, after, colon, blankBefore, blankAfter⟩ := spaced.colon_eq
  obtain ⟨_, opens⟩ := readMark_append _ blank (by decide : isBlank '"' = false)
    (key.toList.flatMap writeCharacter ++ '"' :: (before ++ ':' :: (after ++ input)))
  obtain ⟨_, readKey⟩ := readText_flatMap [] key.toList (before ++ ':' :: (after ++ input))
  obtain ⟨_, middle⟩ := readMark_append _ blankBefore (by decide : isBlank ':' = false)
    (after ++ input)
  obtain ⟨_, read⟩ := readValue_blanks blankAfter finds
  rw [List.reverse_nil, List.nil_append, String.ofList_toList] at readKey
  have parts : blanks ++ (writeString key ++ (layout.colon ++ input)) =
      blanks ++ '"' ::
        (key.toList.flatMap writeCharacter ++ '"' :: (before ++ ':' :: (after ++ input))) := by
    rw [colon, writeString]
    simp only [List.append_assoc, List.cons_append, List.nil_append]
  rw [parts, readMember]
  simp only [opens, readKey, middle, read]
  exact ⟨_, rfl⟩

theorem readMembers_cons {next more rest : List Char} {first : String × Json}
    {members : List (String × Json)} (finds : Finds (readMember next) first more)
    (others : Finds (readMembers more) members rest) :
    Finds (readMembers (',' :: next)) (first :: members) rest := by
  have continues : readMark '}' (',' :: next) = none :=
    readMark_other [] rfl (by decide) (by decide) next
  obtain ⟨_, comma⟩ := readMark_cons (by decide : isBlank ',' = false) next
  obtain ⟨_, read⟩ := finds
  obtain ⟨_, readOthers⟩ := others
  rw [readMembers]
  simp only [continues, comma, read, readOthers]
  exact ⟨_, rfl⟩

theorem readMembers_nil {blanks : List Char} (blank : blanks.all isBlank) (rest : List Char) :
    Finds (readMembers (blanks ++ '}' :: rest)) [] rest := by
  obtain ⟨_, closes⟩ := readMark_append _ blank (by decide : isBlank '}' = false) rest
  rw [readMembers, closes]
  exact ⟨_, rfl⟩

theorem readMark_write {layout : Layout} (spaced : layout.Spaced) (depth : Nat) (value : Json)
    (rest : List Char) :
    readMark ']' (layout.lineBreak depth ++ (value.write layout depth ++ rest)) = none := by
  obtain ⟨head, tail, written, shown, other⟩ : ∃ head tail,
      value.write layout depth = head :: tail ∧ isBlank head = false ∧ head ≠ ']' := by
    cases value with
    | null => exact ⟨_, _, rfl, by decide⟩
    | string text => exact ⟨_, _, rfl, by decide⟩
    | list items => cases items <;> exact ⟨_, _, rfl, by decide⟩
    | object members => cases members <;> exact ⟨_, _, rfl, by decide⟩
  rw [written]
  exact readMark_other _ (spaced.lineBreak_blank depth) shown other (tail ++ rest)

mutual
/-- In every layout a value is read as what was written. -/
theorem readValue_write {layout : Layout} (spaced : layout.Spaced) (depth : Nat) (value : Json)
    (rest : List Char) : Finds (readValue (value.write layout depth ++ rest)) value rest :=
  match value with
  | .null => readValue_null rest
  | .string text => readValue_writeString text rest
  | .list [] => by
      have closes := readMark_cons (by decide : isBlank ']' = false) rest
      exact readValue_list_nil closes
  | .list (first :: items) => by
      have parts : (Json.list (first :: items)).write layout depth ++ rest =
          '[' :: (layout.lineBreak (depth + 1) ++ (first.write layout (depth + 1) ++
            (writeItems layout (depth + 1) items ++ (layout.lineBreak depth ++ ']' :: rest)))) := by
        simp only [write, List.append_assoc, List.cons_append, List.nil_append]
      rw [parts]
      refine readValue_list (readMark_write spaced _ first _) ?_
        (readItems_write spaced (depth + 1) items depth rest)
      exact readValue_blanks (spaced.lineBreak_blank _)
        (readValue_write spaced (depth + 1) first _)
  | .object [] => by
      have closes := readMark_cons (by decide : isBlank '}' = false) rest
      exact readValue_object_nil closes
  | .object ((key, value) :: members) => by
      have parts : (Json.object ((key, value) :: members)).write layout depth ++ rest =
          '{' :: (layout.lineBreak (depth + 1) ++ (writeString key ++ (layout.colon ++
            (value.write layout (depth + 1) ++ (writeMembers layout (depth + 1) members ++
              (layout.lineBreak depth ++ '}' :: rest)))))) := by
        simp only [write, List.append_assoc, List.cons_append, List.nil_append]
      rw [parts]
      refine readValue_object ?_ ?_ (readMembers_write spaced (depth + 1) members depth rest)
      · exact readMark_other _ (spaced.lineBreak_blank _) (by decide) (by decide) _
      · exact readMember_write spaced (spaced.lineBreak_blank _) key
          (readValue_write spaced (depth + 1) value _)

theorem readItems_write {layout : Layout} (spaced : layout.Spaced) (depth : Nat)
    (items : List Json) (outside : Nat) (rest : List Char) :
    Finds (readItems (writeItems layout depth items ++ (layout.lineBreak outside ++ ']' :: rest)))
      items rest :=
  match items with
  | [] => readItems_nil (spaced.lineBreak_blank outside) rest
  | item :: others => by
      have parts : writeItems layout depth (item :: others) ++
            (layout.lineBreak outside ++ ']' :: rest) =
          ',' :: (layout.lineBreak depth ++ (item.write layout depth ++
            (writeItems layout depth others ++ (layout.lineBreak outside ++ ']' :: rest)))) := by
        simp only [writeItems, List.append_assoc, List.cons_append]
      rw [parts]
      refine readItems_cons ?_ (readItems_write spaced depth others outside rest)
      exact readValue_blanks (spaced.lineBreak_blank depth) (readValue_write spaced depth item _)

theorem readMembers_write {layout : Layout} (spaced : layout.Spaced) (depth : Nat)
    (members : List (String × Json)) (outside : Nat) (rest : List Char) :
    Finds (readMembers
      (writeMembers layout depth members ++ (layout.lineBreak outside ++ '}' :: rest)))
      members rest :=
  match members with
  | [] => readMembers_nil (spaced.lineBreak_blank outside) rest
  | (key, value) :: others => by
      have parts : writeMembers layout depth ((key, value) :: others) ++
            (layout.lineBreak outside ++ '}' :: rest) =
          ',' :: (layout.lineBreak depth ++ (writeString key ++ (layout.colon ++
            (value.write layout depth ++
              (writeMembers layout depth others ++ (layout.lineBreak outside ++ '}' :: rest)))))) := by
        simp only [writeMembers, List.append_assoc, List.cons_append]
      rw [parts]
      refine readMembers_cons ?_ (readMembers_write spaced depth others outside rest)
      exact readMember_write spaced (spaced.lineBreak_blank depth) key
        (readValue_write spaced depth value _)
end

theorem Layout.spaced_compact : Layout.compact.Spaced :=
  ⟨fun _ => rfl, [], [], rfl, rfl, rfl⟩

theorem Layout.spaced_indented : Layout.indented.Spaced := by
  refine ⟨fun depth => ?_, [], [' '], rfl, rfl, rfl⟩
  rw [Layout.indented, List.all_cons, List.all_replicate]
  split <;> decide

theorem read?_write {layout : Layout} (spaced : layout.Spaced) (value : Json) :
    read? (String.ofList (value.write layout 0)) = some value := by
  have finds := readValue_write spaced 0 value []
  rw [List.append_nil, ← String.toList_ofList (l := value.write layout 0)] at finds
  obtain ⟨_, read⟩ := finds
  rw [read?, read]
  rfl

theorem read?_compact (value : Json) : read? value.compact = some value :=
  read?_write Layout.spaced_compact value

theorem read?_indented (value : Json) : read? value.indented = some value :=
  read?_write Layout.spaced_indented value

/-! ## Single lines -/

def isShown (text : List Char) : Bool := text.all (0x20 ≤ ·.toNat)

@[simp] theorem isShown_append (first second : List Char) :
    isShown (first ++ second) = (isShown first && isShown second) := List.all_append

@[simp] theorem isShown_cons (head : Char) (tail : List Char) :
    isShown (head :: tail) = (decide (0x20 ≤ head.toNat) && isShown tail) := rfl

theorem isShown_writeCharacter (character : Char) : isShown (writeCharacter character) := by
  unfold writeCharacter
  split
  case h_8 =>
      split
      · next control =>
          have digits : ∀ value : Fin 16, 0x20 ≤ (hexadecimalDigit value).toNat := by decide
          have high := digits ⟨character.toNat / 16, by omega⟩
          have low := digits ⟨character.toNat % 16, by omega⟩
          simp only [isShown_cons, high, low]
          decide
      · next shown => simp only [isShown_cons, Nat.le_of_not_lt shown]; rfl
  all_goals decide

theorem isShown_writeString (text : String) : isShown (writeString text) := by
  have inside : isShown (text.toList.flatMap writeCharacter) := by
    rw [isShown, List.all_flatMap, List.all_eq_true]
    exact fun character _ => isShown_writeCharacter character
  rw [writeString, isShown_append, isShown_cons, inside]
  decide

mutual
theorem isShown_write (depth : Nat) (value : Json) : isShown (value.write .compact depth) :=
  match value with
  | .null => rfl
  | .string text => isShown_writeString text
  | .list [] => rfl
  | .list (first :: items) => by
      have own := isShown_write (depth + 1) first
      have others := isShown_writeItems (depth + 1) items
      simp only [write, isShown_append, isShown_cons, own, others]
      rfl
  | .object [] => rfl
  | .object ((key, value) :: members) => by
      have own := isShown_write (depth + 1) value
      have others := isShown_writeMembers (depth + 1) members
      simp only [write, isShown_append, isShown_cons, isShown_writeString, own, others]
      rfl

theorem isShown_writeItems (depth : Nat) (items : List Json) :
    isShown (writeItems .compact depth items) :=
  match items with
  | [] => rfl
  | item :: rest => by
      have own := isShown_write depth item
      have others := isShown_writeItems depth rest
      simp only [writeItems, isShown_append, isShown_cons, own, others]
      rfl

theorem isShown_writeMembers (depth : Nat) (members : List (String × Json)) :
    isShown (writeMembers .compact depth members) :=
  match members with
  | [] => rfl
  | (key, value) :: rest => by
      have own := isShown_write depth value
      have others := isShown_writeMembers depth rest
      simp only [writeMembers, isShown_append, isShown_cons, isShown_writeString, own, others]
      rfl
end

theorem not_mem_compact {control : Char} (isControl : control.toNat < 0x20) (value : Json) :
    control ∉ value.compact.toList := by
  intro member
  rw [compact, String.toList_ofList] at member
  have shown := List.all_eq_true.mp (isShown_write 0 value) control member
  exact absurd (of_decide_eq_true shown) (Nat.not_le_of_lt isControl)

end UriDispatch.Text.Json
