import UriDispatch.Text.Digit

/-! Sets of characters, kept as lists of ranges of code points. The ranges may overlap and may
stand in any order: membership is the only view of a set, and each operation comes with the
lemma that says what it does to membership. Where sets are compared or counted, they are brought
into a normal form first. -/

namespace UriDispatch

structure CharacterRange where
  first : Nat
  last : Nat
deriving DecidableEq, Repr

namespace CharacterRange

def contains (range : CharacterRange) (code : Nat) : Bool :=
  range.first ≤ code && code ≤ range.last

def without (range removed : CharacterRange) : List CharacterRange :=
  (if range.first < removed.first then
    [⟨range.first, min range.last (removed.first - 1)⟩] else []) ++
  (if removed.last < range.last then
    [⟨max range.first (removed.last + 1), range.last⟩] else [])

theorem any_without (range removed : CharacterRange) (code : Nat) :
    (range.without removed).any (·.contains code) =
      (range.contains code && !removed.contains code) := by
  rw [Bool.eq_iff_iff]
  unfold without
  split <;> split <;> simp [contains] <;> omega

def meet (left right : CharacterRange) : Option CharacterRange :=
  if max left.first right.first ≤ min left.last right.last then
    some ⟨max left.first right.first, min left.last right.last⟩
  else none

theorem any_meet (left right : CharacterRange) (code : Nat) :
    (left.meet right).any (·.contains code) = (left.contains code && right.contains code) := by
  rw [Bool.eq_iff_iff]
  unfold meet
  split <;> simp [contains] <;> omega

end CharacterRange

structure CharacterSet where
  ranges : List CharacterRange
deriving DecidableEq, Repr

namespace CharacterSet

def containsCode (set : CharacterSet) (code : Nat) : Bool :=
  set.ranges.any (·.contains code)

def contains (set : CharacterSet) (character : Char) : Bool :=
  set.containsCode character.toNat

def empty : CharacterSet := ⟨[]⟩

def full : CharacterSet := ⟨[⟨0, 0x10FFFF⟩]⟩

def ofRange (first last : Char) : CharacterSet := ⟨[⟨first.toNat, last.toNat⟩]⟩

def singleton (character : Char) : CharacterSet := ofRange character character

def union (left right : CharacterSet) : CharacterSet := ⟨left.ranges ++ right.ranges⟩

def unions (sets : List CharacterSet) : CharacterSet := ⟨sets.flatMap (·.ranges)⟩

def removeRange (set : CharacterSet) (removed : CharacterRange) : CharacterSet :=
  ⟨set.ranges.flatMap (·.without removed)⟩

def difference (left right : CharacterSet) : CharacterSet :=
  right.ranges.foldl removeRange left

def complement (set : CharacterSet) : CharacterSet := full.difference set

def intersection (left right : CharacterSet) : CharacterSet :=
  ⟨left.ranges.flatMap fun range => right.ranges.filterMap range.meet⟩

def symmetricDifference (left right : CharacterSet) : CharacterSet :=
  (left.difference right).union (right.difference left)

def isAscii (set : CharacterSet) : Bool := set.ranges.all (·.last ≤ 0x7F)

/-! ## Membership -/

@[simp] theorem containsCode_empty (code : Nat) : empty.containsCode code = false := rfl

theorem containsCode_full {code : Nat} (bound : code ≤ 0x10FFFF) :
    full.containsCode code = true := by
  simp [containsCode, full, CharacterRange.contains, bound]

@[simp] theorem contains_full (character : Char) : full.contains character = true := by
  refine containsCode_full ?_
  have valid := character.valid
  simp only [UInt32.isValidChar, Nat.isValidChar] at valid
  change character.val.toNat ≤ 0x10FFFF
  omega

@[simp] theorem containsCode_union (left right : CharacterSet) (code : Nat) :
    (left.union right).containsCode code =
      (left.containsCode code || right.containsCode code) := by
  simp [containsCode, union]

@[simp] theorem containsCode_unions (sets : List CharacterSet) (code : Nat) :
    (unions sets).containsCode code = sets.any (·.containsCode code) := by
  simp [containsCode, unions, List.any_flatMap]

theorem containsCode_removeRange (set : CharacterSet) (removed : CharacterRange) (code : Nat) :
    (set.removeRange removed).containsCode code =
      (set.containsCode code && !removed.contains code) := by
  obtain ⟨ranges⟩ := set
  induction ranges with
  | nil => rfl
  | cons head tail induction =>
      simp only [containsCode, removeRange, List.flatMap_cons, List.any_append, List.any_cons,
        CharacterRange.any_without] at induction ⊢
      rw [induction, Bool.and_or_distrib_right]

@[simp] theorem containsCode_difference (left right : CharacterSet) (code : Nat) :
    (left.difference right).containsCode code =
      (left.containsCode code && !right.containsCode code) := by
  obtain ⟨ranges⟩ := right
  induction ranges generalizing left with
  | nil => simp [difference, containsCode]
  | cons head tail induction =>
      have step := induction (left.removeRange head)
      simp only [difference, List.foldl_cons] at step ⊢
      rw [step, containsCode_removeRange]
      simp [containsCode, Bool.and_assoc]

@[simp] theorem containsCode_intersection (left right : CharacterSet) (code : Nat) :
    (left.intersection right).containsCode code =
      (left.containsCode code && right.containsCode code) := by
  have meets (range : CharacterRange) (others : List CharacterRange) :
      (others.filterMap range.meet).any (·.contains code) =
        (range.contains code && others.any (·.contains code)) := by
    induction others with
    | nil => simp
    | cons head tail induction =>
        have first := CharacterRange.any_meet range head code
        cases equal : range.meet head with
        | none =>
            rw [equal] at first
            simp only [List.filterMap_cons, equal, induction, List.any_cons,
              Bool.and_or_distrib_left, ← first, Option.any_none, Bool.false_or]
        | some part =>
            rw [equal] at first
            simp only [Option.any_some] at first
            simp only [List.filterMap_cons, equal, induction, List.any_cons,
              Bool.and_or_distrib_left, ← first]
  obtain ⟨ranges⟩ := left
  induction ranges with
  | nil => rfl
  | cons head tail induction =>
      simp only [containsCode, intersection, List.flatMap_cons, List.any_append,
        List.any_cons] at induction ⊢
      rw [induction, meets, Bool.and_or_distrib_right]

@[simp] theorem contains_complement (set : CharacterSet) (character : Char) :
    set.complement.contains character = !set.contains character := by
  have member := contains_full character
  simp only [contains] at member ⊢
  rw [complement, containsCode_difference, member, Bool.true_and]

/-! ## Normal form -/

def insertRange (range : CharacterRange) : List CharacterRange → List CharacterRange
  | [] => [range]
  | next :: later =>
      if range.last + 1 < next.first then range :: next :: later
      else if next.last + 1 < range.first then next :: insertRange range later
      else insertRange ⟨min range.first next.first, max range.last next.last⟩ later

theorem any_insertRange (range : CharacterRange) (ranges : List CharacterRange)
    (ordered : range.first ≤ range.last) (allOrdered : ∀ next ∈ ranges, next.first ≤ next.last)
    (code : Nat) :
    (insertRange range ranges).any (·.contains code) =
      (range.contains code || ranges.any (·.contains code)) := by
  induction ranges generalizing range with
  | nil => simp [insertRange]
  | cons next later induction =>
      have nextOrdered := allOrdered next (List.mem_cons_self ..)
      have laterOrdered := fun other member => allOrdered other (List.mem_cons_of_mem next member)
      unfold insertRange
      split
      · rfl
      · split
        · rw [List.any_cons, induction range ordered laterOrdered, List.any_cons]
          exact Bool.or_left_comm ..
        · rw [induction _ (by simp only; omega) laterOrdered, List.any_cons, ← Bool.or_assoc]
          congr 1
          rw [Bool.eq_iff_iff]
          simp [CharacterRange.contains]
          omega

theorem ordered_insertRange (range : CharacterRange) (ranges : List CharacterRange)
    (ordered : range.first ≤ range.last) (allOrdered : ∀ next ∈ ranges, next.first ≤ next.last) :
    ∀ next ∈ insertRange range ranges, next.first ≤ next.last := by
  induction ranges generalizing range with
  | nil => simpa [insertRange] using ordered
  | cons next later induction =>
      have nextOrdered := allOrdered next (List.mem_cons_self ..)
      have laterOrdered := fun other member => allOrdered other (List.mem_cons_of_mem next member)
      unfold insertRange
      split
      · simpa using ⟨ordered, nextOrdered, laterOrdered⟩
      · split
        · simpa using ⟨nextOrdered, induction range ordered laterOrdered⟩
        · exact induction _ (by simp only; omega) laterOrdered

private def inOrder (ranges : List CharacterRange) : List CharacterRange :=
  (ranges.filter fun range => range.first ≤ range.last).foldr insertRange []

private theorem ordered_inOrder (ranges : List CharacterRange) :
    ∀ range ∈ inOrder ranges, range.first ≤ range.last := by
  induction ranges with
  | nil => simp [inOrder]
  | cons head tail induction =>
      unfold inOrder at induction ⊢
      by_cases ordered : head.first ≤ head.last
      · rw [List.filter_cons_of_pos (by simpa using ordered)]
        exact ordered_insertRange head _ ordered induction
      · rw [List.filter_cons_of_neg (by simpa using ordered)]
        exact induction

private theorem any_inOrder (ranges : List CharacterRange) (code : Nat) :
    (inOrder ranges).any (·.contains code) = ranges.any (·.contains code) := by
  induction ranges with
  | nil => rfl
  | cons head tail induction =>
      have tailOrdered := ordered_inOrder tail
      unfold inOrder at induction tailOrdered ⊢
      by_cases ordered : head.first ≤ head.last
      · rw [List.filter_cons_of_pos (by simpa using ordered), List.foldr_cons,
          any_insertRange head _ ordered tailOrdered, induction, List.any_cons]
      · rw [List.filter_cons_of_neg (by simpa using ordered), induction, List.any_cons]
        have outside : head.contains code = false := by simp [CharacterRange.contains]; omega
        rw [outside, Bool.false_or]

/-- The same characters as ranges in order that do not touch. Code points that stand for no
character are left out, so equal sets have equal normal forms. -/
def normal (set : CharacterSet) : CharacterSet :=
  ⟨inOrder (set.removeRange ⟨0xD800, 0xDFFF⟩).ranges⟩

@[simp] theorem contains_normal (set : CharacterSet) (character : Char) :
    set.normal.contains character = set.contains character := by
  have valid := character.valid
  simp only [UInt32.isValidChar, Nat.isValidChar] at valid
  have same : set.normal.containsCode character.toNat =
      (set.removeRange ⟨0xD800, 0xDFFF⟩).containsCode character.toNat := any_inOrder _ _
  have noSurrogate : (CharacterRange.mk 0xD800 0xDFFF).contains character.toNat = false := by
    simp only [CharacterRange.contains, Char.toNat]
    rw [Bool.eq_false_iff]
    simp only [ne_eq, Bool.and_eq_true, decide_eq_true_eq]
    omega
  simp only [contains, same, containsCode_removeRange, noSurrogate, Bool.not_false, Bool.and_true]

def single? (set : CharacterSet) : Option Nat :=
  match set.ranges with
  | [range] => if range.first = range.last then some range.first else none
  | _ => none

example : (unions [ofRange 'd' 'f', singleton 'b', ofRange 'a' 'c']).normal = ofRange 'a' 'f' := by
  decide
example : ((singleton 'x').normal).single? = some 'x'.toNat := by decide

/-! ## Tables -/

private def finishRange (first : Option Nat) : Option Nat → List CharacterRange
  | none => []
  | some last => [⟨first.getD last, last⟩]

private def readTable (first number : Option Nat) : List Char → List CharacterRange
  | [] => finishRange first number
  | character :: rest =>
      if character.isWhitespace then finishRange first number ++ readTable none none rest
      else if character = '-' then readTable number none rest
      else readTable first (some (16 * number.getD 0 + (Text.digitValue? 16 character).getD 0)) rest

/-- The set written as ranges of hexadecimal code points with white space between them. -/
def ofTable (table : String) : CharacterSet := ⟨readTable none none table.toList⟩

example : ofTable "30-39
  5f" = ⟨[⟨0x30, 0x39⟩, ⟨0x5F, 0x5F⟩]⟩ := by decide

end CharacterSet

end UriDispatch
