import UriDispatch.Proofs.Pattern.Translation

/-! The parentheses of a pattern. Every pattern without operators of its own is a row of outlines
with parentheses between them that do not belong together: first those that close nothing, then
those that are never closed. The parentheses are balanced if there are none of either kind. -/

namespace UriDispatch.Pattern

/-! ## Balance -/

/-- No parenthesis closes what is not open, and none stays open. -/
structure Balanced (text : List Char) : Prop where
  closes : ∀ front, front <+: text → front.count ')' ≤ front.count '('
  totals : text.count ')' = text.count '('

namespace Balanced

theorem of_not_mem {text : List Char} (noOpen : '(' ∉ text) (noClose : ')' ∉ text) :
    Balanced text where
  closes := by
    intro front isFront
    rw [List.count_eq_zero_of_not_mem fun member => noClose (isFront.subset member)]
    exact Nat.zero_le _
  totals := by rw [List.count_eq_zero_of_not_mem noOpen, List.count_eq_zero_of_not_mem noClose]

theorem append {first second : List Char} (before : Balanced first) (after : Balanced second) :
    Balanced (first ++ second) where
  closes := by
    intro front isFront
    rcases List.prefix_or_prefix_of_prefix isFront (List.prefix_append first second) with
      within | ⟨rest, rfl⟩
    · exact before.closes front within
    · rw [List.prefix_append_right_inj] at isFront
      have later := after.closes rest isFront
      rw [List.count_append, List.count_append, before.totals]
      omega
  totals := by rw [List.count_append, List.count_append, before.totals, after.totals]

theorem enclose {text : List Char} (inside : Balanced text) :
    Balanced ('(' :: text ++ [')']) where
  closes := by
    intro front isFront
    rw [List.prefix_concat_iff] at isFront
    rcases isFront with rfl | within
    · have totals := inside.totals
      simp [totals]
    · rcases List.prefix_cons_iff.mp within with rfl | ⟨rest, rfl, isRest⟩
      · exact Nat.le_refl _
      · have earlier := inside.closes rest isRest
        simp
        omega
  totals := by
    have totals := inside.totals
    simp [totals]

end Balanced

/-! ## Texts of pieces -/

def Piece.text : Piece → List Char
  | .character single => [single]
  | .name letters => '<' :: letters ++ ['>']

theorem Cut.flatMap_text {text : List Char} {parts : List Piece} (cut : Cut text parts) :
    parts.flatMap Piece.text = text := by
  induction cut with
  | done => rfl
  | name begins rest induction =>
      rw [List.flatMap_cons, induction, begins.text_eq]
      simp [Piece.text]
  | character noName rest induction =>
      rw [List.flatMap_cons, induction]
      rfl

theorem Cut.isNameCharacter {text : List Char} {parts : List Piece} (cut : Cut text parts)
    {letters : List Char} (member : .name letters ∈ parts) :
    ∀ letter ∈ letters, isNameCharacter letter := by
  induction cut with
  | done => cases member
  | name begins rest induction =>
      rcases List.mem_cons.mp member with equal | later
      · cases equal
        exact begins.letters
      · exact induction later
  | character noName rest induction =>
      rcases List.mem_cons.mp member with equal | later
      · cases equal
      · exact induction later

def PlainNames (parts : List Piece) : Prop :=
  ∀ letters, .name letters ∈ parts → '(' ∉ letters ∧ ')' ∉ letters

theorem plainNames_pieces (text : List Char) : PlainNames (pieces text) := by
  have cut := (cut_iff text _).mpr rfl
  intro letters member
  constructor
  · exact fun isOpen => absurd (cut.isNameCharacter member _ isOpen) (by decide)
  · exact fun isClose => absurd (cut.isNameCharacter member _ isClose) (by decide)

theorem Outline.balanced {outline : Outline} (plain : PlainNames outline.pieces) :
    Balanced (outline.pieces.flatMap Piece.text) := by
  induction outline with
  | done => exact .of_not_mem List.not_mem_nil List.not_mem_nil
  | literal character isPlain rest induction =>
      have parentheses := isLiteral_parentheses isPlain
      rw [pieces, List.flatMap_cons]
      apply Balanced.append
      · apply Balanced.of_not_mem
        · exact fun member => parentheses.1 (List.mem_singleton.mp member).symm
        · exact fun member => parentheses.2 (List.mem_singleton.mp member).symm
      · exact induction fun letters member => plain letters (List.mem_cons_of_mem _ member)
  | token letters rest induction =>
      have parentheses := plain letters List.mem_cons_self
      rw [pieces, List.flatMap_cons]
      apply Balanced.append
      · apply Balanced.of_not_mem
        · simpa [Piece.text] using parentheses.1
        · simpa [Piece.text] using parentheses.2
      · exact induction fun letters member => plain letters (List.mem_cons_of_mem _ member)
  | optional body rest inner outer =>
      have parts : (Outline.optional body rest).pieces.flatMap Piece.text =
          ('(' :: body.pieces.flatMap Piece.text ++ [')']) ++ rest.pieces.flatMap Piece.text := by
        simp [pieces, Piece.text]
      rw [parts]
      apply Balanced.append
      · apply Balanced.enclose
        exact inner fun letters member => plain letters (by simp [pieces, member])
      · exact outer fun letters member => plain letters (by simp [pieces, member])

/-! ## Parentheses left over -/

/-- Outlines in a row. A parenthesis that closes nothing follows each of the first ones, and one
that is not closed stands before each of the last ones. -/
structure Row where
  unopened : List Outline
  middle : Outline
  unclosed : List Outline

namespace Row

def pieces (row : Row) : List Piece :=
  row.unopened.flatMap (fun outline => outline.pieces ++ [.character ')']) ++
    (row.middle.pieces ++ row.unclosed.flatMap fun outline => .character '(' :: outline.pieces)

def extend (row : Row) (front : Outline → Outline) : Row :=
  match row.unopened with
  | [] => { row with middle := front row.middle }
  | first :: others => { row with unopened := front first :: others }

theorem pieces_extend {front : Outline → Outline} {added : List Piece}
    (adds : ∀ outline, (front outline).pieces = added ++ outline.pieces) (row : Row) :
    (row.extend front).pieces = added ++ row.pieces := by
  rcases row with ⟨_ | ⟨first, others⟩, middle, unclosed⟩
  · simp [extend, pieces, adds]
  · simp [extend, pieces, adds]

theorem exists_row {parts : List Piece} (plain : ∀ single, .character single ∈ parts →
    isLiteral single ∨ single = '(' ∨ single = ')') : ∃ row : Row, parts = row.pieces := by
  induction parts with
  | nil => exact ⟨⟨[], .done, []⟩, rfl⟩
  | cons part rest induction =>
      rcases induction fun single member => plain single (List.mem_cons_of_mem _ member) with
        ⟨row, rfl⟩
      cases part with
      | name letters =>
          have adds (outline : Outline) :
              (Outline.token letters outline).pieces = [.name letters] ++ outline.pieces := rfl
          exact ⟨row.extend (.token letters), (row.pieces_extend adds).symm⟩
      | character single =>
          rcases plain single List.mem_cons_self with literal | rfl | rfl
          · have adds (outline : Outline) : (Outline.literal single literal outline).pieces =
                [.character single] ++ outline.pieces := rfl
            exact ⟨row.extend (.literal single literal), (row.pieces_extend adds).symm⟩
          · -- The parenthesis belongs to the first one that closes nothing, if there is any.
            rcases row with ⟨_ | ⟨first, others⟩, middle, unclosed⟩
            · exact ⟨⟨[], .done, middle :: unclosed⟩, by simp [pieces, Outline.pieces]⟩
            · have adds (outline : Outline) : (Outline.optional first outline).pieces =
                  (.character '(' :: first.pieces ++ [.character ')']) ++ outline.pieces := by
                simp [Outline.pieces]
              let behind : Row := ⟨others, middle, unclosed⟩
              refine ⟨behind.extend (.optional first), ?_⟩
              rw [behind.pieces_extend adds]
              simp [behind, pieces]
          · exact ⟨⟨.done :: row.unopened, row.middle, row.unclosed⟩, by
              simp [pieces, Outline.pieces]⟩

theorem count_unclosed {outlines : List Outline}
    (plain : ∀ outline ∈ outlines, PlainNames outline.pieces) :
    ((outlines.flatMap fun outline => .character '(' :: outline.pieces).flatMap
        Piece.text).count '(' =
      ((outlines.flatMap fun outline => .character '(' :: outline.pieces).flatMap
        Piece.text).count ')' + outlines.length := by
  induction outlines with
  | nil => rfl
  | cons outline others induction =>
      rw [List.forall_mem_cons] at plain
      have totals := (Outline.balanced plain.1).totals
      have later := induction plain.2
      simp only [List.flatMap_cons, List.flatMap_append, List.count_append, Piece.text,
        List.cons_append, List.count_cons, List.length_cons] at later ⊢
      simp
      omega

theorem balanced_iff {row : Row} (plain : PlainNames row.pieces) :
    Balanced (row.pieces.flatMap Piece.text) ↔ row.unopened = [] ∧ row.unclosed = [] := by
  rcases row with ⟨unopened, middle, unclosed⟩
  have inMiddle : Balanced (middle.pieces.flatMap Piece.text) := by
    apply Outline.balanced
    exact fun letters member => plain letters (by simp [pieces, member])
  constructor
  · intro balanced
    cases unopened with
    | cons first others =>
        have inFirst : Balanced (first.pieces.flatMap Piece.text) := by
          apply Outline.balanced
          exact fun letters member => plain letters (by simp [pieces, member])
        have closes := balanced.closes (first.pieces.flatMap Piece.text ++ [')'])
          (by simp [pieces, Piece.text])
        have totals := inFirst.totals
        simp at closes
        omega
    | nil =>
        refine ⟨rfl, ?_⟩
        change unclosed = []
        have inUnclosed : ∀ outline ∈ unclosed, PlainNames outline.pieces := by
          intro outline member letters inOutline
          apply plain letters
          rw [pieces, List.mem_append, List.mem_append]
          exact .inr (.inr (List.mem_flatMap.mpr ⟨outline, member, List.mem_cons_of_mem _ inOutline⟩))
        have leftOpen := count_unclosed inUnclosed
        have totals := balanced.totals
        have own := inMiddle.totals
        simp only [pieces, List.flatMap_nil, List.nil_append, List.flatMap_append,
          List.count_append] at totals
        exact List.length_eq_zero_iff.mp (by omega)
  · rintro ⟨rfl, rfl⟩
    simpa [pieces] using inMiddle

end Row

end UriDispatch.Pattern
