import Mathlib.Data.List.Zip
import UriDispatch.Capture
import UriDispatch.Proofs.Pattern.Compiled
import UriDispatch.Proofs.Pattern.Pieces
import UriDispatch.Proofs.Regex.CaptureCount

/-! Where the characters of a source come from, and which of its parentheses capture. Captures are
told apart by their order alone, so each name has to stand for the group that was made for it. -/

namespace UriDispatch.Pattern

/-! ## Origins -/

inductive Origin where
  | anchor
  | author
  | opening (name : String)
  | fragment (name : String)
  | closing (name : String)
deriving DecidableEq, Repr

def Origin.isOpening : Origin → Bool
  | .opening _ => true
  | _ => false

def Origin.isFragment : Origin → Bool
  | .fragment _ => true
  | _ => false

abbrev Trace := List (Char × Origin)

namespace Trace

def text (trace : Trace) : List Char := trace.map Prod.fst

def originAt? : Trace → Regex.Place → Option Origin
  | [], _ => none
  | head :: tail, place =>
      if place = tail.length + 1 then some head.2 else originAt? tail place

end Trace

def Piece.trace (fragments : Fragments) : Piece → Trace
  | .character single => [(single, .author)]
  | .name letters =>
      let name := String.ofList letters
      let body := (groupBody fragments name).toOption.getD []
      ('(', .opening name) :: body.map (·, .fragment name) ++ [(')', .closing name)]

def trace (pattern : String) (fragments : Fragments) : Trace :=
  ('^', .anchor) ::
    (pieces (markSections (escapeOperators pattern.toList))).flatMap (Piece.trace fragments) ++
      [('$', .anchor)]

def Piece.name? : Piece → Option String
  | .character _ => none
  | .name letters => some (String.ofList letters)

theorem splice_trace {fragments : Fragments} {seen : List String} {parts : List Piece}
    {text : List Char} {names : List String}
    (spliced : splice fragments seen parts = .ok (text, names)) :
    text = Trace.text (parts.flatMap (Piece.trace fragments)) ∧
      names = seen ++ parts.filterMap Piece.name? := by
  induction parts generalizing seen text names with
  | nil =>
      cases spliced
      exact ⟨rfl, (List.append_nil _).symm⟩
  | cons part rest induction =>
      cases part with
      | character single =>
          obtain ⟨⟨tail, all⟩, found, equal⟩ := Regex.ok_of_map spliced
          cases equal
          have inner := induction found
          exact ⟨congrArg (single :: ·) inner.1, inner.2⟩
      | name letters =>
          simp only [splice] at spliced
          split at spliced
          · cases spliced
          · split at spliced
            · cases spliced
            · next body groupBody =>
                obtain ⟨⟨tail, all⟩, found, equal⟩ := Regex.ok_of_map spliced
                cases equal
                have inner := induction found
                refine ⟨?_, ?_⟩
                · rw [inner.1]
                  simp [Trace.text, Piece.trace, groupBody, Except.toOption, Function.comp_def]
                · rw [inner.2, List.append_assoc]
                  rfl

theorem splice_nodup {fragments : Fragments} {seen : List String} {parts : List Piece}
    {text : List Char} {names : List String}
    (spliced : splice fragments seen parts = .ok (text, names)) (distinct : seen.Nodup) :
    names.Nodup := by
  induction parts generalizing seen text names with
  | nil =>
      cases spliced
      exact distinct
  | cons part rest induction =>
      cases part with
      | character single =>
          obtain ⟨⟨tail, all⟩, found, equal⟩ := Regex.ok_of_map spliced
          cases equal
          exact induction found distinct
      | name letters =>
          simp only [splice] at spliced
          split at spliced
          · cases spliced
          · next fresh =>
              split at spliced
              · cases spliced
              · obtain ⟨⟨tail, all⟩, found, equal⟩ := Regex.ok_of_map spliced
                cases equal
                refine induction found (List.nodup_append.mpr ⟨distinct, by simp, ?_⟩)
                intro earlier member other isNew equal
                rw [List.mem_singleton.mp isNew] at equal
                exact fresh (equal ▸ member)

def tokens (pattern : String) : List String := (pieces pattern.toList).filterMap Piece.name?

theorem filterMap_name?_rewrite (parts : List Piece) :
    (parts.flatMap Piece.rewrite).filterMap Piece.name? = parts.filterMap Piece.name? := by
  induction parts with
  | nil => rfl
  | cons part rest induction =>
      rw [List.flatMap_cons, List.filterMap_append, induction]
      cases part with
      | character single =>
          have noNames : (Piece.character single).rewrite.filterMap Piece.name? = [] := by
            rw [Piece.rewrite, List.filterMap_map]
            exact List.filterMap_eq_nil_iff.mpr fun _ _ => rfl
          rw [noNames]
          rfl
      | name letters => rfl

theorem source_trace {pattern : String} {fragments : Fragments} {text : String}
    {names : List String} (built : source pattern fragments = .ok (text, names)) :
    text.toList = (trace pattern fragments).text ∧ names = tokens pattern ∧ names.Nodup := by
  obtain ⟨⟨body, all⟩, found, equal⟩ := Regex.ok_of_map built
  cases equal
  have inner := splice_trace found
  refine ⟨?_, ?_, splice_nodup found List.nodup_nil⟩
  · rw [String.toList_ofList, inner.1]
    simp [trace, Trace.text]
  · rw [inner.2, pieces_rewritten, filterMap_name?_rewrite]
    rfl

/-! ## Bare parentheses -/

def Trace.bareOrigins : Trace → List Origin
  | [] => []
  | head :: tail =>
      if head.1 = '(' ∧ ¬['?', ':'] <+: Trace.text tail then head.2 :: bareOrigins tail
      else bareOrigins tail

namespace Trace

theorem bareParentheses_le {text : List Char} {place : Regex.Place}
    (member : place ∈ Regex.bareParentheses text) : place ≤ text.length := by
  induction text with
  | nil => cases member
  | cons head tail induction =>
      simp only [Regex.bareParentheses] at member
      split at member
      · rcases List.mem_cons.mp member with rfl | inTail
        · exact Nat.le_refl _
        · exact Nat.le_succ_of_le (induction inTail)
      · exact Nat.le_succ_of_le (induction member)

theorem originAt?_cons {head : Char × Origin} {tail : Trace} {place : Regex.Place}
    (within : place ≤ tail.length) : originAt? (head :: tail) place = originAt? tail place := by
  rw [originAt?, if_neg (Nat.ne_of_lt (Nat.lt_succ_of_le within))]

theorem originAt?_bareParentheses (trace : Trace) :
    (Regex.bareParentheses trace.text).map trace.originAt? = trace.bareOrigins.map some := by
  induction trace with
  | nil => rfl
  | cons head tail induction =>
      have inTail : (Regex.bareParentheses (text tail)).map (originAt? (head :: tail)) =
          (bareOrigins tail).map some := by
        rw [← induction]
        refine List.map_congr_left fun place member => originAt?_cons ?_
        exact List.length_map (f := Prod.fst) ▸ bareParentheses_le member
      have first : originAt? (head :: tail) ((text tail).length + 1) = some head.2 := by
        rw [originAt?, text, List.length_map, if_pos rfl]
      rw [show text (head :: tail) = head.1 :: text tail from rfl, Regex.bareParentheses,
        bareOrigins]
      split
      · rw [List.map_cons, List.map_cons, first, inTail]
      · exact inTail

theorem bareOrigins_sublist (trace : Trace) : trace.bareOrigins.Sublist (trace.map Prod.snd) := by
  induction trace with
  | nil => exact List.Sublist.refl _
  | cons head tail induction =>
      simp only [bareOrigins, List.map_cons]
      split
      · exact induction.cons_cons _
      · exact induction.cons _

theorem mem_bareOrigins_append {segment rest : Trace} {origin : Origin}
    (member : origin ∈ bareOrigins (segment ++ rest)) :
    ('(', origin) ∈ segment ∨ origin ∈ bareOrigins rest := by
  induction segment with
  | nil => exact .inr member
  | cons head tail induction =>
      rw [List.cons_append, bareOrigins] at member
      split at member
      · next bare =>
          rcases List.mem_cons.mp member with rfl | inTail
          · exact .inl (bare.1 ▸ List.mem_cons_self)
          · exact (induction inTail).imp_left (List.mem_cons_of_mem head)
      · exact (induction member).imp_left (List.mem_cons_of_mem head)

end Trace

/-- The parentheses of an author never capture: all that is bare is the opening of a group or
part of a fragment. -/
theorem bareOrigins_piece {fragments : Fragments} {part : Piece} {rest : Trace} {origin : Origin}
    (member : origin ∈ Trace.bareOrigins (part.rewrite.flatMap (Piece.trace fragments) ++ rest)) :
    origin.isOpening ∨ origin.isFragment ∨ origin ∈ rest.bareOrigins := by
  cases part with
  | character single =>
      by_cases parenthesis : single = '('
      · subst parenthesis
        exact .inr (.inr member)
      · rcases Trace.mem_bareOrigins_append member with inSegment | inRest
        · exfalso
          obtain ⟨piece, inPieces, traced⟩ := List.mem_flatMap.mp inSegment
          obtain ⟨written, inWritten, rfl⟩ := List.mem_map.mp inPieces
          rw [Piece.trace, List.mem_singleton] at traced
          cases traced
          exact open_not_mem_rewriteCharacter parenthesis inWritten
        · exact .inr (.inr inRest)
  | name letters =>
      rcases Trace.mem_bareOrigins_append member with inSegment | inRest
      · rw [Piece.rewrite, List.flatMap_singleton, Piece.trace] at inSegment
        simp only [List.mem_append, List.mem_cons, List.mem_map, List.not_mem_nil, or_false,
          Prod.mk.injEq] at inSegment
        rcases inSegment with (⟨_, rfl⟩ | ⟨_, _, _, rfl⟩) | ⟨impossible, _⟩
        · exact .inl rfl
        · exact .inr (.inl rfl)
        · cases impossible
      · exact .inr (.inr inRest)

theorem bareOrigins_pieces {fragments : Fragments} {parts : List Piece} {rest : Trace}
    {origin : Origin} (member : origin ∈ Trace.bareOrigins
      ((parts.flatMap Piece.rewrite).flatMap (Piece.trace fragments) ++ rest)) :
    origin.isOpening ∨ origin.isFragment ∨ origin ∈ rest.bareOrigins := by
  induction parts with
  | nil => exact .inr (.inr member)
  | cons part others induction =>
      rw [List.flatMap_cons, List.flatMap_append, List.append_assoc] at member
      rcases bareOrigins_piece member with opening | fragment | inOthers
      · exact .inl opening
      · exact .inr (.inl fragment)
      · exact induction inOthers

theorem bareOrigins_trace {pattern : String} {fragments : Fragments} {origin : Origin}
    (member : origin ∈ (trace pattern fragments).bareOrigins) :
    origin.isOpening ∨ origin.isFragment := by
  rw [trace, pieces_rewritten, List.cons_append, Trace.bareOrigins, if_neg (by simp)] at member
  rcases bareOrigins_pieces member with opening | fragment | inAnchor
  · exact .inl opening
  · exact .inr fragment
  · cases inAnchor

theorem openings_trace (pattern : String) (fragments : Fragments) :
    ((trace pattern fragments).map Prod.snd).filter Origin.isOpening =
      (tokens pattern).map Origin.opening := by
  rw [trace, tokens, ← filterMap_name?_rewrite, ← pieces_rewritten]
  generalize pieces (markSections (escapeOperators pattern.toList)) = parts
  have inner : ((parts.flatMap (Piece.trace fragments)).map Prod.snd).filter Origin.isOpening =
      (parts.filterMap Piece.name?).map Origin.opening := by
    induction parts with
    | nil => rfl
    | cons part rest induction =>
        rw [List.flatMap_cons, List.map_append, List.filter_append, induction]
        cases part with
        | character single => rfl
        | name letters =>
            simp [Piece.trace, Piece.name?, List.filter_cons, Origin.isOpening,
              Function.comp_def]
  simp [Origin.isOpening, inner]

/-! ## Captures -/

def captureOrigins (trace : Trace) (tree : Regex.Tree) : List (Nat × Option Origin) :=
  tree.captures.map fun (index, place) => (index, trace.originAt? place)

/-- The captures stand one for one for the names, and each is the group of its name. -/
def Positional (trace : Trace) (names : List String) (tree : Regex.Tree) : Prop :=
  captureOrigins trace tree =
    (names.zipIdx 1).map fun (name, index) => (index, some (.opening name))

instance (trace : Trace) (names : List String) (tree : Regex.Tree) :
    Decidable (Positional trace names tree) :=
  inferInstanceAs (Decidable (_ = _))

def FragmentsCaptureNothing (trace : Trace) (tree : Regex.Tree) : Prop :=
  ∀ capture ∈ captureOrigins trace tree, ¬capture.2.any Origin.isFragment

theorem captureOrigins_sublist {trace : Trace} {tree : Regex.Tree}
    (parsed : Regex.parse trace.text = .ok tree) :
    captureOrigins trace tree =
        (List.range' 1 tree.captures.length).zip ((captureOrigins trace tree).map Prod.snd) ∧
      ((captureOrigins trace tree).map Prod.snd).Sublist (trace.bareOrigins.map some) := by
  obtain ⟨places, numbered, bare⟩ := Regex.captures_parse parsed
  have count : tree.captures.length = places.length := by simp [numbered]
  have origins : captureOrigins trace tree =
      (List.range' 1 places.length).zip (places.map trace.originAt?) := by
    rw [captureOrigins, numbered, List.zip_map_right]
    rfl
  have seconds : (captureOrigins trace tree).map Prod.snd = places.map trace.originAt? := by
    rw [origins, List.map_snd_zip (by simp)]
  rw [count, seconds]
  refine ⟨origins, ?_⟩
  rw [← Trace.originAt?_bareParentheses]
  exact bare.map _

/-- The count of the captures tells nothing about where they come from: they stand for the names
as they should just if no fragment captures. -/
theorem positional_iff {pattern : String} {fragments : Fragments} {compiled : CompiledPattern}
    (succeeds : (compile pattern fragments).value = .ok compiled) :
    compiled.names = tokens pattern ∧ compiled.names.Nodup ∧
      (trace pattern fragments).text = compiled.regex.source.toList ∧
      ∃ tree, Regex.parse compiled.regex.source.toList = .ok tree ∧
        (Positional (trace pattern fragments) compiled.names tree ↔
          FragmentsCaptureNothing (trace pattern fragments) tree) := by
  obtain ⟨tree, compilation⟩ := compilesBy_of_compile succeeds
  obtain ⟨text, names, distinct⟩ := source_trace compilation.built
  obtain ⟨after, meant⟩ := compilation.meant
  refine ⟨names, distinct, text.symm, tree, compilation.parsed, ?_, ?_⟩
  · intro positional capture member
    rw [positional] at member
    obtain ⟨_, _, rfl⟩ := List.mem_map.mp member
    exact Bool.false_ne_true
  · intro nothing
    have parsed := compilation.parsed
    rw [text] at parsed
    obtain ⟨numbered, sublist⟩ := captureOrigins_sublist parsed
    have allOpen : ∀ origin ∈ (captureOrigins (trace pattern fragments) tree).map Prod.snd,
        origin.any Origin.isOpening := by
      intro origin member
      obtain ⟨bare, inBare, rfl⟩ := List.mem_map.mp (sublist.subset member)
      obtain ⟨capture, inCaptures, equal⟩ := List.mem_map.mp member
      rcases bareOrigins_trace inBare with opening | fragment
      · exact opening
      · exact absurd (equal ▸ fragment) (nothing capture inCaptures)
    have inNames : ((captureOrigins (trace pattern fragments) tree).map Prod.snd).Sublist
        (compiled.names.map (some ∘ Origin.opening)) := by
      have all := (sublist.trans ((Trace.bareOrigins_sublist _).map some)).filter
        (Option.any Origin.isOpening)
      rw [List.filter_eq_self.mpr allOpen, List.filter_map] at all
      rw [names, ← List.map_map, ← openings_trace pattern fragments]
      exact all
    have enough : compiled.names.length ≤ tree.captures.length :=
      compilation.counted ▸ Regex.captureCount_le compilation.parsed meant
    have equal := inNames.eq_of_length_le (by simpa [captureOrigins] using enough)
    have count : tree.captures.length = compiled.names.length := by
      simpa [captureOrigins] using congrArg List.length equal
    rw [Positional, numbered, equal, count, List.zipIdx_eq_zip_range', List.zip_map_right,
      ← List.zip_swap, List.map_map]
    rfl

theorem positional_iff_of_name : ∃ compiled,
    (compile "/<lang>(/<id>)" (.ofList [("lang", "(en|de)"), ("id", "(x)[)]")])).value =
        .ok compiled ∧
      compiled.names = tokens "/<lang>(/<id>)" ∧ compiled.names.Nodup ∧
        (trace "/<lang>(/<id>)" (.ofList [("lang", "(en|de)"), ("id", "(x)[)]")])).text =
          compiled.regex.source.toList ∧
        ∃ tree, Regex.parse compiled.regex.source.toList = .ok tree ∧
          (Positional (trace "/<lang>(/<id>)" (.ofList [("lang", "(en|de)"), ("id", "(x)[)]")]))
              compiled.names tree ↔
            FragmentsCaptureNothing
              (trace "/<lang>(/<id>)" (.ofList [("lang", "(en|de)"), ("id", "(x)[)]")])) tree) := by
  have succeeds : (compile "/<lang>(/<id>)"
      (.ofList [("lang", "(en|de)"), ("id", "(x)[)]")])).value = .ok
      { pattern := "/<lang>(/<id>)"
        regex := ⟨"^/((?:en|de))(?:/((?:x)[)]))?$", .follow (.test .startOfText)
          (.follow (.step (.singleton '/')) (.follow
            (.capture 1 (.orElse
              (.follow (.step (.singleton 'e')) (.step (.singleton 'n')))
              (.follow (.step (.singleton 'd')) (.step (.singleton 'e')))))
            (.follow
              (.repetition 0 (some 1) true (.follow (.step (.singleton '/'))
                (.capture 2 (.follow (.step (.singleton 'x')) (.step (.singleton ')'))))))
              (.test .endOfText))))⟩
        names := ["lang", "id"] } := by decide +kernel
  exact ⟨_, succeeds, positional_iff succeeds⟩

/-- The group of a name can be lost in a class of the author while a fragment captures, so that
the count is right and the names are not. -/
theorem lost_group_replaced :
    (compile "[<a>]<b>" (.ofList [("a", "x"), ("b", "(?P<_>foo)")])).value.toOption.map
        (fun compiled => (compiled.names, compiled.regex.source)) =
      some (["a", "b"], "^[(x)]((?P<_>foo))$") ∧
    (Regex.parse "^[(x)]((?P<_>foo))$".toList).toOption.map (captureOrigins
        (trace "[<a>]<b>" (.ofList [("a", "x"), ("b", "(?P<_>foo)")]))) =
      some [(1, some (.opening "b")), (2, some (.fragment "b"))] ∧
    (Capture.compile "[<a>]<b>" (.ofList [("a", "x"), ("b", "(?P<_>foo)")])).value.toOption.map
        (fun capture => (capture.exec "(foo").value.map (·.entries)) =
      some (some [("a", some "foo"), ("b", some "foo")]) := by
  refine ⟨?_, ?_, ?_⟩ <;> decide +kernel

end UriDispatch.Pattern
