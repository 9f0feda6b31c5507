import UriDispatch.Proofs.Pattern.Origins
import UriDispatch.Proofs.Pattern.Scanning
import UriDispatch.Proofs.Regex.Bare

/-! Patterns of plain text, names and sections that may be left out, as they are meant. Such a
pattern has no operators of its own, so that its source can be told part by part. -/

namespace UriDispatch.Pattern

/-- A character that is plain text wherever it stands in a pattern. -/
def isLiteral (character : Char) : Bool := !"()[]\x7b\x7d|\\".toList.contains character

theorem isLiteral_parentheses {character : Char} (plain : isLiteral character = true) :
    character ≠ '(' ∧ character ≠ ')' := by
  simp [isLiteral] at plain
  simp [plain]

inductive Outline where
  | done
  | literal (character : Char) (plain : isLiteral character = true) (rest : Outline)
  | token (letters : List Char) (rest : Outline)
  | optional (body rest : Outline)
deriving DecidableEq, Repr

namespace Outline

def pieces : Outline → List Piece
  | .done => []
  | .literal character _ rest => .character character :: rest.pieces
  | .token letters rest => .name letters :: rest.pieces
  | .optional body rest =>
      .character '(' :: body.pieces ++ .character ')' :: rest.pieces

def names : Outline → List String
  | .done => []
  | .literal _ _ rest => rest.names
  | .token letters rest => String.ofList letters :: rest.names
  | .optional body rest => body.names ++ rest.names

example : Pattern.pieces "a(/<id>)".toList =
    (Outline.literal 'a' rfl (.optional (.literal '/' rfl (.token ['i', 'd'] .done)) .done)).pieces := by
  decide +kernel

theorem filterMap_name?_pieces (outline : Outline) :
    outline.pieces.filterMap Piece.name? = outline.names := by
  induction outline with
  | done => rfl
  | literal character plain rest induction => exact induction
  | token letters rest induction => exact congrArg (String.ofList letters :: ·) induction
  | optional body rest inner outer =>
      rw [pieces, names, List.cons_append, List.filterMap_cons_none rfl, List.filterMap_append,
        inner, List.filterMap_cons_none rfl, outer]

end Outline

/-! ## Fragments for names -/

def fragmentFor (fragments : Fragments) (name : String) : List Char :=
  ((fragments.get? name).map String.toList).getD Fragment.default

def groupText (fragments : Fragments) (name : String) : List Char :=
  (groupBody fragments name).toOption.getD []

theorem demote_fragmentFor {fragments : Fragments} {name : String} {body : List Char}
    (found : groupBody fragments name = .ok body) :
    Fragment.demote (fragmentFor fragments name) = some body := by
  unfold groupBody at found
  unfold fragmentFor
  split at found
  · next missing =>
      cases found
      rw [missing]
      decide
  · next fragment given =>
      rw [given]
      split at found
      · cases found
      · next demoted demotes =>
          cases found
          exact demotes

theorem groupBody_of_splice {fragments : Fragments} {seen : List String} {parts : List Piece}
    {text : List Char} {names : List String}
    (spliced : splice fragments seen parts = .ok (text, names)) :
    ∀ name ∈ parts.filterMap Piece.name?,
      groupBody fragments name = .ok (groupText fragments name) := by
  induction parts generalizing seen text names with
  | nil => exact fun name member => by cases member
  | cons part rest induction =>
      cases part with
      | character single =>
          rcases Regex.ok_of_map spliced with ⟨⟨others, all⟩, found, _⟩
          exact induction found
      | name letters =>
          rw [splice] at spliced
          split at spliced
          · cases spliced
          · split at spliced
            · cases spliced
            · next body written =>
                rcases Regex.ok_of_map spliced with ⟨⟨others, all⟩, found, _⟩
                have named : Piece.name? (.name letters) = some (String.ofList letters) := rfl
                rw [List.filterMap_cons_some named]
                refine List.forall_mem_cons.mpr ⟨?_, induction found⟩
                rw [groupText, written]
                rfl

theorem groupBody_of_source {pattern : String} {fragments : Fragments} {text : String}
    {names : List String} (built : source pattern fragments = .ok (text, names)) :
    ∀ name ∈ tokens pattern, groupBody fragments name = .ok (groupText fragments name) := by
  rcases Regex.ok_of_map built with ⟨⟨body, all⟩, spliced, _⟩
  rw [pieces_rewritten] at spliced
  have bodies := groupBody_of_splice spliced
  rwa [filterMap_name?_rewrite] at bodies

/-! ## Sources -/

def written (fragments : Fragments) (parts : List Piece) : List Char :=
  Trace.text ((parts.flatMap Piece.rewrite).flatMap (Piece.trace fragments))

theorem written_append (fragments : Fragments) (left right : List Piece) :
    written fragments (left ++ right) = written fragments left ++ written fragments right := by
  simp only [written, List.flatMap_append, Trace.text, List.map_append]

theorem written_character (fragments : Fragments) (single : Char) (rest : List Piece) :
    written fragments (.character single :: rest) =
      rewriteCharacter single ++ written fragments rest := by
  refine (written_append fragments [.character single] rest).trans (congrArg (· ++ _) ?_)
  rw [written, List.flatMap_singleton, Piece.rewrite, List.flatMap_map, Trace.text]
  induction rewriteCharacter single with
  | nil => rfl
  | cons head tail induction => exact congrArg (head :: ·) induction

theorem written_name (fragments : Fragments) (letters : List Char) (rest : List Piece) :
    written fragments (.name letters :: rest) =
      '(' :: groupText fragments (String.ofList letters) ++ ')' :: written fragments rest := by
  have own : written fragments [.name letters] =
      '(' :: groupText fragments (String.ofList letters) ++ [')'] := by
    simp [written, Piece.rewrite, Piece.trace, Trace.text, groupText, Function.comp_def]
  refine (written_append fragments [.name letters] rest).trans ?_
  rw [own, List.append_assoc]
  rfl

namespace Outline

def text (fragments : Fragments) : Outline → List Char
  | .done => []
  | .literal character _ rest => rewriteCharacter character ++ rest.text fragments
  | .token letters rest =>
      '(' :: groupText fragments (String.ofList letters) ++ ')' :: rest.text fragments
  | .optional body rest =>
      '(' :: '?' :: ':' :: body.text fragments ++ ')' :: '?' :: rest.text fragments

theorem written_pieces (fragments : Fragments) (outline : Outline) :
    written fragments outline.pieces = outline.text fragments := by
  induction outline with
  | done => rfl
  | literal character plain rest induction => rw [pieces, written_character, induction, text]
  | token letters rest induction => rw [pieces, written_name, induction, text]
  | optional body rest inner outer =>
      rw [pieces, List.cons_append, written_character, written_append, inner, written_character,
        outer, text]
      rfl

theorem source_text {pattern : String} {fragments : Fragments} {outline : Outline} {text : String}
    {names : List String} (meant : Pattern.pieces pattern.toList = outline.pieces)
    (built : source pattern fragments = .ok (text, names)) :
    text.toList = '^' :: outline.text fragments ++ ['$'] ∧ names = outline.names ∧
      names.Nodup ∧
        ∀ name ∈ outline.names, groupBody fragments name = .ok (groupText fragments name) := by
  have traced := source_trace built
  have namesEqual : tokens pattern = outline.names := by
    rw [tokens, meant, filterMap_name?_pieces]
  refine ⟨?_, traced.2.1.trans namesEqual, traced.2.2, ?_⟩
  · rw [traced.1, trace, pieces_rewritten, meant, ← written_pieces]
    simp [Trace.text, written]
  · rw [← namesEqual]
    exact groupBody_of_source built

end Outline

end UriDispatch.Pattern
