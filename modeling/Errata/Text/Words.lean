import Errata.Text.Blank

/-!
# Parts of a text

A text is divided at separators or into words, which are what stands between blanks.
-/

namespace Errata.Text

/-- The parts of a text between separators. -/
def splitOn (sep : Char → Bool) (cs : List Char) : List (List Char) :=
  cs.foldr (fun c acc =>
    if sep c then [] :: acc
    else
      match acc with
      | l :: rest => (c :: l) :: rest
      | [] => [[c]]) [[]]

/-- The words of a text. -/
def words (cs : List Char) : List (List Char) :=
  (splitOn isBlank cs).filter fun w => !w.isEmpty

end Errata.Text
