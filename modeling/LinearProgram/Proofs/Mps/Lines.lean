import LinearProgram.Mps.Writer
import LinearProgram.Proofs.Text.Words

namespace LinearProgram.Mps

open Text

variable {F : Type} [Scalar F]

theorem words_valueLine {first second : String} (firstWord : IsWord first)
    (secondWord : IsWord second) (value : F) :
    words (valueLine first second value).toList =
      [first, second] ++ words (Scalar.render value).toList := by
  have indented : words ("    " ++ field first).toList = [first] := by
    rw [String.toList_append, words_blanks_append (by decide), field, words_padRight,
      words_of_isWord firstWord]
  rw [valueLine, words_join, words_join, indented, field, words_padRight,
    words_of_isWord secondWord]
  rfl

theorem words_boundLine {mark : String} (markWord : IsWord mark) (column : String) :
    words (boundLine mark column).toList = [mark, "BND"] ++ words column.toList := by
  have indented : words (" " ++ mark).toList = [mark] := by
    rw [String.toList_append, words_blanks_append (by decide), words_of_isWord markWord]
  have set : words (field "BND").toList = ["BND"] := by
    rw [field, words_padRight]
    exact words_of_isWord ⟨by decide, by decide⟩
  rw [boundLine, words_join, words_join, indented, set]
  rfl

theorem words_boundValueLine {mark column : String} (markWord : IsWord mark)
    (columnWord : IsWord column) (value : F) :
    words (boundValueLine mark column value).toList =
      [mark, "BND", column] ++ words (Scalar.render value).toList := by
  rw [boundValueLine, words_join, words_boundLine markWord, field, words_padRight,
    words_of_isWord columnWord]
  rfl

theorem isOneLine_valueLine {first second : String} {value : F} (firstSolid : IsSolid first)
    (secondSolid : IsSolid second) (valueSolid : IsSolid (Scalar.render value)) :
    IsOneLine (valueLine first second value) := by
  have firstWhole := isOneLine_padRight (isOneLine_of_isSolid firstSolid) 9
  have secondWhole := isOneLine_padRight (isOneLine_of_isSolid secondSolid) 9
  have space : IsOneLine " " := by decide
  have indent : IsOneLine "    " := by decide
  exact (((indent.append firstWhole).append space).append secondWhole).append space
    |>.append (isOneLine_of_isSolid valueSolid)

theorem isOneLine_boundLine {mark column : String} (markSolid : IsSolid mark)
    (columnWhole : IsOneLine column) : IsOneLine (boundLine mark column) := by
  have markWhole := isOneLine_of_isSolid markSolid
  have set : IsOneLine (field "BND") := by decide
  have space : IsOneLine " " := by decide
  exact ((((space.append markWhole).append space).append set).append space).append columnWhole

theorem isOneLine_boundValueLine {mark column : String} {value : F} (markSolid : IsSolid mark)
    (columnSolid : IsSolid column) (valueSolid : IsSolid (Scalar.render value)) :
    IsOneLine (boundValueLine mark column value) := by
  have columnWhole := isOneLine_padRight (isOneLine_of_isSolid columnSolid) 9
  have space : IsOneLine " " := by decide
  exact ((isOneLine_boundLine markSolid columnWhole).append space).append
    (isOneLine_of_isSolid valueSolid)

end LinearProgram.Mps
