import LinearProgram.Algebraic.Program
import LinearProgram.Proofs.Outcome
import Mathlib.Data.List.TakeWhile

namespace LinearProgram

namespace Heading

def sense? : Heading → Option Sense
  | .objective sense => some sense
  | _ => none

end Heading

abbrev HeadedLine := Option Heading × List Char

def headedLines (text : String) : List HeadedLine :=
  (((Text.splitLines text.toList).map fun line => line.takeWhile (· != '#')).filter
    fun line => !line.all Text.isBlank).map Heading.split

def Location.headed (location : Location) : HeadedLine :=
  Heading.split location.text.toList

theorem map_headed_sourceLines (text : String) :
    (sourceLines text).map Location.headed = headedLines text := by
  rw [sourceLines, headedLines, List.map_filterMap]
  conv_rhs =>
    rw [← List.zipIdx_map_fst 1 (Text.splitLines text.toList), ← List.filterMap_eq_map,
      List.filterMap_filter, List.map_map, List.filterMap_map]
  congr 1
  funext (line, number)
  simp only [Function.comp_apply]
  by_cases blank : (line.takeWhile (· != '#')).all Text.isBlank
  · simp [blank]
  · simp [blank, Location.headed]

def headings (lines : List HeadedLine) : List Heading :=
  lines.filterMap Prod.fst

def sectionAfter (lines : List HeadedLine) : Option Section :=
  (headings lines).getLast?.map Heading.opens

def tokenLines (lines : List HeadedLine) (place : Option Section) : List (List Token) :=
  (withEarlier [] lines).filterMap fun (before, line) =>
    if sectionAfter (before ++ [line]) = place then (Token.scan line.2).toOption.filter (· ≠ [])
    else none

theorem headings_concat (lines : List HeadedLine) (line : HeadedLine) :
    headings (lines ++ [line]) = headings lines ++ line.1.toList := by
  cases heading : line.1 <;> simp [headings, heading]

theorem tokenLines_concat_nil {lines : List HeadedLine} {line : HeadedLine}
    (scanned : Token.scan line.2 = .ok []) : tokenLines (lines ++ [line]) = tokenLines lines := by
  funext place
  simp [tokenLines, withEarlier_concat, scanned, Except.toOption]

theorem tokenLines_concat {lines : List HeadedLine} {line : HeadedLine} {tokens : List Token}
    (scanned : Token.scan line.2 = .ok tokens) (nonempty : tokens ≠ []) :
    tokenLines (lines ++ [line]) = fun place =>
      tokenLines lines place ++
        if sectionAfter (lines ++ [line]) = place then [tokens] else [] := by
  funext place
  rw [tokenLines, withEarlier_concat, List.filterMap_append]
  by_cases here : sectionAfter (lines ++ [line]) = place
  · simp [tokenLines, here, scanned, nonempty, Except.toOption, Option.filter]
  · simp [tokenLines, here]

theorem mem_tokenLines {lines : List HeadedLine} {place : Option Section} {tokens : List Token} :
    tokens ∈ tokenLines lines place ↔ ∃ entry ∈ withEarlier [] lines,
      sectionAfter (entry.1 ++ [entry.2]) = place ∧ Token.scan entry.2.2 = .ok tokens ∧
        tokens ≠ [] := by
  simp only [tokenLines, List.mem_filterMap]
  apply exists_congr
  intro entry
  apply and_congr_right
  intro _
  cases Token.scan entry.2.2 <;> simp [Except.toOption, Option.filter_eq_some_iff]

end LinearProgram
