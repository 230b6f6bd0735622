import LinearProgram.Proofs.Algebraic.Draft

namespace LinearProgram

variable {F : Type} [Scalar F] [Literal F]

theorem headings_pairwise_iff {lines : List HeadedLine} :
    ((headings lines).Pairwise fun earlier later => earlier.opens.rank < later.opens.rank) ↔
      ∀ entry ∈ withEarlier [] lines, ∀ heading, entry.2.1 = some heading →
        heading.Follows (headings entry.1) := by
  rw [headings, List.pairwise_filterMap, pairwise_iff_withEarlier]
  apply forall₂_congr
  intro entry _
  simp only [Heading.Follows, headings, List.mem_filterMap]
  grind

theorem lines_fit_iff {lines : List HeadedLine} :
    (∀ entry ∈ withEarlier [] lines, LineFits F entry.1 entry.2) ↔
      ((headings lines).Pairwise fun earlier later => earlier.opens.rank < later.opens.rank) ∧
      (∀ line ∈ lines, ∃ tokens, Token.scan line.2 = .ok tokens) ∧
      ∀ place, ∀ tokens ∈ tokenLines lines place, ContentFits F place tokens := by
  have scans := forall_withEarlier
    (fun line : HeadedLine => ∃ tokens, Token.scan line.2 = .ok tokens) [] lines
  rw [headings_pairwise_iff, ← scans]
  constructor
  · intro fits
    refine ⟨?_, ?_, ?_⟩
    · intro entry member
      exact (fits entry member).1
    · intro entry member
      obtain ⟨_, tokens, scanned, _⟩ := fits entry member
      exact ⟨tokens, scanned⟩
    · intro place tokens inside
      obtain ⟨entry, member, here, scanned, nonempty⟩ := mem_tokenLines.mp inside
      obtain ⟨_, others, again, useful⟩ := fits entry member
      rw [scanned] at again
      cases again
      exact here ▸ useful nonempty
  · intro conditions entry member
    obtain ⟨follows, scans, useful⟩ := conditions
    obtain ⟨tokens, scanned⟩ := scans entry member
    refine ⟨follows entry member, tokens, scanned, ?_⟩
    intro nonempty
    exact useful _ tokens (mem_tokenLines.mpr ⟨entry, member, rfl, scanned, nonempty⟩)

theorem Problem.outcome_parse (text : String) :
    (parse text : Traced ParseError (Problem F)).outcome = read text := by
  rw [parse, Traced.outcome_bind, Traced.outcome_ofExcept]
  cases read (F := F) text <;> rfl

theorem Problem.read_eq_ok {text : String} {problem : Problem F} :
    Problem.read text = .ok problem ↔
      (∀ entry ∈ withEarlier [] (headedLines text), LineFits F entry.1 entry.2) ∧
        Describes (headedLines text) problem := by
  have succeeds := Draft.foldlM_addLine_succeeds_iff (F := F) (sourceLines text)
  rw [map_headed_sourceLines] at succeeds
  have reads (draft : Draft F)
      (folded : (sourceLines text).foldlM Draft.addLine {} = .ok draft) :
      draft.Reads (headedLines text) := by
    rw [← map_headed_sourceLines]
    exact foldlM_reaches _ Draft.Reads.next Draft.Reads.first folded
  rw [Problem.read, bind_eq_ok, ← succeeds]
  constructor
  · intro done
    obtain ⟨draft, folded, finished⟩ := done
    exact ⟨⟨draft, folded⟩, (reads draft folded).finish_eq_ok_iff.mp finished⟩
  · intro described
    obtain ⟨⟨draft, folded⟩, described⟩ := described
    exact ⟨draft, folded, (reads draft folded).finish_eq_ok_iff.mpr described⟩

end LinearProgram
