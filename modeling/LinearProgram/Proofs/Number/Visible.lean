import LinearProgram.Number.Binary64
import LinearProgram.Number.Fraction64
import LinearProgram.Proofs.Number.Rational
import LinearProgram.Text.Basic

namespace LinearProgram

def IsVisible (text : String) : Prop :=
  ∃ c ∈ text.toList, Text.isBlank c = false

instance (text : String) : Decidable (IsVisible text) :=
  decidable_of_iff (text.toList.any (!Text.isBlank ·)) (by simp [IsVisible])

theorem isVisible_append {first second : String} :
    IsVisible (first ++ second) ↔ IsVisible first ∨ IsVisible second := by
  simp only [IsVisible, String.toList_append, List.mem_append, or_and_right, exists_or]

theorem not_isVisible_spaces (n : Nat) : ¬ IsVisible (Text.spaces n) := by
  rintro ⟨c, member, visible⟩
  rw [Text.toList_spaces] at member
  rw [List.eq_of_mem_replicate member] at visible
  exact absurd visible (by decide)

theorem isVisible_center (width : Nat) (text : String) :
    IsVisible (Text.center width text) ↔ IsVisible text := by
  simp [Text.center, isVisible_append, not_isVisible_spaces]

theorem IsWord.isVisible {text : String} (word : IsWord text) : IsVisible text := by
  obtain ⟨c, member⟩ := List.exists_mem_of_ne_nil text.toList (by simpa using word.nonempty)
  exact ⟨c, member, word.solid c member⟩

theorem isVisible_repr (n : Nat) : IsVisible (Nat.repr n) := by
  have word : IsWord (Nat.repr n) := by
    refine ⟨?_, isSolid_repr n⟩
    intro empty
    have digits := congrArg String.toList empty
    rw [Nat.toList_repr] at digits
    exact Nat.toDigits_ne_nil digits
  exact word.isVisible

theorem Rational.isVisible_render (value : Rat) : IsVisible (render value) := by
  unfold render
  exact isVisible_append.mpr (.inl (isVisible_append.mpr (.inr (isVisible_repr _))))

namespace Shortest

/-- Digits with at least one of them before the point can be seen. -/
theorem isVisible_positional {digits : List Char} (all : ∀ c ∈ digits, c.isDigit) (power : Int) :
    IsVisible (positional digits power) := by
  have some_whole (written : List Char) (places : Nat) (digit : ∀ c ∈ written, c.isDigit)
      (enough : places < written.length) :
      ∃ c ∈ written.take (written.length - places), Text.isBlank c = false := by
    cases written with
    | nil => cases enough
    | cons c rest =>
      refine ⟨c, ?_, isBlank_of_isDigit (digit c List.mem_cons_self)⟩
      obtain ⟨count, more⟩ := Nat.exists_eq_add_of_lt enough
      have first : (c :: rest).length - places = count + 1 := by omega
      rw [first, List.take_succ_cons]
      exact List.mem_cons_self
  unfold positional
  extract_lets zeros digits' power' places written whole fraction
  have digit : ∀ c ∈ written, c.isDigit := by
    intro c member
    rcases List.mem_append.mp member with member | zero
    · rcases List.mem_append.mp member with zero | member
      · rw [List.eq_of_mem_replicate zero]
        rfl
      · exact all c (List.mem_of_mem_take member)
    · rw [List.eq_of_mem_replicate zero]
      rfl
  have enough : places < written.length := by
    simp only [written, List.length_append, List.length_replicate]
    omega
  obtain ⟨c, member, visible⟩ := some_whole written places digit enough
  refine ⟨c, ?_, visible⟩
  rw [String.toList_ofList]
  split
  · exact member
  · exact List.mem_append_left _ member

theorem isVisible_text (bits : Nat) : IsVisible (text bits) :=
  isVisible_positional
    (fun _ member => Nat.isDigit_of_mem_toDigits (by decide) (by decide) member) _

end Shortest

theorem Binary64.isVisible_render (value : Float) : IsVisible (render value) := by
  unfold render
  extract_lets bits magnitude sign
  split
  · decide
  · split
    · exact isVisible_append.mpr (.inr (by decide))
    · split
      · exact isVisible_append.mpr (.inr (by decide))
      · exact isVisible_append.mpr (.inr (Shortest.isVisible_text _))

end LinearProgram
