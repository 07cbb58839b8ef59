import ElasticBuffer.Text.Mark
import ElasticBuffer.Text.Unassigned

/-!
# Visible characters

A reader can tell a character by its look if it is drawn, and drawn by itself. The others are the controls
and formats, every blank but the common one, the fillers, the marks, and the code points without a character.
-/

namespace ElasticBuffer.Text

/-- The control characters: those below the blank, and the block that begins with the delete character. -/
def controls : CodeClass := [(0x0000, 0x001F), (0x007F, 0x009F)]

/-- The characters that only direct how others are laid out. -/
def formats : CodeClass :=
  [(0x00AD, 0x00AD), (0x0600, 0x0605), (0x061C, 0x061C), (0x06DD, 0x06DD), (0x070F, 0x070F),
   (0x0890, 0x0891), (0x08E2, 0x08E2), (0x180E, 0x180E), (0x200B, 0x200F), (0x202A, 0x202E),
   (0x2060, 0x2064), (0x2066, 0x206F), (0xFEFF, 0xFEFF), (0xFFF9, 0xFFFB), (0x110BD, 0x110BD),
   (0x110CD, 0x110CD), (0x13430, 0x1343F), (0x1BCA0, 0x1BCA3), (0x1D173, 0x1D17A), (0xE0001, 0xE0001),
   (0xE0020, 0xE007F)]

/-- The blanks and line ends, all but the common blank. -/
def separators : CodeClass :=
  [(0x00A0, 0x00A0), (0x1680, 0x1680), (0x2000, 0x200A), (0x2028, 0x2029), (0x202F, 0x202F),
   (0x205F, 0x205F), (0x3000, 0x3000)]

/-- The letters that are drawn as nothing, and only fill a place in a syllable. -/
def fillers : CodeClass := [(0x115F, 0x1160), (0x3164, 0x3164), (0xFFA0, 0xFFA0)]

/-- The classes of characters that cannot be told by their look. -/
def unseen : List CodeClass := [controls, formats, separators, fillers, marks, unassigned]

/-- The character of a code point can be told by its look. -/
def isVisible (code : Nat) : Bool := !unseen.any fun ranges => ranges.includes code

theorem ascending_unseen {ranges : CodeClass} (h : ranges ∈ unseen) : ranges.ascending = true := by
  simp only [unseen, List.mem_cons, List.not_mem_nil, or_false] at h
  rcases h with rfl | rfl | rfl | rfl | rfl | rfl
  · decide
  · decide
  · decide
  · decide
  · exact ascending_marks
  · exact ascending_unassigned

/-- **A character is visible if and only if none of the ranges holds it.** So the search does not end too early in
any of the classes. -/
theorem isVisible_iff {code : Nat} :
    isVisible code = true ↔ ∀ ranges ∈ unseen, ∀ range ∈ ranges, code < range.1 ∨ range.2 < code := by
  simp only [isVisible, Bool.not_eq_true', List.any_eq_false]
  apply forall_congr'
  intro ranges
  apply forall_congr'
  intro hmem
  rw [CodeClass.includes_iff (ascending_unseen hmem)]
  constructor
  · intro hnone range hrange
    apply Classical.or_iff_not_imp_left.2
    intro hfirst
    apply Nat.lt_of_not_le
    intro hlast
    exact hnone ⟨range, hrange, Nat.le_of_not_lt hfirst, hlast⟩
  · rintro hall ⟨range, hrange, hfirst, hlast⟩
    have houtside := hall range hrange
    omega

end ElasticBuffer.Text
