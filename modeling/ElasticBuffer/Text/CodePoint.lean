/-!
# Classes of code points

A class of characters is a list of closed ranges of code points. The ranges ascend and do not touch, so a
class has one list.
-/

namespace ElasticBuffer.Text

/-- A class of code points, as closed ranges. -/
abbrev CodeClass := List (Nat × Nat)

namespace CodeClass

/-- The code point lies in one of the ranges. The search ends at the first range that begins above it. -/
def includes : CodeClass → Nat → Bool
  | [], _ => false
  | range :: rest, code =>
    if code < range.1 then false else decide (code ≤ range.2) || includes rest code

/-- Each range ends before the next one begins, with a code point between them. -/
def ascending : CodeClass → Bool
  | [] => true
  | [range] => decide (range.1 ≤ range.2)
  | range :: next :: rest =>
    decide (range.1 ≤ range.2) && decide (range.2 + 1 < next.1) && ascending (next :: rest)

/-- In an ascending class, all ranges behind the first one begin above its end. -/
theorem lt_of_ascending_cons {range other : Nat × Nat} {rest : CodeClass}
    (h : ascending (range :: rest) = true) (hmem : other ∈ rest) : range.2 < other.1 := by
  induction rest generalizing range with
  | nil => exact absurd hmem List.not_mem_nil
  | cons next rest ih =>
    simp only [ascending, Bool.and_eq_true, decide_eq_true_eq] at h
    obtain ⟨⟨-, hnext⟩, hrest⟩ := h
    rcases List.mem_cons.1 hmem with rfl | hmem
    · omega
    · have hlt := ih hrest hmem
      have hle : next.1 ≤ next.2 := by
        cases rest with
        | nil => simpa [ascending] using hrest
        | cons _ _ =>
          simp only [ascending, Bool.and_eq_true, decide_eq_true_eq] at hrest
          exact hrest.1.1
      omega

theorem ascending_of_cons {range : Nat × Nat} {rest : CodeClass}
    (h : ascending (range :: rest) = true) : range.1 ≤ range.2 ∧ ascending rest = true := by
  cases rest with
  | nil => exact ⟨by simpa [ascending] using h, rfl⟩
  | cons next rest =>
    simp only [ascending, Bool.and_eq_true, decide_eq_true_eq] at h
    exact ⟨h.1.1, h.2⟩

/-- In an ascending class, the search finds a code point exactly if some range holds it. -/
theorem includes_iff {ranges : CodeClass} (h : ranges.ascending = true) {code : Nat} :
    ranges.includes code = true ↔ ∃ range ∈ ranges, range.1 ≤ code ∧ code ≤ range.2 := by
  induction ranges with
  | nil => simp [includes]
  | cons range rest ih =>
    obtain ⟨hle, hrest⟩ := ascending_of_cons h
    rw [includes]
    split
    · -- the search ends here, and the ranges behind begin even further up
      rename_i hlt
      constructor
      · intro hfalse
        cases hfalse
      · rintro ⟨other, hmem, hfirst, -⟩
        rcases List.mem_cons.1 hmem with rfl | hmem
        · omega
        · have hbehind := lt_of_ascending_cons h hmem
          omega
    · rename_i hge
      rw [Bool.or_eq_true, decide_eq_true_eq, ih hrest]
      constructor
      · rintro (hin | ⟨other, hmem, hin⟩)
        · exact ⟨range, List.mem_cons_self, by omega, hin⟩
        · exact ⟨other, List.mem_cons_of_mem _ hmem, hin⟩
      · rintro ⟨other, hmem, hin⟩
        rcases List.mem_cons.1 hmem with rfl | hmem
        · exact Or.inl hin.2
        · exact Or.inr ⟨other, hmem, hin⟩

end CodeClass

end ElasticBuffer.Text
