/-!
# Limits

Counts of elements are words of sixty-four bits, and a stretch of storage is smaller than half of the
address space. Capacities are natural numbers here, so each place where a word would overflow is an
explicit comparison with one of these limits.
-/

namespace ElasticBuffer

/-- The largest word, `2 ^ 64 - 1`. -/
def wordMax : Nat := 18446744073709551615

/-- The largest size, in bytes, that one block of storage can have, `2 ^ 63 - 1`. -/
def bytesMax : Nat := 9223372036854775807

/-- The sum of two counts, if it is a word. -/
def sum? (m n : Nat) : Option Nat :=
  if m + n ≤ wordMax then some (m + n) else none

theorem sum?_eq_some_iff {m n k : Nat} : sum? m n = some k ↔ k = m + n ∧ m + n ≤ wordMax := by
  unfold sum?
  split <;> simp_all [eq_comm]

theorem sum?_eq_none_iff {m n : Nat} : sum? m n = none ↔ wordMax < m + n := by
  unfold sum?
  split <;> simp_all

/-- Every word is at most `wordMax`. -/
theorem toNat_le_wordMax (w : UInt64) : w.toNat ≤ wordMax := by
  have h := w.toNat_lt
  simp only [wordMax]
  omega

end ElasticBuffer
