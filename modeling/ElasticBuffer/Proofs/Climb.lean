import Mathlib.Order.Monotone.Basic
import Mathlib.Tactic.Ring
import ElasticBuffer.Proofs.Ceiling

/-!
# The climb to the ceiling

A policy is computed in words, and stands for a step in unbounded numbers (`Growth.successor`). The two agree as far as
words go (`Growth.next?_eq`), also on the way: the half that one of the policies adds is taken in two parts, and their
sum is a word (`Growth.toNat_half`).

Every step adds half of the capacity or more. So `n + 1` steps that do not end at the ceiling lead to at least
`3 ^ n / 2 ^ n` slots (`Config.pow_le_grown`), and there are not enough words for more than a hundred and ten of them.
The capacities that a buffer goes through go up until they are at the ceiling, and they are there soon
(`Config.capacities_climb`).
-/

namespace ElasticBuffer

variable {σ α : Type}

/-! ### One step in unbounded numbers -/

namespace Growth

/-- Half of a word, rounded up, is a word, and adding the remainder to the quotient does not overflow. -/
theorem toNat_half (capacity : UInt64) : (capacity / 2 + capacity % 2).toNat = upperHalf capacity.toNat := by
  have hquotient : (capacity / 2).toNat = capacity.toNat / 2 := UInt64.toNat_div capacity 2
  have hremainder : (capacity % 2).toNat = capacity.toNat % 2 := UInt64.toNat_mod capacity 2
  have hword := capacity.toNat_lt
  rw [UInt64.toNat_add, hquotient, hremainder]
  exact Nat.mod_eq_of_lt (by omega)

/-- All that a step can be. -/
theorem successor_cases (growth : Growth) (capacity : Nat) :
    (capacity = 0 ∧ growth.successor capacity = 1) ∨
      (0 < capacity ∧ growth = .doubling ∧ growth.successor capacity = 2 * capacity) ∨
      (0 < capacity ∧ growth = .threeHalves ∧ growth.successor capacity = capacity + (capacity + 1) / 2) := by
  by_cases hzero : capacity = 0
  · exact .inl ⟨hzero, if_pos hzero⟩
  · have hpos : 0 < capacity := Nat.pos_of_ne_zero hzero
    cases growth with
    | doubling => exact .inr (.inl ⟨hpos, rfl, if_neg hzero⟩)
    | threeHalves => exact .inr (.inr ⟨hpos, rfl, if_neg hzero⟩)

theorem lt_successor (growth : Growth) (capacity : Nat) : capacity < growth.successor capacity := by
  rcases growth.successor_cases capacity with ⟨hzero, hstep⟩ | ⟨hpos, -, hstep⟩ | ⟨hpos, -, hstep⟩
  · omega
  · omega
  · omega

/-- A step adds half of the capacity or more. -/
theorem three_mul_le (growth : Growth) (capacity : Nat) : 3 * capacity ≤ 2 * growth.successor capacity := by
  rcases growth.successor_cases capacity with ⟨hzero, hstep⟩ | ⟨hpos, -, hstep⟩ | ⟨hpos, -, hstep⟩
  · omega
  · omega
  · omega

/-- From more slots a step leads to more slots. -/
theorem strictMono_successor (growth : Growth) : StrictMono growth.successor := by
  intro lower upper hlt
  have hupper : upper ≠ 0 := Nat.ne_zero_of_lt hlt
  rcases growth.successor_cases lower with ⟨-, hlower⟩ | ⟨-, rfl, hlower⟩ | ⟨-, rfl, hlower⟩
  · have habove := growth.lt_successor upper
    omega
  · have hstep : doubling.successor upper = 2 * upper := if_neg hupper
    omega
  · have hstep : threeHalves.successor upper = upper + (upper + 1) / 2 := if_neg hupper
    omega

theorem threeHalves_le_doubling (capacity : Nat) :
    threeHalves.successor capacity ≤ doubling.successor capacity := by
  by_cases hzero : capacity = 0
  · subst hzero
    exact Nat.le_refl 1
  · have hhalf : threeHalves.successor capacity = capacity + (capacity + 1) / 2 := if_neg hzero
    have hdouble : doubling.successor capacity = 2 * capacity := if_neg hzero
    omega

end Growth

/-! ### Steps up to the ceiling -/

namespace Config

variable {config : Config} {start : Nat}

theorem grown_succ (config : Config) (count start : Nat) :
    config.grown (count + 1) start = config.grow (config.grown count start) :=
  config.grown_add count 1 start

/-- A step that does not end at the ceiling goes all the way. -/
theorem grow_of_lt {capacity : Nat} (h : config.grow capacity < config.ceiling) :
    config.grow capacity = config.growth.successor capacity := by
  rw [grow_eq] at h ⊢
  omega

theorem grown_le_ceiling (h : start ≤ config.ceiling) (count : Nat) : config.grown count start ≤ config.ceiling := by
  cases count with
  | zero => exact h
  | succ count =>
    rw [grown_succ, grow_eq]
    exact Nat.min_le_right _ _

/-- At the ceiling there is nowhere to go. -/
theorem grown_ceiling (config : Config) (count : Nat) : config.grown count config.ceiling = config.ceiling := by
  induction count with
  | zero => rfl
  | succ count ih =>
    have habove := config.growth.lt_successor config.ceiling
    rw [grown_succ, ih, grow_eq]
    exact Nat.min_eq_right (Nat.le_of_lt habove)

/-- **Below the ceiling, the slots are exponential in the number of steps.** -/
theorem pow_le_grown (count : Nat) (h : config.grown (count + 1) start < config.ceiling) :
    3 ^ count ≤ 2 ^ count * config.grown (count + 1) start := by
  induction count with
  | zero =>
    have habove := config.growth.lt_successor start
    have hstep : config.grown 1 start = config.growth.successor start := grow_of_lt h
    rw [hstep, pow_zero, pow_zero]
    omega
  | succ count ih =>
    rw [grown_succ] at h ⊢
    -- the step before the last did not end at the ceiling either
    have habove := config.growth.lt_successor (config.grown (count + 1) start)
    have hgeometric := config.growth.three_mul_le (config.grown (count + 1) start)
    have hstep := grow_of_lt h
    rw [hstep] at h ⊢
    have hbefore := ih (Nat.lt_trans habove h)
    generalize config.grown (count + 1) start = capacity at *
    generalize config.growth.successor capacity = next at *
    calc 3 ^ (count + 1) = 3 * 3 ^ count := by ring
      _ ≤ 3 * (2 ^ count * capacity) := Nat.mul_le_mul_left 3 hbefore
      _ = 2 ^ count * (3 * capacity) := by ring
      _ ≤ 2 ^ count * (2 * next) := Nat.mul_le_mul_left _ hgeometric
      _ = 2 ^ (count + 1) * next := by ring

/-- So no word is out of reach. -/
theorem grown_eq_ceiling (h : start ≤ config.ceiling) : config.grown 111 start = config.ceiling := by
  apply Nat.le_antisymm (grown_le_ceiling h 111)
  apply Nat.le_of_not_lt
  intro hbelow
  have hpow : 3 ^ 110 ≤ 2 ^ 110 * config.grown 111 start := pow_le_grown 110 hbelow
  have hword : config.grown 111 start ≤ wordMax :=
    Nat.le_trans (Nat.le_of_lt hbelow) config.ceiling_le_wordMax
  have hfew : 2 ^ 110 * wordMax < 3 ^ 110 := by decide
  exact absurd (Nat.le_trans hpow (Nat.mul_le_mul_left _ hword)) (Nat.not_le.2 hfew)

/-- The capacities go up until they are at the ceiling. -/
theorem exists_climb (h : start ≤ config.ceiling) :
    ∃ count, count ≤ 111 ∧
      (∀ i, i < count → config.grown i start < config.grown (i + 1) start ∧
        config.grown (i + 1) start ≤ config.ceiling) ∧
      ∀ i, config.grown i start = config.ceiling ↔ count ≤ i := by
  obtain ⟨count, hreaches⟩ := exists_reaches (Nat.le_refl config.ceiling) start
  have hthere : config.grown count start = config.ceiling :=
    Nat.le_antisymm (grown_le_ceiling h count) hreaches.le
  refine ⟨count, ?_, ?_, ?_⟩
  · apply Nat.le_of_not_lt
    intro hlate
    exact absurd (grown_eq_ceiling h) (Nat.ne_of_lt (hreaches.lt 111 hlate))
  · intro i hi
    refine ⟨?_, grown_le_ceiling h (i + 1)⟩
    rw [grown_succ]
    exact lt_grow (hreaches.lt i hi)
  · intro i
    constructor
    · intro hceiling
      apply Nat.le_of_not_lt
      intro hearly
      exact absurd hceiling (Nat.ne_of_lt (hreaches.lt i hearly))
    · intro hlate
      obtain ⟨more, rfl⟩ := Nat.exists_eq_add_of_le hlate
      rw [grown_add, hthere, grown_ceiling]

end Config

/-- Below the ceiling, a full block is to be replaced by one of the capacity that follows. -/
theorem Buffer.grow_eq_enlarge [Sized α] [BlockSource σ] {buffer : Buffer α}
    (h : buffer.capacity < buffer.config.ceiling) (source : σ) :
    buffer.grow source = buffer.enlarge (buffer.config.grow buffer.capacity) .append source := by
  have hgrown : buffer.capacity < buffer.grownCapacity := Config.lt_grow h
  rw [grow, if_neg (Nat.not_le.2 hgrown)]
  rfl

/-- **Capacities climb to the ceiling.** Take any settings, with either policy. The policy goes to the capacity that
follows in unbounded numbers if that is a word, and nowhere if not. The half of a word, rounded up, is taken in words
without an overflow. The capacity that follows is larger, it is larger for a larger capacity, and it is at least half as
large again; and half as much again is never more than twice as much.

So take any capacity within the ceiling. Where a buffer with these settings has to replace a full block, it does so
along the steps of the policy, cut off at the ceiling. The capacities on the way go up until they are at the ceiling,
and are there after a hundred and eleven steps at most. -/
theorem Config.capacities_climb (config : Config) :
    let growth := config.growth
    (∀ capacity, growth.next? capacity =
      if growth.successor capacity ≤ wordMax then some (growth.successor capacity) else none) ∧
    (∀ capacity : UInt64, (capacity / 2 + capacity % 2).toNat = Growth.upperHalf capacity.toNat) ∧
    (∀ capacity, capacity < growth.successor capacity) ∧
    StrictMono growth.successor ∧
    (∀ capacity, 3 * capacity ≤ 2 * growth.successor capacity) ∧
    (∀ capacity, Growth.threeHalves.successor capacity ≤ Growth.doubling.successor capacity) ∧
    (∀ (σ α : Type) [Sized α] [BlockSource σ] (buffer : Buffer α) (source : σ), buffer.config = config →
      buffer.capacity < config.ceiling →
      buffer.grow source = buffer.enlarge (config.grow buffer.capacity) .append source) ∧
    ∀ start, start ≤ config.ceiling →
      ∃ count, count ≤ 111 ∧
        (∀ i, i < count → config.grown i start < config.grown (i + 1) start ∧
          config.grown (i + 1) start ≤ config.ceiling) ∧
        ∀ i, config.grown i start = config.ceiling ↔ count ≤ i := by
  intro growth
  refine ⟨growth.next?_eq, Growth.toNat_half, growth.lt_successor, growth.strictMono_successor, growth.three_mul_le,
    Growth.threeHalves_le_doubling, ?_, ?_⟩
  · rintro σ α _ _ buffer source rfl hbelow
    exact Buffer.grow_eq_enlarge hbelow source
  · intro start hstart
    exact exists_climb hstart

/-- From no slots to the largest word, half as much again each time takes a hundred and ten steps, of which a new buffer
takes the first one to a single slot. -/
theorem Config.capacities_climb_to_largest_word :
    let config : Config := { maxCapacity := 18446744073709551615, growth := .threeHalves }
    let buffer : Buffer UInt8 := .fresh .first config .empty
    buffer.grow Allocator.system = buffer.enlarge 1 .append Allocator.system ∧
      config.grown 109 0 = 16903601652849770327 ∧ config.grown 110 0 = config.ceiling ∧
      ∀ i, i < 110 → config.grown i 0 < config.grown (i + 1) 0 := by
  intro config buffer
  have hbefore : config.grown 109 0 = 16903601652849770327 := by decide +kernel
  have hthere : config.grown 110 0 = config.ceiling := by decide +kernel
  obtain ⟨-, -, -, -, -, -, hgrow, hclimb⟩ := capacities_climb config
  obtain ⟨count, -, hup, hreached⟩ := hclimb 0 (Nat.zero_le _)
  have hcount : count = 110 := by
    have hle : count ≤ 110 := (hreached 110).1 hthere
    have hlate : ¬ count ≤ 109 := by
      intro hearly
      have hceiling := (hreached 109).2 hearly
      rw [hbefore] at hceiling
      exact absurd hceiling (by decide)
    omega
  subst hcount
  refine ⟨hgrow Allocator UInt8 buffer .system rfl (by decide), hbefore, hthere, ?_⟩
  intro i hi
  exact (hup i hi).1

end ElasticBuffer
