import Mathlib.Algebra.Group.Nat.Defs
import Mathlib.Data.List.Nodup
import Mathlib.Data.Nat.Log
import ElasticBuffer.Proofs.Ceiling
import ElasticBuffer.Proofs.Demands
import ElasticBuffer.Workload

/-!
# What a workload fills

A workload builds a buffer and pushes its values one by one, which is a series of pushes like any other
(`pushFrom_eq`). So a workload with a block to each request leaves a buffer that went along the policy from its first
capacity to room for all its values. The values are all different, since the factor that scatters them has an inverse
among the words (`value_injective`).

A workload that doubles its blocks from none ends with the least power of two that holds its values
(`reaches_of_doubling`).
-/

namespace ElasticBuffer

variable {σ α : Type}

/-! ### Faults of settings -/

/-- The call did not find fault with any settings. -/
def Attempt.KeepsSettings (attempt : Attempt σ α) : Prop :=
  ∀ reason, attempt.outcome ≠ .error (.fault (.invalidConfig reason))

theorem Attempt.KeepsSettings.andThen {first : Attempt σ α} (hfirst : first.KeepsSettings)
    {next : Buffer α → σ → Attempt σ α} (hnext : ∀ buffer source, (next buffer source).KeepsSettings) :
    (first.andThen next).KeepsSettings := by
  cases houtcome : first.outcome with
  | error halt =>
    rw [andThen_of_error houtcome]
    exact hfirst
  | ok _ =>
    rw [andThen_of_ok houtcome]
    exact hnext first.buffer first.source

/-- Validation finds fault with the settings only. -/
theorem Config.exists_of_validate_eq_error {config : Config} {fault : Fault} (h : config.validate = .error fault) :
    ∃ reason, fault = .invalidConfig reason := by
  unfold validate at h
  by_cases hzero : config.ceiling = 0
  · rw [if_pos hzero] at h
    cases h
    exact ⟨_, rfl⟩
  · rw [if_neg hzero] at h
    by_cases habove : config.ceiling < config.initial
    · rw [if_pos habove] at h
      cases h
      exact ⟨_, rfl⟩
    · rw [if_neg habove] at h
      cases h

namespace Buffer

theorem keepsSettings_store (value : α) (buffer : Buffer α) (source : σ) :
    (buffer.store value source).KeepsSettings := by
  intro reason
  unfold store
  cases buffer.block.push value with
  | ok block => exact fun h => by cases h
  | error cause => exact fun h => by cases h

variable [Sized α] [BlockSource σ]

theorem keepsSettings_replaceBlock (capacity : Nat) (reason : Reason) (buffer : Buffer α) (source : σ) :
    (buffer.replaceBlock capacity reason source).KeepsSettings := by
  intro text
  unfold replaceBlock
  obtain ⟨result, next⟩ := Block.allocate (α := α) capacity source
  rcases result with (_ | message) | block
  · exact fun h => by cases h
  · exact fun h => by cases h
  · cases hmove : buffer.block.moveInto block with
    | error cause =>
      simp only [hmove]
      exact fun h => by cases h
    | ok blocks =>
      simp only [hmove]
      exact fun h => by cases h

theorem keepsSettings_grow (buffer : Buffer α) (source : σ) : (buffer.grow source).KeepsSettings := by
  unfold grow
  by_cases hceiling : buffer.grownCapacity ≤ buffer.capacity
  · rw [if_pos hceiling]
    exact fun reason h => by cases h
  · rw [if_neg hceiling]
    exact (keepsSettings_replaceBlock _ _ buffer source).andThen fun _ _ reason h => by cases h

/-- Settings are looked at when a buffer is built, and by no push. -/
theorem keepsSettings_push (value : α) (buffer : Buffer α) (source : σ) :
    (buffer.push value source).KeepsSettings := by
  unfold push
  by_cases hfull : buffer.isFull = true
  · rw [if_pos hfull]
    exact (keepsSettings_grow buffer source).andThen (keepsSettings_store value)
  · rw [if_neg hfull]
    exact keepsSettings_store value buffer source

/-- A buffer is not built for its settings if and only if they are not valid. -/
theorem build_invalid_iff (id : BufferId) (config : Config) (source : σ) :
    (∃ reason, (build (α := α) id config source).outcome = .error (.fault (.invalidConfig reason))) ↔
      ¬ config.Valid := by
  unfold build
  cases hvalidate : config.validate with
  | ok _ =>
    refine iff_of_false ?_ fun hinvalid => hinvalid (Config.validate_eq_ok_iff.1 hvalidate)
    obtain ⟨result, next⟩ := Block.allocate (α := α) config.initial source
    rintro ⟨reason, h⟩
    rcases result with (_ | message) | block
    · cases h
    · cases h
    · cases h
  | error fault =>
    refine iff_of_true ?_ fun hvalid => ?_
    · obtain ⟨reason, rfl⟩ := Config.exists_of_validate_eq_error hvalidate
      exact ⟨reason, rfl⟩
    · rw [Config.validate_eq_ok_iff.2 hvalid] at hvalidate
      cases hvalidate

end Buffer

/-! ### Steps of the policy -/

namespace Config

/-- Below the ceiling, every step adds a slot or more. -/
theorem add_le_grown {config : Config} {needed capacity : Nat} (hneeded : needed ≤ config.ceiling) (count : Nat)
    (h : ∀ fewer, fewer < count → config.grown fewer capacity < needed) :
    capacity + count ≤ config.grown count capacity := by
  induction count generalizing capacity with
  | zero => exact Nat.le_refl capacity
  | succ count ih =>
    have hfirst : capacity < needed := h 0 (Nat.succ_pos count)
    have hgrow : capacity < config.grow capacity := lt_grow (Nat.lt_of_lt_of_le hfirst hneeded)
    have hrest : config.grow capacity + count ≤ config.grown count (config.grow capacity) :=
      ih fun fewer hfewer => h (fewer + 1) (Nat.succ_lt_succ hfewer)
    rw [grown]
    omega

/-- No more steps than elements lead to room for them. -/
theorem Reaches.count_le {config : Config} {capacity needed count : Nat}
    (hreaches : config.Reaches capacity needed count) (hneeded : needed ≤ config.ceiling) : count ≤ needed := by
  cases count with
  | zero => exact Nat.zero_le needed
  | succ count =>
    have hlt : config.grown count capacity < needed := hreaches.lt count (Nat.lt_succ_self count)
    have hle : capacity + count ≤ config.grown count capacity :=
      add_le_grown hneeded count fun fewer hfewer => hreaches.lt fewer (Nat.lt_succ_of_lt hfewer)
    omega

theorem Reaches.eq_zero_iff {config : Config} {capacity needed count : Nat}
    (hreaches : config.Reaches capacity needed count) : count = 0 ↔ needed ≤ capacity := by
  constructor
  · rintro rfl
    exact hreaches.le
  · exact hreaches.eq_zero

/-- Doubling from nothing goes through the powers of two, up to the largest one that the default ceiling allows for. -/
theorem grown_of_doubling {config : Config} (hgrowth : config.growth = .doubling) (hceiling : config.ceiling = bytesMax)
    (exponent : Nat) (h : exponent ≤ 62) : config.grown (exponent + 1) 0 = 2 ^ exponent := by
  induction exponent with
  | zero =>
    show config.grow 0 = 1
    rw [grow_eq, hgrowth, hceiling]
    rfl
  | succ exponent ih =>
    have hpos : 2 ^ exponent ≠ 0 := Nat.ne_of_gt (Nat.two_pow_pos exponent)
    have hle : 2 ^ (exponent + 1) ≤ bytesMax :=
      Nat.le_trans (Nat.pow_le_pow_right (by decide) h) (by decide)
    rw [grown_add, ih (Nat.le_of_succ_le h)]
    show config.grow (2 ^ exponent) = 2 ^ (exponent + 1)
    rw [grow_eq, hgrowth, hceiling, Growth.successor, if_neg hpos]
    show min (2 * 2 ^ exponent) bytesMax = 2 ^ (exponent + 1)
    rw [← Nat.pow_succ', Nat.min_eq_left hle]

/-- So it comes to the least power of two that holds the elements. -/
theorem reaches_of_doubling {config : Config} (hgrowth : config.growth = .doubling)
    (hceiling : config.ceiling = bytesMax) {needed : Nat} (hpos : 1 ≤ needed) (hle : needed ≤ 2 ^ 62) :
    config.Reaches 0 needed (Nat.clog 2 needed + 1) := by
  have hexponent : Nat.clog 2 needed ≤ 62 := (Nat.clog_le_iff_le_pow (by decide)).2 hle
  constructor
  · rw [grown_of_doubling hgrowth hceiling _ hexponent]
    exact Nat.le_pow_clog (by decide) needed
  · intro fewer hfewer
    cases fewer with
    | zero => exact hpos
    | succ fewer =>
      have hlt : fewer < Nat.clog 2 needed := Nat.lt_of_succ_lt_succ hfewer
      rw [grown_of_doubling hgrowth hceiling fewer (by omega)]
      exact (Nat.lt_clog_iff_pow_lt (by decide)).1 hlt

end Config

namespace Workload

/-! ### The values -/

/-- The values from the `i`-th one on. -/
def valuesFrom : (count : Nat) → (i : UInt64) → List UInt64
  | 0, _ => []
  | count + 1, i => value i :: valuesFrom count (i + 1)

theorem valuesFrom_eq (count start : Nat) :
    valuesFrom count (.ofNat start) = (List.range' start count).map fun i => value (.ofNat i) := by
  induction count generalizing start with
  | zero => rfl
  | succ count ih =>
    have hnext : UInt64.ofNat start + 1 = UInt64.ofNat (start + 1) := (UInt64.ofNat_add start 1).symm
    rw [valuesFrom, hnext, ih, List.range'_succ, List.map_cons]

/-- The word that undoes the scattering. -/
def unscatter : UInt64 := 0xF1DE83E19937733D

theorem value_mul_unscatter (i : UInt64) : value i * unscatter = i := by
  rw [value, UInt64.mul_assoc]
  show i * (0x9E3779B97F4A7C15 * unscatter) = i
  rw [show 0x9E3779B97F4A7C15 * unscatter = 1 from by decide, UInt64.mul_one]

/-- Different places have different values. -/
theorem value_injective {i j : UInt64} (h : value i = value j) : i = j := by
  rw [← value_mul_unscatter i, h, value_mul_unscatter]

/-- The elements of a filled buffer. -/
def elements (count : Nat) : List UInt64 := (List.range count).map fun i => value (.ofNat i)

theorem elements_getElem? {count i : Nat} (h : i < count) :
    (elements count)[i]? = some (.ofNat (i * 0x9E3779B97F4A7C15)) := by
  rw [elements, List.getElem?_map, List.getElem?_range h, UInt64.ofNat_mul]
  rfl

theorem nodup_elements {count : Nat} (h : count ≤ UInt64.size) : (elements count).Nodup := by
  refine List.Nodup.map_on ?_ List.nodup_range
  intro i hi j hj hvalue
  have hword : UInt64.ofNat i = UInt64.ofNat j := value_injective hvalue
  have hi' : i < UInt64.size := Nat.lt_of_lt_of_le (List.mem_range.1 hi) h
  have hj' : j < UInt64.size := Nat.lt_of_lt_of_le (List.mem_range.1 hj) h
  rw [← UInt64.toNat_ofNat_of_lt' hi', hword, UInt64.toNat_ofNat_of_lt' hj']

/-! ### Filling -/

section

variable [BlockSource σ]

/-- A workload is a series of pushes. -/
theorem pushFrom_eq (count : Nat) (i : UInt64) (buffer : Buffer UInt64) (source : σ) :
    pushFrom count i buffer source = (buffer.pushAll (valuesFrom count i) source).toAttempt := by
  induction count generalizing i buffer source with
  | zero => rfl
  | succ count ih =>
    rw [pushFrom, valuesFrom]
    cases houtcome : (buffer.push (value i) source).outcome with
    | error halt =>
      rw [Attempt.andThen_of_error houtcome, Buffer.pushAll_cons_of_error houtcome]
    | ok _ =>
      rw [Attempt.andThen_of_ok houtcome, Buffer.pushAll_cons_of_ok houtcome, ih]

theorem keepsSettings_pushFrom (count : Nat) (i : UInt64) (buffer : Buffer UInt64) (source : σ) :
    (pushFrom count i buffer source).KeepsSettings := by
  induction count generalizing i buffer source with
  | zero => exact fun reason h => by cases h
  | succ count ih => exact (Buffer.keepsSettings_push _ buffer source).andThen (ih (i + 1))

theorem valid_config_iff {workload : Workload} :
    workload.config.Valid ↔ workload.initialCapacity.toNat ≤ bytesMax := by
  have hceiling : workload.config.ceiling = bytesMax := Config.ceiling_default
  rw [Config.Valid, hceiling]
  exact and_iff_right (by decide)

theorem fill_of_error {workload : Workload} {id : BufferId} {source : σ} {halt : Halt}
    (h : (Buffer.build (α := UInt64) id workload.config source).outcome = .error halt) :
    fill workload id source = Buffer.build id workload.config source := by
  simp only [fill, h]

/-- Once the buffer is built, what becomes of the workload is what becomes of the pushes. -/
theorem fill_of_ok {workload : Workload} {id : BufferId} {source : σ} {buffer : Buffer UInt64}
    (h : (Buffer.build id workload.config source).outcome = .ok buffer) :
    let construction : Construction σ UInt64 := Buffer.build id workload.config source
    let attempt := pushFrom workload.appends.toNat 0 buffer construction.source
    fill workload id source =
      ⟨attempt.outcome.map fun _ => attempt.buffer, attempt.source, construction.events ++ attempt.events⟩ := by
  simp only [fill, h]
  generalize pushFrom workload.appends.toNat 0 buffer
    (Buffer.build (α := UInt64) id workload.config source).source = attempt
  obtain ⟨outcome, after, left, events, dropped⟩ := attempt
  cases outcome with
  | error halt => rfl
  | ok _ => rfl

/-- A workload finds fault with its settings if and only if the ceiling is below the first capacity. -/
theorem fill_invalid_iff (workload : Workload) (id : BufferId) (source : σ) :
    (∃ reason, (fill workload id source).outcome = .error (.fault (.invalidConfig reason))) ↔
      bytesMax < workload.initialCapacity.toNat := by
  rw [← Nat.not_le, ← valid_config_iff, ← Buffer.build_invalid_iff (α := UInt64) id workload.config source]
  cases hbuild : (Buffer.build (α := UInt64) id workload.config source).outcome with
  | error halt => rw [fill_of_error hbuild, hbuild]
  | ok buffer =>
    rw [fill_of_ok hbuild]
    apply iff_of_false
    · rintro ⟨reason, h⟩
      have hkeeps := keepsSettings_pushFrom workload.appends.toNat 0 buffer
        (Buffer.build (α := UInt64) id workload.config source).source reason
      cases houtcome : (pushFrom workload.appends.toNat 0 buffer
          (Buffer.build (α := UInt64) id workload.config source).source).outcome with
      | error halt =>
        rw [houtcome] at h hkeeps
        cases h
        exact hkeeps rfl
      | ok _ =>
        rw [houtcome] at h
        cases h
    · rintro ⟨reason, h⟩
      cases h

/-- The requests of a workload whose block is replaced `count` times. -/
def requests (workload : Workload) (count : Nat) : List Nat :=
  Block.demands workload.config.initial ++ workload.config.steps count workload.config.initial

/-- With a block to each request, a workload goes along the policy. -/
theorem fill_of_grants {workload : Workload} (id : BufferId) {source : σ} (hvalid : workload.config.Valid)
    (hceiling : workload.appends.toNat ≤ workload.config.ceiling) {count : Nat}
    (hreaches : workload.config.Reaches workload.config.initial workload.appends.toNat count)
    (hgrants : Grants 8 (workload.requests count) source) :
    ∃ buffer, (fill workload id source).outcome = .ok buffer ∧
      (fill workload id source).source = requestAll 8 (workload.requests count) source ∧
      buffer.toList = elements workload.appends.toNat ∧
      buffer.capacity = workload.config.grown count workload.config.initial ∧
      buffer.generation = Generation.initial.advance count ∧ buffer.growthEvents = count := by
  obtain ⟨hfirst, hsteps⟩ := (grants_append 8 _ _ source).1 hgrants
  rcases Buffer.build_settled (α := UInt64) id hvalid source with ⟨-, room, hbuild⟩ | ⟨hdenied, -⟩
  swap
  · exact absurd hfirst hdenied
  let buffer : Buffer UInt64 := .fresh id workload.config ⟨#[], workload.config.initial, room⟩
  let between : σ := requestAll 8 (Block.demands workload.config.initial) source
  have hready : buffer.Ready between workload.appends.toNat count :=
    ⟨Nat.zero_le _, hceiling, hreaches, hsteps⟩
  have hvalues : valuesFrom workload.appends.toNat 0 = elements workload.appends.toNat := by
    rw [elements, List.range_eq_range']
    exact valuesFrom_eq workload.appends.toNat 0
  have hcount : (elements workload.appends.toNat).length = workload.appends.toNat := by
    rw [elements, List.length_map, List.length_range]
  obtain ⟨hok, first, rest, rfl, hgrown, hlast⟩ := hready.pushAll (elements workload.appends.toNat)
    (by rw [hcount]; exact Nat.le_of_eq (Nat.zero_add _))
  -- the elements have their slots, so that no block is left to come
  have hlength := hlast.length_le
  rw [← Buffer.length_toList, hgrown.toList_eq] at hlength
  have hrest : rest = 0 := hlast.reaches.eq_zero (Nat.le_trans (Nat.le_of_eq hcount.symm) hlength)
  subst hrest
  have hfill : fill workload id source = _ := fill_of_ok (congrArg Construction.outcome hbuild)
  simp only [hbuild, pushFrom_eq, hvalues] at hfill
  rw [hfill]
  refine ⟨_, ?_, ?_, hgrown.toList_eq, hgrown.capacity_eq, hgrown.generation_eq, ?_⟩
  · show Except.map _ (buffer.pushAll (elements workload.appends.toNat) between).outcome = _
    rw [hok]
    rfl
  · show (buffer.pushAll (elements workload.appends.toNat) between).source = _
    rw [hgrown.source_eq, requests, requestAll_append]
    rfl
  · rw [hgrown.growthEvents_eq]
    exact Nat.zero_add _

/-- **A workload is carried out as it is specified.** It finds fault with its settings if and only if its first capacity
is above the largest number of bytes. Otherwise, if it has no more values than that, there is a least number of steps
of the policy from its first capacity to room for its values. If the source grants the first block and the blocks on
these steps, the buffer is filled: these requests were made and no other, the `i`-th element is `i` times the factor
modulo the word size, and no two elements are equal. No block was replaced if and only if the first one has room for
all values, which is so for a workload that is allocated ahead, and its capacity stays. A workload that doubles its
blocks from none, with as many values as the largest power of two within the ceiling at most, ends with the least power
of two that holds its values, and with one growth more than the exponent. -/
theorem fill_carried_out (workload : Workload) (id : BufferId) (source : σ) :
    let initial := workload.initialCapacity.toNat
    let count := workload.appends.toNat
    let filled := fill workload id source
    ((∃ reason, filled.outcome = .error (.fault (.invalidConfig reason))) ↔ bytesMax < initial) ∧
    (initial ≤ bytesMax → count ≤ bytesMax →
      ∃ growths, workload.config.Reaches initial count growths ∧
        (Grants 8 (workload.requests growths) source →
          ∃ buffer, filled.outcome = .ok buffer ∧
            filled.source = requestAll 8 (workload.requests growths) source ∧
            buffer.length = count ∧
            (∀ i, i < count → buffer.toList[i]? = some (.ofNat (i * 0x9E3779B97F4A7C15))) ∧
            buffer.toList.Nodup ∧
            (buffer.growthEvents = 0 ↔ count ≤ initial) ∧
            (buffer.generation = .initial ↔ count ≤ initial) ∧
            (∀ n, workload = preallocated n →
              buffer.growthEvents = 0 ∧ buffer.generation = .initial ∧ buffer.capacity = count) ∧
            (∀ n, workload = fromEmpty n .doubling → 1 ≤ count → count ≤ 2 ^ 62 →
              ∃ exponent, count ≤ 2 ^ exponent ∧ (∀ other, count ≤ 2 ^ other → exponent ≤ other) ∧
                buffer.capacity = 2 ^ exponent ∧ buffer.growthEvents = exponent + 1))) := by
  intro initial count filled
  refine ⟨fill_invalid_iff workload id source, ?_⟩
  intro hinitial hcount
  have hceiling : workload.config.ceiling = bytesMax := Config.ceiling_default
  obtain ⟨growths, hreaches⟩ : ∃ growths, workload.config.Reaches initial count growths :=
    Config.exists_reaches (by rw [hceiling]; exact hcount) initial
  refine ⟨growths, hreaches, ?_⟩
  intro hgrants
  obtain ⟨buffer, hok, hsource, helements, hcapacity, hgeneration, hgrowths⟩ :=
    fill_of_grants id (valid_config_iff.2 hinitial) (by rw [hceiling]; exact hcount) hreaches hgrants
  have hwords : growths < UInt64.size := by
    have hle := hreaches.count_le (by rw [hceiling]; exact hcount)
    have hsize : bytesMax < UInt64.size := by decide
    omega
  have hzero : growths = 0 ↔ count ≤ initial := hreaches.eq_zero_iff
  refine ⟨buffer, hok, hsource, ?_, ?_, ?_, ?_, ?_, ?_, ?_⟩
  · rw [← Buffer.length_toList, helements, elements, List.length_map, List.length_range]
  · intro i hi
    rw [helements]
    exact elements_getElem? hi
  · rw [helements]
    exact nodup_elements (Nat.le_of_lt (UInt64.toNat_lt_size _))
  · rw [hgrowths]
    exact hzero
  · rw [hgeneration, ← hzero]
    constructor
    · intro hsame
      apply Nat.eq_zero_of_not_pos
      intro hpos
      exact Generation.advance_ne _ hpos hwords hsame
    · rintro rfl
      exact Generation.advance_zero _
  · rintro n rfl
    have hnone : growths = 0 := hzero.2 (Nat.le_refl _)
    rw [hgrowths, hgeneration, hcapacity, hnone]
    exact ⟨rfl, Generation.advance_zero _, rfl⟩
  · rintro n rfl hpos hle
    have hgrowths' : growths = Nat.clog 2 count + 1 :=
      hreaches.unique (Config.reaches_of_doubling rfl hceiling hpos hle)
    have hexponent : Nat.clog 2 count ≤ 62 := (Nat.clog_le_iff_le_pow (by decide)).2 hle
    refine ⟨Nat.clog 2 count, Nat.le_pow_clog (by decide) _, ?_, ?_, ?_⟩
    · intro other hother
      exact (Nat.clog_le_iff_le_pow (by decide)).2 hother
    · rw [hcapacity, hgrowths']
      exact Config.grown_of_doubling rfl hceiling _ hexponent
    · rw [hgrowths, hgrowths']

/-- Five values from none: the block is replaced by one of one, two, four and eight slots. -/
theorem fill_carried_out_five :
    ∃ buffer, (fill (fromEmpty 5 .doubling) ⟨0⟩ Allocator.system).outcome = .ok buffer ∧ buffer.toList.Nodup ∧
      buffer.capacity = 8 ∧ buffer.growthEvents = 4 := by
  obtain ⟨-, hfill⟩ := fill_carried_out (fromEmpty 5 .doubling) ⟨0⟩ Allocator.system
  obtain ⟨growths, hreaches, hgranted⟩ := hfill (by decide) (by decide)
  have hfour : growths = 4 := hreaches.unique ⟨by decide, by decide⟩
  subst hfour
  obtain ⟨buffer, hok, -, -, -, hnodup, -, -, -, hdoubling⟩ := hgranted (by decide)
  obtain ⟨exponent, hle, hleast, hcapacity, hgrowths⟩ := hdoubling 5 rfl (by decide) (by decide)
  have hthree : exponent = 3 := by
    apply Nat.le_antisymm (hleast 3 (by decide))
    apply Nat.lt_of_not_le
    intro htwo
    have hfour : 2 ^ exponent ≤ 2 ^ 2 := Nat.pow_le_pow_right (by decide) htwo
    exact absurd (Nat.le_trans hle hfour) (by decide)
  subst hthree
  exact ⟨buffer, hok, hnodup, hcapacity, hgrowths⟩

end

end Workload

end ElasticBuffer
