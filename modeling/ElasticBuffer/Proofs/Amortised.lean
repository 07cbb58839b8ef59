import Mathlib.Tactic.Ring
import ElasticBuffer.Proofs.Ceiling
import ElasticBuffer.Proofs.Totals

/-!
# The cost of growing

Every replacement of a block moves all elements. Since the policy is geometric, the replacements are few, and the
elements they move are not many more than those there are in the end: at most twice as many for a policy that doubles
the capacity, and three times as many for one that adds half of it (`Session.appends_amortised`).

The argument is the same for both policies. With the *weight* of a policy (`Growth.weight`), a step from `c` slots leads
to at least `c + c / weight` of them. So as long as no step was cut short by the ceiling, at most `weight` times as many
elements were moved as there are slots. The next replacement finds the block full, and moves as many elements as it has
slots. After that, at most `weight + 1` times as many were moved as there are elements, and values that are pushed into
free slots only help. A step that is cut short by the ceiling is the last one, so nothing is to be paid from its slots
(`Buffer.Amortised`).
-/

namespace ElasticBuffer

variable {σ α : Type} {k : Nat}

/-! ### Geometric steps -/

namespace Growth

/-- A step of the policy adds at least the capacity divided by this number. -/
def weight : Growth → Nat
  | doubling => 1
  | threeHalves => 2

theorem weight_pos (growth : Growth) : 0 < growth.weight := by
  cases growth <;> decide

theorem weight_succ_mul_le (growth : Growth) (capacity : Nat) :
    (growth.weight + 1) * capacity ≤ growth.weight * growth.successor capacity := by
  by_cases hzero : capacity = 0
  · subst hzero
    exact Nat.zero_le _
  · cases growth with
    | doubling =>
      simp only [weight, successor, if_neg hzero]
      omega
    | threeHalves =>
      simp only [weight, successor, if_neg hzero]
      omega

end Growth

/-! ### What pushes cost -/

/-- The number of elements that are moved into new blocks while values are pushed, before one is declined. A push that
replaces the block moves all elements. -/
def Buffer.carried [Sized α] [BlockSource σ] : List α → Buffer α → σ → Nat
  | [], _, _ => 0
  | value :: values, buffer, source =>
    let first := buffer.push value source
    (Action.push value).replacements buffer source * buffer.length +
      match first.outcome with
      | .error _ => 0
      | .ok () => carried values first.buffer first.source

/-- The number of elements that an action moves into new blocks. An action that pushes nothing replaces the block at
most once, and moves all elements then. -/
def Action.moved [Sized α] [BlockSource σ] (action : Action α) (buffer : Buffer α) (source : σ) : Nat :=
  if action.isAppend then buffer.carried action.values source
  else action.replacements buffer source * buffer.length

namespace Buffer

/-- What pushes into a new buffer have come to when `moved` elements were moved. -/
structure Amortised (buffer : Buffer α) (moved : Nat) : Prop where
  /-- The elements pay for what was moved. -/
  moved_le : moved ≤ (buffer.config.growth.weight + 1) * buffer.length
  /-- Below the ceiling, so do the slots, and with less. -/
  moved_le_capacity : buffer.capacity < buffer.config.ceiling →
    moved ≤ buffer.config.growth.weight * buffer.capacity
  /-- The elements are exponential in the number of growths. -/
  pow_lt (n : Nat) : buffer.growthEvents = n + 2 →
    (buffer.config.growth.weight + 1) ^ n < buffer.length * buffer.config.growth.weight ^ n
  /-- Below the ceiling, so are the slots, and by one growth more. -/
  pow_le (n : Nat) : buffer.growthEvents = n + 1 → buffer.capacity < buffer.config.ceiling →
    (buffer.config.growth.weight + 1) ^ n ≤ buffer.capacity * buffer.config.growth.weight ^ n

namespace Amortised

variable {buffer : Buffer α} {moved : Nat}

theorem fresh (id : BufferId) (config : Config) (block : Block α) :
    (Buffer.fresh id config block).Amortised 0 where
  moved_le := Nat.zero_le _
  moved_le_capacity _ := Nat.zero_le _
  pow_lt n hgrowths := by cases hgrowths
  pow_le n hgrowths := by cases hgrowths

/-- A value in a free slot costs nothing. -/
theorem append (h : buffer.Amortised moved) (value : α) : (buffer.append value).Amortised moved := by
  have hlonger : buffer.length ≤ (buffer.append value).length := by
    rw [length_append]
    exact Nat.le_succ _
  exact {
    moved_le := Nat.le_trans h.moved_le (Nat.mul_le_mul_left _ hlonger)
    moved_le_capacity := h.moved_le_capacity
    pow_lt := fun n hgrowths => Nat.lt_of_lt_of_le (h.pow_lt n hgrowths) (Nat.mul_le_mul_right _ hlonger)
    pow_le := h.pow_le }

/-- **A value that finds the block full** costs a move of all elements, for which the slots pay that were added since
the block before. -/
theorem rehouse_append (h : buffer.Amortised moved) (hfull : buffer.length = buffer.capacity)
    (hgrown : buffer.capacity < buffer.grownCapacity) (room : Nat) (value : α) :
    ((buffer.rehouse buffer.grownCapacity room 1).append value).Amortised (moved + buffer.length) := by
  have hbelow : buffer.capacity < buffer.config.ceiling :=
    Nat.lt_of_lt_of_le hgrown (grownCapacity_le_ceiling buffer)
  have hlength : ((buffer.rehouse buffer.grownCapacity room 1).append value).length = buffer.capacity + 1 := by
    rw [length_append, length_rehouse, hfull]
  -- the slots of the full block pay for this move and for those before
  have hpaid : moved + buffer.capacity ≤ (buffer.config.growth.weight + 1) * buffer.capacity := by
    rw [Nat.succ_mul]
    exact Nat.add_le_add_right (h.moved_le_capacity hbelow) _
  -- a step that does not end at the ceiling goes all the way
  have hstep : buffer.grownCapacity < buffer.config.ceiling →
      buffer.grownCapacity = buffer.config.growth.successor buffer.capacity := by
    intro hcut
    rw [grownCapacity_eq, Config.grow_eq] at hcut ⊢
    omega
  have hweight := buffer.config.growth.weight_succ_mul_le buffer.capacity
  constructor
  · rw [hlength, hfull]
    exact Nat.le_trans hpaid (Nat.mul_le_mul_left _ (Nat.le_succ _))
  · intro hcut
    show moved + buffer.length ≤ buffer.config.growth.weight * buffer.grownCapacity
    rw [hfull, hstep hcut]
    exact Nat.le_trans hpaid hweight
  · intro n hgrowths
    have hslots := h.pow_le n (Nat.succ.inj hgrowths) hbelow
    have hpow : 0 < buffer.config.growth.weight ^ n := Nat.pow_pos buffer.config.growth.weight_pos
    rw [hlength, Nat.succ_mul]
    exact Nat.lt_of_le_of_lt hslots (Nat.lt_add_of_pos_right hpow)
  · intro n hgrowths hcut
    show (buffer.config.growth.weight + 1) ^ n ≤ buffer.grownCapacity * buffer.config.growth.weight ^ n
    cases n with
    | zero =>
      rw [pow_zero, pow_zero, Nat.mul_one]
      exact Nat.one_le_of_lt hgrown
    | succ n =>
      have hslots := h.pow_le n (Nat.succ.inj hgrowths) hbelow
      rw [hstep hcut]
      generalize buffer.config.growth.weight = weight at *
      generalize buffer.config.growth.successor buffer.capacity = next at *
      calc (weight + 1) ^ (n + 1) = (weight + 1) * (weight + 1) ^ n := by ring
        _ ≤ (weight + 1) * (buffer.capacity * weight ^ n) := Nat.mul_le_mul_left _ hslots
        _ = (weight + 1) * buffer.capacity * weight ^ n := by ring
        _ ≤ weight * next * weight ^ n := Nat.mul_le_mul_right _ hweight
        _ = next * weight ^ (n + 1) := by ring

variable [Sized α] [BlockSource σ]

/-- A push costs what it moves, and nothing if it is declined. -/
theorem push (h : buffer.Amortised moved) (hlength : buffer.length ≤ buffer.capacity) (value : α)
    (source : σ) :
    (buffer.push value source).buffer.Amortised
      (moved + (Action.push value).replacements buffer source * buffer.length) := by
  simp only [Action.replacements]
  rcases push_cases value source hlength with
    ⟨hfree, hpush⟩ | ⟨-, -, hpush⟩ | ⟨hfull, hgrown, attempt, hcases, hpush⟩
  · rw [hpush, if_neg (fun hboth => by omega), Nat.zero_mul]
    exact h.append value
  · rw [hpush, if_neg (fun hboth => by cases hboth.2), Nat.zero_mul]
    exact h
  · rw [hpush]
    cases hcases with
    | moved room hroom =>
      rw [if_pos ⟨hfull, rfl⟩, Nat.one_mul]
      exact h.rehouse_append hfull hgrown room value
    | refused =>
      rw [if_neg (fun hboth => by cases hboth.2), Nat.zero_mul]
      exact h
    | panicked message =>
      rw [if_neg (fun hboth => by cases hboth.2), Nat.zero_mul]
      exact h

/-- **So does a series of pushes**, which goes on until one is declined. -/
theorem pushAll (h : buffer.Amortised moved) (hlength : buffer.length ≤ buffer.capacity) (values : List α)
    (source : σ) :
    (buffer.pushAll values source).buffer.Amortised (moved + buffer.carried values source) := by
  induction values generalizing buffer source moved with
  | nil => exact h
  | cons value values ih =>
    have hfirst := h.push hlength value source
    rw [carried]
    cases houtcome : (buffer.push value source).outcome with
    | error halt =>
      rw [pushAll_cons_of_error houtcome]
      exact hfirst
    | ok _ =>
      have hnext := (Evolves.refl.push hlength value source).length_le hlength
      have hrest := ih hfirst hnext (buffer.push value source).source
      rw [Nat.add_assoc] at hrest
      rw [pushAll_cons_of_ok houtcome]
      exact hrest

end Amortised

end Buffer

theorem Buffer.Amortised.perform [Element α] [BlockSource σ] {buffer : Buffer α} {moved : Nat}
    (h : buffer.Amortised moved) (hlength : buffer.length ≤ buffer.capacity) {action : Action α}
    (happend : action.isAppend = true) (source : σ) :
    (action.perform buffer source).buffer.Amortised (moved + action.moved buffer source) := by
  rw [Action.buffer_perform_of_isAppend happend, Action.moved, if_pos happend]
  exact h.pushAll hlength action.values source

/-! ### Sessions -/

/-- The name and the settings of the empty buffer that a command builds. -/
def Command.opens : Command α → Option (String × Config)
  | .new name _ => some (name, default)
  | .build name config _ => some (name, config)
  | _ => none

namespace Session

/-- A command that opens a buffer, and is carried out, adds an empty buffer with the settings. -/
theorem enter_of_opens [Element α] [BlockSource σ] {session : Session σ α k} {command : Command α}
    {name : String} {config : Config} (hopens : command.opens = some (name, config))
    (hok : (session.step command).1.outcome.isOk = true) :
    ∃ provider block, block.length = 0 ∧
      session.move command = .enter name ⟨Buffer.fresh session.nextId config block, provider⟩ := by
  cases command with
  | new target source =>
    obtain ⟨rfl, rfl⟩ := Prod.mk.inj (Option.some.inj hopens)
    simp only [step, new, move] at hok ⊢
    cases hprovider : session.provider? source with
    | none =>
      rw [hprovider] at hok
      cases hok
    | some provider => exact ⟨provider, .empty, rfl, rfl⟩
  | build target settings source =>
    obtain ⟨rfl, rfl⟩ := Prod.mk.inj (Option.some.inj hopens)
    simp only [step, build, move] at hok ⊢
    cases hprovider : session.provider? source with
    | none =>
      rw [hprovider] at hok
      cases hok
    | some provider =>
      rw [hprovider] at hok
      rcases Buffer.build_cases (α := Item α) session.nextId settings (session.pool.source provider) with
        ⟨-, room, -, hbuild⟩ | ⟨halt, hbuild⟩
      · refine ⟨provider, ⟨#[], settings.initial, room⟩, rfl, ?_⟩
        show enterMove target provider _ = _
        rw [hbuild, enterMove]
      · simp only [enroll, hbuild] at hok
        cases hok
  | _ => cases hopens

variable [Element α] [BlockSource σ]

/-- **Growing is cheap.** Open a buffer with any settings in any session that a run can lead to, and go on with a run
that does nothing to this buffer but append values to it, of which some may be declined for whatever reason. The
elements in the end are the values that were stored. If the policy doubles the capacity, the replacements of the block
moved at most twice as many elements as were stored, and after `n + 2` growths more than `2 ^ n` were stored. If it adds
half of the capacity, they moved at most three times as many, and more than `3 ^ n / 2 ^ n` were stored. -/
theorem appends_amortised {session : Session σ α k} (hreachable : session.Reachable) {command : Command α}
    {name target : String} {config : Config} (hopens : command.opens = some (name, config))
    (hok : (session.step command).1.outcome.isOk = true) {commands : List (Command α)}
    (hfollow : (session.step command).2.followRun commands name = some target)
    (happend : ∀ action ∈ (session.step command).2.actionsIn commands name, action.isAppend = true) :
    ∃ result, ((session.step command).2.run commands).buffers.find? target = some result ∧
      let stored := (session.step command).2.amountIn Action.stored commands name
      let moved := (session.step command).2.amountIn Action.moved commands name
      let growths := result.buffer.growthEvents
      result.buffer.length = stored ∧
      match config.growth with
      | .doubling => moved ≤ 2 * stored ∧ (2 ≤ growths → 2 ^ (growths - 2) < stored)
      | .threeHalves =>
        moved ≤ 3 * stored ∧ (2 ≤ growths → 3 ^ (growths - 2) < stored * 2 ^ (growths - 2)) := by
  obtain ⟨provider, block, hempty, hmove⟩ := enter_of_opens hopens hok
  have hsound : (session.step command).2.Sound := hreachable.sound.step command
  have hfind := find?_step_of_enter hmove
  obtain ⟨result, hresult, -, -⟩ := exists_followRun commands hsound hfind hfollow
  have hlength := length_eq_of_followRun commands hsound hfind hfollow hresult happend
  rw [show (Buffer.fresh session.nextId config block).length = 0 from hempty, Nat.zero_add] at hlength
  refine ⟨result, hresult, hlength, ?_⟩
  obtain ⟨hconfig, hamortised⟩ : result.buffer.config = config ∧
      result.buffer.Amortised (0 + (session.step command).2.amountIn Action.moved commands name) := by
    refine amountIn_rule Action.moved (R := fun moved buffer => buffer.config = config ∧ buffer.Amortised moved)
      ?_ commands hsound hfind hfollow hresult happend ⟨rfl, .fresh session.nextId config block⟩
    rintro action buffer source moved hslot hallowed ⟨hconfig, hamortised⟩
    exact ⟨(hslot.evolves action source).config_eq.trans hconfig,
      hamortised.perform hslot.length_le hallowed source⟩
  have hmoved := hamortised.moved_le
  have hpow := hamortised.pow_lt (result.buffer.growthEvents - 2)
  rw [hconfig, hlength] at hmoved hpow
  rw [Nat.zero_add] at hmoved
  cases hpolicy : config.growth with
  | doubling =>
    rw [hpolicy] at hmoved hpow
    refine ⟨hmoved, fun htwo => ?_⟩
    have hlt := hpow (Nat.sub_add_cancel htwo).symm
    rw [Growth.weight, Nat.one_pow, Nat.mul_one] at hlt
    exact hlt
  | threeHalves =>
    rw [hpolicy] at hmoved hpow
    exact ⟨hmoved, fun htwo => hpow (Nat.sub_add_cancel htwo).symm⟩

/-- A buffer grows from one slot to two, three and four. One block is refused on the way, and the last value finds the
ceiling reached: four values are stored, and six elements were moved. -/
theorem appends_amortised_with_refusal :
    let config : Config := { initialCapacity := 1, maxCapacity := 4, growth := .threeHalves }
    let session : Session Allocator UInt8 0 := start ⟨.scripted [.exact, .refuse] [], #v[], #v[]⟩
    let opened := (session.step (.build "a" config none)).2
    let commands : List (Command UInt8) :=
      [.act "a" (.pushAll [1, 2]), .rename "a" "b", .act "b" (.push 2), .act "b" (.pushAll [3, 4, 5])]
    ∃ result, (opened.run commands).buffers.find? "b" = some result ∧ result.buffer.growthEvents = 3 ∧
      opened.amountIn Action.stored commands "a" = 4 ∧ opened.amountIn Action.moved commands "a" = 6 ∧
      result.buffer.length = 4 ∧ 6 ≤ 3 * 4 ∧ 3 ^ (3 - 2) < 4 * 2 ^ (3 - 2) := by
  intro config session opened commands
  have hstored : opened.amountIn Action.stored commands "a" = 4 := by decide +kernel
  have hmoved : opened.amountIn Action.moved commands "a" = 6 := by decide +kernel
  have hgrowths : ((opened.run commands).buffers.find? "b").map (fun slot => slot.buffer.growthEvents) =
      some 3 := by decide +kernel
  have hreachable : session.Reachable := ⟨_, [], rfl⟩
  obtain ⟨result, hresult, hlength, hle, hpow⟩ :=
    appends_amortised hreachable (show (Command.build "a" config none).opens = some ("a", config) from rfl)
      (by decide +kernel) (show opened.followRun commands "a" = some "b" by decide +kernel)
      (by decide +kernel)
  have hthree : result.buffer.growthEvents = 3 := by
    rw [hresult] at hgrowths
    exact Option.some.inj hgrowths
  have hlt := hpow (by rw [hthree]; decide)
  rw [hstored] at hlength hle hlt
  rw [hmoved] at hle
  rw [hthree] at hlt
  exact ⟨result, hresult, hthree, hstored, hmoved, hlength, hle, hlt⟩

end Session

end ElasticBuffer
