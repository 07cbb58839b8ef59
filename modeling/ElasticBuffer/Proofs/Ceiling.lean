import ElasticBuffer.Proofs.GrowthChain

/-!
# Up to the ceiling

How far a buffer can grow is a matter of its ceiling and of its source. Here it is said what is left if the source
grants whatever it is asked for next (`GrantsNext`): a value is pushed as long as there are fewer elements than the
ceiling allows for, room is made for as many as it allows for, and free slots are always given up
(`Session.calls_within_ceiling`). So no buffer is stuck below its ceiling, wherever its capacity stands and however
near the ceiling is to the largest word.

At the ceiling the source is not asked. The fault then names the capacity that the policy would go on to
(`Growth.successor`), or the largest word if that is smaller.
-/

namespace ElasticBuffer

variable {σ α : Type} {k : Nat}

/-! ### The policy without a largest word -/

namespace Growth

/-- The capacity that follows in the policy, however large it is. -/
def successor (growth : Growth) (capacity : Nat) : Nat :=
  if capacity = 0 then 1
  else
    match growth with
    | doubling => 2 * capacity
    | threeHalves => capacity + (capacity + 1) / 2

theorem upperHalf_eq (capacity : Nat) : upperHalf capacity = (capacity + 1) / 2 := by
  unfold upperHalf
  omega

/-- The policy goes to the capacity that follows if it is a word. -/
theorem next?_eq (growth : Growth) (capacity : Nat) :
    growth.next? capacity =
      if growth.successor capacity ≤ wordMax then some (growth.successor capacity) else none := by
  by_cases hzero : capacity = 0
  · subst hzero
    rfl
  · simp only [next?, successor, if_neg hzero]
    cases growth with
    | doubling =>
      simp only [sum?, Nat.two_mul]
    | threeHalves =>
      simp only [sum?, upperHalf_eq]

theorem getD_next? (growth : Growth) (capacity : Nat) :
    (growth.next? capacity).getD wordMax = min (growth.successor capacity) wordMax := by
  rw [next?_eq]
  by_cases hword : growth.successor capacity ≤ wordMax
  · rw [if_pos hword, Option.getD_some, Nat.min_eq_left hword]
  · rw [if_neg hword, Option.getD_none, Nat.min_eq_right (Nat.le_of_not_le hword)]

end Growth

/-- The capacity that a buffer goes on to is the one that follows, or the ceiling if that is smaller. -/
theorem Config.grow_eq (config : Config) (capacity : Nat) :
    config.grow capacity = min (config.growth.successor capacity) config.ceiling := by
  have hceiling := config.ceiling_le_wordMax
  rw [grow, Growth.next?_eq]
  by_cases hword : config.growth.successor capacity ≤ wordMax
  · rw [if_pos hword]
  · rw [if_neg hword, Nat.min_eq_right (by omega)]

/-! ### A source that grants what it is asked for next -/

/-- Whatever block of at most `ceiling` slots the source is asked for next, it grants it. -/
def GrantsNext [BlockSource σ] (bytes ceiling : Nat) (source : σ) : Prop :=
  ∀ capacity, 1 ≤ capacity → capacity ≤ ceiling →
    (BlockSource.request source bytes capacity).1.Accepts capacity

/-- A source that grants what it is asked for has a block; none is needed for no slots. -/
theorem Block.allocate_of_grantsNext [Sized α] [BlockSource σ] {capacity ceiling : Nat} {source : σ}
    (hgrants : GrantsNext (Sized.bytes α) ceiling source) (h : capacity ≤ ceiling) :
    ∃ room, (Block.allocate (α := α) capacity source).1 = .ok ⟨#[], capacity, room⟩ := by
  by_cases hzero : capacity = 0
  · subst hzero
    exact ⟨0, rfl⟩
  · obtain ⟨room, hallocate⟩ :=
      allocate_of_accepts (α := α) hzero (hgrants capacity (Nat.one_le_iff_ne_zero.2 hzero) h)
    exact ⟨room, by rw [hallocate]⟩

namespace Buffer

variable [Sized α] [BlockSource σ]

/-- A push finds a slot below the ceiling. -/
theorem push_of_lt_ceiling {buffer : Buffer α} (hsound : buffer.Sound) {source : σ}
    (hgrants : GrantsNext (Sized.bytes α) buffer.config.ceiling source) (value : α)
    (h : buffer.length < buffer.config.ceiling) : (buffer.push value source).outcome = .ok () := by
  by_cases hfull : buffer.length = buffer.capacity
  · have hgrown : buffer.capacity < buffer.grownCapacity := by
      rw [grownCapacity_eq]
      exact Config.lt_grow (hfull ▸ h)
    obtain ⟨room, events, hpush⟩ := push_of_accepts value hfull hgrown
      (hgrants _ (Nat.one_le_of_lt hgrown) (grownCapacity_le_ceiling buffer))
    rw [hpush]
  · have hfree := Nat.lt_of_le_of_ne hsound.length_le hfull
    rw [push, if_neg (by rw [isFull_iff]; exact hfull), store_of_lt source hfree]
    rfl

/-- At the ceiling a push is declined without asking the source. -/
theorem push_at_ceiling {buffer : Buffer α} (hsound : buffer.Sound) (value : α) (source : σ)
    (h : buffer.config.ceiling ≤ buffer.length) :
    buffer.length = buffer.config.ceiling ∧ buffer.capacity = buffer.config.ceiling ∧
      (buffer.push value source).outcome =
        .error (.fault (.allocationFailure
          (min (buffer.config.growth.successor buffer.config.ceiling) wordMax) buffer.config.ceiling)) := by
  have hlength := hsound.length_le
  have hcapacity := hsound.capacity_le
  have hatCeiling : buffer.capacity = buffer.config.ceiling := by omega
  have hfull : buffer.length = buffer.capacity := by omega
  refine ⟨hfull.trans hatCeiling, hatCeiling, ?_⟩
  have hgrown : buffer.grownCapacity ≤ buffer.capacity := by
    rw [hatCeiling]
    exact grownCapacity_le_ceiling buffer
  rw [push, if_pos (isFull_iff.2 hfull), grow, if_pos hgrown, Growth.getD_next?, hatCeiling]
  rfl

/-- Room is made for as many elements as the ceiling allows for. -/
theorem reserve_of_le_ceiling {buffer : Buffer α} {source : σ}
    (hgrants : GrantsNext (Sized.bytes α) buffer.config.ceiling source) {additional : Nat}
    (h : buffer.length + additional ≤ buffer.config.ceiling) :
    (buffer.reserve additional source).outcome = .ok () := by
  have hword := buffer.config.ceiling_le_wordMax
  have hsum : sum? buffer.length additional = some (buffer.length + additional) :=
    sum?_eq_some_iff.2 ⟨rfl, by omega⟩
  have hneeded := le_reservedCapacity h
  rw [reserve, hsum]
  by_cases hroom : buffer.length + additional ≤ buffer.capacity
  · simp only [if_pos hroom]
    rfl
  · simp only [if_neg hroom, if_neg (Nat.not_lt.2 h)]
    obtain ⟨room, events, henlarge⟩ := enlarge_of_accepts .reserve
      (show buffer.reservedCapacity (buffer.length + additional) ≠ 0 by omega)
      (show buffer.length ≤ _ by omega)
      (hgrants _ (by omega) (reservedCapacity_le_ceiling _ buffer))
    exact congrArg Attempt.outcome henlarge

/-- No room is made for more. -/
theorem reserve_above_ceiling {buffer : Buffer α} (hsound : buffer.Sound) {additional : Nat} (source : σ)
    (h : buffer.config.ceiling < buffer.length + additional) :
    ∃ halt, (buffer.reserve additional source).outcome = .error halt := by
  have hcapacity := hsound.capacity_le
  rcases reserve_cases additional buffer source with
    ⟨-, hreserve⟩ | ⟨hroom, -⟩ | ⟨-, -, hreserve⟩ | ⟨-, hceiling, -⟩
  · exact ⟨_, by rw [hreserve]⟩
  · omega
  · exact ⟨_, by rw [hreserve]⟩
  · omega

/-- Free slots are given up; a block without slots is there without asking. -/
theorem fit_of_grantsNext {buffer : Buffer α} (hsound : buffer.Sound) {source : σ}
    (hgrants : GrantsNext (Sized.bytes α) buffer.config.ceiling source) :
    (buffer.fit source).outcome = .ok () := by
  by_cases hfull : buffer.length = buffer.capacity
  · rw [fit, if_pos (isFull_iff.2 hfull)]
    rfl
  · have hle := Nat.le_trans hsound.length_le hsound.capacity_le
    obtain ⟨room, hallocate⟩ := Block.allocate_of_grantsNext (α := α) hgrants hle
    rw [fit, if_neg (by rw [isFull_iff]; exact hfull), replaceBlock]
    generalize Block.allocate (α := α) buffer.length source = allocation at hallocate
    obtain ⟨result, next⟩ := allocation
    subst hallocate
    obtain ⟨old, hmove, -⟩ := Block.moveInto_of_le room (show buffer.block.length ≤ buffer.length from Nat.le_refl _)
    simp only [hmove]

end Buffer

/-! ### Sessions -/

namespace Effect

theorem outcome_ofAttempt_of_ok {attempt : Attempt σ α} (h : attempt.outcome = .ok ()) :
    (ofAttempt attempt).outcome = .ok .done := by
  rw [ofAttempt, h]

theorem outcome_ofAttempt_of_error {attempt : Attempt σ α} {halt : Halt} (h : attempt.outcome = .error halt) :
    (ofAttempt attempt).outcome = .error halt.stop := by
  rw [ofAttempt, h]

end Effect

namespace Session

variable [Element α] [BlockSource σ]

/-- What a session answers to an action is what the action gives. -/
theorem outcome_act {session : Session σ α k} {name : String} {slot : Slot (Item α) k}
    (hfind : session.buffers.find? name = some slot) (action : Action α) :
    (session.step (.act name action)).1.outcome =
      ((action.number session.ledger.issued).perform slot.buffer
        (session.pool.source slot.provider)).outcome := by
  simp only [step, act, hfind]

/-- **The ceiling is reached, and not passed.** Take any buffer of any session that a run can lead to, and let its
source grant what it is asked for. A push is carried out if and only if there are fewer elements than the ceiling
allows for; one that is not finds capacity and length at the ceiling, and its fault names the ceiling and the capacity
that the policy would go on to, or the largest word if that is smaller. Room for more elements is made if and only if
the ceiling allows for them together with those that are there, and free slots are always given up. -/
theorem calls_within_ceiling {session : Session σ α k} (hreachable : session.Reachable) {name : String}
    {slot : Slot (Item α) k} (hfind : session.buffers.find? name = some slot)
    (hgrants : GrantsNext (Sized.bytes α) slot.buffer.config.ceiling (session.pool.source slot.provider)) :
    let buffer := slot.buffer
    let ceiling := buffer.config.ceiling
    (∀ value, ((session.step (.act name (.push value))).1.outcome.isOk = true ↔ buffer.length < ceiling) ∧
      ((session.step (.act name (.push value))).1.outcome.isOk = false →
        buffer.capacity = ceiling ∧ buffer.length = ceiling ∧
          (session.step (.act name (.push value))).1.outcome =
            .error (.fault (.allocationFailure
              (min (buffer.config.growth.successor ceiling) wordMax) ceiling)))) ∧
    (∀ additional, (session.step (.act name (.reserve additional))).1.outcome.isOk = true ↔
      buffer.length + additional ≤ ceiling) ∧
    (session.step (.act name .fit)).1.outcome.isOk = true := by
  intro buffer ceiling
  have hsound := hreachable.sound name slot hfind
  refine ⟨fun value => ?_, fun additional => ?_, ?_⟩
  · rw [outcome_act hfind]
    by_cases hbelow : buffer.length < ceiling
    · have hpush : ((Action.push value).number session.ledger.issued |>.perform buffer
          (session.pool.source slot.provider)).outcome = .ok .done :=
        Effect.outcome_ofAttempt_of_ok (Buffer.push_of_lt_ceiling hsound hgrants _ hbelow)
      rw [hpush]
      exact ⟨⟨fun _ => hbelow, fun _ => rfl⟩, fun h => by cases h⟩
    · obtain ⟨hlength, hcapacity, hdeclined⟩ :=
        Buffer.push_at_ceiling hsound (⟨session.ledger.issued, value⟩ : Item α)
          (session.pool.source slot.provider) (Nat.le_of_not_lt hbelow)
      have hpush := Effect.outcome_ofAttempt_of_error hdeclined
      refine ⟨⟨fun hok => ?_, fun h => absurd h hbelow⟩, fun _ => ⟨hcapacity, hlength, hpush⟩⟩
      cases (congrArg Except.isOk hpush).symm.trans hok
  · rw [outcome_act hfind]
    by_cases hallowed : buffer.length + additional ≤ ceiling
    · have hreserve := Effect.outcome_ofAttempt_of_ok (Buffer.reserve_of_le_ceiling hgrants hallowed)
      exact ⟨fun _ => hallowed, fun _ => congrArg Except.isOk hreserve⟩
    · obtain ⟨halt, hdeclined⟩ := Buffer.reserve_above_ceiling hsound
        (session.pool.source slot.provider) (Nat.lt_of_not_le hallowed)
      have hreserve := Effect.outcome_ofAttempt_of_error hdeclined
      refine ⟨fun hok => ?_, fun h => absurd h hallowed⟩
      cases (congrArg Except.isOk hreserve).symm.trans hok
  · rw [outcome_act hfind]
    exact congrArg Except.isOk (Effect.outcome_ofAttempt_of_ok (Buffer.fit_of_grantsNext hsound hgrants))

/-- Elements without size are stored for nothing. A buffer with three of them at its ceiling asks for five slots in
vain, and one that may have as many of them as there are words makes room for all but the one that it has. -/
theorem calls_within_ceiling_without_size :
    let low : Config := { maxCapacity := 3, growth := .threeHalves }
    let high : Config := { maxCapacity := 18446744073709551615 }
    let session : Session Allocator Unit 0 := (start ⟨.system, #v[], #v[]⟩).run
      [.build "a" low none, .act "a" (.pushAll [(), (), ()]), .build "b" high none, .act "b" (.push ())]
    (session.step (.act "a" (.push ()))).1.outcome = .error (.fault (.allocationFailure 5 3)) ∧
      (session.step (.act "b" (.push ()))).1.outcome.isOk = true ∧
      (session.step (.act "b" (.reserve 18446744073709551614))).1.outcome.isOk = true ∧
      (session.step (.act "b" (.reserve 18446744073709551615))).1.outcome.isOk = false ∧
      (session.step (.act "b" .fit)).1.outcome.isOk = true := by
  intro low high session
  have hreachable : session.Reachable := ⟨_, _, rfl⟩
  have hfull : (session.buffers.find? "a").map (fun slot =>
      (slot.buffer.config, slot.buffer.length, session.pool.source slot.provider)) =
        some (low, 3, .system) := by decide +kernel
  have hvast : (session.buffers.find? "b").map (fun slot =>
      (slot.buffer.config, slot.buffer.length, session.pool.source slot.provider)) =
        some (high, 1, .system) := by decide +kernel
  have hgrants : ∀ config : Config, GrantsNext 0 config.ceiling Allocator.system := by
    intro config capacity hpos hle
    exact ⟨rfl, Nat.le_trans hle config.ceiling_le_wordMax⟩
  obtain ⟨full, hfindFull, hfull⟩ := Option.map_eq_some_iff.1 hfull
  obtain ⟨vast, hfindVast, hvast⟩ := Option.map_eq_some_iff.1 hvast
  simp only [Prod.mk.injEq] at hfull hvast
  obtain ⟨hlow, hthree, hfullSource⟩ := hfull
  obtain ⟨hhigh, hone, hvastSource⟩ := hvast
  obtain ⟨hpush, -⟩ := calls_within_ceiling hreachable hfindFull (by
    rw [hfullSource]
    exact hgrants full.buffer.config)
  obtain ⟨hpushed, hreserve, hfit⟩ := calls_within_ceiling hreachable hfindVast (by
    rw [hvastSource]
    exact hgrants vast.buffer.config)
  have hlowCeiling : low.ceiling = 3 := by decide
  have hhighCeiling : high.ceiling = 18446744073709551615 := by decide
  have hfive : min (low.growth.successor 3) wordMax = 5 := by decide
  rw [hlow, hthree, hlowCeiling, hfive] at hpush
  rw [hhigh, hone, hhighCeiling] at hpushed hreserve
  refine ⟨((hpush ()).2 ?_).2.2, (hpushed ()).1.2 (by omega), (hreserve _).2 (by omega), ?_, hfit⟩
  · exact Bool.eq_false_iff.2 fun hok => absurd ((hpush ()).1.1 hok) (by omega)
  · exact Bool.eq_false_iff.2 fun hok => absurd ((hreserve _).1 hok) (by omega)

end Session

end ElasticBuffer
