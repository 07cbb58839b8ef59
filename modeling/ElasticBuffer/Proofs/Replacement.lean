import ElasticBuffer.Buffer.Storage

/-!
# What becomes of the block of a buffer

Each operation of `ElasticBuffer.Buffer.Storage` goes through `Block.allocate`, and what can come of it is said
here once. Everything that is proved about runs of buffers rests on these lemmas and opens none of the
operations again.

## The statements

* `Block.allocate_judgement`: an answer is accepted, rejected, or ends the call, and nothing else of it matters.
* `Replacement`: asking for a new block ends in one of three ways. The elements stand in the new block, none is left in
  the old one, and the generation went on by one; or the source had no block that could be built on; or the source
  ended the call. In the last two cases the buffer is as it was. In no case is an element dropped.
* `push_cases`, `reserve_cases`, `fit_cases`: when a call replaces the block, and what it does otherwise.
* `pushAll_preserves`: what every push keeps, a run of pushes keeps.
* `build_cases`, `copy_cases`: how a buffer begins.
-/

namespace ElasticBuffer

variable {σ α : Type}

/-! ### Obtaining a block -/

/-- What a buffer makes of an answer. -/
inductive Judgement where
  /-- The block can be built on. -/
  | accepted
  /-- There is no block, or one that is too small or in use. -/
  | rejected
  /-- The source ended the call. -/
  | panicked (message : String)
deriving DecidableEq, Repr

/-- What a buffer that asked for `capacity` slots makes of an answer. -/
def Reply.judgement (capacity : Nat) : Reply → Judgement
  | refused => .rejected
  | granted room held => if (granted room held).Accepts capacity then .accepted else .rejected
  | panic message => .panicked message

theorem Reply.judgement_of_accepts {capacity : Nat} {reply : Reply} (h : reply.Accepts capacity) :
    reply.judgement capacity = .accepted := by
  cases reply with
  | refused => cases h
  | granted room held => exact if_pos h
  | panic message => cases h

/-- Whether there is a block is a matter of the judgement. -/
theorem Block.allocate_judgement [Sized α] [BlockSource σ] {capacity : Nat} (hpos : capacity ≠ 0)
    (source : σ) :
    match (BlockSource.request source (Sized.bytes α) capacity).1.judgement capacity with
    | .accepted => ∃ room, capacity ≤ room ∧
        (allocate (α := α) capacity source).1 = .ok ⟨#[], capacity, room⟩
    | .rejected => (allocate (α := α) capacity source).1 = .error .refused
    | .panicked message => (allocate (α := α) capacity source).1 = .error (.panic message) := by
  rw [allocate, if_neg hpos]
  generalize BlockSource.request source (Sized.bytes α) capacity = answer
  obtain ⟨reply, next⟩ := answer
  cases reply with
  | refused => rfl
  | panic message => rfl
  | granted room held =>
    by_cases hfit : (Reply.granted room held).Accepts capacity
    · simp only [Reply.judgement, if_pos hfit]
      exact ⟨room, hfit.2, rfl⟩
    · simp only [Reply.judgement, if_neg hfit]

/-- A block is obtained empty and with room for what was asked for, or there is none. -/
theorem Block.allocate_cases [Sized α] [BlockSource σ] (capacity : Nat) (source : σ) :
    (∃ room, capacity ≤ room ∧
        (allocate capacity source).1 = .ok (⟨#[], capacity, room⟩ : Block α)) ∨
      (allocate (α := α) capacity source).1 = .error .refused ∨
      ∃ message, (allocate (α := α) capacity source).1 = .error (.panic message) := by
  by_cases hzero : capacity = 0
  · subst hzero
    exact .inl ⟨0, Nat.le_refl 0, rfl⟩
  · have hcases := allocate_judgement (α := α) hzero source
    cases hjudgement : (BlockSource.request source (Sized.bytes α) capacity).1.judgement capacity with
    | accepted =>
      rw [hjudgement] at hcases
      exact .inl hcases
    | rejected =>
      rw [hjudgement] at hcases
      exact .inr (.inl hcases)
    | panicked message =>
      rw [hjudgement] at hcases
      exact .inr (.inr ⟨message, hcases⟩)

/-- Elements that are not more than the slots of an empty block move there, and none stays behind. -/
theorem Block.moveInto_of_le {block : Block α} {capacity : Nat} (room : Nat)
    (h : block.length ≤ capacity) :
    ∃ old, block.moveInto ⟨#[], capacity, room⟩ = .ok (old, ⟨block.elements, capacity, room⟩) ∧
      old.toList = [] := by
  have hfree : block.length ≤ (⟨#[], capacity, room⟩ : Block α).remaining := h
  have hmove : block.moveInto ⟨#[], capacity, room⟩ =
      .ok ({ block with elements := #[] }, ⟨block.elements, capacity, room⟩) := by
    rw [moveInto, if_pos hfree]
    simp
  exact ⟨_, hmove, (toList_moveInto hmove).1⟩

/-- Values are pushed one after the other as long as there are free slots for them. -/
theorem Block.pushEach_of_le (values : List α) (block : Block α)
    (h : block.length + values.length ≤ block.capacity) :
    block.pushEach values = .ok { block with elements := block.elements ++ values } := by
  induction values generalizing block with
  | nil => simp [pushEach]
  | cons value values ih =>
    simp only [List.length_cons] at h
    have hpush : block.push value = .ok { block with elements := block.elements.push value } := by
      rw [Block.push, if_pos (by omega)]
    have hlength : ({ block with elements := block.elements.push value } : Block α).length
        = block.length + 1 := by
      simp [Block.length]
    rw [pushEach, hpush]
    show pushEach values _ = _
    rw [ih _ (by rw [hlength]; show _ ≤ block.capacity; omega)]
    simp

namespace Buffer

/-! ### Changes of a buffer -/

/-- The buffer with other elements in the same block. -/
def withElements (elements : Array α) (buffer : Buffer α) : Buffer α :=
  { buffer with block := { buffer.block with elements := elements } }

/-- The buffer with one more element in the same block. -/
def append (value : α) (buffer : Buffer α) : Buffer α :=
  buffer.withElements (buffer.block.elements.push value)

/-- The buffer with its elements in another block, which counts as `growths` growths. -/
def rehouse (capacity room growths : Nat) (buffer : Buffer α) : Buffer α :=
  { buffer with
    block := ⟨buffer.block.elements, capacity, room⟩
    generation := buffer.generation.next
    growthEvents := buffer.growthEvents + growths }

@[simp] theorem toList_append (value : α) (buffer : Buffer α) :
    (buffer.append value).toList = buffer.toList ++ [value] := by
  simp [append, withElements, toList, Block.toList]

theorem length_append (value : α) (buffer : Buffer α) : (buffer.append value).length = buffer.length + 1 := by
  rw [← length_toList, toList_append, List.length_append, length_toList]
  rfl

@[simp] theorem length_rehouse (capacity room growths : Nat) (buffer : Buffer α) :
    (buffer.rehouse capacity room growths).length = buffer.length := rfl

@[simp] theorem capacity_rehouse (capacity room growths : Nat) (buffer : Buffer α) :
    (buffer.rehouse capacity room growths).capacity = capacity := rfl

theorem store_of_lt {value : α} {buffer : Buffer α} (source : σ)
    (h : buffer.length < buffer.capacity) :
    buffer.store value source = .done (buffer.append value) source := by
  have hpush : buffer.block.push value =
      .ok { buffer.block with elements := buffer.block.elements.push value } :=
    if_pos h
  rw [store, hpush]
  rfl

/-- A block with as many slots as there are elements has one for each of them. -/
theorem pushEach_toList (buffer : Buffer α) (room : Nat) :
    (⟨#[], buffer.length, room⟩ : Block α).pushEach buffer.toList =
      .ok ⟨buffer.block.elements, buffer.length, room⟩ := by
  rw [Block.pushEach_of_le _ _ (by simp [Block.length])]
  simp [toList, Block.toList]

/-! ### Capacities to go to -/

theorem grownCapacity_le_ceiling (buffer : Buffer α) :
    buffer.grownCapacity ≤ buffer.config.ceiling := by
  unfold grownCapacity
  split
  · exact Nat.min_le_right _ _
  · exact Nat.le_refl _

/-- The capacity that `reserve` asks for when `needed` elements do not fit into the block. -/
def reservedCapacity (needed : Nat) (buffer : Buffer α) : Nat :=
  min (max ((buffer.config.growth.next? buffer.capacity).getD needed) needed) buffer.config.ceiling

theorem reservedCapacity_le_ceiling (needed : Nat) (buffer : Buffer α) :
    buffer.reservedCapacity needed ≤ buffer.config.ceiling :=
  Nat.min_le_right _ _

theorem le_reservedCapacity {needed : Nat} {buffer : Buffer α} (h : needed ≤ buffer.config.ceiling) :
    needed ≤ buffer.reservedCapacity needed :=
  Nat.le_min.2 ⟨Nat.le_max_right _ _, h⟩

/-! ### Replacing the block -/

/-- What can become of replacing the block of a buffer by one of `capacity` slots, where `source` is the source
afterwards and a success counts as `growths` growths. -/
inductive Replacement (buffer : Buffer α) (capacity : Nat) (reason : Reason) (growths : Nat) (source : σ) :
    Attempt σ α → Prop
  /-- The elements stand in the new block. -/
  | moved (room : Nat) : capacity ≤ room →
      Replacement buffer capacity reason growths source
        ⟨.ok (), buffer.rehouse capacity room growths, source,
          [.replaced buffer.id buffer.capacity capacity buffer.generation.next reason], []⟩
  /-- There was no block. -/
  | refused :
      Replacement buffer capacity reason growths source
        ⟨.error (.fault (.allocationFailure capacity buffer.capacity)), buffer, source,
          [.blockRefused buffer.id buffer.capacity capacity reason], []⟩
  /-- The source ended the call. -/
  | panicked (message : String) :
      Replacement buffer capacity reason growths source
        ⟨.error (.panic (.source message)), buffer, source, [], []⟩

variable [Sized α] [BlockSource σ]

/-- The elements fit into the new block, so moving them does not fail, and the old block ends without one. -/
theorem replaceBlock_cases {buffer : Buffer α} {capacity : Nat} (reason : Reason) (source : σ)
    (h : buffer.length ≤ capacity) :
    Replacement buffer capacity reason 0 (Block.allocate (α := α) capacity source).2
      (buffer.replaceBlock capacity reason source) := by
  unfold replaceBlock
  have hcases := Block.allocate_cases (α := α) capacity source
  generalize Block.allocate (α := α) capacity source = allocation at hcases
  obtain ⟨result, next⟩ := allocation
  rcases hcases with ⟨room, hroom, rfl⟩ | rfl | ⟨message, rfl⟩
  · obtain ⟨old, hmove, hold⟩ := Block.moveInto_of_le room (show buffer.block.length ≤ capacity from h)
    simp only [hmove, hold]
    exact .moved room hroom
  · exact .refused
  · exact .panicked message

theorem enlarge_cases {buffer : Buffer α} {capacity : Nat} (reason : Reason) (source : σ)
    (h : buffer.length ≤ capacity) :
    Replacement buffer capacity reason 1 (Block.allocate (α := α) capacity source).2
      (buffer.enlarge capacity reason source) := by
  have hcases := replaceBlock_cases reason source h
  unfold enlarge
  generalize buffer.replaceBlock capacity reason source = attempt at hcases
  cases hcases with
  | moved room hroom => exact .moved room hroom
  | refused => exact .refused
  | panicked message => exact .panicked message

/-! ### Pushing -/

/-- A push stores the value in a free slot; or it finds the block full, and at the ceiling or not. -/
theorem push_cases {buffer : Buffer α} (value : α) (source : σ) (h : buffer.length ≤ buffer.capacity) :
    (buffer.length < buffer.capacity ∧
        buffer.push value source = .done (buffer.append value) source) ∨
      (buffer.length = buffer.capacity ∧ buffer.grownCapacity ≤ buffer.capacity ∧
        buffer.push value source =
          let requested := (buffer.config.growth.next? buffer.capacity).getD wordMax
          ⟨.error (.fault (.allocationFailure requested buffer.capacity)), buffer, source,
            [.ceilingReached buffer.id buffer.capacity requested buffer.config.ceiling], []⟩) ∨
      (buffer.length = buffer.capacity ∧ buffer.capacity < buffer.grownCapacity ∧
        ∃ attempt : Attempt σ α,
          Replacement buffer buffer.grownCapacity .append 1
            (Block.allocate (α := α) buffer.grownCapacity source).2 attempt ∧
          buffer.push value source =
            attempt.andThen fun buffer source => .done (buffer.append value) source) := by
  by_cases hfull : buffer.length = buffer.capacity
  · right
    by_cases hceiling : buffer.grownCapacity ≤ buffer.capacity
    · refine .inl ⟨hfull, hceiling, ?_⟩
      rw [push, if_pos (isFull_iff.2 hfull), grow, if_pos hceiling]
      rfl
    · have hcases := enlarge_cases .append source
        (show buffer.length ≤ buffer.grownCapacity by omega)
      refine .inr ⟨hfull, Nat.lt_of_not_le hceiling, _, hcases, ?_⟩
      rw [push, if_pos (isFull_iff.2 hfull), grow, if_neg hceiling]
      generalize buffer.enlarge buffer.grownCapacity .append source = attempt at hcases
      cases hcases with
      | moved room hroom =>
        -- the new block is larger than the full one was, so the value finds a slot
        show Attempt.andThen _ _ = Attempt.andThen _ _
        rw [Attempt.andThen_of_ok rfl, Attempt.andThen_of_ok rfl]
        rw [store_of_lt _ (by rw [length_rehouse, capacity_rehouse]; omega)]
      | refused => rfl
      | panicked message => rfl
  · refine .inl ⟨Nat.lt_of_le_of_ne h hfull, ?_⟩
    rw [push, if_neg (by rw [isFull_iff]; exact hfull), store_of_lt _ (Nat.lt_of_le_of_ne h hfull)]

/-- A push that is declined leaves the buffer as it was. -/
theorem push_buffer_of_error {buffer : Buffer α} {value : α} {source : σ} {halt : Halt}
    (h : buffer.length ≤ buffer.capacity)
    (herror : (buffer.push value source).outcome = .error halt) :
    (buffer.push value source).buffer = buffer := by
  rcases push_cases value source h with ⟨-, hpush⟩ | ⟨-, -, hpush⟩ | ⟨-, -, attempt, hcases, hpush⟩
  · rw [hpush] at herror
    cases herror
  · rw [hpush]
  · rw [hpush] at herror ⊢
    cases hcases with
    | moved room hroom => cases herror
    | refused => rfl
    | panicked message => rfl

/-- What every push keeps, a run of pushes keeps. -/
theorem pushAll_preserves {P : Buffer α → σ → Prop}
    (hpush : ∀ (value : α) (buffer : Buffer α) (source : σ), P buffer source →
      P (buffer.push value source).buffer (buffer.push value source).source)
    (values : List α) {buffer : Buffer α} {source : σ} (h : P buffer source) :
    P (buffer.pushAll values source).buffer (buffer.pushAll values source).source := by
  induction values generalizing buffer source with
  | nil => exact h
  | cons value values ih =>
    have hfirst := hpush value buffer source h
    cases houtcome : (buffer.push value source).outcome with
    | error halt =>
      rw [pushAll_cons_of_error houtcome]
      exact hfirst
    | ok _ =>
      rw [pushAll_cons_of_ok houtcome]
      exact ih hfirst

/-- `extend` differs from `pushAll` in the outcome only. -/
theorem extend_buffer (values : List α) (buffer : Buffer α) (source : σ) :
    (buffer.extend values source).buffer = (buffer.pushAll values source).buffer := by
  simp only [extend]
  split <;> rfl

theorem extend_source (values : List α) (buffer : Buffer α) (source : σ) :
    (buffer.extend values source).source = (buffer.pushAll values source).source := by
  simp only [extend]
  split <;> rfl

/-! ### Changing the capacity -/

/-- Room is there already; or it cannot be had, for want of words or for the ceiling; or a block is asked for. -/
theorem reserve_cases (additional : Nat) (buffer : Buffer α) (source : σ) :
    (wordMax < buffer.length + additional ∧
        buffer.reserve additional source =
          ⟨.error (.fault (.allocationFailure wordMax buffer.capacity)), buffer, source, [], []⟩) ∨
      (buffer.length + additional ≤ buffer.capacity ∧
        buffer.reserve additional source = .done buffer source) ∨
      (buffer.capacity < buffer.length + additional ∧
        buffer.config.ceiling < buffer.length + additional ∧
        buffer.reserve additional source =
          ⟨.error (.fault (.allocationFailure (buffer.length + additional) buffer.capacity)), buffer,
            source, [.ceilingExceeded buffer.id (buffer.length + additional) buffer.config.ceiling], []⟩) ∨
      (buffer.capacity < buffer.length + additional ∧
        buffer.length + additional ≤ buffer.config.ceiling ∧
        Replacement buffer (buffer.reservedCapacity (buffer.length + additional)) .reserve 1
          (Block.allocate (α := α) (buffer.reservedCapacity (buffer.length + additional)) source).2
          (buffer.reserve additional source)) := by
  unfold reserve
  cases hsum : sum? buffer.length additional with
  | none => exact .inl ⟨sum?_eq_none_iff.1 hsum, rfl⟩
  | some needed =>
    obtain ⟨rfl, -⟩ := sum?_eq_some_iff.1 hsum
    right
    by_cases hroom : buffer.length + additional ≤ buffer.capacity
    · exact .inl ⟨hroom, if_pos hroom⟩
    · right
      by_cases hceiling : buffer.config.ceiling < buffer.length + additional
      · refine .inl ⟨by omega, hceiling, ?_⟩
        simp only [if_neg hroom, if_pos hceiling]
      · refine .inr ⟨by omega, by omega, ?_⟩
        simp only [if_neg hroom, if_neg hceiling]
        have hle := le_reservedCapacity (Nat.le_of_not_lt hceiling)
        exact enlarge_cases .reserve source (by omega)

/-- A full block stays; from another one the free slots are given up. -/
theorem fit_cases (buffer : Buffer α) (source : σ) :
    (buffer.length = buffer.capacity ∧ buffer.fit source = .done buffer source) ∨
      (buffer.length ≠ buffer.capacity ∧
        Replacement buffer buffer.length .shrink 0
          (Block.allocate (α := α) buffer.length source).2 (buffer.fit source)) := by
  unfold fit
  by_cases hfull : buffer.length = buffer.capacity
  · exact .inl ⟨hfull, if_pos (isFull_iff.2 hfull)⟩
  · refine .inr ⟨hfull, ?_⟩
    rw [if_neg (by rw [isFull_iff]; exact hfull)]
    exact replaceBlock_cases .shrink source (Nat.le_refl _)

/-! ### Building -/

/-- A buffer is built from valid settings, with a first block of the initial capacity; or there is none. -/
theorem build_cases (id : BufferId) (config : Config) (source : σ) :
    (config.Valid ∧ ∃ room, config.initial ≤ room ∧
        (build id config source).outcome =
          .ok (fresh id config (⟨#[], config.initial, room⟩ : Block α))) ∨
      ∃ halt, (build (α := α) id config source).outcome = .error halt := by
  unfold build
  cases hvalid : config.validate with
  | error fault => exact .inr ⟨_, rfl⟩
  | ok _ =>
    have hcases := Block.allocate_cases (α := α) config.initial source
    generalize Block.allocate (α := α) config.initial source = allocation at hcases
    obtain ⟨result, next⟩ := allocation
    rcases hcases with ⟨room, hroom, rfl⟩ | rfl | ⟨message, rfl⟩
    · exact .inl ⟨Config.validate_eq_ok_iff.1 hvalid, room, hroom, rfl⟩
    · exact .inr ⟨_, rfl⟩
    · exact .inr ⟨_, rfl⟩

/-- A copy has the elements and the settings of the buffer, in a block that they fill; or there is none. -/
theorem copy_cases (id : BufferId) (buffer : Buffer α) (source : σ) :
    (∃ room, buffer.length ≤ room ∧
        (buffer.copy id source).outcome =
          .ok (fresh id buffer.config ⟨buffer.block.elements, buffer.length, room⟩)) ∨
      ∃ halt, (buffer.copy id source).outcome = .error halt := by
  unfold copy
  have hcases := Block.allocate_cases (α := α) buffer.length source
  generalize Block.allocate (α := α) buffer.length source = allocation at hcases
  obtain ⟨result, next⟩ := allocation
  rcases hcases with ⟨room, hroom, rfl⟩ | rfl | ⟨message, rfl⟩
  · refine .inl ⟨room, hroom, ?_⟩
    simp only [pushEach_toList]
  · exact .inr ⟨_, rfl⟩
  · exact .inr ⟨_, rfl⟩

/-- Elements are copied only once there is a block for all of them, so that no copy of one is dropped. -/
theorem dropped_copy (id : BufferId) (buffer : Buffer α) (source : σ) : (buffer.copy id source).dropped = [] := by
  unfold copy
  have hcases := Block.allocate_cases (α := α) buffer.length source
  generalize Block.allocate (α := α) buffer.length source = allocation at hcases
  obtain ⟨result, next⟩ := allocation
  rcases hcases with ⟨room, -, rfl⟩ | rfl | ⟨message, rfl⟩
  · simp only [pushEach_toList]
  · rfl
  · rfl

/-- There is one copy for each element, or none at all. -/
theorem length_made_copy (id : BufferId) (buffer : Buffer α) (source : σ) :
    (buffer.copy id source).made.length = bif (buffer.copy id source).outcome.isOk then buffer.length else 0 := by
  rcases copy_cases id buffer source with ⟨room, -, hcopy⟩ | ⟨halt, hcopy⟩
  · rw [Copying.made, hcopy]
    exact length_toList _
  · rw [Copying.made, hcopy, dropped_copy]
    rfl

end Buffer

end ElasticBuffer
