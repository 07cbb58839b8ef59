import ElasticBuffer.Proofs.InPlace

/-!
# Sound buffers

A buffer is *sound* if its settings are valid, its elements have slots, its slots respect the ceiling, and the
source set aside at least that many of them. A buffer begins sound, and every action keeps it so, whatever the
source answers.

Whatever an action does to a buffer is made of two small changes (`Buffer.Evolves`): other elements in the same
block, as many as it has slots, or the same elements in another block within the ceiling. So what the two keep,
every action keeps: soundness, but also the identity and the settings. A block that is given up is empty by then,
so that no element ends with it (`dropped_push` and the like).
-/

namespace ElasticBuffer

variable {σ α : Type}

namespace Buffer

/-- The settings are valid, and elements, capacity, ceiling and room are in order. -/
structure Sound (buffer : Buffer α) : Prop where
  /-- The settings were accepted when the buffer was built. -/
  config : buffer.config.Valid
  /-- Every element has a slot. -/
  length_le : buffer.length ≤ buffer.capacity
  /-- The slots respect the ceiling. -/
  capacity_le : buffer.capacity ≤ buffer.config.ceiling
  /-- The source set the slots aside. -/
  capacity_le_room : buffer.capacity ≤ buffer.block.room

/-! ### How a buffer begins -/

theorem sound_new (id : BufferId) : (new id : Buffer α).Sound where
  config := by
    show Config.Valid default
    decide
  length_le := Nat.le_refl _
  capacity_le := Nat.zero_le _
  capacity_le_room := Nat.le_refl _

theorem sound_of_build [Sized α] [BlockSource σ] {id : BufferId} {config : Config} {source : σ}
    {buffer : Buffer α} (h : (build id config source).outcome = .ok buffer) : buffer.Sound := by
  rcases build_cases (α := α) id config source with ⟨hvalid, room, hroom, hbuild⟩ | ⟨halt, hbuild⟩
  · rw [hbuild] at h
    cases h
    exact ⟨hvalid, Nat.zero_le _, hvalid.2, hroom⟩
  · rw [hbuild] at h
    cases h

/-- The block of a copy is filled by elements that respected the ceiling already. -/
theorem Sound.copy [Sized α] [BlockSource σ] {id : BufferId} {source : σ} {buffer result : Buffer α}
    (hsound : buffer.Sound) (h : (buffer.copy id source).outcome = .ok result) : result.Sound := by
  rcases copy_cases id buffer source with ⟨room, hroom, hcopy⟩ | ⟨halt, hcopy⟩
  · rw [hcopy] at h
    cases h
    exact ⟨hsound.config, Nat.le_refl _, Nat.le_trans hsound.length_le hsound.capacity_le, hroom⟩
  · rw [hcopy] at h
    cases h

/-! ### How a buffer goes on -/

/-- The second buffer comes of the first by small changes. -/
inductive Evolves (buffer : Buffer α) : Buffer α → Prop
  /-- Nothing has changed. -/
  | refl : Evolves buffer buffer
  /-- Other elements stand in the same block. -/
  | elements {current : Buffer α} {elements : Array α} : Evolves buffer current →
      elements.size ≤ current.capacity → Evolves buffer (current.withElements elements)
  /-- The elements stand in another block. -/
  | rehouse {current : Buffer α} {capacity room growths : Nat} : Evolves buffer current →
      current.length ≤ capacity → capacity ≤ current.config.ceiling → capacity ≤ room →
      Evolves buffer (current.rehouse capacity room growths)

namespace Evolves

theorem sound {buffer result : Buffer α} (h : Evolves buffer result) (hsound : buffer.Sound) :
    result.Sound := by
  induction h with
  | refl => exact hsound
  | elements _ hsize ih => exact ⟨ih.config, hsize, ih.capacity_le, ih.capacity_le_room⟩
  | rehouse _ hlength hceiling hroom ih => exact ⟨ih.config, hlength, hceiling, hroom⟩

theorem id_eq {buffer result : Buffer α} (h : Evolves buffer result) : result.id = buffer.id := by
  induction h with
  | refl => rfl
  | elements _ _ ih => exact ih
  | rehouse _ _ _ _ ih => exact ih

theorem config_eq {buffer result : Buffer α} (h : Evolves buffer result) :
    result.config = buffer.config := by
  induction h with
  | refl => rfl
  | elements _ _ ih => exact ih
  | rehouse _ _ _ _ ih => exact ih

theorem length_le {buffer result : Buffer α} (h : Evolves buffer result)
    (hlength : buffer.length ≤ buffer.capacity) : result.length ≤ result.capacity := by
  cases h with
  | refl => exact hlength
  | elements _ hsize => exact hsize
  | rehouse _ hfit _ _ => exact hfit

end Evolves

/-- A block within the ceiling may be asked for, whatever comes of it. -/
theorem Replacement.evolves {buffer : Buffer α} {capacity growths : Nat} {reason : Reason} {source : σ}
    {attempt : Attempt σ α} (hcases : Replacement buffer capacity reason growths source attempt)
    (hlength : buffer.length ≤ capacity) (hceiling : capacity ≤ buffer.config.ceiling) :
    Evolves buffer attempt.buffer := by
  cases hcases with
  | moved room hroom => exact .rehouse .refl hlength hceiling hroom
  | refused => exact .refl
  | panicked message => exact .refl

variable [Sized α] [BlockSource σ]

theorem Evolves.push {buffer current : Buffer α} (h : Evolves buffer current)
    (hlength : current.length ≤ current.capacity) (value : α) (source : σ) :
    Evolves buffer (current.push value source).buffer := by
  rcases push_cases value source hlength with
    ⟨hfree, hpush⟩ | ⟨-, -, hpush⟩ | ⟨hfull, hgrown, attempt, hcases, hpush⟩
  · rw [hpush]
    refine .elements h ?_
    rw [Array.size_push]
    exact hfree
  · rw [hpush]
    exact h
  · rw [hpush]
    cases hcases with
    | moved room hroom =>
      -- the grown block has a free slot, since the old one was full
      have hroomy : current.length ≤ current.grownCapacity := by omega
      refine .elements (.rehouse h hroomy (grownCapacity_le_ceiling current) hroom) ?_
      rw [Array.size_push]
      show current.length < current.grownCapacity
      omega
    | refused => exact h
    | panicked message => exact h

theorem evolves_pushAll {buffer : Buffer α} (hlength : buffer.length ≤ buffer.capacity)
    (values : List α) (source : σ) : Evolves buffer (buffer.pushAll values source).buffer := by
  have hkeep : ∀ (value : α) (current : Buffer α) (source : σ), Evolves buffer current →
      Evolves buffer (current.push value source).buffer :=
    fun value current source h => h.push (h.length_le hlength) value source
  exact pushAll_preserves (P := fun current _ => Evolves buffer current) hkeep values .refl

theorem evolves_reserve (additional : Nat) (buffer : Buffer α) (source : σ) :
    Evolves buffer (buffer.reserve additional source).buffer := by
  rcases reserve_cases additional buffer source with
    ⟨-, hreserve⟩ | ⟨-, hreserve⟩ | ⟨-, -, hreserve⟩ | ⟨-, hceiling, hcases⟩
  · rw [hreserve]
    exact .refl
  · rw [hreserve]
    exact .refl
  · rw [hreserve]
    exact .refl
  · have hneeded := le_reservedCapacity hceiling
    exact hcases.evolves (by omega) (reservedCapacity_le_ceiling _ buffer)

theorem evolves_fit {buffer : Buffer α} (hsound : buffer.Sound) (source : σ) :
    Evolves buffer (buffer.fit source).buffer := by
  rcases fit_cases buffer source with ⟨-, hfit⟩ | ⟨-, hcases⟩
  · rw [hfit]
    exact .refl
  · exact hcases.evolves (Nat.le_refl _) (Nat.le_trans hsound.length_le hsound.capacity_le)

/-! ### No element ends with a block -/

omit [Sized α] [BlockSource σ] in
theorem Replacement.dropped_eq {buffer : Buffer α} {capacity growths : Nat} {reason : Reason} {source : σ}
    {attempt : Attempt σ α} (hcases : Replacement buffer capacity reason growths source attempt) :
    attempt.dropped = [] := by
  cases hcases <;> rfl

theorem dropped_push {buffer : Buffer α} (hlength : buffer.length ≤ buffer.capacity) (value : α) (source : σ) :
    (buffer.push value source).dropped = [] := by
  rcases push_cases value source hlength with ⟨-, hpush⟩ | ⟨-, -, hpush⟩ | ⟨-, -, attempt, hcases, hpush⟩
  · rw [hpush]
    rfl
  · rw [hpush]
  · rw [hpush]
    cases hcases <;> rfl

theorem dropped_pushAll {buffer : Buffer α} (hlength : buffer.length ≤ buffer.capacity) (values : List α)
    (source : σ) : (buffer.pushAll values source).dropped = [] := by
  induction values generalizing buffer source with
  | nil => rfl
  | cons value values ih =>
    have hfirst := dropped_push hlength value source
    cases houtcome : (buffer.push value source).outcome with
    | error halt =>
      rw [pushAll_cons_of_error houtcome]
      exact hfirst
    | ok _ =>
      have hevolves : Evolves buffer (buffer.push value source).buffer := Evolves.refl.push hlength value source
      rw [pushAll_cons_of_ok houtcome]
      simp only [hfirst, ih (hevolves.length_le hlength), List.append_nil]

theorem dropped_extend {buffer : Buffer α} (hlength : buffer.length ≤ buffer.capacity) (values : List α)
    (source : σ) : (buffer.extend values source).dropped = [] := by
  have hpushAll := dropped_pushAll hlength values source
  simp only [extend]
  split <;> exact hpushAll

theorem dropped_reserve (additional : Nat) (buffer : Buffer α) (source : σ) :
    (buffer.reserve additional source).dropped = [] := by
  rcases reserve_cases additional buffer source with
    ⟨-, hreserve⟩ | ⟨-, hreserve⟩ | ⟨-, -, hreserve⟩ | ⟨-, -, hcases⟩
  · rw [hreserve]
  · rw [hreserve]
    rfl
  · rw [hreserve]
  · exact hcases.dropped_eq

theorem dropped_fit (buffer : Buffer α) (source : σ) : (buffer.fit source).dropped = [] := by
  rcases fit_cases buffer source with ⟨-, hfit⟩ | ⟨-, hcases⟩
  · rw [hfit]
    rfl
  · exact hcases.dropped_eq

end Buffer

/-- **Every action is made of small changes**, whether it is carried out or not. -/
theorem Buffer.Sound.evolves [Element α] [BlockSource σ] {buffer : Buffer α} (hsound : buffer.Sound)
    (action : Action α) (source : σ) : Evolves buffer (action.perform buffer source).buffer := by
  by_cases hplace : action.mayAllocate = false
  · obtain ⟨-, elements, hsize, hbuffer⟩ := Action.perform_inPlace hplace buffer source
    rw [hbuffer]
    exact .elements .refl (Nat.le_trans hsize hsound.length_le)
  · cases action with
    | push value => exact Evolves.refl.push hsound.length_le value source
    | pushAll values => exact evolves_pushAll hsound.length_le values source
    | extend values =>
      show Evolves buffer (buffer.extend values source).buffer
      rw [extend_buffer]
      exact evolves_pushAll hsound.length_le values source
    | reserve additional => exact evolves_reserve additional buffer source
    | fit => exact evolves_fit hsound source
    | _ => exact absurd rfl hplace

theorem Buffer.Sound.perform [Element α] [BlockSource σ] {buffer : Buffer α} (hsound : buffer.Sound)
    (action : Action α) (source : σ) : (action.perform buffer source).buffer.Sound :=
  (hsound.evolves action source).sound hsound

end ElasticBuffer
