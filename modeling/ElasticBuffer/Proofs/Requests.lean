import ElasticBuffer.Proofs.Runs

/-!
# What a source is asked for

A source of blocks goes on by its requests. This module says what can become of the sources of a session in one
step (`Session.Draws`): a source is left alone, or the caller deals with it directly, or a buffer asks it for
blocks. A buffer asks for one slot at least, and for no more slots than its ceiling allows (`Asked`), whatever the
source answers and whether the step is carried out or not.
-/

namespace ElasticBuffer

variable {σ α : Type} {k : Nat}

/-! ### Requests within a ceiling -/

/-- The second state of a source comes of the first by requests for `1` to `ceiling` slots. -/
inductive Asked [BlockSource σ] (bytes ceiling : Nat) (source : σ) : σ → Prop
  /-- The source was not asked. -/
  | refl : Asked bytes ceiling source source
  /-- The source was asked once more. -/
  | request {current : σ} {capacity : Nat} : Asked bytes ceiling source current →
      1 ≤ capacity → capacity ≤ ceiling →
      Asked bytes ceiling source (BlockSource.request current bytes capacity).2

theorem Asked.trans [BlockSource σ] {bytes ceiling : Nat} {first second third : σ}
    (h : Asked bytes ceiling first second) (h' : Asked bytes ceiling second third) :
    Asked bytes ceiling first third := by
  induction h' with
  | refl => exact h
  | request _ hpos hceiling ih => exact .request ih hpos hceiling

section

variable [Sized α] [BlockSource σ]

theorem Block.source_allocate {capacity : Nat} (h : capacity ≠ 0) (source : σ) :
    (Block.allocate (α := α) capacity source).2 =
      (BlockSource.request source (Sized.bytes α) capacity).2 := by
  rw [allocate, if_neg h]
  generalize BlockSource.request source (Sized.bytes α) capacity = answer
  obtain ⟨reply, next⟩ := answer
  cases reply with
  | refused => rfl
  | granted room held =>
    simp only
    split <;> rfl
  | panic message => rfl

/-- A block without slots is never asked for, and every other one once. -/
theorem Asked.allocate {ceiling capacity : Nat} {source current : σ}
    (h : Asked (Sized.bytes α) ceiling source current) (hceiling : capacity ≤ ceiling) :
    Asked (Sized.bytes α) ceiling source (Block.allocate (α := α) capacity current).2 := by
  by_cases hzero : capacity = 0
  · subst hzero
    exact h
  · rw [Block.source_allocate hzero]
    exact .request h (Nat.one_le_iff_ne_zero.2 hzero) hceiling

namespace Buffer

omit [Sized α] [BlockSource σ] in
theorem Replacement.source_eq {buffer : Buffer α} {capacity growths : Nat} {reason : Reason} {source : σ}
    {attempt : Attempt σ α} (hcases : Replacement buffer capacity reason growths source attempt) :
    attempt.source = source := by
  cases hcases <;> rfl

theorem asked_push {buffer : Buffer α} (hlength : buffer.length ≤ buffer.capacity) (value : α)
    {source current : σ} (h : Asked (Sized.bytes α) buffer.config.ceiling source current) :
    Asked (Sized.bytes α) buffer.config.ceiling source (buffer.push value current).source := by
  rcases push_cases value current hlength with
    ⟨-, hpush⟩ | ⟨-, -, hpush⟩ | ⟨-, -, attempt, hcases, hpush⟩
  · rw [hpush]
    exact h
  · rw [hpush]
    exact h
  · have hsource : (buffer.push value current).source = attempt.source := by
      rw [hpush]
      cases hcases <;> rfl
    rw [hsource, hcases.source_eq]
    exact h.allocate (grownCapacity_le_ceiling buffer)

theorem asked_pushAll {buffer : Buffer α} (hlength : buffer.length ≤ buffer.capacity) (values : List α)
    (source : σ) :
    Asked (Sized.bytes α) buffer.config.ceiling source (buffer.pushAll values source).source := by
  -- the settings do not change on the way, so the ceiling is the same for every push
  have hkeep : ∀ (value : α) (current : Buffer α) (next : σ),
      Evolves buffer current ∧ Asked (Sized.bytes α) buffer.config.ceiling source next →
      Evolves buffer (current.push value next).buffer ∧
        Asked (Sized.bytes α) buffer.config.ceiling source (current.push value next).source := by
    intro value current next ⟨hevolves, hasked⟩
    refine ⟨hevolves.push (hevolves.length_le hlength) value next, ?_⟩
    rw [← hevolves.config_eq] at hasked ⊢
    exact asked_push (hevolves.length_le hlength) value hasked
  exact (pushAll_preserves (P := fun current next => Evolves buffer current ∧
    Asked (Sized.bytes α) buffer.config.ceiling source next) hkeep values ⟨.refl, .refl⟩).2

theorem asked_reserve (additional : Nat) (buffer : Buffer α) (source : σ) :
    Asked (Sized.bytes α) buffer.config.ceiling source (buffer.reserve additional source).source := by
  rcases reserve_cases additional buffer source with
    ⟨-, hreserve⟩ | ⟨-, hreserve⟩ | ⟨-, -, hreserve⟩ | ⟨-, -, hcases⟩
  · rw [hreserve]
    exact .refl
  · rw [hreserve]
    exact .refl
  · rw [hreserve]
    exact .refl
  · rw [hcases.source_eq]
    exact Asked.refl.allocate (reservedCapacity_le_ceiling _ buffer)

theorem asked_fit {buffer : Buffer α} (hsound : buffer.Sound) (source : σ) :
    Asked (Sized.bytes α) buffer.config.ceiling source (buffer.fit source).source := by
  rcases fit_cases buffer source with ⟨-, hfit⟩ | ⟨-, hcases⟩
  · rw [hfit]
    exact .refl
  · rw [hcases.source_eq]
    exact Asked.refl.allocate (Nat.le_trans hsound.length_le hsound.capacity_le)

/-- A first block is asked for only if the settings are valid. -/
theorem asked_build (id : BufferId) (config : Config) (source : σ) :
    Asked (Sized.bytes α) config.ceiling source (build (α := α) id config source).source := by
  unfold build
  cases hvalid : config.validate with
  | error fault => exact .refl
  | ok _ =>
    have hasked : Asked (Sized.bytes α) config.ceiling source
        (Block.allocate (α := α) config.initial source).2 :=
      Asked.refl.allocate (Config.validate_eq_ok_iff.1 hvalid).2
    generalize Block.allocate (α := α) config.initial source = allocation at hasked
    obtain ⟨result, next⟩ := allocation
    rcases result with denial | block
    · cases denial <;> exact hasked
    · exact hasked

theorem asked_copy {buffer : Buffer α} (hsound : buffer.Sound) (id : BufferId) (source : σ) :
    Asked (Sized.bytes α) buffer.config.ceiling source (buffer.copy id source).source := by
  unfold copy
  have hasked : Asked (Sized.bytes α) buffer.config.ceiling source
      (Block.allocate (α := α) buffer.length source).2 :=
    Asked.refl.allocate (Nat.le_trans hsound.length_le hsound.capacity_le)
  generalize Block.allocate (α := α) buffer.length source = allocation at hasked
  obtain ⟨result, next⟩ := allocation
  rcases result with denial | block
  · cases denial <;> exact hasked
  · simp only
    split <;> exact hasked

end Buffer

end

/-- **Every action asks its source for no more slots than the ceiling allows.** -/
theorem Action.asked_perform [Element α] [BlockSource σ] {buffer : Buffer α} (hsound : buffer.Sound)
    (action : Action α) (source : σ) :
    Asked (Sized.bytes α) buffer.config.ceiling source (action.perform buffer source).source := by
  by_cases hplace : action.mayAllocate = false
  · rw [(perform_inPlace hplace buffer source).1]
    exact .refl
  · cases action with
    | push value => exact Buffer.asked_push hsound.length_le value .refl
    | pushAll values => exact Buffer.asked_pushAll hsound.length_le values source
    | extend values =>
      show Asked _ _ source (buffer.extend values source).source
      rw [Buffer.extend_source]
      exact Buffer.asked_pushAll hsound.length_le values source
    | reserve additional => exact Buffer.asked_reserve additional buffer source
    | fit => exact Buffer.asked_fit hsound source
    | _ => exact absurd rfl hplace

/-! ### The sources of a session -/

namespace Pool

theorem source_update (provider other : Provider k) (source : σ) (pool : Pool σ k) :
    (pool.update provider source).source other = if other = provider then source else pool.source other := by
  split
  · rename_i h
    rw [h]
    exact source_update_self provider source pool
  · rename_i h
    exact source_update_of_ne h source pool

end Pool

namespace Session

/-- The source that a buffer may ask for blocks in a step, with the settings of the buffer. -/
def asker (command : Command α) (session : Session σ α k) : Option (Provider k × Config) :=
  match command with
  | .build _ config source => (session.provider? source).map fun provider => (provider, config)
  | .collect _ _ => some (.heap, default)
  | .copy name _ => (session.buffers.find? name).map fun slot => (slot.provider, slot.buffer.config)
  | .act name _ => (session.buffers.find? name).map fun slot => (slot.provider, slot.buffer.config)
  | _ => none

theorem pool_enroll (name : String) (provider : Provider k) (construction : Construction σ (Item α))
    (session : Session σ α k) :
    (session.enroll name provider construction).2.pool =
      session.pool.update provider construction.source := by
  simp only [enroll]
  cases construction.outcome <;> rfl

variable [Element α] [BlockSource σ]

theorem pool_collect (name : String) (values : List α) (session : Session σ α k) :
    (session.collect name values).2.pool =
      session.pool.update .heap
        ((Buffer.new session.nextId).extend (Item.number session.ledger.issued values) session.pool.heap).source := by
  simp only [collect]
  split <;> rfl

/-- What can become of a source in a step. -/
inductive Draws (session : Session σ α k) (command : Command α) (provider : Provider k) : σ → Prop
  /-- Nothing. -/
  | untouched : Draws session command provider (session.pool.source provider)
  /-- A buffer asks for blocks within its ceiling. -/
  | asked {config : Config} {source : σ} : session.asker command = some (provider, config) →
      Asked (Sized.bytes α) config.ceiling (session.pool.source provider) source →
      Draws session command provider source
  /-- The caller asks for a block. -/
  | requested {name : String} {capacity : Nat} : command = .request name capacity →
      session.pool.provider? name = some provider →
      Draws session command provider
        (BlockSource.request (session.pool.source provider) (Sized.bytes α) capacity).2
  /-- The caller resets the source. -/
  | reset {name : String} : command = .resetSource name → session.pool.provider? name = some provider →
      Draws session command provider (BlockSource.reset (session.pool.source provider))

/-- Only one source is given another state. -/
theorem draws_update {session : Session σ α k} {command : Command α} {provider : Provider k} {source : σ}
    (h : session.Draws command provider source) (other : Provider k) :
    session.Draws command other ((session.pool.update provider source).source other) := by
  rw [Pool.source_update]
  split
  · rename_i heq
    rw [heq]
    exact h
  · exact .untouched

/-- An action within the block leaves the sources alone. -/
theorem source_act_inPlace (action : Action α) (hplace : action.mayAllocate = false) (name : String)
    (session : Session σ α k) (provider : Provider k) :
    (session.act name action).2.pool.source provider = session.pool.source provider := by
  simp only [act]
  cases session.buffers.find? name with
  | none => rfl
  | some slot =>
    have hnumber : (action.number session.ledger.issued).mayAllocate = false := by
      rw [← hplace]
      cases action <;> rfl
    refine (Pool.source_update slot.provider provider _ session.pool).trans ?_
    rw [(Action.perform_inPlace hnumber _ _).1]
    split
    · rename_i heq
      rw [heq]
    · rfl

theorem draws_act {session : Session σ α k} (hsound : session.Sound) {command : Command α} {name : String}
    {action : Action α} (h : session.Performs command name action) (provider : Provider k) :
    session.Draws command provider ((session.act name action).2.pool.source provider) := by
  rcases h.mayAllocate with hcommand | hplace
  · subst hcommand
    simp only [act]
    cases hfind : session.buffers.find? name with
    | none => exact .untouched
    | some slot =>
      have hasker : session.asker (.act name action) = some (slot.provider, slot.buffer.config) := by
        simp only [asker, hfind, Option.map_some]
      exact draws_update (.asked hasker (Action.asked_perform (hsound name slot hfind) _ _)) provider
  · rw [source_act_inPlace action hplace]
    exact .untouched

/-- A first block is asked for within the ceiling of the settings, and the block of a copy within that of its model. -/
theorem draws_builds {session : Session σ α k} (hsound : session.Sound) {command : Command α} {name : String}
    {provider : Provider k} {construction : Construction σ (Item α)} {copies : Nat}
    (h : session.Builds command name provider construction copies) :
    session.Draws command provider construction.source := by
  cases h with
  | new hprovider => exact .untouched
  | @build _ config _ _ hprovider =>
    refine .asked ?_ (Buffer.asked_build (α := Item α) _ config _)
    simp only [asker, hprovider, Option.map_some]
  | @copy name _ slot _ hfind hcopying =>
    subst hcopying
    refine .asked ?_ (Buffer.asked_copy ((hsound name slot hfind).renumber session.ledger.issued) _ _)
    simp only [asker, hfind, Option.map_some]
    rfl

/-- **A step leaves a source alone, or asks it within a ceiling, or the caller deals with it.** -/
theorem draws_step {session : Session σ α k} (hsound : session.Sound) (command : Command α)
    (provider : Provider k) :
    session.Draws command provider ((session.step command).2.pool.source provider) := by
  have hcourse := course_step command session
  generalize session.step command = result at hcourse ⊢
  cases hcourse with
  | missing => exact .untouched
  | answered => exact .untouched
  | drew => exact .untouched
  | enrolled hbuilds =>
    rw [pool_enroll]
    exact draws_update (draws_builds hsound hbuilds) provider
  | @collected name values hcommand =>
    have hasked := Buffer.asked_pushAll (Buffer.sound_new session.nextId).length_le
      (Item.number session.ledger.issued values) session.pool.heap
    rw [← Buffer.extend_source] at hasked
    subst hcommand
    rw [pool_collect]
    exact draws_update (.asked rfl hasked) provider
  | acted hperforms => exact draws_act hsound hperforms provider
  | referred hcommand _ =>
    subst hcommand
    exact draws_act hsound .refer provider
  | requested hcommand hprovider _ => exact draws_update (.requested hcommand hprovider) provider
  | reset hcommand hprovider => exact draws_update (.reset hcommand hprovider) provider

end Session

end ElasticBuffer
