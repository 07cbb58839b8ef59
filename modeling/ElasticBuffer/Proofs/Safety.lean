import ElasticBuffer.Allocator
import ElasticBuffer.Proofs.Acts

/-!
# Checks that never fail

A block checks its callers: a value is not pushed into a full one, elements are not moved to where there are no slots
for them, and no index is used without an element. A buffer calls its blocks only when they agree, so none of these
checks ever fails in a run, whatever the sources answer. What a call may end in instead is said by `Panic.isOutward`:
the source ended it, or a caller that can not be told of a fault relied on there being none. Only an index that a
caller hands in directly may have no element.

The second part is about sizes. No source can set aside more bytes than storage has (`FitsStorage`), and a block uses no
more slots than were set aside, so the size of a block in bytes is a number that fits into a word with one bit to spare.

Both come together in `Session.run_is_safe`.
-/

namespace ElasticBuffer

variable {σ α : Type} {k : Nat}

/-! ### Panics from outside -/

/-- The panic is not a check of a block that failed. -/
def Panic.isOutward : Panic → Bool
  | extendFailed _ => true
  | copyFailed _ => true
  | source _ => true
  | indexOutOfBounds _ _ => false
  | blockFull _ => false
  | blockTooSmall _ _ => false

/-- The call was declined, or ended from outside. -/
def Halt.isOutward : Halt → Bool
  | fault _ => true
  | panic cause => cause.isOutward

namespace Buffer

theorem Replacement.isOutward {buffer : Buffer α} {capacity growths : Nat} {reason : Reason} {source : σ}
    {attempt : Attempt σ α} (hcases : Replacement buffer capacity reason growths source attempt) {halt : Halt}
    (h : attempt.outcome = .error halt) : halt.isOutward = true := by
  cases hcases with
  | moved room hroom => cases h
  | refused =>
    cases h
    rfl
  | panicked message =>
    cases h
    rfl

variable [Sized α] [BlockSource σ]

/-- A push finds a free slot, or is declined, or the source ends it. -/
theorem isOutward_push {buffer : Buffer α} (hlength : buffer.length ≤ buffer.capacity) {value : α} {source : σ}
    {halt : Halt} (h : (buffer.push value source).outcome = .error halt) : halt.isOutward = true := by
  rcases push_cases value source hlength with ⟨-, hpush⟩ | ⟨-, -, hpush⟩ | ⟨-, -, attempt, hcases, hpush⟩
  · rw [hpush] at h
    cases h
  · rw [hpush] at h
    cases h
    rfl
  · rw [hpush] at h
    cases hattempt : attempt.outcome with
    | ok _ =>
      rw [Attempt.andThen_of_ok hattempt] at h
      cases h
    | error halt' =>
      rw [Attempt.andThen_of_error hattempt] at h
      exact hcases.isOutward h

/-- So does a series of pushes, one after the other. -/
theorem isOutward_pushAll {values : List α} {buffer : Buffer α} (hlength : buffer.length ≤ buffer.capacity)
    {source : σ} {halt : Halt} (h : (buffer.pushAll values source).outcome = .error halt) :
    halt.isOutward = true := by
  induction values generalizing buffer source with
  | nil => cases h
  | cons value values ih =>
    cases hpush : (buffer.push value source).outcome with
    | error halt' =>
      rw [pushAll_cons_of_error hpush] at h
      exact isOutward_push hlength h
    | ok _ =>
      rw [pushAll_cons_of_ok hpush] at h
      exact ih ((Evolves.refl.push hlength value source).length_le hlength) h

theorem isOutward_extend {values : List α} {buffer : Buffer α} (hlength : buffer.length ≤ buffer.capacity)
    {source : σ} {halt : Halt} (h : (buffer.extend values source).outcome = .error halt) :
    halt.isOutward = true := by
  cases houtcome : (buffer.pushAll values source).outcome with
  | ok _ =>
    simp only [extend, houtcome] at h
    cases h
  | error halt' =>
    have hpushed := isOutward_pushAll hlength houtcome
    cases halt' with
    | fault fault =>
      simp only [extend, houtcome] at h
      cases h
      rfl
    | panic cause =>
      simp only [extend, houtcome] at h
      cases h
      exact hpushed

theorem isOutward_reserve {additional : Nat} {buffer : Buffer α} {source : σ} {halt : Halt}
    (h : (buffer.reserve additional source).outcome = .error halt) : halt.isOutward = true := by
  rcases reserve_cases additional buffer source with
    ⟨-, hreserve⟩ | ⟨-, hreserve⟩ | ⟨-, -, hreserve⟩ | ⟨-, -, hcases⟩
  · rw [hreserve] at h
    cases h
    rfl
  · rw [hreserve] at h
    cases h
  · rw [hreserve] at h
    cases h
    rfl
  · exact hcases.isOutward h

theorem isOutward_fit {buffer : Buffer α} {source : σ} {halt : Halt}
    (h : (buffer.fit source).outcome = .error halt) : halt.isOutward = true := by
  rcases fit_cases buffer source with ⟨-, hfit⟩ | ⟨-, hcases⟩
  · rw [hfit] at h
    cases h
  · exact hcases.isOutward h

theorem isOutward_build {id : BufferId} {config : Config} {source : σ} {halt : Halt}
    (h : (build (α := α) id config source).outcome = .error halt) : halt.isOutward = true := by
  unfold build at h
  cases hvalid : config.validate with
  | error fault =>
    rw [hvalid] at h
    cases h
    rfl
  | ok _ =>
    rw [hvalid] at h
    generalize Block.allocate (α := α) config.initial source = allocation at h
    obtain ⟨result, next⟩ := allocation
    rcases result with (_ | message) | block
    · cases h
      rfl
    · cases h
      rfl
    · cases h

/-- The block of a copy has slots for all elements. -/
theorem isOutward_copy {id : BufferId} {buffer : Buffer α} {source : σ} {halt : Halt}
    (h : (buffer.copy id source).outcome = .error halt) : halt.isOutward = true := by
  unfold copy at h
  have hcases := Block.allocate_cases (α := α) buffer.length source
  generalize Block.allocate (α := α) buffer.length source = allocation at h hcases
  obtain ⟨result, next⟩ := allocation
  rcases hcases with ⟨room, -, rfl⟩ | rfl | ⟨message, rfl⟩
  · simp only [pushEach_toList] at h
    cases h
  · cases h
    rfl
  · cases h
    rfl

end Buffer

/-! ### Panics of actions -/

theorem Effect.panic_of_ofAttempt {attempt : Attempt σ α} {cause : Panic}
    (h : (ofAttempt attempt).outcome = .error (.panic cause)) : attempt.outcome = .error (.panic cause) := by
  obtain ⟨outcome, buffer, source, events, dropped⟩ := attempt
  rcases outcome with (fault | cause') | _
  · cases h
  · cases h
    rfl
  · cases h

theorem Effect.panic_of_ofIntake {intake : Intake σ α} {cause : Panic}
    (h : (ofIntake intake).outcome = .error (.panic cause)) : intake.outcome = .error (.panic cause) := by
  obtain ⟨⟨outcome, buffer, source, events, dropped⟩, taken, unstored⟩ := intake
  rcases outcome with (fault | cause') | _
  · cases h
  · cases h
    rfl
  · cases h

/-- The action takes an index from its caller and panics without an element. -/
def Action.indexes? : Action α → Option Nat
  | index i => some i
  | putIndex i _ => some i
  | _ => none

namespace Buffer

/-- A reference is checked before its index is used. -/
theorem resolve_ne_panic (r : Reference) (buffer : Buffer α) (cause : Panic) :
    buffer.resolve r ≠ .error (.panic cause) := by
  intro h
  rcases locate_cases r buffer with ⟨-, hindex, hlocate⟩ | ⟨-, fault, hlocate⟩
  · obtain ⟨value, hvalue⟩ := exists_getElem? hindex
    rw [resolve_of_some hlocate hvalue] at h
    cases h
  · rw [resolve_of_locate_error hlocate] at h
    cases h

theorem resolveSwap_ne_panic (r : Reference) (value : α) (buffer : Buffer α) (cause : Panic) :
    buffer.resolveSwap r value ≠ .error (.panic cause) := by
  intro h
  rcases locate_cases r buffer with ⟨-, hindex, hlocate⟩ | ⟨-, fault, hlocate⟩
  · obtain ⟨old, hold⟩ := exists_getElem? hindex
    rw [resolveSwap_of_some value hlocate hold] at h
    cases h
  · rw [resolveSwap_of_locate_error value hlocate] at h
    cases h

end Buffer

/-- **An action panics from outside**, or because its caller hands in an index without an element. -/
theorem Action.panic_perform [Element α] [BlockSource σ] {action : Action α} {buffer : Buffer α}
    (hlength : buffer.length ≤ buffer.capacity) {source : σ} {cause : Panic}
    (h : (action.perform buffer source).outcome = .error (.panic cause)) :
    cause.isOutward = true ∨
      ∃ index, action.indexes? = some index ∧ buffer.length ≤ index ∧
        cause = .indexOutOfBounds index buffer.length := by
  cases action with
  | push value => exact .inl (Buffer.isOutward_push hlength (Effect.panic_of_ofAttempt h))
  | pushAll values => exact .inl (Buffer.isOutward_pushAll hlength (Effect.panic_of_ofIntake h))
  | extend values => exact .inl (Buffer.isOutward_extend hlength (Effect.panic_of_ofIntake h))
  | reserve additional => exact .inl (Buffer.isOutward_reserve (Effect.panic_of_ofAttempt h))
  | fit => exact .inl (Buffer.isOutward_fit (Effect.panic_of_ofAttempt h))
  | index i =>
    simp only [perform] at h
    by_cases hindex : i < buffer.length
    · obtain ⟨value, hvalue⟩ := Buffer.exists_getElem? hindex
      rw [Buffer.index_of_some hvalue] at h
      cases h
    · have hle := Nat.le_of_not_lt hindex
      rw [Buffer.index_of_le hle] at h
      cases h
      exact .inr ⟨i, rfl, hle, rfl⟩
  | putIndex i value =>
    simp only [perform] at h
    by_cases hindex : i < buffer.length
    · obtain ⟨old, hold⟩ := Buffer.exists_getElem? hindex
      rw [Buffer.swapAt_of_some value hold] at h
      cases h
    · have hle := Nat.le_of_not_lt hindex
      rw [Buffer.swapAt_of_le value hle] at h
      cases h
      exact .inr ⟨i, rfl, hle, rfl⟩
  | resolve reference =>
    simp only [perform] at h
    rcases hresolve : buffer.resolve reference with (fault | cause') | value
    · rw [hresolve] at h
      cases h
    · exact absurd hresolve (Buffer.resolve_ne_panic reference buffer cause')
    · rw [hresolve] at h
      cases h
  | overwrite reference value =>
    simp only [perform] at h
    rcases hswap : buffer.resolveSwap reference value with (fault | cause') | ⟨old, after⟩
    · rw [hswap] at h
      cases h
    · exact absurd hswap (Buffer.resolveSwap_ne_panic reference value buffer cause')
    · rw [hswap] at h
      cases h
  | elementAt i =>
    simp only [perform] at h
    cases helement : buffer.elementAt i <;> rw [helement] at h <;> cases h
  | refer i =>
    simp only [perform] at h
    cases hrefer : buffer.refer i <;> rw [hrefer] at h <;> cases h
  | put i value =>
    simp only [perform] at h
    cases hswap : buffer.swapAt? i value <;> rw [hswap] at h <;> cases h
  | _ => cases h

/-- The index that a command takes from its caller, if it panics without an element. -/
def Command.indexes? : Command α → Option Nat
  | .act _ action => action.indexes?
  | _ => none

namespace Session

theorem panic_enroll {name : String} {provider : Provider k} {construction : Construction σ (Item α)}
    {session : Session σ α k} {cause : Panic}
    (h : (session.enroll name provider construction).1.outcome = .error (.panic cause)) :
    construction.outcome = .error (.panic cause) := by
  obtain ⟨outcome, source, events⟩ := construction
  rcases outcome with (fault | cause') | buffer
  · cases h
  · cases h
    rfl
  · cases h

variable [Element α] [BlockSource σ]

theorem panic_act {session : Session σ α k} (hsound : session.Sound) {name : String} {action : Action α}
    {cause : Panic} (h : (session.act name action).1.outcome = .error (.panic cause)) :
    cause.isOutward = true ∨
      ∃ index length, action.indexes? = some index ∧ length ≤ index ∧ cause = .indexOutOfBounds index length := by
  cases hfind : session.buffers.find? name with
  | none =>
    simp only [act, hfind] at h
    cases h
  | some slot =>
    rw [act_eq_settle hfind] at h
    rcases Action.panic_perform (hsound name slot hfind).length_le h with
      houtward | ⟨index, hindex, hle, rfl⟩
    · exact .inl houtward
    · refine .inr ⟨index, slot.buffer.length, ?_, hle, rfl⟩
      rw [← hindex]
      cases action <;> rfl

theorem panic_collect {session : Session σ α k} {name : String} {values : List α} {cause : Panic}
    (h : (session.collect name values).1.outcome = .error (.panic cause)) : cause.isOutward = true := by
  have hnew : (Buffer.new session.nextId : Buffer (Item α)).length ≤
      (Buffer.new session.nextId : Buffer (Item α)).capacity := Nat.le_refl 0
  simp only [collect] at h
  rcases hintake : ((Buffer.new session.nextId).extend (Item.number session.ledger.issued values)
      session.pool.heap).outcome with (fault | cause') | _
  · rw [hintake] at h
    cases h
  · rw [hintake] at h
    cases h
    exact Buffer.isOutward_extend hnew hintake
  · rw [hintake] at h
    cases h

theorem Builds.isOutward {session : Session σ α k} {command : Command α} {name : String} {provider : Provider k}
    {construction : Construction σ (Item α)} {copies : Nat} {cause : Panic}
    (h : session.Builds command name provider construction copies)
    (herror : construction.outcome = .error (.panic cause)) : cause.isOutward = true := by
  cases h with
  | new _ => cases herror
  | build _ => exact Buffer.isOutward_build herror
  | copy _ hcopying =>
    subst hcopying
    exact Buffer.isOutward_copy herror

omit [Element α] [BlockSource σ] in
/-- A stored reference brings no index of its own. -/
theorem Performs.indexes?_eq {session : Session σ α k} {command : Command α} {name : String} {action : Action α}
    (h : session.Performs command name action) : command.indexes? = action.indexes? := by
  cases h <;> rfl

/-- **Every step panics from outside**, or because its caller hands in an index without an element. -/
theorem panic_step {session : Session σ α k} (hsound : session.Sound) {command : Command α} {cause : Panic}
    (h : (session.step command).1.outcome = .error (.panic cause)) :
    cause.isOutward = true ∨
      ∃ index length, command.indexes? = some index ∧ length ≤ index ∧ cause = .indexOutOfBounds index length := by
  have hcourse := course_step command session
  generalize session.step command = result at hcourse h
  cases hcourse with
  | missing => cases h
  | answered => cases h
  | drew => cases h
  | enrolled hbuilds => exact .inl (hbuilds.isOutward (panic_enroll h))
  | collected => exact .inl (panic_collect h)
  | acted hperforms =>
    rw [hperforms.indexes?_eq]
    exact panic_act hsound h
  | referred _ hact =>
    rw [hact] at h
    cases h
  | requested _ _ herror =>
    obtain ⟨message, hcause⟩ := herror _ h
    cases hcause
    exact .inl rfl
  | reset => cases h

end Session

/-! ### Blocks within storage -/

/-- No source grants more slots of `bytes` bytes than storage can hold in one block. -/
def FitsStorage (σ : Type) [BlockSource σ] (bytes : Nat) : Prop :=
  ∀ (source : σ) (capacity room held : Nat),
    (BlockSource.request source bytes capacity).1 = .granted room held → room * bytes ≤ bytesMax

/-- The slots that were set aside fit into storage. -/
def Block.WithinStorage [Sized α] (block : Block α) : Prop := block.room * Sized.bytes α ≤ bytesMax

/-- No more slots are used than were set aside. -/
theorem Block.WithinStorage.memoryBytes_le [Sized α] {block : Block α} (hfits : block.WithinStorage)
    (hroom : block.capacity ≤ block.room) : block.memoryBytes ≤ bytesMax :=
  Nat.le_trans (Nat.mul_le_mul_right _ hroom) hfits

/-- A block is obtained empty, with no more slots than were set aside. -/
theorem Block.eq_of_allocate [Sized α] [BlockSource σ] {capacity : Nat} {source : σ} {block : Block α}
    (h : (allocate capacity source).1 = .ok block) : ∃ room, capacity ≤ room ∧ block = ⟨#[], capacity, room⟩ := by
  rcases allocate_cases (α := α) capacity source with ⟨room, hroom, hok⟩ | hrefused | ⟨message, hpanic⟩
  · rw [hok] at h
    cases h
    exact ⟨room, hroom, rfl⟩
  · rw [hrefused] at h
    cases h
  · rw [hpanic] at h
    cases h

theorem Block.room_moveInto {block target emptied filled : Block α}
    (h : block.moveInto target = .ok (emptied, filled)) : filled.room = target.room := by
  unfold moveInto at h
  split at h
  · cases h
    rfl
  · cases h

theorem Attempt.withinStorage_andThen [Sized α] {first : Attempt σ α} (hfirst : first.buffer.block.WithinStorage)
    {next : Buffer α → σ → Attempt σ α}
    (hnext : ∀ buffer source, buffer.block.WithinStorage → (next buffer source).buffer.block.WithinStorage) :
    (first.andThen next).buffer.block.WithinStorage := by
  obtain ⟨outcome, buffer, source, events, dropped⟩ := first
  cases outcome with
  | error halt => exact hfirst
  | ok _ => exact hnext buffer source hfirst

theorem Buffer.withinStorage_store [Sized α] {buffer : Buffer α} (hfits : buffer.block.WithinStorage) (value : α)
    (source : σ) : (buffer.store value source).buffer.block.WithinStorage := by
  unfold store Block.push
  split
  · rename_i hpush
    split at hpush
    · cases hpush
      exact hfits
    · cases hpush
  · exact hfits

section

variable [Sized α] [BlockSource σ] (hstorage : FitsStorage σ (Sized.bytes α))
include hstorage

/-- A block is obtained within storage. -/
theorem Block.withinStorage_allocate {capacity : Nat} {source : σ} {block : Block α}
    (h : (allocate capacity source).1 = .ok block) : block.WithinStorage := by
  unfold allocate at h
  split at h
  · cases h
    exact Nat.le_trans (Nat.le_of_eq (Nat.zero_mul _)) (Nat.zero_le _)
  · have hgranted := hstorage source capacity
    generalize BlockSource.request source (Sized.bytes α) capacity = answer at h hgranted
    obtain ⟨reply, next⟩ := answer
    cases reply with
    | refused => cases h
    | panic message => cases h
    | granted room held =>
      simp only at h
      split at h
      · cases h
        exact hgranted room held rfl
      · cases h

namespace Buffer

theorem withinStorage_replaceBlock {buffer : Buffer α} (hfits : buffer.block.WithinStorage) (capacity : Nat)
    (reason : Reason) (source : σ) :
    (buffer.replaceBlock capacity reason source).buffer.block.WithinStorage := by
  have hallocate := @Block.withinStorage_allocate σ α _ _ hstorage capacity source
  unfold replaceBlock
  generalize Block.allocate (α := α) capacity source = allocation at hallocate
  obtain ⟨result, next⟩ := allocation
  rcases result with (_ | message) | block
  · exact hfits
  · exact hfits
  · cases hmove : buffer.block.moveInto block with
    | error cause =>
      simp only [hmove]
      exact hfits
    | ok blocks =>
      obtain ⟨emptied, filled⟩ := blocks
      simp only [hmove, Block.WithinStorage, Block.room_moveInto hmove]
      exact hallocate rfl

theorem withinStorage_enlarge {buffer : Buffer α} (hfits : buffer.block.WithinStorage) (capacity : Nat)
    (reason : Reason) (source : σ) :
    (buffer.enlarge capacity reason source).buffer.block.WithinStorage :=
  Attempt.withinStorage_andThen (withinStorage_replaceBlock hstorage hfits capacity reason source) fun _ _ h => h

theorem withinStorage_push {buffer : Buffer α} (hfits : buffer.block.WithinStorage) (value : α) (source : σ) :
    (buffer.push value source).buffer.block.WithinStorage := by
  unfold push
  split
  · apply Attempt.withinStorage_andThen
    · unfold grow
      split
      · exact hfits
      · exact withinStorage_enlarge hstorage hfits _ _ _
    · intro grown next hgrown
      exact withinStorage_store hgrown value next
  · exact withinStorage_store hfits value source

theorem withinStorage_pushAll {buffer : Buffer α} (hfits : buffer.block.WithinStorage) (values : List α) (source : σ) :
    (buffer.pushAll values source).buffer.block.WithinStorage :=
  pushAll_preserves (P := fun buffer _ => buffer.block.WithinStorage)
    (fun value _ source h => withinStorage_push hstorage h value source) values hfits

theorem withinStorage_reserve {buffer : Buffer α} (hfits : buffer.block.WithinStorage) (additional : Nat) (source : σ) :
    (buffer.reserve additional source).buffer.block.WithinStorage := by
  unfold reserve
  split
  · exact hfits
  · split
    · exact hfits
    · split
      · exact hfits
      · exact withinStorage_enlarge hstorage hfits _ _ _

theorem withinStorage_fit {buffer : Buffer α} (hfits : buffer.block.WithinStorage) (source : σ) :
    (buffer.fit source).buffer.block.WithinStorage := by
  unfold fit
  split
  · exact hfits
  · exact withinStorage_replaceBlock hstorage hfits _ _ _

theorem withinStorage_build {id : BufferId} {config : Config} {source : σ} {buffer : Buffer α}
    (h : (build id config source).outcome = .ok buffer) : buffer.block.WithinStorage := by
  have hallocate := @Block.withinStorage_allocate σ α _ _ hstorage config.initial source
  unfold build at h
  generalize Block.allocate (α := α) config.initial source = allocation at h hallocate
  obtain ⟨result, next⟩ := allocation
  split at h
  · cases h
  · rcases result with (_ | message) | block
    · cases h
    · cases h
    · cases h
      exact hallocate rfl

theorem withinStorage_copy {id : BufferId} {source : σ} {buffer result : Buffer α}
    (h : (buffer.copy id source).outcome = .ok result) : result.block.WithinStorage := by
  have hallocate := @Block.withinStorage_allocate σ α _ _ hstorage buffer.length source
  have hcases := Block.allocate_cases (α := α) buffer.length source
  unfold copy at h
  generalize Block.allocate (α := α) buffer.length source = allocation at h hallocate hcases
  obtain ⟨obtained, next⟩ := allocation
  rcases hcases with ⟨room, -, rfl⟩ | rfl | ⟨message, rfl⟩
  · simp only [pushEach_toList] at h
    cases h
    have hroom : Block.WithinStorage ⟨#[], buffer.length, room⟩ := hallocate rfl
    exact hroom
  · cases h
  · cases h

end Buffer

end

/-- Every action leaves a block that fits into storage. -/
theorem Action.withinStorage_perform [Element α] [BlockSource σ] (hstorage : FitsStorage σ (Sized.bytes α))
    {buffer : Buffer α} (hfits : buffer.block.WithinStorage) (action : Action α) (source : σ) :
    (action.perform buffer source).buffer.block.WithinStorage := by
  by_cases hplace : action.mayAllocate = false
  · obtain ⟨-, elements, -, hbuffer⟩ := Action.perform_inPlace hplace buffer source
    rw [hbuffer]
    exact hfits
  · cases action with
    | push value => exact Buffer.withinStorage_push hstorage hfits value source
    | pushAll values => exact Buffer.withinStorage_pushAll hstorage hfits values source
    | extend values =>
      show (buffer.extend values source).buffer.block.WithinStorage
      rw [Buffer.extend_buffer]
      exact Buffer.withinStorage_pushAll hstorage hfits values source
    | reserve additional => exact Buffer.withinStorage_reserve hstorage hfits additional source
    | fit => exact Buffer.withinStorage_fit hstorage hfits source
    | _ => exact absurd rfl hplace

/-- The sources of this library keep within storage. -/
theorem Allocator.fitsStorage (bytes : Nat) : FitsStorage Allocator bytes := by
  intro allocator capacity room held h
  change (allocator.request bytes capacity).1 = _ at h
  by_cases hzero : bytes = 0
  · rw [hzero, Nat.mul_zero]
    exact Nat.zero_le _
  · have hpos := Nat.pos_of_ne_zero hzero
    cases allocator with
    | system =>
      simp only [request, systemReply, if_neg hzero] at h
      split at h
      · rename_i hlimit
        cases h
        have hless : systemLimit ≤ bytesMax := by decide
        omega
      · cases h
    | counting requests => exact slots_bytes_le hpos h
    | failing budget calls =>
      simp only [request] at h
      split at h
      · cases h
      · exact slots_bytes_le hpos h
    | scripted turns requests =>
      simp only [request] at h
      generalize turns[requests.length]?.getD .exact = turn at h
      cases turn with
      | refuse => cases h
      | exact | short | ample | occupied => exact slots_bytes_le hpos h

namespace Session

variable [Element α] [BlockSource σ]

/-- Every block of the session fits into storage. -/
def WithinStorage (session : Session σ α k) : Prop :=
  ∀ name slot, session.buffers.find? name = some slot → slot.buffer.block.WithinStorage

theorem withinStorage_entrant (hstorage : FitsStorage σ (Sized.bytes (Item α))) {session : Session σ α k}
    {slot : Slot (Item α) k} (h : Entrant session slot) : slot.buffer.block.WithinStorage := by
  have hnew : (Buffer.new session.nextId : Buffer (Item α)).block.WithinStorage :=
    Nat.le_trans (Nat.le_of_eq (Nat.zero_mul _)) (Nat.zero_le _)
  cases h with
  | new provider => exact hnew
  | build hbuild => exact Buffer.withinStorage_build hstorage hbuild
  | @collect values _ =>
    show (Buffer.extend values _ session.pool.heap).buffer.block.WithinStorage
    rw [Buffer.extend_buffer]
    exact Buffer.withinStorage_pushAll hstorage hnew values _
  | copy hfind hcopy => exact Buffer.withinStorage_copy hstorage hcopy

/-- A step builds only blocks that fit into storage, and every action keeps within it. -/
theorem WithinStorage.step (hstorage : FitsStorage σ (Sized.bytes (Item α))) {session : Session σ α k}
    (hfits : session.WithinStorage) (command : Command α) : (session.step command).2.WithinStorage := by
  intro target result hfind
  rw [buffers_step] at hfind
  rcases Move.find?_onBuffers_cases (fits_move command session) hfind with
    hmove | ⟨name, slot, hslot, -, rfl⟩
  · exact withinStorage_entrant hstorage (entrant_of_move hmove)
  · unfold Move.onSlot
    cases (session.move command).action? name with
    | none => exact hfits name slot hslot
    | some action => exact action.withinStorage_perform hstorage (hfits name slot hslot) _

/-- **No check fails, and no size overflows.** Start with any sources, whatever they answer, and carry out any commands.
If the next one panics, it is not because a value was pushed into a full block, or because elements had no slots to be
moved to; and if an index had no element, it is one that the caller handed in, and not that of a reference.

Every block that is obtained, and every one that a buffer has, has a slot for each of its elements, so its free slots
can be counted. Its size in bytes fits into storage, if no source sets aside more than that. -/
theorem run_is_safe (pool : Pool σ k) (commands : List (Command α)) :
    let session : Session σ α k := (start pool).run commands
    (∀ command cause, (session.step command).1.outcome = .error (.panic cause) →
      (∀ capacity, cause ≠ .blockFull capacity) ∧
      (∀ free moved, cause ≠ .blockTooSmall free moved) ∧
      ∀ index length, cause = .indexOutOfBounds index length →
        command.indexes? = some index ∧ length ≤ index) ∧
    (∀ name slot, session.buffers.find? name = some slot →
      slot.buffer.length ≤ slot.buffer.capacity ∧
      slot.buffer.remaining + slot.buffer.length = slot.buffer.capacity ∧
      (FitsStorage σ (Sized.bytes α) → slot.buffer.memoryBytes ≤ bytesMax)) ∧
    ∀ (source : σ) (capacity : Nat) (block : Block (Item α)), (Block.allocate capacity source).1 = .ok block →
      block.length ≤ block.capacity ∧ (FitsStorage σ (Sized.bytes α) → block.memoryBytes ≤ bytesMax) := by
  intro session
  have hsound : session.Sound := Reachable.sound ⟨pool, commands, rfl⟩
  refine ⟨?_, ?_, ?_⟩
  · intro command cause hpanic
    rcases panic_step hsound hpanic with houtward | ⟨index, length, hindex, hle, rfl⟩
    · refine ⟨?_, ?_, ?_⟩
      · rintro capacity rfl
        cases houtward
      · rintro free moved rfl
        cases houtward
      · rintro index length rfl
        cases houtward
    · refine ⟨?_, ?_, ?_⟩
      · intro capacity h
        cases h
      · intro free moved h
        cases h
      · intro index' length' h
        cases h
        exact ⟨hindex, hle⟩
  · intro name slot hfind
    have hlength := (hsound name slot hfind).length_le
    refine ⟨hlength, Nat.sub_add_cancel hlength, fun hstorage => ?_⟩
    have hfits : session.WithinStorage :=
      run_induction (fun command _ h => h.step hstorage command) commands (fun _ _ h => by cases h)
    exact (hfits name slot hfind).memoryBytes_le (hsound name slot hfind).capacity_le_room
  · intro source capacity block hblock
    obtain ⟨room, hroom, rfl⟩ := Block.eq_of_allocate hblock
    refine ⟨Nat.zero_le capacity, fun hstorage => ?_⟩
    have hitems : FitsStorage σ (Sized.bytes (Item α)) := hstorage
    have hfits := Block.withinStorage_allocate hitems hblock
    exact hfits.memoryBytes_le hroom

/-- The source hands out a block with four times the slots that were asked for, then one that is too small, and then it
refuses, so that one call is declined and one panics. The buffer of eight-byte words still counts its slots, and its
reference is checked before it is used. -/
theorem run_is_safe_with_script :
    let pool : Pool Allocator 0 := ⟨.scripted [.ample, .short, .refuse] [], #v[], #v[]⟩
    let commands : List (Command UInt64) :=
      [.build "a" { initialCapacity := 2 } none, .act "a" (.pushAll [1, 2, 3]), .refer "a" 1 "r",
        .act "a" (.extend [4]), .act "a" .fit]
    let session := (start pool).run commands
    (session.buffers.find? "a").isSome = true ∧
      (∀ index length,
        (session.step (.resolve "a" "r")).1.outcome ≠ .error (.panic (.indexOutOfBounds index length))) ∧
      ∀ slot, session.buffers.find? "a" = some slot →
        slot.buffer.remaining + slot.buffer.length = slot.buffer.capacity ∧
          slot.buffer.memoryBytes ≤ 9223372036854775807 := by
  intro pool commands session
  have hbuilt : (session.buffers.find? "a").isSome = true := by decide +kernel
  clear_value pool commands
  obtain ⟨hpanic, hbuffers, -⟩ := run_is_safe pool commands
  refine ⟨hbuilt, ?_, ?_⟩
  · intro index length hcause
    obtain ⟨-, -, hindex⟩ := hpanic (.resolve "a" "r") _ hcause
    obtain ⟨hcaller, -⟩ := hindex index length rfl
    cases hcaller
  · intro slot hfind
    obtain ⟨-, hremaining, hbytes⟩ := hbuffers "a" slot hfind
    exact ⟨hremaining, hbytes (Allocator.fitsStorage 8)⟩

end Session

end ElasticBuffer
