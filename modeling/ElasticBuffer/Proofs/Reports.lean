import ElasticBuffer.Proofs.Lifetime

/-!
# What a buffer reports of its storage

A buffer that replaces its block reports the two capacities, the new generation and the reason. It also counts: its
generation goes on, and so does its number of growths if the new block is larger. The three are kept in different
places. This module shows that they agree after every action (`Action.told_perform`): the reports, read from the first
one on, lead from the capacity of the buffer before to the one after, and both counters can be read off them
(`Buffer.Told`). For a buffer without a past, `Buffer.Recounts` says the same in plain numbers.
-/

namespace ElasticBuffer

variable {σ α : Type} {k : Nat}

/-! ### Reported replacements -/

/-- The replacement of a block, as it is reported. -/
structure Change where
  /-- The capacity of the old block. -/
  before : Nat
  /-- The capacity of the new block. -/
  after : Nat
  /-- The generation from then on. -/
  generation : Generation
  /-- Why the block was replaced. -/
  reason : Reason
deriving DecidableEq, Repr

namespace Change

/-- The new block is the larger one. -/
def grows (change : Change) : Bool := change.before < change.after

/-- A block becomes larger for a value or for room, and smaller to give up slots. -/
def Explained (change : Change) : Prop :=
  match change.reason with
  | .append => change.before < change.after
  | .reserve => change.before < change.after
  | .shrink => change.after < change.before

/-- The reason tells which block is larger, and the capacities tell the reason. -/
theorem Explained.reason_iff {change : Change} (h : change.Explained) :
    (change.reason = .append ∨ change.reason = .reserve ↔ change.before < change.after) ∧
      (change.reason = .shrink ↔ change.after < change.before) ∧ change.before ≠ change.after := by
  obtain ⟨before, after, generation, reason⟩ := change
  cases reason with
  | append =>
    have hlt : before < after := h
    simp only [hlt, true_or, reduceCtorEq, false_iff]
    exact ⟨trivial, by omega, by omega⟩
  | reserve =>
    have hlt : before < after := h
    simp only [hlt, or_true, reduceCtorEq, false_iff]
    exact ⟨trivial, by omega, by omega⟩
  | shrink =>
    have hlt : after < before := h
    simp only [hlt, reduceCtorEq, or_self, false_iff]
    exact ⟨by omega, trivial, by omega⟩

end Change

/-- The replacement of the block of a buffer that an event reports. -/
def Event.change? (id : BufferId) : Event → Option Change
  | replaced buffer before after generation reason =>
    if buffer = id then some ⟨before, after, generation, reason⟩ else none
  | _ => none

/-- The replacements of the block of a buffer that a log reports, in order. -/
def changesOf (id : BufferId) (events : List Event) : List Change := events.filterMap (Event.change? id)

/-- Replacements have a level and a message of their own. -/
theorem Event.exists_change?_iff (event : Event) :
    (∃ id change, event.change? id = some change) ↔
      event.level = .debug ∧ event.message = "storage block replaced" := by
  cases event with
  | replaced buffer before after generation reason =>
    exact iff_of_true ⟨buffer, _, if_pos rfl⟩ ⟨rfl, rfl⟩
  | _ => simp [change?, level]

@[simp] theorem changesOf_nil (id : BufferId) : changesOf id [] = [] := rfl

@[simp] theorem changesOf_append (id : BufferId) (first second : List Event) :
    changesOf id (first ++ second) = changesOf id first ++ changesOf id second :=
  List.filterMap_append

namespace Generation

theorem successors_add (first second : Nat) (generation : Generation) :
    successors (first + second) generation =
      successors first generation ++ successors second (generation.advance first) := by
  induction first generalizing generation with
  | zero => rw [Nat.zero_add, advance_zero]; rfl
  | succ first ih =>
    rw [Nat.succ_add, successors, successors, ih, List.cons_append, next_eq_advance, advance_advance,
      Nat.add_comm 1 first]

theorem toNat_advance_initial {count : Nat} (h : count < UInt64.size) :
    (initial.advance count).count.toNat = count := by
  rw [advance, initial, UInt64.zero_add]
  exact UInt64.toNat_ofNat_of_lt' h

/-- The generations of a new buffer are one, two, three and so on, as long as they are words. -/
theorem map_toNat_successors (start : Nat) {count : Nat} (h : start + count < UInt64.size) :
    (successors count (initial.advance start)).map (fun generation => generation.count.toNat) =
      List.range' (start + 1) count := by
  induction count generalizing start with
  | zero => rfl
  | succ count ih =>
    rw [successors, List.map_cons, next_advance, ih _ (by omega), toNat_advance_initial (by omega),
      List.range'_succ]

end Generation

/-! ### The reports of one buffer -/

namespace Buffer

/-- The second buffer has come of the first by replacing its block `count` times, and `events` are what was reported
on the way. -/
structure Told (buffer : Buffer α) (events : List Event) (count : Nat) (after : Buffer α) : Prop where
  /-- The buffer is the same. -/
  id_eq : after.id = buffer.id
  /-- Each replacement was reported. -/
  length_eq : (changesOf buffer.id events).length = count
  /-- No replacement was reported for another buffer. -/
  silent (id : BufferId) : id ≠ buffer.id → changesOf id events = []
  /-- Each report begins with the capacity that the one before ended with. -/
  capacities_eq : (changesOf buffer.id events).map Change.before ++ [after.capacity] =
    buffer.capacity :: (changesOf buffer.id events).map Change.after
  /-- The generations follow one another. -/
  generations_eq : (changesOf buffer.id events).map Change.generation =
    Generation.successors count buffer.generation
  /-- The buffer has the last of them. -/
  generation_eq : after.generation = buffer.generation.advance count
  /-- The growths are the reports of larger blocks. -/
  growthEvents_eq : after.growthEvents =
    buffer.growthEvents + (changesOf buffer.id events).countP Change.grows
  /-- The reasons fit. -/
  explained (change : Change) : change ∈ changesOf buffer.id events → change.Explained

/-- No replacement is reported if the block stays, whatever becomes of the elements. -/
theorem Told.of_silent {buffer : Buffer α} {events : List Event} (h : ∀ id, changesOf id events = [])
    (elements : Array α) : Told buffer events 0 (buffer.withElements elements) := by
  refine ⟨rfl, ?_, fun id _ => h id, ?_, ?_, (Generation.advance_zero _).symm, ?_, ?_⟩
  · rw [h]; rfl
  · rw [h]; rfl
  · rw [h]; rfl
  · rw [h]; rfl
  · intro change hmem
    rw [h] at hmem
    cases hmem

theorem Told.same {buffer : Buffer α} {events : List Event} (h : ∀ id, changesOf id events = []) :
    Told buffer events 0 buffer :=
  .of_silent h buffer.block.elements

theorem Told.refl (buffer : Buffer α) : Told buffer [] 0 buffer := .same fun _ => rfl

theorem Told.trans {buffer middle after : Buffer α} {events more : List Event} {count rest : Nat}
    (hfirst : Told buffer events count middle) (hsecond : Told middle more rest after) :
    Told buffer (events ++ more) (count + rest) after := by
  obtain ⟨hid, hlength, hsilent, hcapacities, hgenerations, hgeneration, hgrowths, hexplained⟩ := hsecond
  rw [hfirst.id_eq] at hid hlength hsilent hcapacities hgenerations hgrowths hexplained
  refine ⟨hid, ?_, fun id hne => ?_, ?_, ?_, ?_, ?_, ?_⟩
  · rw [changesOf_append, List.length_append, hfirst.length_eq, hlength]
  · rw [changesOf_append, hfirst.silent id hne, hsilent id hne, List.append_nil]
  · rw [changesOf_append, List.map_append, List.map_append, List.append_assoc, hcapacities,
      List.append_cons, hfirst.capacities_eq, List.cons_append]
  · rw [changesOf_append, List.map_append, hfirst.generations_eq, hgenerations, hfirst.generation_eq,
      Generation.successors_add]
  · rw [hgeneration, hfirst.generation_eq, Generation.advance_advance]
  · rw [changesOf_append, List.countP_append, hgrowths, hfirst.growthEvents_eq, Nat.add_assoc]
  · intro change hmem
    rw [changesOf_append] at hmem
    rcases List.mem_append.1 hmem with hold | hnew
    · exact hfirst.explained change hold
    · exact hexplained change hnew

/-- A block that is replaced is reported once, and one that cannot be replaced is not. -/
theorem Replacement.told {buffer : Buffer α} {capacity growths : Nat} {reason : Reason} {source : σ}
    {attempt : Attempt σ α} (hcases : Replacement buffer capacity reason growths source attempt)
    (hexplained : Change.Explained ⟨buffer.capacity, capacity, buffer.generation.next, reason⟩)
    (hgrowths : growths = if buffer.capacity < capacity then 1 else 0) :
    Told buffer attempt.events (if attempt.outcome.isOk then 1 else 0) attempt.buffer := by
  cases hcases with
  | moved room hroom =>
    have hself : changesOf buffer.id
        [.replaced buffer.id buffer.capacity capacity buffer.generation.next reason] =
          [⟨buffer.capacity, capacity, buffer.generation.next, reason⟩] := by
      simp only [changesOf, Event.change?, List.filterMap_cons, List.filterMap_nil, if_true]
    refine ⟨rfl, ?_, fun id hne => ?_, ?_, ?_, rfl, ?_, ?_⟩
    · rw [hself]; rfl
    · simp only [changesOf, Event.change?, List.filterMap_cons, List.filterMap_nil, if_neg (Ne.symm hne)]
    · rw [hself]; rfl
    · rw [hself]; rfl
    · rw [hself, List.countP_singleton]
      show buffer.growthEvents + growths = _
      simp only [hgrowths, Change.grows, decide_eq_true_eq]
    · intro change hmem
      rw [hself, List.mem_singleton] at hmem
      rw [hmem]
      exact hexplained
  | refused => exact .same fun _ => rfl
  | panicked message => exact .refl buffer

/-- The changes are the whole history of a buffer that was built with a block of `initial` slots, and has replaced its
block less often than there are words. -/
structure Recounts (buffer : Buffer α) (initial : Nat) (changes : List Change) : Prop where
  /-- The first change begins with the capacity that the buffer was built with, each later one with the capacity that
  the one before ended with, and the last one ended with the capacity that the buffer has. -/
  capacities_eq : changes.map Change.before ++ [buffer.capacity] = initial :: changes.map Change.after
  /-- The changes have the generations one, two, three and so on. -/
  generations_eq : changes.map (fun change => change.generation.count.toNat) = List.range' 1 changes.length
  /-- The generation of the buffer is the number of changes. -/
  generation_eq : buffer.generation.count.toNat = changes.length
  /-- The growths of the buffer are the changes to a larger block. -/
  growthEvents_eq : buffer.growthEvents = changes.countP Change.grows
  /-- The reason of a change tells whether the block became larger or smaller, and it did become one of them. -/
  reason_iff (change : Change) : change ∈ changes →
    (change.reason = .append ∨ change.reason = .reserve ↔ change.before < change.after) ∧
      (change.reason = .shrink ↔ change.after < change.before) ∧ change.before ≠ change.after

theorem Told.recounts {id : BufferId} {config : Config} {block : Block α} {events : List Event} {count : Nat}
    {after : Buffer α} (h : (fresh id config block).Told events count after) (hcount : count < UInt64.size) :
    after.Recounts block.capacity (changesOf id events) where
  capacities_eq := h.capacities_eq
  generations_eq := by
    have hcounted := Generation.map_toNat_successors 0 (show 0 + count < UInt64.size by omega)
    rw [Generation.advance_zero] at hcounted
    calc (changesOf id events).map (fun change => change.generation.count.toNat)
      _ = ((changesOf id events).map Change.generation).map fun generation => generation.count.toNat := by
        rw [List.map_map]
        rfl
      _ = (Generation.successors count .initial).map fun generation => generation.count.toNat :=
        congrArg (List.map _) h.generations_eq
      _ = List.range' 1 count := hcounted
      _ = List.range' 1 (changesOf id events).length := congrArg (List.range' 1) h.length_eq.symm
  generation_eq :=
    calc after.generation.count.toNat
      _ = (Generation.initial.advance count).count.toNat :=
        congrArg (fun generation => generation.count.toNat) h.generation_eq
      _ = count := Generation.toNat_advance_initial hcount
      _ = (changesOf id events).length := h.length_eq.symm
  growthEvents_eq := h.growthEvents_eq.trans (Nat.zero_add _)
  reason_iff change hmem := (h.explained change hmem).reason_iff

variable [Sized α] [BlockSource σ]

theorem told_push {buffer : Buffer α} (hlength : buffer.length ≤ buffer.capacity) (value : α) (source : σ) :
    Told buffer (buffer.push value source).events ((Action.push value).replacements buffer source)
      (buffer.push value source).buffer := by
  simp only [Action.replacements]
  rcases push_cases value source hlength with
    ⟨hfree, hpush⟩ | ⟨-, -, hpush⟩ | ⟨hfull, hgrown, attempt, hcases, hpush⟩
  · rw [hpush, if_neg (fun h => by omega)]
    exact .of_silent (fun _ => rfl) _
  · rw [hpush, if_neg (fun h => by cases h.2)]
    exact .same fun _ => rfl
  · have htold := hcases.told hgrown (if_pos hgrown).symm
    rw [hpush]
    cases hcases with
    | moved room hroom =>
      -- the value is stored in the new block without another report
      rw [if_pos ⟨hfull, rfl⟩]
      exact htold.trans (.of_silent (fun _ => rfl) _)
    | refused =>
      rw [if_neg (fun h => by cases h.2)]
      exact htold
    | panicked message =>
      rw [if_neg (fun h => by cases h.2)]
      exact htold

theorem told_pushAll (values : List α) {buffer : Buffer α} (hlength : buffer.length ≤ buffer.capacity)
    (source : σ) :
    Told buffer (buffer.pushAll values source).events (buffer.fullPushes values source)
      (buffer.pushAll values source).buffer := by
  induction values generalizing buffer source with
  | nil => exact .refl buffer
  | cons value values ih =>
    have hfirst := told_push hlength value source
    simp only [Action.replacements] at hfirst
    cases houtcome : (buffer.push value source).outcome with
    | error halt =>
      rw [pushAll_cons_of_error houtcome, fullPushes]
      simp only [houtcome]
      rw [houtcome, if_neg (fun h => by cases h.2)] at hfirst
      exact hfirst
    | ok _ =>
      rw [pushAll_cons_of_ok houtcome, fullPushes]
      simp only [houtcome]
      have hnext := (Evolves.refl.push hlength value source).length_le hlength
      have hcount : (if buffer.length = buffer.capacity ∧
          (buffer.push value source).outcome.isOk = true then 1 else 0) =
            if buffer.length = buffer.capacity then 1 else 0 := by
        simp [houtcome, Except.isOk, Except.toBool]
      rw [hcount] at hfirst
      exact hfirst.trans (ih hnext _)

theorem extend_events (values : List α) (buffer : Buffer α) (source : σ) :
    (buffer.extend values source).events = (buffer.pushAll values source).events := by
  simp only [extend]
  split <;> rfl

theorem told_extend (values : List α) {buffer : Buffer α} (hlength : buffer.length ≤ buffer.capacity)
    (source : σ) :
    Told buffer (buffer.extend values source).events (buffer.fullPushes values source)
      (buffer.extend values source).buffer := by
  rw [extend_events, extend_buffer]
  exact told_pushAll values hlength source

theorem told_reserve (additional : Nat) (buffer : Buffer α) (source : σ) :
    Told buffer (buffer.reserve additional source).events
      ((Action.reserve additional).replacements buffer source)
      (buffer.reserve additional source).buffer := by
  simp only [Action.replacements]
  rcases reserve_cases additional buffer source with
    ⟨-, hreserve⟩ | ⟨hroom, hreserve⟩ | ⟨-, -, hreserve⟩ | ⟨hroom, hceiling, hcases⟩
  · rw [hreserve, if_neg (fun h => by cases h.2)]
    exact .refl buffer
  · rw [hreserve, if_neg (fun h => by omega)]
    exact .refl buffer
  · rw [hreserve, if_neg (fun h => by cases h.2)]
    exact .same fun _ => rfl
  · -- the new block holds what is needed, which the old one does not
    have hneeded := le_reservedCapacity hceiling
    have hgrown : buffer.capacity < buffer.reservedCapacity (buffer.length + additional) := by omega
    simp only [hroom, true_and]
    exact hcases.told hgrown (if_pos hgrown).symm

theorem told_fit {buffer : Buffer α} (hlength : buffer.length ≤ buffer.capacity) (source : σ) :
    Told buffer (buffer.fit source).events (Action.fit.replacements buffer source)
      (buffer.fit source).buffer := by
  simp only [Action.replacements]
  rcases fit_cases buffer source with ⟨hfull, hfit⟩ | ⟨hfull, hcases⟩
  · rw [hfit, if_neg (fun h => by omega)]
    exact .refl buffer
  · have hfree : buffer.length < buffer.capacity := by omega
    simp only [hfree, true_and]
    exact hcases.told hfree (if_neg (by omega)).symm

omit [Sized α] [BlockSource σ] in
/-- A reference that is not accepted is no replacement. -/
theorem changesOf_checkEvents (id : BufferId) (r : Reference) (buffer : Buffer α) :
    changesOf id (buffer.checkEvents r) = [] := by
  unfold checkEvents
  split
  · rfl
  · split <;> rfl

end Buffer

namespace Action

variable [Element α] [BlockSource σ]

theorem changesOf_perform {action : Action α} (h : action.mayAllocate = false) (buffer : Buffer α)
    (source : σ) (id : BufferId) : changesOf id (action.perform buffer source).events = [] := by
  cases action with
  | push | pushAll | extend | reserve | fit => cases h
  | elementAt i =>
    rw [perform]
    cases buffer.elementAt i <;> rfl
  | index i =>
    rw [perform]
    cases buffer.index i <;> rfl
  | refer i =>
    rw [perform]
    cases buffer.refer i <;> rfl
  | put i value =>
    rw [perform]
    cases buffer.swapAt? i value <;> rfl
  | putIndex i value =>
    rw [perform]
    cases buffer.swapAt i value <;> rfl
  | resolve reference => exact Buffer.changesOf_checkEvents id reference buffer
  | overwrite reference value =>
    rw [perform]
    cases buffer.resolveSwap reference value <;> exact Buffer.changesOf_checkEvents id reference buffer
  | _ => rfl

/-- **An action reports each replacement of the block**, and nothing else as a replacement. -/
theorem told_perform (action : Action α) {buffer : Buffer α} (hlength : buffer.length ≤ buffer.capacity)
    (source : σ) :
    buffer.Told (action.perform buffer source).events (action.replacements buffer source)
      (action.perform buffer source).buffer := by
  by_cases hplace : action.mayAllocate = false
  · obtain ⟨-, elements, -, hbuffer⟩ := perform_inPlace hplace buffer source
    have hcount : action.replacements buffer source = 0 := by
      cases action <;> first | rfl | cases hplace
    rw [hbuffer, hcount]
    exact .of_silent (changesOf_perform hplace buffer source) elements
  · cases action with
    | push value => exact Buffer.told_push hlength value source
    | pushAll values => exact Buffer.told_pushAll values hlength source
    | extend values => exact Buffer.told_extend values hlength source
    | reserve additional => exact Buffer.told_reserve additional buffer source
    | fit => exact Buffer.told_fit hlength source
    | _ => exact absurd rfl hplace

end Action

end ElasticBuffer
