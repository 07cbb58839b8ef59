import ElasticBuffer.Proofs.Lifetime
import ElasticBuffer.Proofs.Recording

/-!
# Growth along the policy

A buffer that is filled by pushes replaces its block whenever the block is full, each time by one of the capacity
that follows in the policy, and never above the ceiling (`Config.grow`). So all that a run of pushes does is
determined by where it begins and by how many elements there are in the end: the block is replaced the least
number of times that brings the capacity there (`Config.Reaches`).

The proofs follow a buffer that is *ready* for a number of elements (`Buffer.Ready`): its source will grant the
blocks that are still missing. A push leaves it ready, with one block less to come if the block was full. What
pushes do, runs of pushes do, and so does a session that appends values to one of its buffers in any of the ways
there are (`Session.appends_follow_policy`).
-/

namespace ElasticBuffer

variable {σ τ α : Type} {k : Nat}

/-! ### Capacities along the policy -/

namespace Config

/-- The capacity that follows: where the policy goes to, but the ceiling if that is above it or not a word. -/
def grow (config : Config) (capacity : Nat) : Nat :=
  match config.growth.next? capacity with
  | some next => min next config.ceiling
  | none => config.ceiling

/-- The capacity after a number of steps. -/
def grown (config : Config) : (count capacity : Nat) → Nat
  | 0, capacity => capacity
  | count + 1, capacity => config.grown count (config.grow capacity)

/-- The capacities that a number of steps lead through, the first one not included. -/
def steps (config : Config) : (count capacity : Nat) → List Nat
  | 0, _ => []
  | count + 1, capacity => config.grow capacity :: config.steps count (config.grow capacity)

/-- Below the ceiling, every step goes up. -/
theorem lt_grow {config : Config} {capacity : Nat} (h : capacity < config.ceiling) :
    capacity < config.grow capacity := by
  unfold grow
  cases hnext : config.growth.next? capacity with
  | none => exact h
  | some next => exact Nat.lt_min.2 ⟨Growth.lt_of_next? hnext, h⟩

theorem grown_add (config : Config) (first second capacity : Nat) :
    config.grown (first + second) capacity = config.grown second (config.grown first capacity) := by
  induction first generalizing capacity with
  | zero => rw [Nat.zero_add, grown]
  | succ first ih => rw [Nat.succ_add, grown, grown, ih]

theorem steps_add (config : Config) (first second capacity : Nat) :
    config.steps (first + second) capacity =
      config.steps first capacity ++ config.steps second (config.grown first capacity) := by
  induction first generalizing capacity with
  | zero => rw [Nat.zero_add, steps, grown, List.nil_append]
  | succ first ih => rw [Nat.succ_add, steps, steps, grown, ih, List.cons_append]

/-- From `capacity` on, `count` steps and no fewer lead to room for `needed` elements. -/
structure Reaches (config : Config) (capacity needed count : Nat) : Prop where
  /-- There is room after all the steps. -/
  le : needed ≤ config.grown count capacity
  /-- There is too little room after fewer steps. -/
  lt (fewer : Nat) : fewer < count → config.grown fewer capacity < needed

namespace Reaches

variable {config : Config} {capacity needed count : Nat}

theorem of_le (h : needed ≤ capacity) : config.Reaches capacity needed 0 :=
  ⟨h, fun _ hfewer => absurd hfewer (Nat.not_lt_zero _)⟩

theorem eq_zero (hreaches : config.Reaches capacity needed count) (h : needed ≤ capacity) : count = 0 := by
  cases count with
  | zero => rfl
  | succ count => exact absurd (hreaches.lt 0 (Nat.succ_pos count)) (Nat.not_lt.2 h)

/-- Without room, there is a first step. -/
theorem exists_succ (hreaches : config.Reaches capacity needed count) (h : capacity < needed) :
    ∃ rest, count = rest + 1 ∧ config.Reaches (config.grow capacity) needed rest := by
  cases count with
  | zero => exact absurd hreaches.le (Nat.not_le.2 h)
  | succ rest =>
    refine ⟨rest, rfl, hreaches.le, fun fewer hfewer => ?_⟩
    exact hreaches.lt (fewer + 1) (Nat.succ_lt_succ hfewer)

theorem succ (hreaches : config.Reaches (config.grow capacity) needed count) (h : capacity < needed) :
    config.Reaches capacity needed (count + 1) := by
  refine ⟨hreaches.le, fun fewer hfewer => ?_⟩
  cases fewer with
  | zero => exact h
  | succ fewer => exact hreaches.lt fewer (Nat.lt_of_succ_lt_succ hfewer)

/-- The least number of steps is one number. -/
theorem unique {other : Nat} (hreaches : config.Reaches capacity needed count)
    (hother : config.Reaches capacity needed other) : count = other := by
  rcases Nat.lt_trichotomy count other with hlt | heq | hgt
  · exact absurd hreaches.le (Nat.not_le.2 (hother.lt count hlt))
  · exact heq
  · exact absurd hother.le (Nat.not_le.2 (hreaches.lt other hgt))

/-- Below the ceiling, one step makes room for one element more. -/
theorem eq_one (hreaches : config.Reaches capacity (capacity + 1) count) (h : capacity < config.ceiling) :
    count = 1 :=
  hreaches.unique (succ (.of_le (lt_grow h)) (Nat.lt_succ_self capacity))

end Reaches

/-- All room within the ceiling is reached. -/
theorem exists_reaches {config : Config} {needed : Nat} (h : needed ≤ config.ceiling) (capacity : Nat) :
    ∃ count, config.Reaches capacity needed count := by
  -- each step makes the gap between the capacity and the ceiling smaller
  induction hgap : config.ceiling - capacity using Nat.strongRecOn generalizing capacity with
  | ind gap ih =>
    by_cases hroom : needed ≤ capacity
    · exact ⟨0, .of_le hroom⟩
    · have hgrow := lt_grow (show capacity < config.ceiling by omega)
      obtain ⟨count, hreaches⟩ := ih _ (by omega) (config.grow capacity) rfl
      exact ⟨count + 1, hreaches.succ (Nat.lt_of_not_le hroom)⟩

end Config

/-! ### Requests that are granted -/

section

variable [BlockSource σ]

/-- The source grants requests for the given capacities, made one after the other. -/
def Grants (bytes : Nat) : List Nat → σ → Prop
  | [], _ => True
  | capacity :: rest, source =>
    (BlockSource.request source bytes capacity).1.Accepts capacity ∧
      Grants bytes rest (BlockSource.request source bytes capacity).2

instance decidableGrants (bytes : Nat) : (capacities : List Nat) → (source : σ) →
    Decidable (Grants bytes capacities source)
  | [], _ => inferInstanceAs (Decidable True)
  | capacity :: rest, source =>
    have := decidableGrants bytes rest (BlockSource.request source bytes capacity).2
    inferInstanceAs (Decidable (_ ∧ _))

/-- The source after requests for the given capacities. -/
def requestAll (bytes : Nat) : List Nat → σ → σ
  | [], source => source
  | capacity :: rest, source => requestAll bytes rest (BlockSource.request source bytes capacity).2

theorem requestAll_append (bytes : Nat) (first second : List Nat) (source : σ) :
    requestAll bytes (first ++ second) source = requestAll bytes second (requestAll bytes first source) := by
  induction first generalizing source with
  | nil => rfl
  | cons capacity first ih => exact ih _

/-- A record grows by the requests, in order. -/
theorem requests_requestAll (bytes : Nat) (capacities : List Nat) (recorder : Recorder σ) :
    (requestAll bytes capacities recorder).requests = recorder.requests ++ capacities := by
  induction capacities generalizing recorder with
  | nil => exact (List.append_nil _).symm
  | cons capacity rest ih =>
    rw [requestAll, ih]
    exact List.append_assoc ..

/-- What a source is like inside, the answers do not show. -/
theorem grants_map [BlockSource τ] {f : σ → τ} (hf : Commutes f) (bytes : Nat) (capacities : List Nat)
    (source : σ) : Grants bytes capacities (f source) ↔ Grants bytes capacities source := by
  induction capacities generalizing source with
  | nil => exact Iff.rfl
  | cons capacity rest ih =>
    rw [Grants, Grants, hf.request]
    exact and_congr_right fun _ => ih _

/-- A request that is granted leads to a block. -/
theorem Block.allocate_of_accepts [Sized α] {capacity : Nat} {source : σ} (hpos : capacity ≠ 0)
    (h : (BlockSource.request source (Sized.bytes α) capacity).1.Accepts capacity) :
    ∃ room, Block.allocate (α := α) capacity source =
      (.ok ⟨#[], capacity, room⟩, (BlockSource.request source (Sized.bytes α) capacity).2) := by
  have hblock := allocate_judgement (α := α) hpos source
  rw [Reply.judgement_of_accepts h] at hblock
  obtain ⟨room, -, hroom⟩ := hblock
  exact ⟨room, Prod.ext hroom (source_allocate hpos source)⟩

end

/-! ### Pushes into a buffer that is ready -/

namespace Buffer

/-- The second buffer and source come of the first ones by storing values behind the elements, for which the block
was replaced `count` times along the policy. -/
structure Grown [Sized α] [BlockSource σ] (buffer : Buffer α) (source : σ) (values : List α) (count : Nat)
    (after : Buffer α) (left : σ) : Prop where
  /-- The values stand behind the elements. -/
  toList_eq : after.toList = buffer.toList ++ values
  /-- The settings stay. -/
  config_eq : after.config = buffer.config
  /-- The capacity went on along the policy. -/
  capacity_eq : after.capacity = buffer.config.grown count buffer.capacity
  /-- Each new block is a new generation. -/
  generation_eq : after.generation = buffer.generation.advance count
  /-- Each new block is a growth. -/
  growthEvents_eq : after.growthEvents = buffer.growthEvents + count
  /-- The source was asked for the capacities on the way, and for nothing else. -/
  source_eq : left = requestAll (Sized.bytes α) (buffer.config.steps count buffer.capacity) source

/-- The buffer lacks `count` blocks until it can hold `needed` elements, and its source will grant them. -/
structure Ready [Sized α] [BlockSource σ] (buffer : Buffer α) (source : σ) (needed count : Nat) : Prop where
  /-- Every element has a slot. -/
  length_le : buffer.length ≤ buffer.capacity
  /-- The ceiling allows for the elements. -/
  needed_le : needed ≤ buffer.config.ceiling
  /-- So many steps of the policy lead there. -/
  reaches : buffer.config.Reaches buffer.capacity needed count
  /-- The source will grant them. -/
  grants : Grants (Sized.bytes α) (buffer.config.steps count buffer.capacity) source

/-- A full buffer asks for the capacity that follows. -/
theorem grownCapacity_eq (buffer : Buffer α) :
    buffer.grownCapacity = buffer.config.grow buffer.capacity := rfl

variable [Sized α] [BlockSource σ]

theorem Grown.refl (buffer : Buffer α) (source : σ) : Grown buffer source [] 0 buffer source :=
  ⟨(List.append_nil _).symm, rfl, rfl, (Generation.advance_zero _).symm, rfl, rfl⟩

theorem Grown.trans {buffer middle after : Buffer α} {source between left : σ} {values more : List α}
    {count rest : Nat} (hfirst : Grown buffer source values count middle between)
    (hsecond : Grown middle between more rest after left) :
    Grown buffer source (values ++ more) (count + rest) after left where
  toList_eq := by rw [hsecond.toList_eq, hfirst.toList_eq, List.append_assoc]
  config_eq := hsecond.config_eq.trans hfirst.config_eq
  capacity_eq := by
    rw [hsecond.capacity_eq, hfirst.config_eq, hfirst.capacity_eq, Config.grown_add]
  generation_eq := by
    rw [hsecond.generation_eq, hfirst.generation_eq, Generation.advance_advance]
  growthEvents_eq := by rw [hsecond.growthEvents_eq, hfirst.growthEvents_eq, Nat.add_assoc]
  source_eq := by
    rw [hsecond.source_eq, hfirst.source_eq, hfirst.config_eq, hfirst.capacity_eq, Config.steps_add,
      requestAll_append]

/-- A block that is granted takes the elements in. -/
theorem enlarge_of_accepts {buffer : Buffer α} {capacity : Nat} (reason : Reason) {source : σ}
    (hpos : capacity ≠ 0) (hlength : buffer.length ≤ capacity)
    (h : (BlockSource.request source (Sized.bytes α) capacity).1.Accepts capacity) :
    ∃ room events, buffer.enlarge capacity reason source =
      ⟨.ok (), buffer.rehouse capacity room 1, (BlockSource.request source (Sized.bytes α) capacity).2,
        events, []⟩ := by
  obtain ⟨room, hallocate⟩ := Block.allocate_of_accepts (α := α) hpos h
  obtain ⟨old, hmove, hold⟩ := Block.moveInto_of_le room (show buffer.block.length ≤ capacity from hlength)
  refine ⟨room, [.replaced buffer.id buffer.capacity capacity buffer.generation.next reason], ?_⟩
  rw [enlarge, replaceBlock, hallocate]
  simp only [hmove, hold]
  rfl

/-- A push onto a full block stores the value in the next block, if the source grants it. -/
theorem push_of_accepts {buffer : Buffer α} {source : σ} (value : α)
    (hfull : buffer.length = buffer.capacity) (hgrown : buffer.capacity < buffer.grownCapacity)
    (h : (BlockSource.request source (Sized.bytes α) buffer.grownCapacity).1.Accepts buffer.grownCapacity) :
    ∃ room events, buffer.push value source =
      ⟨.ok (), (buffer.rehouse buffer.grownCapacity room 1).append value,
        (BlockSource.request source (Sized.bytes α) buffer.grownCapacity).2, events, []⟩ := by
  obtain ⟨room, events, henlarge⟩ := enlarge_of_accepts .append
    (Nat.ne_zero_of_lt hgrown) (show buffer.length ≤ buffer.grownCapacity by omega) h
  refine ⟨room, events ++ [], ?_⟩
  rw [push, if_pos (isFull_iff.2 hfull), grow, if_neg (Nat.not_le.2 hgrown), henlarge,
    Attempt.andThen_of_ok rfl, store_of_lt _ (by rw [length_rehouse, capacity_rehouse]; omega)]
  rfl

/-- **A push leaves a buffer ready**, with one block less to come if its block was full. -/
theorem Ready.push {buffer : Buffer α} {source : σ} {needed count : Nat}
    (hready : buffer.Ready source needed count) (value : α) (hneeded : buffer.length < needed) :
    (buffer.push value source).outcome = .ok () ∧
      ∃ first rest, count = first + rest ∧
        Grown buffer source [value] first (buffer.push value source).buffer
          (buffer.push value source).source ∧
        (buffer.push value source).buffer.Ready (buffer.push value source).source needed rest := by
  by_cases hfull : buffer.length = buffer.capacity
  · -- the next block is the first one on the way
    have hceiling := hready.needed_le
    have hgrown : buffer.capacity < buffer.grownCapacity := by
      rw [grownCapacity_eq]
      exact Config.lt_grow (by omega)
    obtain ⟨rest, rfl, hreaches⟩ := hready.reaches.exists_succ (by omega)
    obtain ⟨haccepts, hgrants⟩ := hready.grants
    obtain ⟨room, events, hpush⟩ := push_of_accepts value hfull hgrown haccepts
    rw [hpush]
    refine ⟨rfl, 1, rest, Nat.add_comm rest 1, ?_, ?_, hceiling, hreaches, hgrants⟩
    · exact ⟨toList_append value _, rfl, rfl, rfl, rfl, rfl⟩
    · show (buffer.block.elements.push value).size ≤ buffer.grownCapacity
      rw [Array.size_push]
      show buffer.length < buffer.grownCapacity
      omega
  · have hfree : buffer.length < buffer.capacity := Nat.lt_of_le_of_ne hready.length_le hfull
    have hpush : buffer.push value source = .done (buffer.append value) source := by
      rw [Buffer.push, if_neg (by rw [isFull_iff]; exact hfull), store_of_lt source hfree]
    rw [hpush]
    refine ⟨rfl, 0, count, (Nat.zero_add count).symm, ?_, ?_, hready.needed_le, hready.reaches,
      hready.grants⟩
    · exact ⟨toList_append value _, rfl, rfl, (Generation.advance_zero _).symm, rfl, rfl⟩
    · show (buffer.block.elements.push value).size ≤ buffer.capacity
      rw [Array.size_push]
      exact hfree

/-- **So does a run of pushes.** -/
theorem Ready.pushAll {buffer : Buffer α} {source : σ} {needed count : Nat}
    (hready : buffer.Ready source needed count) (values : List α)
    (hneeded : buffer.length + values.length ≤ needed) :
    (buffer.pushAll values source).outcome = .ok () ∧
      ∃ first rest, count = first + rest ∧
        Grown buffer source values first (buffer.pushAll values source).buffer
          (buffer.pushAll values source).source ∧
        (buffer.pushAll values source).buffer.Ready (buffer.pushAll values source).source needed
          rest := by
  induction values generalizing buffer source count with
  | nil => exact ⟨rfl, 0, count, (Nat.zero_add count).symm, .refl buffer source, hready⟩
  | cons value values ih =>
    rw [List.length_cons] at hneeded
    obtain ⟨hok, first, rest, rfl, hgrown, hnext⟩ := hready.push value (by omega)
    have hlength : (buffer.push value source).buffer.length = buffer.length + 1 := by
      rw [← length_toList, hgrown.toList_eq, List.length_append, length_toList, List.length_singleton]
    obtain ⟨hoks, second, last, rfl, hgrowns, hlast⟩ := ih hnext (by omega)
    rw [pushAll_cons_of_ok hok]
    exact ⟨hoks, first + second, last, (Nat.add_assoc ..).symm, hgrown.trans hgrowns, hlast⟩

end Buffer

/-! ### Actions that append -/

/-- The action puts its values behind the elements. -/
def Action.isAppend : Action α → Bool
  | push _ => true
  | pushAll _ => true
  | extend _ => true
  | _ => false

theorem Buffer.Ready.perform [Element α] [BlockSource σ] {buffer : Buffer α} {source : σ} {needed count : Nat}
    (hready : buffer.Ready source needed count) {action : Action α} (happend : action.isAppend = true)
    (hneeded : buffer.length + action.values.length ≤ needed) :
    (action.perform buffer source).outcome.isOk = true ∧
      ∃ first rest, count = first + rest ∧
        Grown buffer source action.values first (action.perform buffer source).buffer
          (action.perform buffer source).source ∧
        (action.perform buffer source).buffer.Ready (action.perform buffer source).source needed
          rest := by
  cases action with
  | push value =>
    obtain ⟨hok, hrest⟩ := hready.push value hneeded
    refine ⟨?_, hrest⟩
    simp only [Action.perform, Effect.ofPush, Effect.ofAttempt, hok]
    rfl
  | pushAll values =>
    obtain ⟨hok, hrest⟩ := hready.pushAll values hneeded
    refine ⟨?_, hrest⟩
    simp only [Action.perform, Effect.ofIntake, hok]
    rfl
  | extend values =>
    obtain ⟨hok, hrest⟩ := hready.pushAll values hneeded
    have hextend : buffer.extend values source = buffer.pushAll values source := by
      simp only [Buffer.extend, hok]
    simp only [Action.perform, hextend]
    refine ⟨?_, hrest⟩
    simp only [Effect.ofIntake, hok]
    rfl
  | _ => cases happend

/-! ### Sessions -/

theorem Item.number_append (start : Nat) (first second : List α) :
    number start (first ++ second) = number start first ++ number (start + first.length) second := by
  induction first generalizing start with
  | nil => rfl
  | cons value first ih =>
    rw [List.cons_append, number, number, ih, List.length_cons, List.cons_append, Nat.succ_add_eq_add_succ]

namespace Session

/-- The session with an empty record at each of its sources. -/
def recorded (session : Session σ α k) : Session (Recorder σ) α k :=
  session.mapSource fun source => { inner := source }

theorem mapSource_recorded (session : Session σ α k) :
    session.recorded.mapSource Recorder.inner = session :=
  session.mapSource_cancel fun _ => rfl

theorem source_recorded (provider : Provider k) (session : Session σ α k) :
    session.recorded.pool.source provider = { inner := session.pool.source provider } :=
  source_pool_mapSource _ provider session

variable [Element α] [BlockSource σ]

/-- What becomes of a session in which values are appended to one buffer, for which its block is replaced `count`
times along the policy. -/
structure Appended (session : Session σ α k) (name : String) (slot : Slot (Item α) k) (values : List α)
    (count : Nat) (after : Session σ α k) (slot' : Slot (Item α) k) : Prop where
  /-- The name still stands for a buffer. -/
  find?_eq : after.buffers.find? name = some slot'
  /-- It draws on the same source. -/
  provider_eq : slot'.provider = slot.provider
  /-- The values were numbered in a row. -/
  issued_eq : after.ledger.issued = session.ledger.issued + values.length
  /-- The buffer and its source went on along the policy. -/
  grown : slot.buffer.Grown (session.pool.source slot.provider) (Item.number session.ledger.issued values)
    count slot'.buffer (after.pool.source slot.provider)
  /-- No other source was asked. -/
  source_eq (other : Provider k) : other ≠ slot.provider →
    after.pool.source other = session.pool.source other

theorem Appended.refl {session : Session σ α k} {name : String} {slot : Slot (Item α) k}
    (hfind : session.buffers.find? name = some slot) : Appended session name slot [] 0 session slot :=
  ⟨hfind, rfl, rfl, .refl _ _, fun _ _ => rfl⟩

theorem Appended.trans {session middle after : Session σ α k} {name : String}
    {slot between slot' : Slot (Item α) k} {values more : List α} {count rest : Nat}
    (hfirst : Appended session name slot values count middle between)
    (hsecond : Appended middle name between more rest after slot') :
    Appended session name slot (values ++ more) (count + rest) after slot' := by
  have hprovider := hfirst.provider_eq
  refine ⟨hsecond.find?_eq, hsecond.provider_eq.trans hprovider, ?_, ?_, fun other hother => ?_⟩
  · rw [hsecond.issued_eq, hfirst.issued_eq, List.length_append, Nat.add_assoc]
  · have hgrown := hsecond.grown
    rw [hprovider, hfirst.issued_eq] at hgrown
    rw [Item.number_append]
    exact hfirst.grown.trans hgrown
  · rw [hsecond.source_eq other (by rw [hprovider]; exact hother), hfirst.source_eq other hother]

/-- An action that appends to a buffer that is ready leaves the buffer ready. -/
theorem appended_act {session : Session σ α k} {name : String} {slot : Slot (Item α) k}
    (hfind : session.buffers.find? name = some slot) {needed count : Nat}
    (hready : slot.buffer.Ready (session.pool.source slot.provider) needed count) {action : Action α}
    (happend : action.isAppend = true) (hneeded : slot.buffer.length + action.values.length ≤ needed) :
    (session.act name action).1.outcome.isOk = true ∧
      ∃ slot' first rest, count = first + rest ∧
        Appended session name slot action.values first (session.act name action).2 slot' ∧
        slot'.buffer.Ready ((session.act name action).2.pool.source slot'.provider) needed rest := by
  have hvalues := Action.values_number session.ledger.issued action
  have hnumber : (action.number session.ledger.issued).isAppend = true := by
    rw [← happend]
    cases action <;> rfl
  obtain ⟨hok, first, rest, hcount, hgrown, hrest⟩ := hready.perform hnumber
    (by rw [hvalues, Item.length_number]; exact hneeded)
  rw [hvalues] at hgrown
  simp only [act, hfind]
  refine ⟨hok, _, first, rest, hcount, ⟨Names.find?_insert_self .., rfl, ?_, ?_, ?_⟩, ?_⟩
  · show session.ledger.issued + _ = _
    rw [hvalues, Item.length_number]
  · rw [updateSource, Pool.source_update_self]
    exact hgrown
  · intro other hother
    exact Pool.source_update_of_ne hother _ session.pool
  · rw [updateSource, Pool.source_update_self]
    exact hrest

/-- **Appending goes along the policy**, whatever the values come in. -/
theorem appended_run {session : Session σ α k} {name : String} {slot : Slot (Item α) k}
    (hfind : session.buffers.find? name = some slot) {needed count : Nat}
    (hready : slot.buffer.Ready (session.pool.source slot.provider) needed count)
    {actions : List (Action α)} (happend : ∀ action ∈ actions, action.isAppend = true)
    (hneeded : slot.buffer.length + (actions.flatMap Action.values).length ≤ needed) :
    (∀ result ∈ session.trace (actions.map (Command.act name)), result.1.outcome.isOk = true) ∧
      ∃ slot' first rest, count = first + rest ∧
        Appended session name slot (actions.flatMap Action.values) first
          (session.run (actions.map (Command.act name))) slot' ∧
        slot'.buffer.Ready
          ((session.run (actions.map (Command.act name))).pool.source slot'.provider) needed rest := by
  induction actions generalizing session slot count with
  | nil =>
    refine ⟨fun result hmem => ?_, slot, 0, count, (Nat.zero_add count).symm, .refl hfind, hready⟩
    cases hmem
  | cons action actions ih =>
    rw [List.flatMap_cons, List.length_append] at hneeded
    rw [List.forall_mem_cons] at happend
    obtain ⟨hok, between, first, rest, rfl, hfirst, hnext⟩ :=
      appended_act hfind hready happend.1 (by omega)
    have hlength : between.buffer.length = slot.buffer.length + action.values.length := by
      rw [← Buffer.length_toList, hfirst.grown.toList_eq, List.length_append, Buffer.length_toList,
        Item.length_number]
    obtain ⟨hoks, slot', second, last, rfl, hsecond, hlast⟩ :=
      ih hfirst.find?_eq hnext happend.2 (by omega)
    refine ⟨?_, slot', first + second, last, (Nat.add_assoc ..).symm, hfirst.trans hsecond, hlast⟩
    intro result hmem
    rcases List.mem_cons.1 hmem with rfl | hmem
    · exact hok
    · exact hoks result hmem

/-- At the end there is room for just the elements, so no block is left to come. -/
theorem appended_run_reaches (session : Session σ α k) {name : String} {slot : Slot (Item α) k}
    (hfind : session.buffers.find? name = some slot) (hlength : slot.buffer.length ≤ slot.buffer.capacity)
    {actions : List (Action α)} (happend : ∀ action ∈ actions, action.isAppend = true)
    (hceiling : slot.buffer.length + (actions.flatMap Action.values).length ≤ slot.buffer.config.ceiling)
    {count : Nat}
    (hreaches : slot.buffer.config.Reaches slot.buffer.capacity
      (slot.buffer.length + (actions.flatMap Action.values).length) count)
    (hgrants : Grants (Sized.bytes α) (slot.buffer.config.steps count slot.buffer.capacity)
      (session.pool.source slot.provider)) :
    (∀ result ∈ session.trace (actions.map (Command.act name)), result.1.outcome.isOk = true) ∧
      ∃ slot', Appended session name slot (actions.flatMap Action.values) count
        (session.run (actions.map (Command.act name))) slot' := by
  obtain ⟨hok, slot', first, rest, rfl, happended, hready⟩ :=
    appended_run hfind ⟨hlength, hceiling, hreaches, hgrants⟩ happend (Nat.le_refl _)
  have hlength' : slot'.buffer.length = slot.buffer.length + (actions.flatMap Action.values).length := by
    rw [← Buffer.length_toList, happended.grown.toList_eq, List.length_append, Buffer.length_toList,
      Item.length_number]
  have hrest : rest = 0 := hready.reaches.eq_zero (by rw [← hlength']; exact hready.length_le)
  rw [hrest, Nat.add_zero]
  exact ⟨hok, slot', happended⟩

/-- **Appending follows the policy.** Take any buffer of any session that a run can lead to, and append values to
it, one by one, in series, or in both ways by turns, no more of them than the ceiling allows for. There is a least
number of steps of the policy that leads from the capacity of the buffer to room for all elements; it is one if just
one value finds no slot. If the source grants the requests for the capacities on these steps, every call is carried
out. The buffer holds its elements and the values behind them, its capacity is the last one on the way, and its
generation and its growths went on by the number of steps. A record of the run shows that the source was asked for
the capacities on the way in their order, and for no other, and that no other source was asked. -/
theorem appends_follow_policy {session : Session σ α k} (hreachable : session.Reachable) {name : String}
    {slot : Slot (Item α) k} (hfind : session.buffers.find? name = some slot) {actions : List (Action α)}
    (happend : ∀ action ∈ actions, action.isAppend = true)
    (hceiling :
      slot.buffer.length + (actions.flatMap Action.values).length ≤ slot.buffer.config.ceiling) :
    let values := actions.flatMap Action.values
    let commands := actions.map (Command.act name)
    let config := slot.buffer.config
    ∃ count, config.Reaches slot.buffer.capacity (slot.buffer.length + values.length) count ∧
      (slot.buffer.length + values.length = slot.buffer.capacity + 1 → count = 1) ∧
      (Grants (Sized.bytes α) (config.steps count slot.buffer.capacity)
          (session.pool.source slot.provider) →
        (∀ result ∈ session.trace commands, result.1.outcome.isOk = true) ∧
        (∃ slot', (session.run commands).buffers.find? name = some slot' ∧
          slot'.buffer.toList = slot.buffer.toList ++ Item.number session.ledger.issued values ∧
          slot'.buffer.capacity = config.grown count slot.buffer.capacity ∧
          slot'.buffer.generation = slot.buffer.generation.advance count ∧
          slot'.buffer.growthEvents = slot.buffer.growthEvents + count) ∧
        (session.recorded.run commands).mapSource Recorder.inner = session.run commands ∧
        ∀ provider, ((session.recorded.run commands).pool.source provider).requests =
          if provider = slot.provider then config.steps count slot.buffer.capacity else []) := by
  intro values commands config
  have hlength := (hreachable.sound name slot hfind).length_le
  obtain ⟨count, hreaches⟩ := Config.exists_reaches hceiling slot.buffer.capacity
  refine ⟨count, hreaches, fun hone => ?_, fun hgrants => ?_⟩
  · have hbelow : slot.buffer.length + values.length ≤ config.ceiling := hceiling
    have hnext : config.Reaches slot.buffer.capacity (slot.buffer.length + values.length) count := hreaches
    rw [hone] at hbelow hnext
    exact hnext.eq_one hbelow
  · obtain ⟨hok, slot', happended⟩ :=
      appended_run_reaches session hfind hlength happend hceiling hreaches hgrants
    have herase : (session.recorded.run commands).mapSource Recorder.inner = session.run commands := by
      rw [← run_mapSource Recorder.commutes_inner, mapSource_recorded]
    refine ⟨hok, ⟨slot', happended.find?_eq, happended.grown.toList_eq, happended.grown.capacity_eq,
      happended.grown.generation_eq, happended.grown.growthEvents_eq⟩, herase, fun provider => ?_⟩
    -- the recorded sources answer alike, so the same holds of them
    have hgrants' : Grants (Sized.bytes α) (config.steps count slot.buffer.capacity)
        (session.recorded.pool.source slot.provider) := by
      rw [source_recorded]
      exact (grants_map Recorder.commutes_inner _ _ _).1 hgrants
    obtain ⟨-, recorded', hrecorded⟩ :=
      appended_run_reaches session.recorded hfind hlength happend hceiling hreaches hgrants'
    by_cases hprovider : provider = slot.provider
    · rw [if_pos hprovider, hprovider, hrecorded.grown.source_eq, source_recorded,
        requests_requestAll]
      rfl
    · rw [if_neg hprovider, hrecorded.source_eq provider hprovider, source_recorded]

/-- A buffer whose policy adds half as much again goes from one slot to two, to three, and then to its ceiling. -/
theorem appends_follow_policy_to_ceiling :
    let config : Config := { initialCapacity := 1, maxCapacity := 4, growth := .threeHalves }
    let session : Session Allocator UInt8 0 :=
      (start ⟨.system, #v[], #v[]⟩).run [.build "a" config none, .act "a" (.push 1)]
    let slot : Slot (Item UInt8) 0 := ⟨⟨⟨#[⟨0, 1⟩], 1, 1⟩, config, .first, .initial, 0⟩, .heap⟩
    let actions : List (Action UInt8) := [.push 2, .pushAll [3], .extend [4]]
    let commands := actions.map (Command.act "a")
    session.buffers.find? "a" = some slot ∧
      config.Reaches 1 4 3 ∧
      (∃ slot', (session.run commands).buffers.find? "a" = some slot' ∧
        slot'.buffer.toList = [⟨0, 1⟩, ⟨1, 2⟩, ⟨2, 3⟩, ⟨3, 4⟩] ∧ slot'.buffer.capacity = 4 ∧
        slot'.buffer.growthEvents = 3) ∧
      ((session.recorded.run commands).pool.source .heap).requests = [2, 3, 4] := by
  intro config session slot actions commands
  have hfind : session.buffers.find? "a" = some slot := rfl
  have hreaches : config.Reaches 1 4 3 := ⟨by decide, by decide⟩
  have happend : ∀ action ∈ actions, action.isAppend = true := by
    intro action hmem
    simp only [actions, List.mem_cons, List.not_mem_nil, or_false] at hmem
    rcases hmem with rfl | rfl | rfl <;> rfl
  obtain ⟨count, hleast, -, hrun⟩ := appends_follow_policy ⟨_, _, rfl⟩ hfind happend (by decide)
  obtain rfl : count = 3 := hleast.unique hreaches
  obtain ⟨-, ⟨slot', hfind', hlist, hcapacity, -, hgrowths⟩, -, hrequests⟩ := hrun (by decide)
  have hgrown : config.grown 3 1 = 4 := by decide
  have hsteps : config.steps 3 1 = [2, 3, 4] := by decide
  refine ⟨hfind, hreaches, ⟨slot', hfind', hlist, hcapacity.trans hgrown, hgrowths⟩, ?_⟩
  exact (hrequests .heap).trans hsteps

end Session

end ElasticBuffer
