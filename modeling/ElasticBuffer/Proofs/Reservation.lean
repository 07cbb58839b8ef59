import ElasticBuffer.Proofs.Acts
import ElasticBuffer.Proofs.Contents

/-!
# Room that is made ahead of time

A buffer can be told how many values are to come. If it agrees, its block has room for all of them, and what was agreed
holds from then on: the values are pushed into free slots, and neither a source nor a log hears of it
(`Session.reserve_keeps_promise`).

That much is true of every buffer with free slots, whatever made them (`Session.filled_run`): as long as the values are
not more than the free slots, a run of calls that append them comes to writing them behind the elements
(`Buffer.appendAll`). So nothing that the sources might answer plays a part in it.
-/

namespace ElasticBuffer

variable {σ α : Type} {k : Nat}

/-! ### Values in free slots -/

namespace Buffer

/-- The buffer with more elements behind the others, in the same block. -/
def appendAll (values : List α) (buffer : Buffer α) : Buffer α :=
  buffer.withElements (buffer.block.elements ++ values.toArray)

@[simp] theorem toList_appendAll (values : List α) (buffer : Buffer α) :
    (buffer.appendAll values).toList = buffer.toList ++ values := by
  simp [appendAll, withElements, toList, Block.toList]

@[simp] theorem capacity_appendAll (values : List α) (buffer : Buffer α) :
    (buffer.appendAll values).capacity = buffer.capacity := rfl

theorem length_appendAll (values : List α) (buffer : Buffer α) :
    (buffer.appendAll values).length = buffer.length + values.length := by
  rw [← length_toList, toList_appendAll, List.length_append, length_toList]

theorem appendAll_nil (buffer : Buffer α) : buffer.appendAll [] = buffer := by
  simp [appendAll, withElements]

theorem appendAll_append (first second : List α) (buffer : Buffer α) :
    (buffer.appendAll first).appendAll second = buffer.appendAll (first ++ second) := by
  simp [appendAll, withElements]

theorem append_eq_appendAll (value : α) (buffer : Buffer α) : buffer.append value = buffer.appendAll [value] := by
  simp [append, appendAll]

/-- A reference stays live while values are stored behind the elements. -/
theorem isLive_appendAll {r : Reference} {buffer : Buffer α} (h : buffer.isLive r = true) (values : List α) :
    (buffer.appendAll values).isLive r = true := by
  have hlength := length_appendAll values buffer
  simp only [isLive, Bool.and_eq_true, decide_eq_true_eq] at h ⊢
  obtain ⟨⟨hid, hgeneration⟩, hindex⟩ := h
  exact ⟨⟨hid, hgeneration⟩, by omega⟩

/-- The capacity that is asked for is the one that follows in the policy, or what is needed if that is more or if no
capacity follows, and the ceiling if that is less. -/
theorem reservedCapacity_eq {needed : Nat} {buffer : Buffer α} (h : needed ≤ buffer.config.ceiling) :
    buffer.reservedCapacity needed =
      match buffer.config.growth.next? buffer.capacity with
      | some next => min (max next needed) buffer.config.ceiling
      | none => needed := by
  unfold reservedCapacity
  cases buffer.config.growth.next? buffer.capacity with
  | some next => rfl
  | none => rw [Option.getD_none, Nat.max_self, Nat.min_eq_left h]

variable [Sized α] [BlockSource σ]

theorem push_of_lt {buffer : Buffer α} (value : α) (source : σ) (h : buffer.length < buffer.capacity) :
    buffer.push value source = .done (buffer.append value) source := by
  rw [push, if_neg (by rw [isFull_iff]; exact Nat.ne_of_lt h), store_of_lt source h]

/-- A series of values goes into free slots. -/
theorem pushAll_of_le (values : List α) {buffer : Buffer α} (source : σ)
    (h : buffer.length + values.length ≤ buffer.capacity) :
    buffer.pushAll values source =
      { Attempt.done (buffer.appendAll values) source with taken := values.length, unstored := [] } := by
  induction values generalizing buffer with
  | nil => rw [appendAll_nil]; rfl
  | cons value values ih =>
    rw [List.length_cons] at h
    have hpush := push_of_lt value source (show buffer.length < buffer.capacity by omega)
    have hnext : (buffer.appendAll [value]).length + values.length ≤ (buffer.appendAll [value]).capacity := by
      rw [length_appendAll, capacity_appendAll, List.length_singleton]
      omega
    rw [pushAll_cons_of_ok (congrArg Attempt.outcome hpush), hpush, append_eq_appendAll]
    simp only [Attempt.done, ih hnext, appendAll_append, List.singleton_append, List.append_nil, List.length_cons]

/-- If room is made, the block had it, or it is replaced by a larger one. -/
theorem reserve_of_ok {buffer : Buffer α} {additional : Nat} {source : σ}
    (hok : (buffer.reserve additional source).outcome.isOk = true) :
    (buffer.length + additional ≤ buffer.capacity ∧ buffer.reserve additional source = .done buffer source) ∨
      (buffer.capacity < buffer.length + additional ∧ buffer.length + additional ≤ buffer.config.ceiling ∧
        ∃ room,
          (buffer.reserve additional source).buffer =
            buffer.rehouse (buffer.reservedCapacity (buffer.length + additional)) room 1 ∧
          (buffer.reserve additional source).events =
            [.replaced buffer.id buffer.capacity (buffer.reservedCapacity (buffer.length + additional))
              buffer.generation.next .reserve]) := by
  rcases reserve_cases additional buffer source with
    ⟨-, hreserve⟩ | hroom | ⟨-, -, hreserve⟩ | ⟨hmore, hceiling, hcases⟩
  · rw [hreserve] at hok
    cases hok
  · exact .inl hroom
  · rw [hreserve] at hok
    cases hok
  · refine .inr ⟨hmore, hceiling, ?_⟩
    generalize buffer.reserve additional source = attempt at hok hcases
    cases hcases with
    | moved room hroom => exact ⟨room, rfl, rfl⟩
    | refused => cases hok
    | panicked message => cases hok

/-- What is true of a buffer that has made room. -/
theorem promise_of_reserve {buffer : Buffer α} (hsound : buffer.Sound) {additional : Nat} {source : σ}
    (hok : (buffer.reserve additional source).outcome.isOk = true) :
    let needed := buffer.length + additional
    let after := (buffer.reserve additional source).buffer
    after.toList = buffer.toList ∧ after.config = buffer.config ∧
      needed ≤ after.capacity ∧ after.capacity ≤ after.config.ceiling ∧
      (needed ≤ buffer.capacity → after = buffer ∧ (buffer.reserve additional source).events = []) ∧
      (buffer.capacity < needed →
        buffer.capacity < after.capacity ∧
        after.capacity =
          (match buffer.config.growth.next? buffer.capacity with
          | some next => min (max next needed) buffer.config.ceiling
          | none => needed) ∧
        after.generation = buffer.generation.next ∧ after.growthEvents = buffer.growthEvents + 1 ∧
        (buffer.reserve additional source).events =
          [.replaced buffer.id buffer.capacity after.capacity buffer.generation.next .reserve]) := by
  intro needed after
  rcases reserve_of_ok hok with ⟨hroom, hreserve⟩ | ⟨hmore, hceiling, room, hafter, hevents⟩
  · have hsame : after = buffer := congrArg Attempt.buffer hreserve
    rw [hsame, hreserve]
    exact ⟨rfl, rfl, hroom, hsound.capacity_le, fun _ => ⟨rfl, rfl⟩, fun hmore => absurd hroom (Nat.not_le.2 hmore)⟩
  · change after = _ at hafter
    have hcapacity : after.capacity = buffer.reservedCapacity needed := by
      rw [hafter]
      rfl
    have hneeded : needed ≤ after.capacity := hcapacity ▸ le_reservedCapacity hceiling
    have hconfig : after.config = buffer.config := by
      rw [hafter]
      rfl
    refine ⟨?_, hconfig, hneeded, ?_, fun hroom => absurd hroom (Nat.not_le.2 hmore), fun _ =>
      ⟨Nat.lt_of_lt_of_le hmore hneeded, hcapacity.trans (reservedCapacity_eq hceiling), ?_, ?_, ?_⟩⟩
    · rw [hafter]
      rfl
    · rw [hcapacity, hconfig]
      exact reservedCapacity_le_ceiling needed buffer
    · rw [hafter]
      rfl
    · rw [hafter]
      rfl
    · rw [hevents, hcapacity]

end Buffer

/-- Values that are appended go into free slots, and neither the source nor the log hears of it. -/
theorem Action.perform_of_room [Element α] [BlockSource σ] {action : Action α} (happend : action.isAppend = true)
    {buffer : Buffer α} (h : buffer.length + action.values.length ≤ buffer.capacity) (source : σ) :
    (action.perform buffer source).outcome.isOk = true ∧
      (action.perform buffer source).buffer = buffer.appendAll action.values ∧
      (action.perform buffer source).source = source ∧ (action.perform buffer source).events = [] := by
  cases action with
  | push value =>
    simp only [perform, Buffer.push_of_lt value source h, Buffer.append_eq_appendAll]
    exact ⟨rfl, rfl, rfl, rfl⟩
  | pushAll values =>
    simp only [perform, Buffer.pushAll_of_le values source h]
    exact ⟨rfl, rfl, rfl, rfl⟩
  | extend values =>
    simp only [perform, Buffer.extend, Buffer.pushAll_of_le values source h]
    exact ⟨rfl, rfl, rfl, rfl⟩
  | _ => cases happend

theorem Effect.isOk_ofAttempt (attempt : Attempt σ α) : (ofAttempt attempt).outcome.isOk = attempt.outcome.isOk := by
  obtain ⟨outcome, buffer, source, events, dropped⟩ := attempt
  cases outcome <;> rfl

namespace Session

/-- The session on other sources. -/
def withPool {τ : Type} (pool : Pool τ k) (session : Session σ α k) : Session τ α k :=
  ⟨session.buffers, session.references, pool, session.nextId, session.ledger⟩

/-- What becomes of a session in which values go into free slots of one buffer. -/
structure Filled (session : Session σ α k) (name : String) (slot : Slot (Item α) k) (values : List α)
    (after : Session σ α k) : Prop where
  /-- The values stand behind the elements, in the same block. -/
  find?_eq : after.buffers.find? name =
    some { slot with buffer := slot.buffer.appendAll (Item.number session.ledger.issued values) }
  /-- The stored references are the same. -/
  references_eq : after.references = session.references
  /-- No source was asked. -/
  pool_eq : after.pool = session.pool
  /-- The values were numbered in a row. -/
  issued_eq : after.ledger.issued = session.ledger.issued + values.length

theorem Filled.refl {session : Session σ α k} {name : String} {slot : Slot (Item α) k}
    (hfind : session.buffers.find? name = some slot) : Filled session name slot [] session := by
  refine ⟨?_, rfl, rfl, rfl⟩
  rw [hfind, Item.number, Buffer.appendAll_nil]

theorem Filled.trans {session middle after : Session σ α k} {name : String} {slot : Slot (Item α) k}
    {first second : List α} (h : Filled session name slot first middle)
    (h' : Filled middle name { slot with buffer := slot.buffer.appendAll (Item.number session.ledger.issued first) }
      second after) :
    Filled session name slot (first ++ second) after := by
  refine ⟨?_, h'.references_eq.trans h.references_eq, h'.pool_eq.trans h.pool_eq, ?_⟩
  · rw [h'.find?_eq, Buffer.appendAll_append, h.issued_eq, Item.number_append]
  · rw [h'.issued_eq, h.issued_eq, List.length_append, Nat.add_assoc]

variable [Element α] [BlockSource σ]

/-- One call puts its values into free slots. -/
theorem filled_act {session : Session σ α k} {name : String} {slot : Slot (Item α) k}
    (hfind : session.buffers.find? name = some slot) {action : Action α} (happend : action.isAppend = true)
    (hroom : slot.buffer.length + action.values.length ≤ slot.buffer.capacity) :
    (session.act name action).1.outcome.isOk = true ∧ (session.act name action).1.events = [] ∧
      Filled session name slot action.values (session.act name action).2 := by
  have hnumber : (action.number session.ledger.issued).isAppend = true := by
    rw [← happend]
    cases action <;> rfl
  have hvalues := Action.values_number session.ledger.issued action
  obtain ⟨hok, hbuffer, hsource, hevents⟩ := Action.perform_of_room hnumber
    (by rw [hvalues, Item.length_number]; exact hroom) (session.pool.source slot.provider)
  rw [act_eq_settle hfind]
  refine ⟨hok, hevents, ?_, rfl, ?_, rfl⟩
  · rw [← hvalues, ← hbuffer]
    exact find?_settle ..
  · simp only [settle, hsource]
    exact Pool.update_source slot.provider session.pool

/-- **Values go into free slots** as long as there are some, one by one or in series. -/
theorem filled_run {session : Session σ α k} {name : String} {slot : Slot (Item α) k}
    (hfind : session.buffers.find? name = some slot) {actions : List (Action α)}
    (happend : ∀ action ∈ actions, action.isAppend = true)
    (hroom : slot.buffer.length + (actions.flatMap Action.values).length ≤ slot.buffer.capacity) :
    (∀ result ∈ session.trace (actions.map (Command.act name)),
        result.1.outcome.isOk = true ∧ result.1.events = []) ∧
      Filled session name slot (actions.flatMap Action.values) (session.run (actions.map (Command.act name))) := by
  induction actions generalizing session slot with
  | nil =>
    refine ⟨fun result hmem => ?_, .refl hfind⟩
    cases hmem
  | cons action actions ih =>
    rw [List.flatMap_cons, List.length_append] at hroom
    rw [List.forall_mem_cons] at happend
    obtain ⟨hok, hevents, hfirst⟩ := filled_act hfind happend.1 (by omega)
    obtain ⟨hrest, hfilled⟩ := ih hfirst.find?_eq happend.2
      (by rw [Buffer.length_appendAll, Buffer.capacity_appendAll, Item.length_number]; omega)
    refine ⟨?_, hfirst.trans hfilled⟩
    intro result hmem
    rcases List.mem_cons.1 hmem with rfl | hmem
    · exact ⟨hok, hevents⟩
    · exact hrest result hmem

/-- Nobody but the buffer notices that its free slots are filled. -/
theorem run_into_room {session : Session σ α k} {name : String} {slot : Slot (Item α) k}
    (hfind : session.buffers.find? name = some slot) {actions : List (Action α)}
    (happend : ∀ action ∈ actions, action.isAppend = true)
    (hroom : slot.buffer.length + (actions.flatMap Action.values).length ≤ slot.buffer.capacity) :
    let commands := actions.map (Command.act name)
    (∀ result ∈ session.trace commands, result.1.outcome.isOk = true ∧ result.1.events = []) ∧
      (session.run commands).pool = session.pool ∧
      (∀ provider, session.requestsIn commands provider = []) ∧
      ∃ later, (session.run commands).buffers.find? name = some later ∧
        later.buffer.toList =
          slot.buffer.toList ++ Item.number session.ledger.issued (actions.flatMap Action.values) ∧
        later.buffer.capacity = slot.buffer.capacity ∧ later.buffer.generation = slot.buffer.generation ∧
        later.buffer.growthEvents = slot.buffer.growthEvents ∧
        ∀ reference, slot.buffer.isLive reference = true → later.buffer.isLive reference = true := by
  intro commands
  have hrecorded : session.recorded.buffers.find? name = some slot := hfind
  obtain ⟨hreports, hfilled⟩ := filled_run hfind happend hroom
  refine ⟨hreports, hfilled.pool_eq, fun provider => ?_, _, hfilled.find?_eq, Buffer.toList_appendAll .., rfl, rfl, rfl,
    fun reference hlive => Buffer.isLive_appendAll hlive _⟩
  obtain ⟨-, hrecord⟩ := filled_run hrecorded happend hroom
  rw [requestsIn, hrecord.pool_eq, source_recorded]

/-- **Room that was made is there.** Take any buffer of any session that a run can lead to, on whatever source, and let
it agree to make room for more values. Then its elements are the same, the room is there, and the capacity is within
the ceiling. If the block had the room, nothing happens. If not, the block is replaced by a larger one. Its capacity is
the one that follows in the policy, or as many slots as are needed if these are more or if no capacity follows, and the
ceiling if that is less.

From then on as many values can be appended, one by one or in series, on whatever sources: every call is carried out,
nothing is reported, no source is asked, capacity, generation and growths stay, and so does every live reference. -/
theorem reserve_keeps_promise {session : Session σ α k} (hreachable : session.Reachable) {name : String}
    {slot : Slot (Item α) k} (hfind : session.buffers.find? name = some slot) {additional : Nat}
    (hok : (session.step (.act name (.reserve additional))).1.outcome.isOk = true) :
    let before := slot.buffer
    let needed := before.length + additional
    let report := (session.step (.act name (.reserve additional))).1
    let reserved := (session.step (.act name (.reserve additional))).2
    ∃ buffer, reserved.buffers.find? name = some { slot with buffer := buffer } ∧
      buffer.toList = before.toList ∧ buffer.config = before.config ∧
      needed ≤ buffer.capacity ∧ buffer.capacity ≤ buffer.config.ceiling ∧
      (needed ≤ before.capacity → buffer = before ∧ report.events = []) ∧
      (before.capacity < needed →
        before.capacity < buffer.capacity ∧
        buffer.capacity =
          (match before.config.growth.next? before.capacity with
          | some next => min (max next needed) before.config.ceiling
          | none => needed) ∧
        buffer.generation = before.generation.next ∧ buffer.growthEvents = before.growthEvents + 1 ∧
        report.events =
          [.replaced before.id before.capacity buffer.capacity before.generation.next .reserve]) ∧
      ∀ (τ : Type) [BlockSource τ] (pool : Pool τ k) (actions : List (Action α)),
        (∀ action ∈ actions, action.isAppend = true) → (actions.flatMap Action.values).length ≤ additional →
        let commands := actions.map (Command.act name)
        (∀ result ∈ (reserved.withPool pool).trace commands,
            result.1.outcome.isOk = true ∧ result.1.events = []) ∧
          ((reserved.withPool pool).run commands).pool = pool ∧
          (∀ provider, (reserved.withPool pool).requestsIn commands provider = []) ∧
          ∃ later, ((reserved.withPool pool).run commands).buffers.find? name = some later ∧
            later.buffer.toList =
              buffer.toList ++ Item.number reserved.ledger.issued (actions.flatMap Action.values) ∧
            later.buffer.capacity = buffer.capacity ∧ later.buffer.generation = buffer.generation ∧
            later.buffer.growthEvents = buffer.growthEvents ∧
            ∀ reference, buffer.isLive reference = true → later.buffer.isLive reference = true := by
  intro before needed report reserved
  have hsound := hreachable.sound name slot hfind
  have hstep : session.step (.act name (.reserve additional)) = _ := act_eq_settle hfind (.reserve additional)
  have hreport : report.events = (before.reserve additional (session.pool.source slot.provider)).events :=
    congrArg (fun result => result.1.events) hstep
  have hreserved : reserved.buffers.find? name =
      some { slot with buffer := (before.reserve additional (session.pool.source slot.provider)).buffer } := by
    show (session.step _).2.buffers.find? name = _
    rw [hstep]
    exact find?_settle ..
  have hagreed : (before.reserve additional (session.pool.source slot.provider)).outcome.isOk = true := by
    rw [← Effect.isOk_ofAttempt, ← hok, hstep]
    rfl
  obtain ⟨helements, hconfig, hneeded, hceiling, hsame, hreplaced⟩ := Buffer.promise_of_reserve hsound hagreed
  rw [← hreport] at hsame hreplaced
  refine ⟨_, hreserved, helements, hconfig, hneeded, hceiling, hsame, hreplaced, ?_⟩
  intro τ _ pool actions happend hcount
  have hlength : (before.reserve additional (session.pool.source slot.provider)).buffer.length = before.length :=
    congrArg List.length helements
  have hpool : (reserved.withPool pool).buffers.find? name = _ := hreserved
  apply run_into_room hpool happend
  show Buffer.length (before.reserve additional _).buffer + _ ≤ _
  rw [hlength]
  exact Nat.le_trans (Nat.add_le_add_left hcount _) hneeded

/-- Elements without size are stored for nothing. Where the next capacity would be no word, as many slots are made as
are needed, and then values are pushed though the source refuses everything. -/
theorem reserve_keeps_promise_near_largest_word :
    let config : Config := { initialCapacity := 10000000000000000000, maxCapacity := 18446744073709551615 }
    let session : Session Allocator Unit 0 := (start ⟨.system, #v[], #v[]⟩).run
      [.build "a" config none, .act "a" (.push ())]
    let reserved := (session.step (.act "a" (.reserve 10000000000000000000))).2
    let refusing : Pool Allocator 0 := ⟨.failing 0 0, #v[], #v[]⟩
    ∃ buffer, reserved.buffers.find? "a" = some ⟨buffer, .heap⟩ ∧ buffer.capacity = 10000000000000000001 ∧
      buffer.growthEvents = 1 ∧
      (∀ result ∈ (reserved.withPool refusing).trace [.act "a" (.push ()), .act "a" (.extend [(), ()])],
        result.1.outcome.isOk = true ∧ result.1.events = []) ∧
      ((reserved.withPool refusing).run [.act "a" (.push ()), .act "a" (.extend [(), ()])]).pool = refusing := by
  intro config session reserved refusing
  have hreachable : session.Reachable := ⟨_, _, rfl⟩
  have hslot : (session.buffers.find? "a").map (fun slot =>
      (slot.buffer.config, slot.buffer.length, slot.buffer.capacity, slot.buffer.growthEvents, slot.provider)) =
        some (config, 1, 10000000000000000000, 0, .heap) := by decide +kernel
  have hok : (session.step (.act "a" (.reserve 10000000000000000000))).1.outcome.isOk = true := by decide +kernel
  have hnext : config.growth.next? 10000000000000000000 = none := by decide
  clear_value session
  obtain ⟨⟨before, provider⟩, hfind, hslot⟩ := Option.map_eq_some_iff.1 hslot
  simp only [Prod.mk.injEq] at hslot
  obtain ⟨hconfig, hlength, hcapacity, hgrowths, rfl⟩ := hslot
  obtain ⟨buffer, hbuffer, -, -, -, -, -, hreplaced, hpromise⟩ := reserve_keeps_promise hreachable hfind hok
  rw [hlength, hcapacity, hconfig, hnext, hgrowths] at hreplaced
  obtain ⟨-, hexact, -, hgrown, -⟩ := hreplaced (by omega)
  obtain ⟨hreports, hpool, -⟩ := hpromise Allocator refusing [.push (), .extend [(), ()]] (by decide) (by decide)
  exact ⟨buffer, hbuffer, hexact, hgrown, hreports, hpool⟩

end Session

end ElasticBuffer
