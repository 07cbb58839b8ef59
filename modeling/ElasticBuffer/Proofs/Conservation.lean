import ElasticBuffer.Proofs.Atomicity
import ElasticBuffer.Proofs.Contents

/-!
# Where the values are

Every value that enters a session, and every copy of one, has a number of its own. This module follows the numbers. At
any time a number stands in some places: at positions of buffers, among those handed to the caller, among those
dropped. `Session.places` counts them.

One step is a matter of accounts (`Session.Accounted`): it adds one place for each value that it creates, and none
for any other. So after every run each number that was issued has one place, and no other number has any
(`Session.values_conserved`). Whatever way an element takes through blocks, buffers and names, it is neither lost
nor held twice.
-/

namespace ElasticBuffer

variable {σ α : Type} {k : Nat}

/-! ### Counting a number among items -/

namespace Item

/-- The number of items that have a serial number. -/
def tally (serial : Nat) (items : List (Item α)) : Nat := (items.map Item.serial).count serial

@[simp] theorem tally_nil (serial : Nat) : tally serial ([] : List (Item α)) = 0 := rfl

@[simp] theorem tally_append (serial : Nat) (first second : List (Item α)) :
    tally serial (first ++ second) = tally serial first + tally serial second := by
  rw [tally, List.map_append, List.count_append]
  rfl

theorem tally_of_perm {first second : List (Item α)} (h : first.Perm second) (serial : Nat) :
    tally serial first = tally serial second :=
  (h.map Item.serial).count_eq serial

theorem tally_take_add_drop (serial count : Nat) (items : List (Item α)) :
    tally serial (items.take count) + tally serial (items.drop count) = tally serial items := by
  rw [← tally_append, List.take_append_drop]

theorem tally_dropLast_add_getLast? (serial : Nat) (items : List (Item α)) :
    tally serial items.dropLast + tally serial items.getLast?.toList = tally serial items := by
  rcases List.eq_nil_or_concat items with rfl | ⟨first, last, rfl⟩
  · rfl
  · rw [← tally_append]
    simp

/-- A write takes one item out and puts another one in. -/
theorem tally_set (serial : Nat) {items : List (Item α)} {i : Nat} {old : Item α}
    (h : items[i]? = some old) (item : Item α) :
    tally serial (items.set i item) + tally serial [old] = tally serial items + tally serial [item] := by
  obtain ⟨hi, hold⟩ := List.getElem?_eq_some_iff.1 h
  have hset : items.set i item = items.take i ++ ([item] ++ items.drop (i + 1)) := by
    rw [List.set_eq_take_append_cons_drop, if_pos hi]
    rfl
  have hitems : items = items.take i ++ ([old] ++ items.drop (i + 1)) := by
    rw [← hold, List.singleton_append, List.getElem_cons_drop, List.take_append_drop]
  have hcount := congrArg (tally serial) hset
  have hcount' := congrArg (tally serial) hitems
  simp only [tally_append] at hcount hcount'
  omega

/-- A change in place that keeps the numbers. -/
theorem tally_mapIdx (serial : Nat) {f : Nat → Item α → Item α}
    (hf : ∀ i item, (f i item).serial = item.serial) (items : List (Item α)) :
    tally serial (items.mapIdx f) = tally serial items := by
  have hsame : (items.mapIdx f).map Item.serial = items.map Item.serial := by
    apply List.ext_getElem
    · simp
    · intro i hi hi'
      simp [hf]
  rw [tally, hsame]
  rfl

/-- Numbers that are issued in a row stand once each. -/
theorem count_range'_eq (serial start count : Nat) :
    (List.range' start count).count serial =
      if start ≤ serial ∧ serial < start + count then 1 else 0 := by
  rw [(List.nodup_range').count]
  simp only [List.mem_range'_1]

theorem tally_number (serial start : Nat) (values : List α) :
    tally serial (number start values) =
      if start ≤ serial ∧ serial < start + values.length then 1 else 0 := by
  rw [tally, map_serial_number, count_range'_eq]

end Item

open Item

/-! ### Actions -/

namespace Buffer

/-- The copied elements are numbered in a row. -/
theorem tally_renumber (serial start : Nat) (buffer : Buffer (Item α)) :
    tally serial (buffer.renumber start).toList =
      if start ≤ serial ∧ serial < start + buffer.length then 1 else 0 := by
  have hserials : (buffer.renumber start).toList.map Item.serial = List.range' start buffer.length := by
    rw [renumber, toList_modify]
    apply List.ext_getElem
    · simp
    · intro i hi hi'
      simp
  rw [tally, hserials, count_range'_eq]

variable [Sized α] [BlockSource σ]

/-- The values that a run of pushes does not store are those from the declined one on. -/
theorem unstored_pushAll (values : List α) (buffer : Buffer α) (source : σ) :
    (buffer.pushAll values source).unstored = values.drop (buffer.accepted values source) := by
  induction values generalizing buffer source with
  | nil => rfl
  | cons value values ih =>
    cases houtcome : (buffer.push value source).outcome with
    | error halt =>
      rw [pushAll_cons_of_error houtcome, accepted]
      simp only [houtcome, List.drop_zero]
    | ok _ =>
      rw [pushAll_cons_of_ok houtcome, accepted]
      simp only [houtcome, List.drop_succ_cons]
      exact ih _ _

theorem unstored_extend (values : List α) (buffer : Buffer α) (source : σ) :
    (buffer.extend values source).unstored = (buffer.pushAll values source).unstored := by
  simp only [extend]
  split <;> rfl

/-- A run of pushes that is carried out stores all values. -/
theorem accepted_of_isOk {values : List α} {buffer : Buffer α} {source : σ}
    (h : (buffer.pushAll values source).outcome.isOk = true) :
    buffer.accepted values source = values.length := by
  cases hpush : (buffer.pushAll values source).outcome with
  | error halt =>
    rw [hpush] at h
    cases h
  | ok _ => exact accepted_of_ok values hpush

end Buffer

/-- **An action loses nothing and doubles nothing**: what was in the buffer and what came along is in the buffer,
handed to the caller, or dropped. -/
theorem Action.tally_perform [Element α] [BlockSource σ] (action : Action (Item α))
    {buffer : Buffer (Item α)} (hlength : buffer.length ≤ buffer.capacity) (source : σ) (serial : Nat) :
    tally serial (action.perform buffer source).buffer.toList +
        tally serial (action.perform buffer source).returned +
        tally serial (action.perform buffer source).dropped =
      tally serial buffer.toList + tally serial action.values := by
  -- a write to an element there is
  have hwrite {i : Nat} {old : Item α} (item : Item α) (hold : buffer.toList[i]? = some old) :
      tally serial (buffer.write i item).toList + 0 + tally serial [old] =
        tally serial buffer.toList + tally serial [item] := by
    rw [Buffer.toList_write, Nat.add_zero]
    exact tally_set serial hold item
  cases action with
  | push value =>
    have hlist := Buffer.toList_push hlength value source
    have hdropped := Buffer.dropped_push hlength value source
    simp only [perform, Effect.ofPush, Effect.ofAttempt, values, hlist, hdropped]
    cases (buffer.push value source).outcome with
    | ok _ => exact tally_append serial buffer.toList [value]
    | error halt => rfl
  | pushAll items =>
    have hlist := Buffer.toList_pushAll items hlength source
    have hrest := Buffer.unstored_pushAll items buffer source
    have hdropped := Buffer.dropped_pushAll hlength items source
    simp only [perform, Effect.ofIntake, values, hlist, hrest, hdropped, tally_append, tally_nil, Nat.add_zero,
      List.nil_append]
    rw [Nat.add_assoc, tally_take_add_drop]
  | extend items =>
    have hlist := Buffer.toList_pushAll items hlength source
    have hrest := Buffer.unstored_pushAll items buffer source
    rw [← Buffer.extend_buffer] at hlist
    rw [← Buffer.unstored_extend] at hrest
    have hdropped := Buffer.dropped_extend hlength items source
    simp only [perform, Effect.ofIntake, values, hlist, hrest, hdropped, tally_append, tally_nil, Nat.add_zero,
      List.nil_append]
    rw [Nat.add_assoc, tally_take_add_drop]
  | reserve additional =>
    simp only [perform, Effect.ofAttempt, values, Buffer.toList_reserve, Buffer.dropped_reserve, tally_nil]
  | fit => simp only [perform, Effect.ofAttempt, values, Buffer.toList_fit, Buffer.dropped_fit, tally_nil]
  | pop =>
    simp only [perform, values, Buffer.toList_pop, Buffer.pop_fst, tally_nil, Nat.add_zero]
    exact tally_dropLast_add_getLast? serial buffer.toList
  | truncate length =>
    simp only [perform, values, Buffer.toList_truncate, tally_nil, Nat.add_zero]
    exact tally_take_add_drop serial length buffer.toList
  | clear => simp only [perform, values, Buffer.toList_clear, tally_nil, Nat.zero_add, Nat.add_zero]
  | reverse =>
    simp only [perform, Effect.answer, values, Buffer.toList_reverse, tally_nil, Nat.add_zero]
    exact tally_of_perm (List.reverse_perm buffer.toList) serial
  | bumpAll =>
    simp only [perform, Effect.answer, values, Buffer.toList_modify, tally_nil, Nat.add_zero]
    refine tally_mapIdx serial (fun i item => ?_) buffer.toList
    rfl
  | bumpAlternate =>
    simp only [perform, Effect.answer, values, Buffer.toList_modify, tally_nil, Nat.add_zero]
    refine tally_mapIdx serial (fun i item => ?_) buffer.toList
    split <;> rfl
  | put i item =>
    simp only [perform, values]
    by_cases hi : i < buffer.length
    · obtain ⟨old, hold⟩ := Buffer.exists_getElem? hi
      rw [Buffer.swapAt?_of_some item hold]
      exact hwrite item hold
    · rw [Buffer.swapAt?_of_le item (Nat.not_lt.1 hi)]
      rfl
  | putIndex i item =>
    simp only [perform, values]
    by_cases hi : i < buffer.length
    · obtain ⟨old, hold⟩ := Buffer.exists_getElem? hi
      rw [Buffer.swapAt_of_some item hold]
      exact hwrite item hold
    · rw [Buffer.swapAt_of_le item (Nat.not_lt.1 hi)]
      rfl
  | overwrite reference item =>
    simp only [perform, values]
    rcases Buffer.locate_cases reference buffer with ⟨-, hi, hlocate⟩ | ⟨-, fault, hlocate⟩
    · obtain ⟨old, hold⟩ := Buffer.exists_getElem? hi
      rw [Buffer.resolveSwap_of_some item hlocate hold]
      exact hwrite item hold
    · rw [Buffer.resolveSwap_of_locate_error item hlocate]
      rfl
  | elementAt i =>
    simp only [perform]
    cases buffer.elementAt i <;> rfl
  | index i =>
    simp only [perform]
    cases buffer.index i <;> rfl
  | refer i =>
    simp only [perform]
    cases buffer.refer i <;> rfl
  | get | elements | backwards | plainText | prettyText | config | source | resolve | isLive => rfl

/-- An action that may replace the block keeps all elements. Of the values that came along it stores the first ones
behind them, and drops the others; if it is carried out, it stores all. -/
theorem Action.exists_take_of_mayAllocate [Element α] [BlockSource σ] {action : Action α}
    (hgrows : action.mayAllocate = true) {buffer : Buffer α} (hlength : buffer.length ≤ buffer.capacity)
    (source : σ) :
    ∃ count, (action.perform buffer source).buffer.toList = buffer.toList ++ action.values.take count ∧
      (action.perform buffer source).returned = [] ∧
      (action.perform buffer source).dropped = action.values.drop count ∧
      ((action.perform buffer source).outcome.isOk = true → count = action.values.length) := by
  -- a run of pushes stores the values that are accepted, whatever its outcome is called
  have hseries (values : List α) (intake : Intake σ α)
      (hbuffer : intake.buffer = (buffer.pushAll values source).buffer)
      (hunstored : intake.unstored = (buffer.pushAll values source).unstored) (hdropped : intake.dropped = [])
      (hok : intake.outcome.isOk = (buffer.pushAll values source).outcome.isOk) :
      ∃ count, (Effect.ofIntake intake).buffer.toList = buffer.toList ++ values.take count ∧
        (Effect.ofIntake intake).returned = [] ∧
        (Effect.ofIntake intake).dropped = values.drop count ∧
        ((Effect.ofIntake intake).outcome.isOk = true → count = values.length) := by
    refine ⟨buffer.accepted values source, ?_, rfl, ?_, fun h => ?_⟩
    · exact (congrArg Buffer.toList hbuffer).trans (Buffer.toList_pushAll values hlength source)
    · simp only [Effect.ofIntake, hdropped, List.nil_append]
      exact hunstored.trans (Buffer.unstored_pushAll values buffer source)
    · have hdone : intake.outcome.isOk = true := by
        rw [← h]
        simp only [Effect.ofIntake]
        cases intake.outcome <;> rfl
      exact Buffer.accepted_of_isOk (hok.symm.trans hdone)
  cases action with
  | push value =>
    have hlist := Buffer.toList_push hlength value source
    have hdropped := Buffer.dropped_push hlength value source
    simp only [perform, Effect.ofPush, Effect.ofAttempt, values, hlist, hdropped]
    cases (buffer.push value source).outcome with
    | ok _ => exact ⟨1, rfl, trivial, rfl, fun _ => rfl⟩
    | error halt => exact ⟨0, (List.append_nil _).symm, trivial, rfl, fun h => by cases h⟩
  | pushAll values => exact hseries values _ rfl rfl (Buffer.dropped_pushAll hlength values source) rfl
  | extend values =>
    exact hseries values _ (Buffer.extend_buffer ..) (Buffer.unstored_extend ..)
      (Buffer.dropped_extend hlength values source) (Buffer.isOk_extend ..)
  | reserve additional =>
    exact ⟨0, (Buffer.toList_reserve ..).trans (List.append_nil _).symm, rfl, Buffer.dropped_reserve .., fun _ => rfl⟩
  | fit => exact ⟨0, (Buffer.toList_fit ..).trans (List.append_nil _).symm, rfl, Buffer.dropped_fit .., fun _ => rfl⟩
  | _ => cases hgrows

/-! ### The places of a session -/

/-- What stands in a table is what stands under one name and what stands under the others. -/
theorem Names.values_perm {β : Type} (name : String) (table : Names β) :
    table.values.Perm ((table.find? name).toList ++ (table.erase name).values) := by
  obtain ⟨entries, hnodup⟩ := table
  simp only [values, find?, erase]
  induction entries with
  | nil => exact .refl _
  | cons entry rest ih =>
    obtain ⟨key, value⟩ := entry
    rw [List.map_cons, List.nodup_cons] at hnodup
    obtain ⟨hkey, hrest⟩ := hnodup
    by_cases hname : key = name
    · -- the name stands nowhere else
      subst hname
      have hkeep : rest.filter (fun entry => entry.1 ≠ key) = rest := by
        rw [List.filter_eq_self]
        intro entry hentry
        rw [decide_eq_true_iff]
        intro hsame
        exact hkey (List.mem_map.2 ⟨entry, hentry, hsame⟩)
      rw [List.lookup_cons_self, List.filter_cons_of_neg (by simp), hkeep]
      exact .refl _
    · have hother : (name == key) = false := beq_eq_false_iff_ne.2 (Ne.symm hname)
      rw [List.lookup_cons, hother, List.filter_cons_of_pos (by simpa using hname), List.map_cons,
        List.map_cons]
      exact ((ih hrest).cons value).trans List.perm_middle.symm

namespace Session

/-- The number of places at which a serial number stands: in buffers, with the caller, and among what was dropped. -/
def places (serial : Nat) (session : Session σ α k) : Nat :=
  tally serial session.stored + session.ledger.returned.count serial +
    session.ledger.dropped.count serial

/-- The elements of all buffers are those of one name and those of the others. -/
theorem tally_stored (serial : Nat) (name : String) (session : Session σ α k) :
    tally serial session.stored =
      tally serial (session.elementsOf name) + tally serial (session.remove name).stored := by
  have hperm := (session.buffers.values_perm name).flatMap_right fun slot => slot.buffer.toList
  rw [List.flatMap_append] at hperm
  rw [stored, tally_of_perm hperm, tally_append, elementsOf]
  cases session.buffers.find? name with
  | none => rfl
  | some slot =>
    show tally serial (slot.buffer.toList ++ []) + _ = _
    rw [List.append_nil]
    rfl

/-- Values that leave have a place with the caller, or among what was dropped. -/
theorem places_leave (serial : Nat) (handed dropped : List (Item α)) (session : Session σ α k) :
    ({ session with ledger := (session.ledger.giveBack handed).drop dropped }).places serial =
      session.places serial + tally serial handed + tally serial dropped := by
  simp only [places, Ledger.giveBack, Ledger.drop, List.count_append, stored]
  show _ = _ + List.count serial (handed.map Item.serial) + List.count serial (dropped.map Item.serial)
  omega

theorem places_drop (serial : Nat) (items : List (Item α)) (session : Session σ α k) :
    (session.drop items).places serial = session.places serial + tally serial items :=
  places_leave serial [] items session

/-- A buffer that is taken out takes its elements along. -/
theorem places_remove (serial : Nat) (name : String) (session : Session σ α k) :
    (session.remove name).places serial + tally serial (session.elementsOf name) =
      session.places serial := by
  have hstored := tally_stored serial name session
  simp only [places, hstored]
  show _ + session.ledger.returned.count serial + session.ledger.dropped.count serial + _ = _
  omega

/-- A buffer that takes a name brings its elements along, and those of the buffer that had the name are dropped. -/
theorem places_place (serial : Nat) (name : String) (slot : Slot (Item α) k) (session : Session σ α k) :
    (session.place name slot).places serial =
      session.places serial + tally serial slot.buffer.toList := by
  have hstored := tally_stored serial name session
  have hplace : (session.place name slot).stored = slot.buffer.toList ++ (session.remove name).stored :=
    rfl
  have hdropped : (session.place name slot).ledger.dropped.count serial =
      tally serial (session.elementsOf name) + session.ledger.dropped.count serial :=
    List.count_append
  simp only [places, hplace, hdropped, hstored, tally_append]
  show _ + session.ledger.returned.count serial + _ = _
  omega

theorem elementsOf_of_find? {session : Session σ α k} {name : String} {slot : Slot (Item α) k}
    (hfind : session.buffers.find? name = some slot) : session.elementsOf name = slot.buffer.toList := by
  simp only [elementsOf, hfind]

/-- A buffer that stands in for another one brings its elements in place of the other's. -/
theorem places_insert (serial : Nat) (session : Session σ α k) {name : String} {slot : Slot (Item α) k}
    (hfind : session.buffers.find? name = some slot) (slot' : Slot (Item α) k) :
    ({ session with buffers := session.buffers.insert name slot' }).places serial +
        tally serial slot.buffer.toList =
      session.places serial + tally serial slot'.buffer.toList := by
  have hplace := places_place serial name slot' session
  rw [← hplace, ← elementsOf_of_find? hfind]
  exact (places_drop serial _ { session with buffers := session.buffers.insert name slot' }).symm

/-- The second session comes of the first by a step that creates a number of values: these are given numbers in a row,
each of which has one place then, and no other number has more places or fewer. -/
structure Accounted (session after : Session σ α k) (created : Nat) : Prop where
  /-- The numbers are issued in a row. -/
  issued_eq : after.ledger.issued = session.ledger.issued + created
  /-- A new number has one place. -/
  places_eq (serial : Nat) : after.places serial = session.places serial +
    if session.ledger.issued ≤ serial ∧ serial < session.ledger.issued + created then 1 else 0

theorem Accounted.of_same {session after : Session σ α k}
    (hissued : after.ledger.issued = session.ledger.issued)
    (hplaces : ∀ serial, after.places serial = session.places serial) : Accounted session after 0 := by
  refine ⟨hissued, fun serial => ?_⟩
  rw [hplaces, if_neg (by omega), Nat.add_zero]

/-! ### Building and giving up buffers -/

theorem places_enroll_of_ok (serial : Nat) (name : String) (provider : Provider k)
    {construction : Construction σ (Item α)} {buffer : Buffer (Item α)}
    (h : construction.outcome = .ok buffer) (session : Session σ α k) :
    (session.enroll name provider construction).2.places serial =
      session.places serial + tally serial buffer.toList := by
  simp only [enroll, h]
  exact places_place serial name ⟨buffer, provider⟩ _

theorem places_enroll_of_error (serial : Nat) (name : String) (provider : Provider k)
    {construction : Construction σ (Item α)} {halt : Halt} (h : construction.outcome = .error halt)
    (session : Session σ α k) :
    (session.enroll name provider construction).2.places serial = session.places serial := by
  simp only [enroll, h]
  rfl

theorem issued_enroll (name : String) (provider : Provider k) (construction : Construction σ (Item α))
    (session : Session σ α k) :
    (session.enroll name provider construction).2.ledger.issued = session.ledger.issued := by
  simp only [enroll]
  cases construction.outcome <;> rfl

/-- Buffers that change their names keep their elements, and the elements of one that is given up go to the caller
or are dropped. -/
theorem Arranges.accounted [Element α] [BlockSource σ] {session : Session σ α k} {move : Move α k}
    {handed dropped : List (Item α)} (h : session.Arranges move handed dropped) :
    Accounted session
      { session with
        buffers := move.onBuffers session
        ledger := (session.ledger.giveBack handed).drop dropped } 0 := by
  refine .of_same rfl fun serial => ?_
  cases h with
  | look => rfl
  | @rename name target slot hfind =>
    have hremove := places_remove serial name session
    rw [elementsOf_of_find? hfind, ← places_place serial target slot] at hremove
    exact hremove
  | @swap name other slot slot' hfind hother =>
    have hfirst := places_insert serial session hfind slot'
    -- the other name stands for the same buffer still, also if it is the same name
    have hother' : (session.buffers.insert name slot').find? other = some slot' := by
      rw [Names.find?_insert]
      split
      · rfl
      · exact hother
    have hsecond := places_insert serial
      { session with buffers := session.buffers.insert name slot' } hother' slot
    have hplaces : ({ session with buffers := (session.buffers.insert name slot').insert other slot }).places serial =
        session.places serial := by
      simp only at hsecond
      omega
    exact hplaces
  | @leave name slot count hfind =>
    have hremove := places_remove serial name session
    rw [elementsOf_of_find? hfind, ← tally_take_add_drop serial count, ← Nat.add_assoc, ← places_leave] at hremove
    exact hremove

variable [Element α] [BlockSource σ]

theorem accounted_collect (name : String) (values : List α) (session : Session σ α k) :
    Accounted session (session.collect name values).2 values.length := by
  have htally (serial : Nat) := Action.tally_perform
    (.extend (Item.number session.ledger.issued values)) (Buffer.sound_new session.nextId).length_le
    session.pool.heap serial
  simp only [Action.perform, Effect.ofIntake, Action.values, tally_number, Buffer.toList_new, tally_nil,
    Nat.zero_add, Nat.add_zero] at htally
  simp only [collect, Item.length_number]
  generalize (Buffer.new session.nextId).extend (Item.number session.ledger.issued values)
    session.pool.heap = intake at htally ⊢
  -- whatever the outcome is, the values that were not stored are dropped
  have hended (serial : Nat) :
      ({ session.updateSource .heap intake.source with
          nextId := session.nextId.next
          ledger := (session.ledger.issue values.length).drop (intake.dropped ++ intake.unstored) }).places serial =
        session.places serial + tally serial (intake.dropped ++ intake.unstored) :=
    places_drop serial _ { session with ledger := session.ledger.issue values.length }
  cases intake.outcome with
  | error halt =>
    refine ⟨rfl, fun serial => ?_⟩
    refine (places_drop serial _ _).trans ?_
    rw [hended, ← htally]
    omega
  | ok _ =>
    refine ⟨rfl, fun serial => ?_⟩
    refine (places_place serial name _ _).trans ?_
    show _ + tally serial intake.buffer.toList = _
    rw [hended, ← htally]
    omega

theorem accounted_act {session : Session σ α k} (hsound : session.Sound) (name : String)
    (action : Action α) : Accounted session (session.act name action).2 action.values.length := by
  have hvalues := Action.values_number session.ledger.issued action
  simp only [act]
  cases hfind : session.buffers.find? name with
  | none =>
    refine ⟨by simp [stop, drop, Ledger.drop, Ledger.issue, hvalues], fun serial => ?_⟩
    refine (places_drop serial _ _).trans ?_
    rw [hvalues, tally_number]
    rfl
  | some slot =>
    refine ⟨by simp [Ledger.giveBack, Ledger.drop, Ledger.issue, hvalues], fun serial => ?_⟩
    have htally := (action.number session.ledger.issued).tally_perform
      (hsound name slot hfind).length_le (session.pool.source slot.provider) serial
    rw [hvalues, tally_number] at htally
    simp only
    generalize (action.number session.ledger.issued).perform slot.buffer
      (session.pool.source slot.provider) = effect at htally ⊢
    have hinsert := places_insert serial session hfind { slot with buffer := effect.buffer }
    have hleave := places_leave serial effect.returned effect.dropped
      { session with buffers := session.buffers.insert name { slot with buffer := effect.buffer } }
    refine hleave.trans ?_
    simp only at hinsert
    omega

/-! ### Steps and runs -/

/-- The number of copies of values that a step makes. -/
def copied (command : Command α) (session : Session σ α k) : Nat :=
  match command with
  | .copy name _ =>
    bif (session.step command).1.outcome.isOk then (session.elementsOf name).length else 0
  | _ => 0

/-- The number of values that a step creates: those that come along with it, and the copies it makes. -/
def created (command : Command α) (session : Session σ α k) : Nat :=
  (session.brought command).length + session.copied command

/-- The number of values that a run creates. -/
def createdIn : List (Command α) → Session σ α k → Nat
  | [], _ => 0
  | command :: commands, session => session.created command + createdIn commands (session.step command).2

/-- What is built draws an identity, and nothing is copied without. -/
theorem copied_eq_zero {session : Session σ α k} {command : Command α} (h : session.drawn command = 0) :
    session.copied command = 0 := by
  cases command with
  | copy name target =>
    simp only [drawn] at h
    simp only [copied]
    cases hok : (session.step (.copy name target)).1.outcome.isOk with
    | false => rfl
    | true =>
      rw [hok] at h
      cases h
  | _ => rfl

omit [Element α] [BlockSource σ] in
theorem isOk_enroll (name : String) (provider : Provider k) (construction : Construction σ (Item α))
    (session : Session σ α k) :
    (session.enroll name provider construction).1.outcome.isOk = construction.outcome.isOk := by
  simp only [enroll]
  cases construction.outcome <;> rfl

theorem Builds.copied_eq {session : Session σ α k} {command : Command α} {name : String} {provider : Provider k}
    {construction : Construction σ (Item α)} {copies : Nat}
    (h : session.Builds command name provider construction copies) : session.copied command = copies := by
  cases h with
  | new _ => rfl
  | build _ => rfl
  | @copy name target slot _ hfind hcopying =>
    subst hcopying
    simp only [copied, step, Session.copy, hfind, isOk_enroll, elementsOf_of_find? hfind, Buffer.length_made_copy,
      Buffer.length_renumber, Buffer.length_toList]

/-- The elements of a buffer that is built are copies, with the numbers from the next one on. -/
theorem Builds.tally_of_ok {session : Session σ α k} {command : Command α} {name : String} {provider : Provider k}
    {construction : Construction σ (Item α)} {copies : Nat} {buffer : Buffer (Item α)}
    (h : session.Builds command name provider construction copies) (hok : construction.outcome = .ok buffer)
    (serial : Nat) :
    tally serial buffer.toList =
      if session.ledger.issued ≤ serial ∧ serial < session.ledger.issued + copies then 1 else 0 := by
  cases h with
  | new _ =>
    cases hok
    rw [if_neg (by omega)]
    rfl
  | build _ =>
    rw [List.map_eq_nil_iff.1 (values_build hok), if_neg (by omega)]
    rfl
  | @copy _ _ slot _ _ hcopying =>
    subst hcopying
    rw [Buffer.length_made_copy, hok]
    rcases Buffer.copy_cases session.nextId (slot.buffer.renumber session.ledger.issued)
      (session.pool.source slot.provider) with ⟨room, -, hcopy⟩ | ⟨halt, hcopy⟩
    · rw [hcopy] at hok
      cases hok
      refine (Buffer.tally_renumber serial session.ledger.issued slot.buffer).trans ?_
      rw [← Buffer.length_renumber session.ledger.issued slot.buffer]
      rfl
    · rw [hcopy] at hok
      cases hok

/-- A buffer that is built brings the copies along that were made for it. -/
theorem Builds.accounted {session : Session σ α k} {command : Command α} {name : String} {provider : Provider k}
    {construction : Construction σ (Item α)} {copies : Nat}
    (h : session.Builds command name provider construction copies) :
    Accounted session
      ({ session with ledger := session.ledger.issue copies }.enroll name provider construction).2 copies := by
  cases houtcome : construction.outcome with
  | error halt =>
    obtain rfl := h.copies_of_error houtcome
    exact .of_same (issued_enroll ..) fun serial => places_enroll_of_error serial name provider houtcome _
  | ok buffer =>
    refine ⟨issued_enroll .., fun serial => ?_⟩
    refine (places_enroll_of_ok serial name provider houtcome _).trans ?_
    rw [h.tally_of_ok houtcome]
    rfl

/-- **A step accounts for every value.** -/
theorem accounted_step {session : Session σ α k} (hsound : session.Sound) (command : Command α) :
    Accounted session (session.step command).2 (session.created command) := by
  have hcourse := course_step command session
  generalize session.step command = result at hcourse ⊢
  cases hcourse with
  | missing _ hdrawn hbrought =>
    rw [created, hbrought, copied_eq_zero hdrawn]
    exact .of_same rfl fun _ => rfl
  | answered harranges hdrawn hbrought =>
    rw [created, hbrought, copied_eq_zero hdrawn]
    exact harranges.accounted
  | drew hcommand =>
    subst hcommand
    exact .of_same rfl fun _ => rfl
  | enrolled hbuilds =>
    rw [created, hbuilds.brought_eq, hbuilds.copied_eq, List.length_nil, Nat.zero_add]
    exact hbuilds.accounted
  | collected hcommand =>
    subst hcommand
    exact accounted_collect ..
  | acted hperforms =>
    rw [created, hperforms.brought_eq, copied_eq_zero hperforms.drawn_eq]
    exact accounted_act hsound ..
  | referred hcommand _ =>
    subst hcommand
    obtain ⟨hissued, hplaces⟩ := accounted_act hsound _ (.refer _)
    exact ⟨hissued, hplaces⟩
  | requested hcommand _ _ =>
    subst hcommand
    exact .of_same rfl fun _ => rfl
  | reset hcommand _ =>
    subst hcommand
    exact .of_same rfl fun _ => rfl

/-- The numbers are issued to the values that are created, and to nothing else. -/
theorem issued_run (commands : List (Command α)) {session : Session σ α k} (hsound : session.Sound) :
    (session.run commands).ledger.issued = session.ledger.issued + session.createdIn commands := by
  induction commands generalizing session with
  | nil => rfl
  | cons command commands ih =>
    rw [run_cons, ih (hsound.step command), (accounted_step hsound command).issued_eq, createdIn,
      Nat.add_assoc]

/-- **After every run, each number that was issued has one place, and no other number has any.** -/
theorem places_run (commands : List (Command α)) (pool : Pool σ k) (serial : Nat) :
    ((start pool : Session σ α k).run commands).places serial =
      if serial < ((start pool : Session σ α k).run commands).ledger.issued then 1 else 0 := by
  refine (run_induction (P := fun session => session.Sound ∧
    session.places serial = if serial < session.ledger.issued then 1 else 0) ?_ commands
    ⟨sound_start pool, rfl⟩).2
  rintro command session ⟨hsound, hplaces⟩
  obtain ⟨hissued, hstep⟩ := accounted_step hsound command
  refine ⟨hsound.step command, ?_⟩
  rw [hstep, hplaces, hissued]
  split <;> split <;> split <;> omega

/-- All numbers that were issued, each once, are those in buffers, with the caller, and dropped. -/
theorem perm_range_run (commands : List (Command α)) (pool : Pool σ k) :
    let session := (start pool : Session σ α k).run commands
    (session.stored.map Item.serial ++ session.ledger.returned ++ session.ledger.dropped).Perm
      (List.range session.ledger.issued) := by
  intro session
  rw [List.perm_iff_count]
  intro serial
  rw [List.count_append, List.count_append, List.nodup_range.count]
  simp only [List.mem_range]
  exact places_run commands pool serial

/-- A block that is replaced takes all elements along, and the ledger knows of the declined values only. -/
theorem act_of_mayAllocate {session : Session σ α k} (hsound : session.Sound) {name : String}
    {slot : Slot (Item α) k} (hfind : session.buffers.find? name = some slot) {action : Action α}
    (hgrows : action.mayAllocate = true) :
    ∃ count slot', (session.act name action).2.buffers.find? name = some slot' ∧
      slot'.buffer.toList =
        slot.buffer.toList ++ (Item.number session.ledger.issued action.values).take count ∧
      (session.act name action).2.ledger = (session.ledger.issue action.values.length).drop
        ((Item.number session.ledger.issued action.values).drop count) ∧
      ((session.act name action).1.outcome.isOk = true → count = action.values.length) := by
  have hvalues := Action.values_number session.ledger.issued action
  have hnumber : (action.number session.ledger.issued).mayAllocate = true := by
    rw [← hgrows]
    cases action <;> rfl
  obtain ⟨count, hlist, hreturned, hdropped, hok⟩ := Action.exists_take_of_mayAllocate hnumber
    (hsound name slot hfind).length_le (session.pool.source slot.provider)
  rw [hvalues] at hlist hdropped hok
  rw [Item.length_number] at hok
  simp only [act, hfind]
  refine ⟨count, _, Names.find?_insert_self .., hlist, ?_, hok⟩
  rw [hreturned, hdropped, hvalues, Item.length_number]
  rfl

/-- **Values are conserved.** Take any run. The numbers that were issued are as many as the values that came along
and the copies that were made. Each of them stands in one place: at one position of one buffer, with the caller, or
among what was dropped; no other number stands anywhere. Once all buffers are dropped, and what the caller has, as
many values have ended as were created.

Of what the next call may do, two things. A call that may replace the block of a buffer leaves all elements where they
are, and drops nothing but the values that it declines, none if it is carried out. A push that fails drops the
value that it was given, and leaves everything else as it was. -/
theorem values_conserved (pool : Pool σ k) (commands : List (Command α)) :
    let session := (start pool : Session σ α k).run commands
    session.ledger.issued = (start pool : Session σ α k).createdIn commands ∧
      (∀ serial,
        (session.stored.map Item.serial).count serial + session.ledger.returned.count serial +
            session.ledger.dropped.count serial =
          if serial < session.ledger.issued then 1 else 0) ∧
      session.close.ledger.gone = (start pool : Session σ α k).createdIn commands ∧
      (∀ name slot action, session.buffers.find? name = some slot → action.mayAllocate = true →
        ∃ count slot', (session.step (.act name action)).2.buffers.find? name = some slot' ∧
          slot'.buffer.toList =
            slot.buffer.toList ++ (Item.number session.ledger.issued action.values).take count ∧
          (session.step (.act name action)).2.ledger = (session.ledger.issue action.values.length).drop
            ((Item.number session.ledger.issued action.values).drop count) ∧
          ((session.step (.act name action)).1.outcome.isOk = true → count = action.values.length)) ∧
      ∀ name value cause, (session.step (.act name (.push value))).1.outcome = .error cause →
        session.Kept (session.step (.act name (.push value))).2 [value] := by
  intro session
  have hsound : session.Sound := Reachable.sound ⟨pool, commands, rfl⟩
  have hissued : session.ledger.issued = (start pool : Session σ α k).createdIn commands :=
    (issued_run commands (sound_start pool)).trans (Nat.zero_add _)
  refine ⟨hissued, places_run commands pool, ?_, ?_, ?_⟩
  · have hlength := (perm_range_run commands pool).length_eq
    rw [List.length_append, List.length_append, List.length_map, List.length_range] at hlength
    have hgone : session.close.ledger.gone = session.stored.length + session.ledger.gone :=
      Ledger.gone_drop session.stored session.ledger
    rw [hgone, ← hissued, ← hlength, Ledger.gone, Nat.add_assoc]
  · intro name slot action hfind hgrows
    exact act_of_mayAllocate hsound hfind hgrows
  · intro name value cause herror
    exact kept_act hsound rfl herror

/-- Two values are stored, a third one is declined, both are copied, and the caller takes one of them out. -/
theorem values_conserved_at_ceiling :
    let session : Session Allocator UInt8 0 := (start ⟨.system, #v[], #v[]⟩).run
      [.build "a" { initialCapacity := 1, maxCapacity := 2 } none, .act "a" (.push 7),
        .act "a" (.push 8), .act "a" (.push 9), .copy "a" "b", .takeFirst "a" 1]
    session.ledger = ⟨5, [0], [1, 2]⟩ ∧
      ∀ serial,
        (session.stored.map Item.serial).count serial + session.ledger.returned.count serial +
            session.ledger.dropped.count serial =
          if serial < session.ledger.issued then 1 else 0 := by
  intro session
  have hledger : session.ledger = ⟨5, [0], [1, 2]⟩ := by decide +kernel
  exact ⟨hledger, (values_conserved ⟨Allocator.system, #v[], #v[]⟩ _).2.1⟩

end Session

end ElasticBuffer
