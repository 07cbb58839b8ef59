import ElasticBuffer.Proofs.Identities
import ElasticBuffer.Proofs.Reports

/-!
# The history of the storage

What one action reports is said in `ElasticBuffer.Proofs.Reports`. Here the reports of one buffer are followed through a
run, from the step that builds it (`Session.constructed`) on, wherever it is moved (`Session.reportsIn`).

`Session.Speaks` says who reports a replacement in a step: the buffer that the step acts on, or one that collects
values, and nobody else. So the reports of a buffer are those that carry its identity, as long as no identity is given
twice. The main statement is `log_tells_storage`: the reports of a buffer recount its whole history.
-/

namespace ElasticBuffer

variable {σ α : Type} {k : Nat}

/-! ### Buffers without a past -/

namespace Buffer

variable [Sized α] [BlockSource σ]

theorem exists_fresh_of_build {id : BufferId} {config : Config} {source : σ} {buffer : Buffer α}
    (h : (build id config source).outcome = .ok buffer) :
    ∃ block, block.capacity = config.initial ∧ buffer = fresh id config block := by
  rcases build_cases (α := α) id config source with ⟨-, room, -, hok⟩ | ⟨halt, herror⟩
  · rw [hok] at h
    cases h
    exact ⟨_, rfl, rfl⟩
  · rw [herror] at h
    cases h

theorem exists_fresh_of_copy {id : BufferId} {source : σ} {buffer result : Buffer α}
    (h : (buffer.copy id source).outcome = .ok result) :
    ∃ block, block.capacity = buffer.length ∧ result = fresh id buffer.config block := by
  rcases copy_cases id buffer source with ⟨room, -, hok⟩ | ⟨halt, herror⟩
  · rw [hok] at h
    cases h
    exact ⟨_, rfl, rfl⟩
  · rw [herror] at h
    cases h

end Buffer

/-! ### Who reports in a step -/

/-- The move is an action on a buffer. -/
def Move.isAct : Move α k → Bool
  | act _ _ _ => true
  | _ => false

theorem Move.eq_act_of_action? {move : Move α k} {name : String} {action : Action (Item α)}
    (h : move.action? name = some action) : ∃ slot, move = .act name slot action := by
  cases move with
  | act target slot action =>
    simp only [action?] at h
    split at h
    · rename_i hname
      cases h
      exact ⟨slot, by rw [hname]⟩
    · cases h
  | _ => cases h

namespace Session

theorem isAct_enterMove (name : String) (provider : Provider k)
    (outcome : Except Halt (Buffer (Item α))) :
    (enterMove name provider outcome : Move α k).isAct = false := by
  cases outcome <;> rfl

/-- Buffers that only change their names, or are given up, are not acted on. -/
theorem Arranges.isAct {session : Session σ α k} {move : Move α k} {handed dropped : List (Item α)}
    (h : session.Arranges move handed dropped) : move.isAct = false := by
  cases h <;> rfl

theorem isAct_collect [Sized α] [BlockSource σ] (name : String) (values : List α) (session : Session σ α k) :
    (session.move (.collect name values)).isAct = false := by
  simp only [move]
  split <;> rfl

variable [Element α] [BlockSource σ]

/-- What a run reports, in order. -/
def log (commands : List (Command α)) (session : Session σ α k) : List Event :=
  (session.trace commands).flatMap fun result => result.1.events

/-- What the buffer of a name reports in a step. -/
def reports (command : Command α) (session : Session σ α k) (name : String) : List Event :=
  match (session.move command).action? name with
  | none => []
  | some _ => (session.step command).1.events

/-- What the buffer that has a name at first reports in a run, until it is given up. -/
def reportsIn : List (Command α) → Session σ α k → String → List Event
  | [], _, _ => []
  | command :: commands, session, name =>
    session.reports command name ++
      match (session.move command).follow name with
      | none => []
      | some target => reportsIn commands (session.step command).2 target

/-- Where the reports of a step come from. -/
inductive Speaks (session : Session σ α k) (command : Command α) : List Event → Prop
  /-- A buffer was acted on. -/
  | acts {name : String} {slot : Slot (Item α) k} {action : Action (Item α)} :
      session.move command = .act name slot action →
      Speaks session command (action.perform slot.buffer (session.pool.source slot.provider)).events
  /-- A new buffer collected values. -/
  | collects {name : String} {values : List α} : command = .collect name values →
      Speaks session command ((Buffer.new session.nextId).extend
        (Item.number session.ledger.issued values) session.pool.heap).events
  /-- No block was replaced. -/
  | silent {events : List Event} : (session.move command).isAct = false →
      (∀ id, changesOf id events = []) → Speaks session command events

theorem speaks_act {session : Session σ α k} {command : Command α} {name : String} {action : Action α}
    (hmove : session.move command = session.actMove name (action.number session.ledger.issued)) :
    session.Speaks command (session.act name action).1.events := by
  simp only [act]
  cases hfind : session.buffers.find? name with
  | none =>
    refine .silent ?_ fun _ => rfl
    rw [hmove, actMove, hfind]
    rfl
  | some slot =>
    have hacts : session.move command = .act name slot (action.number session.ledger.issued) := by
      rw [hmove, actMove, hfind]
    exact .acts hacts

omit [Element α] in
theorem changesOf_build [Sized α] (id id' : BufferId) (config : Config) (source : σ) :
    changesOf id (Buffer.build (α := α) id' config source).events = [] := by
  unfold Buffer.build
  cases config.validate with
  | error fault => rfl
  | ok _ =>
    simp only
    split <;> rfl

omit [Element α] in
theorem changesOf_copy [Sized α] (id id' : BufferId) (buffer : Buffer α) (source : σ) :
    changesOf id (buffer.copy id' source).events = [] := by
  unfold Buffer.copy
  split
  · rfl
  · rfl
  · split <;> rfl

omit [Element α] [BlockSource σ] in
theorem events_enroll (name : String) (provider : Provider k) (construction : Construction σ (Item α))
    (session : Session σ α k) :
    (session.enroll name provider construction).1.events = construction.events := by
  simp only [enroll]
  cases construction.outcome <;> rfl

theorem events_collect (name : String) (values : List α) (session : Session σ α k) :
    (session.collect name values).1.events =
      ((Buffer.new session.nextId).extend (Item.number session.ledger.issued values)
        session.pool.heap).events := by
  simp only [collect]
  split <;> rfl

/-- A buffer that is built has replaced no block. -/
theorem Builds.changesOf_events {session : Session σ α k} {command : Command α} {name : String}
    {provider : Provider k} {construction : Construction σ (Item α)} {copies : Nat}
    (h : session.Builds command name provider construction copies) (id : BufferId) :
    changesOf id construction.events = [] := by
  cases h with
  | new _ => rfl
  | build _ => exact changesOf_build ..
  | copy _ hcopying =>
    subst hcopying
    exact changesOf_copy ..

/-- **A replacement is reported by the buffer that a step acts on, or by one that collects values.** -/
theorem speaks_step (command : Command α) (session : Session σ α k) :
    session.Speaks command (session.step command).1.events := by
  have hcourse := course_step command session
  generalize session.step command = result at hcourse ⊢
  cases hcourse with
  | missing hmove =>
    refine .silent ?_ fun _ => rfl
    rw [hmove]
    rfl
  | answered harranges => exact .silent harranges.isAct fun _ => rfl
  | enrolled hbuilds =>
    rw [events_enroll]
    refine .silent ?_ hbuilds.changesOf_events
    rw [hbuilds.move_eq]
    exact isAct_enterMove ..
  | collected hcommand =>
    rw [events_collect]
    exact .collects hcommand
  | acted hperforms => exact speaks_act hperforms.move_eq
  | referred hcommand =>
    subst hcommand
    exact speaks_act rfl
  | drew hcommand | requested hcommand | reset hcommand =>
    subst hcommand
    exact .silent rfl fun _ => rfl

/-- A step that acts on a buffer reports what the action does. -/
theorem events_step_of_act {session : Session σ α k} {command : Command α} {name : String}
    {slot : Slot (Item α) k} {action : Action (Item α)} (h : session.move command = .act name slot action) :
    (session.step command).1.events =
      (action.perform slot.buffer (session.pool.source slot.provider)).events := by
  have hspeaks := speaks_step command session
  generalize (session.step command).1.events = events at hspeaks
  cases hspeaks with
  | acts hmove =>
    rw [h] at hmove
    cases hmove
    rfl
  | @collects collector values hcommand =>
    have hmove := isAct_collect collector values session
    rw [← hcommand, h] at hmove
    cases hmove
  | silent hmove =>
    rw [h] at hmove
    cases hmove

/-! ### Following a buffer -/

/-- What the buffer of a name reports in a step are the replacements of its block. -/
theorem told_reports {session : Session σ α k} (hsound : session.Sound) (command : Command α)
    {name : String} {slot : Slot (Item α) k} (hfind : session.buffers.find? name = some slot) :
    slot.buffer.Told (session.reports command name) (session.replacements command name)
      ((session.move command).onSlot name slot session).buffer := by
  simp only [Move.onSlot, replacements, reports, hfind]
  cases haction : (session.move command).action? name with
  | none => exact .refl slot.buffer
  | some action =>
    obtain ⟨acted, hmove⟩ := Move.eq_act_of_action? haction
    have hfits := fits_move command session
    rw [hmove] at hfits
    obtain rfl : acted = slot := Option.some.inj (hfits.symm.trans hfind)
    simp only [events_step_of_act hmove]
    exact action.told_perform (hsound name acted hfind).length_le _

/-- A step takes a buffer where its move does, and the buffer reports each replacement of its block. -/
theorem told_follow {session : Session σ α k} (hsound : session.Sound) (command : Command α)
    {name target : String} {slot : Slot (Item α) k} (hfind : session.buffers.find? name = some slot)
    (hfollow : (session.move command).follow name = some target) :
    ∃ result, (session.step command).2.buffers.find? target = some result ∧
      slot.buffer.Told (session.reports command name) (session.replacements command name)
        result.buffer :=
  ⟨_, find?_step_of_follow hfind hfollow, told_reports hsound command hfind⟩

/-- The reports of a buffer lead from what it is before a run to what it is then. -/
theorem told_followRun (commands : List (Command α)) {session : Session σ α k} (hsound : session.Sound)
    {name target : String} {slot : Slot (Item α) k} (hfind : session.buffers.find? name = some slot)
    (hfollow : session.followRun commands name = some target) :
    ∃ result, (session.run commands).buffers.find? target = some result ∧
      slot.buffer.Told (session.reportsIn commands name) (session.replacementsIn commands name)
        result.buffer := by
  induction commands generalizing session name slot with
  | nil =>
    cases hfollow
    exact ⟨slot, hfind, .refl slot.buffer⟩
  | cons command commands ih =>
    obtain ⟨next, hnext, hrest⟩ := Option.bind_eq_some_iff.1 hfollow
    obtain ⟨middle, hmiddle, hfirst⟩ := told_follow hsound command hfind hnext
    obtain ⟨result, hresult, hsecond⟩ := ih (hsound.step command) hmiddle hrest
    refine ⟨result, hresult, ?_⟩
    simp only [reportsIn, replacementsIn, hnext]
    exact hfirst.trans hsecond

/-! ### How a buffer begins -/

/-- The buffer that a step builds, before it collects any values. -/
def constructed (command : Command α) (session : Session σ α k) : Option (Buffer (Item α)) :=
  match command with
  | .new _ source => (session.provider? source).map fun _ => Buffer.new session.nextId
  | .build _ config source =>
    (session.provider? source).bind fun provider =>
      (Buffer.build session.nextId config (session.pool.source provider)).outcome.toOption
  | .collect _ _ => some (Buffer.new session.nextId)
  | .copy name _ =>
    (session.buffers.find? name).bind fun slot =>
      ((slot.buffer.renumber session.ledger.issued).copy session.nextId
        (session.pool.source slot.provider)).outcome.toOption
  | _ => none

/-- The number of times that a new buffer replaces its block while it collects values. -/
def collections (command : Command α) (session : Session σ α k) : Nat :=
  match command with
  | .collect _ values =>
    (Buffer.new session.nextId).fullPushes (Item.number session.ledger.issued values) session.pool.heap
  | _ => 0

/-- A buffer that collects values reports each replacement of its block, whether it can store all of them or not. -/
theorem told_collect (name : String) (values : List α) (session : Session σ α k) :
    (Buffer.new session.nextId).Told (session.step (.collect name values)).1.events
      (session.collections (.collect name values))
      ((Buffer.new session.nextId).extend (Item.number session.ledger.issued values)
        session.pool.heap).buffer := by
  rw [step, events_collect]
  exact Buffer.told_extend _ (Buffer.sound_new session.nextId).length_le _

/-- A buffer that is built begins empty, or as a copy that fills its block. -/
theorem Builds.exists_fresh {session : Session σ α k} {command : Command α} {name : String} {provider : Provider k}
    {construction : Construction σ (Item α)} {copies : Nat} {buffer : Buffer (Item α)}
    (h : session.Builds command name provider construction copies) (hok : construction.outcome = .ok buffer) :
    ∃ config block, buffer = Buffer.fresh session.nextId config block ∧ session.constructed command = some buffer ∧
      session.collections command = 0 ∧
      ∀ model target, command = .copy model target → block.capacity = (session.elementsOf model).length := by
  cases h with
  | new hprovider =>
    cases hok
    refine ⟨default, .empty, rfl, ?_, rfl, fun model target hcopy => (by cases hcopy)⟩
    simp only [constructed, hprovider, Option.map_some]
  | @build _ config _ _ hprovider =>
    obtain ⟨block, -, hfresh⟩ := Buffer.exists_fresh_of_build hok
    refine ⟨config, block, hfresh, ?_, rfl, fun model target hcopy => (by cases hcopy)⟩
    simp only [constructed, hprovider, Option.bind_some, hok]
    rfl
  | @copy _ _ slot _ hfind hcopying =>
    subst hcopying
    obtain ⟨block, hcapacity, hfresh⟩ := Buffer.exists_fresh_of_copy hok
    refine ⟨slot.buffer.config, block, hfresh, ?_, rfl, ?_⟩
    · simp only [constructed, hfind, Option.bind_some, hok]
      rfl
    · rintro model target ⟨⟩
      rw [hcapacity, elementsOf, hfind, Buffer.length_renumber, Buffer.length_toList]

/-- A buffer that enters a session was built in the step, and has reported what it did while it collected values. -/
theorem told_constructed {session : Session σ α k} {command : Command α} {name : String}
    {slot : Slot (Item α) k} (h : session.move command = .enter name slot) :
    ∃ config block, session.constructed command = some (Buffer.fresh session.nextId config block) ∧
      (∀ model target, command = .copy model target → block.capacity = (session.elementsOf model).length) ∧
      (Buffer.fresh session.nextId config block).Told (session.step command).1.events
        (session.collections command) slot.buffer := by
  have hcourse := course_step command session
  generalize hresult : session.step command = result at hcourse ⊢
  cases hcourse with
  | missing hmove =>
    rw [h] at hmove
    cases hmove
  | answered harranges =>
    rw [h] at harranges
    cases harranges
  | enrolled hbuilds =>
    rw [hbuilds.move_eq] at h
    obtain ⟨buffer, hok, rfl⟩ := enterMove_eq_enter h
    obtain ⟨config, block, rfl, hconstructed, hcollections, hcapacity⟩ := hbuilds.exists_fresh hok
    refine ⟨config, block, hconstructed, hcapacity, ?_⟩
    rw [hcollections, events_enroll]
    exact .same hbuilds.changesOf_events
  | @collected collector values hcommand =>
    subst hcommand
    refine ⟨default, .empty, rfl, fun model target hcopy => (by cases hcopy), ?_⟩
    have htold := told_collect collector values session
    rw [hresult] at htold
    simp only [move] at h
    split at h
    · cases h
    · cases h
      exact htold
  | acted hperforms =>
    rw [hperforms.move_eq] at h
    exact absurd h actMove_ne_enter
  | referred hcommand =>
    subst hcommand
    exact absurd h actMove_ne_enter
  | drew hcommand | requested hcommand | reset hcommand =>
    subst hcommand
    cases h

/-- Every buffer after a run was there before and has been followed, or entered in a step and has been followed from
there. -/
theorem exists_entered (commands : List (Command α)) {session : Session σ α k} {target : String}
    {result : Slot (Item α) k} (hfind : (session.run commands).buffers.find? target = some result) :
    (∃ name slot, session.buffers.find? name = some slot ∧
        session.followRun commands name = some target) ∨
      ∃ earlier command later name slot, commands = earlier ++ command :: later ∧
        (session.run earlier).move command = .enter name slot ∧
        ((session.run earlier).step command).2.followRun later name = some target := by
  induction commands generalizing session with
  | nil => exact .inl ⟨target, result, hfind, rfl⟩
  | cons command commands ih =>
    rcases ih hfind with ⟨middle, slot, hslot, hfollow⟩ |
      ⟨earlier, next, later, name, slot, rfl, hmove, hfollow⟩
    · rw [buffers_step] at hslot
      rcases Move.find?_onBuffers_cases (fits_move command session) hslot with
        hmove | ⟨name, first, hfirst, hstep, -⟩
      · exact .inr ⟨[], command, commands, middle, slot, rfl, hmove, hfollow⟩
      · refine .inl ⟨name, first, hfirst, ?_⟩
        rw [followRun, hstep]
        exact hfollow
    · exact .inr ⟨command :: earlier, next, later, name, slot, rfl, hmove, hfollow⟩

/-! ### Reports by identity -/

theorem log_cons (command : Command α) (commands : List (Command α)) (session : Session σ α k) :
    session.log (command :: commands) =
      (session.step command).1.events ++ (session.step command).2.log commands := rfl

theorem log_append (earlier later : List (Command α)) (session : Session σ α k) :
    session.log (earlier ++ later) = session.log earlier ++ (session.run earlier).log later := by
  induction earlier generalizing session with
  | nil => rfl
  | cons command earlier ih => rw [List.cons_append, log_cons, log_cons, ih, run_cons, List.append_assoc]

/-- A report carries the identity of the buffer that was acted on, or the one that is drawn in the step. -/
theorem changesOf_step_cases {session : Session σ α k} (hsound : session.Sound) (command : Command α)
    (id : BufferId) :
    changesOf id (session.step command).1.events = [] ∨
      (∃ name slot action, session.buffers.find? name = some slot ∧ slot.buffer.id = id ∧
        (session.move command).action? name = some action) ∨
      (session.nextId = id ∧ session.drawn command = 1) := by
  have hspeaks := speaks_step command session
  generalize (session.step command).1.events = events at hspeaks
  cases hspeaks with
  | @acts name slot action hmove =>
    have hfits := fits_move command session
    rw [hmove] at hfits
    by_cases hid : slot.buffer.id = id
    · refine .inr (.inl ⟨name, slot, action, hfits, hid, ?_⟩)
      simp only [hmove, Move.action?, if_true]
    · exact .inl ((action.told_perform (hsound name slot hfits).length_le _).silent id (Ne.symm hid))
  | @collects name values hcommand =>
    by_cases hid : session.nextId = id
    · refine .inr (.inr ⟨hid, ?_⟩)
      rw [hcommand]
      rfl
    · have hlength := (Buffer.sound_new (α := Item α) session.nextId).length_le
      exact .inl ((Buffer.told_extend _ hlength _).silent id (Ne.symm hid))
  | silent _ hsilent => exact .inl (hsilent id)

/-- No report carries an identity that has not been drawn. -/
theorem Numbered.changesOf_step_of_lt {count : Nat} {session : Session σ α k} (h : session.Numbered count)
    (hsound : session.Sound) {command : Command α} (hcount : count + session.drawn command < UInt64.size)
    {id : BufferId} (hid : count + session.drawn command < id.serial.toNat) :
    changesOf id (session.step command).1.events = [] := by
  rcases changesOf_step_cases hsound command id with
    hnone | ⟨name, slot, action, hslot, rfl, -⟩ | ⟨rfl, hdrawn⟩
  · exact hnone
  · have hle := h.serial_le hslot
    omega
  · rw [hdrawn] at hcount hid
    rw [h.nextId_eq, BufferId.toNat_nth hcount] at hid
    omega

theorem Numbered.changesOf_log_of_lt (commands : List (Command α)) {count : Nat} {session : Session σ α k}
    (h : session.Numbered count) (hsound : session.Sound)
    (hcount : count + session.drawnIn commands < UInt64.size) {id : BufferId}
    (hid : count + session.drawnIn commands < id.serial.toNat) :
    changesOf id (session.log commands) = [] := by
  induction commands generalizing count session with
  | nil => rfl
  | cons command commands ih =>
    rw [drawnIn, ← Nat.add_assoc] at hcount hid
    have hstep : count + session.drawn command < UInt64.size := by omega
    rw [log_cons, changesOf_append, h.changesOf_step_of_lt hsound hstep (by omega),
      ih (h.step hsound hstep) (hsound.step command) hcount hid, List.append_nil]

/-- The reports that carry the identity of a buffer are its own. -/
theorem Numbered.changesOf_step {count : Nat} {session : Session σ α k} (h : session.Numbered count)
    (hsound : session.Sound) {command : Command α} (hcount : count + session.drawn command < UInt64.size)
    {name : String} {slot : Slot (Item α) k} (hslot : session.buffers.find? name = some slot) :
    changesOf slot.buffer.id (session.step command).1.events =
      changesOf slot.buffer.id (session.reports command name) := by
  cases haction : (session.move command).action? name with
  | some action => simp only [reports, haction]
  | none =>
    simp only [reports, haction, changesOf_nil]
    rcases changesOf_step_cases hsound command slot.buffer.id with
      hnone | ⟨acted, slot', action, hacted, hid, haction'⟩ | ⟨hid, hdrawn⟩
    · exact hnone
    · -- the buffer that was acted on has the same identity, so it is this one
      rw [h.name_eq hacted hslot hid, haction] at haction'
      cases haction'
    · have hle := h.serial_le hslot
      rw [hdrawn] at hcount
      rw [← hid, h.nextId_eq, BufferId.toNat_nth hcount] at hle
      omega

theorem Numbered.changesOf_log (commands : List (Command α)) {count : Nat} {session : Session σ α k}
    (h : session.Numbered count) (hsound : session.Sound)
    (hcount : count + session.drawnIn commands < UInt64.size) {name target : String}
    {slot : Slot (Item α) k} (hslot : session.buffers.find? name = some slot)
    (hfollow : session.followRun commands name = some target) :
    changesOf slot.buffer.id (session.log commands) =
      changesOf slot.buffer.id (session.reportsIn commands name) := by
  induction commands generalizing count session name slot with
  | nil => rfl
  | cons command commands ih =>
    rw [drawnIn, ← Nat.add_assoc] at hcount
    have hstep : count + session.drawn command < UInt64.size := by omega
    obtain ⟨next, hnext, hrest⟩ := Option.bind_eq_some_iff.1 hfollow
    obtain ⟨middle, hmiddle, htold⟩ := told_follow hsound command hslot hnext
    have hlater := ih (h.step hsound hstep) (hsound.step command) hcount hmiddle hrest
    rw [htold.id_eq] at hlater
    simp only [reportsIn, hnext]
    rw [log_cons, changesOf_append, changesOf_append, h.changesOf_step hsound hstep hslot, hlater]

/-! ### The history of every buffer -/

/-- A buffer that entered a session and was followed through a run has told its whole history since it was built. -/
theorem told_entered {session : Session σ α k} (hsound : session.Sound) {command : Command α} {name : String}
    {slot : Slot (Item α) k} (hmove : session.move command = .enter name slot) {later : List (Command α)}
    {target : String} (hfollow : (session.step command).2.followRun later name = some target) :
    ∃ config block result, session.constructed command = some (Buffer.fresh session.nextId config block) ∧
      (∀ model copied, command = .copy model copied →
        block.capacity = (session.elementsOf model).length) ∧
      ((session.step command).2.run later).buffers.find? target = some result ∧
      (Buffer.fresh session.nextId config block).Told
        ((session.step command).1.events ++ (session.step command).2.reportsIn later name)
        (session.collections command + (session.step command).2.replacementsIn later name)
        result.buffer := by
  obtain ⟨config, block, hconstructed, hcopy, hfirst⟩ := told_constructed hmove
  obtain ⟨result, hresult, hlater⟩ :=
    told_followRun later (hsound.step command) (find?_step_of_enter hmove) hfollow
  exact ⟨config, block, result, hconstructed, hcopy, hresult, hfirst.trans hlater⟩

/-- As long as no identity is given twice, the log has no other report with the identity of a buffer than those of the
step that builds it and those it makes later. -/
theorem changesOf_log_of_enter (pool : Pool σ k) {earlier later : List (Command α)} {command : Command α}
    (hdrawn : (start pool).drawnIn (earlier ++ command :: later) < UInt64.size) {name target : String}
    {slot : Slot (Item α) k} (hmove : ((start pool).run earlier).move command = .enter name slot)
    (hfollow : (((start pool).run earlier).step command).2.followRun later name = some target) :
    changesOf slot.buffer.id ((start pool).log (earlier ++ command :: later)) =
      changesOf slot.buffer.id ((((start pool).run earlier).step command).1.events ++
        (((start pool).run earlier).step command).2.reportsIn later name) := by
  have hsound : ((start pool).run earlier).Sound := Reachable.sound ⟨pool, earlier, rfl⟩
  have hone := drawn_of_move hmove
  rw [drawnIn_append, drawnIn, hone] at hdrawn
  have hstart : (start pool : Session σ α k).Numbered 0 := numbered_start pool
  have hnumbered := hstart.run earlier (sound_start pool) (by omega)
  rw [Nat.zero_add] at hnumbered
  have hstep := hnumbered.step hsound (show _ + ((start pool).run earlier).drawn command < _ by omega)
  have hid : slot.buffer.id.serial.toNat = (start pool).drawnIn earlier + 1 := by
    rw [(entrant_of_move hmove).id_eq, hnumbered.nextId_eq]
    exact BufferId.toNat_nth (by omega)
  have hearlier : changesOf slot.buffer.id ((start pool).log earlier) = [] :=
    hstart.changesOf_log_of_lt earlier (sound_start pool) (by omega) (by omega)
  have hlater := hstep.changesOf_log later (hsound.step command) (by omega) (find?_step_of_enter hmove)
    hfollow
  rw [log_append, log_cons, changesOf_append, changesOf_append, hearlier, hlater, List.nil_append,
    changesOf_append]

/-- **The log tells the history of the storage.** Take any run, and any buffer there is at its end. It was built by a
step of the run, and has been followed since. Its reports since then are as many as the replacements of its block, and
if these are fewer than there are words, they recount its whole history, from the block that it was built with, which
for a copy has just the slots for what was copied. Its reports are all those in the log that carry its identity, if
fewer identities were drawn than there are words.

A further step reports as many replacements of its block as there are, so none if there is none; and the reports that
carry its identity are its own. What was said also holds of a buffer that collects values, whether it can store all of
them or is dropped in the same step. The reports are the events with one level and one message. -/
theorem log_tells_storage (pool : Pool σ k) (commands : List (Command α)) :
    let session := (start pool).run commands
    (∀ target slot, session.buffers.find? target = some slot →
      ∃ earlier command later name first, commands = earlier ++ command :: later ∧
        let origin := (start pool).run earlier
        let entered := (origin.step command).2
        let changes :=
          changesOf slot.buffer.id ((origin.step command).1.events ++ entered.reportsIn later name)
        origin.constructed command = some first ∧ first.id = slot.buffer.id ∧
          (∀ model copied, command = .copy model copied →
            first.capacity = (origin.elementsOf model).length) ∧
          (entered.buffers.find? name).map (fun slot => slot.buffer.id) = some first.id ∧
          entered.followRun later name = some target ∧
          changes.length = origin.collections command + entered.replacementsIn later name ∧
          (changes.length < UInt64.size → slot.buffer.Recounts first.capacity changes) ∧
          ((start pool).drawnIn commands < UInt64.size →
            changesOf slot.buffer.id ((start pool).log commands) = changes)) ∧
    (∀ name slot command, session.buffers.find? name = some slot →
      let changes := changesOf slot.buffer.id (session.reports command name)
      changes.length = session.replacements command name ∧
        ((start pool).drawnIn (commands ++ [command]) < UInt64.size →
          changesOf slot.buffer.id (session.step command).1.events = changes)) ∧
    (∀ name values,
      let collected := (Buffer.new session.nextId).extend
        (Item.number session.ledger.issued values) session.pool.heap
      let changes := changesOf session.nextId (session.step (.collect name values)).1.events
      changes.length = session.collections (.collect name values) ∧
        (changes.length < UInt64.size → collected.buffer.Recounts 0 changes)) ∧
    ∀ event : Event, (∃ id change, event.change? id = some change) ↔
      event.level = .debug ∧ event.message = "storage block replaced" := by
  intro session
  have hsound : session.Sound := Reachable.sound ⟨pool, commands, rfl⟩
  refine ⟨fun target slot hfind => ?_, fun name slot command hfind => ?_, fun name values => ?_,
    Event.exists_change?_iff⟩
  · rcases exists_entered commands hfind with
      ⟨name, first, hfirst, -⟩ | ⟨earlier, command, later, name, entered, rfl, hmove, hfollow⟩
    · -- there is no buffer at the start
      cases hfirst
    · have hbefore : ((start pool).run earlier).Sound := Reachable.sound ⟨pool, earlier, rfl⟩
      obtain ⟨config, block, result, hconstructed, hcopy, hresult, htold⟩ :=
        told_entered hbefore hmove hfollow
      obtain rfl : result = slot := by
        rw [← run_cons, ← run_append] at hresult
        exact Option.some.inj (hresult.symm.trans hfind)
      have hid : result.buffer.id = ((start pool).run earlier).nextId := htold.id_eq
      have hentered : entered.buffer.id = result.buffer.id :=
        (entrant_of_move hmove).id_eq.trans hid.symm
      have hfound : ((((start pool).run earlier).step command).2.buffers.find? name).map
          (fun slot => slot.buffer.id) = some ((start pool).run earlier).nextId := by
        rw [find?_step_of_enter hmove, Option.map_some, hentered, hid]
      refine ⟨earlier, command, later, name, _, rfl, hconstructed, hid.symm, hcopy, hfound, hfollow, ?_⟩
      rw [hid]
      refine ⟨htold.length_eq, fun hcount => htold.recounts ?_, fun hdrawn => ?_⟩
      · rw [← htold.length_eq]
        exact hcount
      · have hlog := changesOf_log_of_enter pool hdrawn hmove hfollow
        rw [hentered, hid] at hlog
        exact hlog
  · refine ⟨(told_reports hsound command hfind).length_eq, fun hdrawn => ?_⟩
    rw [drawnIn_append, drawnIn, drawnIn, Nat.add_zero] at hdrawn
    have hstart : (start pool : Session σ α k).Numbered 0 := numbered_start pool
    have hnumbered := hstart.run commands (sound_start pool) (by omega)
    exact hnumbered.changesOf_step hsound (by omega) hfind
  · have htold := told_collect name values session
    refine ⟨htold.length_eq, fun hcount => Buffer.Told.recounts htold ?_⟩
    rw [← htold.length_eq]
    exact hcount

/-- A buffer with one slot grows for a value and for room, is copied, and gives up its free slots; the copy grows too. -/
theorem log_tells_storage_after_copy :
    let commands : List (Command UInt8) :=
      [.build "a" { initialCapacity := 1, maxCapacity := 4, growth := .threeHalves } none,
        .act "a" (.pushAll [5, 6]), .act "a" (.reserve 2), .copy "a" "b", .act "a" .fit,
        .act "b" (.push 7)]
    let begin : Session Allocator UInt8 0 := start ⟨.system, #v[], #v[]⟩
    let changes : List Change := [⟨1, 2, ⟨1⟩, .append⟩, ⟨2, 4, ⟨2⟩, .reserve⟩, ⟨4, 2, ⟨3⟩, .shrink⟩]
    let copied : List Change := [⟨2, 3, ⟨1⟩, .append⟩]
    changesOf (.nth 0) (begin.log commands) = changes ∧ changesOf (.nth 1) (begin.log commands) = copied ∧
      (∃ slot, (begin.run commands).buffers.find? "a" = some slot ∧ slot.buffer.Recounts 1 changes) ∧
      ∃ slot, (begin.run commands).buffers.find? "b" = some slot ∧ slot.buffer.Recounts 2 copied := by
  intro commands begin changes copied
  have hchanges : changesOf (.nth 0) (begin.log commands) = changes := by decide +kernel
  have hcopied : changesOf (.nth 1) (begin.log commands) = copied := by decide +kernel
  have hdrawn : begin.drawnIn commands < UInt64.size := by decide +kernel
  -- a buffer whose reports are known had the capacity that the first of them tells
  have hrecounts : ∀ name id first rest,
      ((begin.run commands).buffers.find? name).map (fun slot => slot.buffer.id) = some id →
      changesOf id (begin.log commands) = first :: rest → (first :: rest).length < UInt64.size →
      ∃ slot, (begin.run commands).buffers.find? name = some slot ∧
        slot.buffer.Recounts first.before (first :: rest) := by
    intro name id first rest hname hreports hlength
    obtain ⟨slot, hslot, rfl⟩ := Option.map_eq_some_iff.1 hname
    obtain ⟨_, _, _, _, built, -, -, -, -, -, -, -, htold, hlog⟩ :=
      (log_tells_storage ⟨Allocator.system, #v[], #v[]⟩ commands).1 name slot hslot
    rw [← hlog hdrawn, hreports] at htold
    have hbuilt := htold hlength
    have hinitial : first.before = built.capacity := (List.cons.inj hbuilt.capacities_eq).1
    rw [← hinitial] at hbuilt
    exact ⟨slot, hslot, hbuilt⟩
  exact ⟨hchanges, hcopied, hrecounts "a" _ _ _ (by decide +kernel) hchanges (by decide),
    hrecounts "b" _ _ _ (by decide +kernel) hcopied (by decide)⟩

end Session

end ElasticBuffer
