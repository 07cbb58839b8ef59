import ElasticBuffer.Proofs.Soundness
import ElasticBuffer.Session.Step

/-!
# What a command does to the buffers of a session

A session has many commands, but its table of buffers changes in few ways. `Session.move` tells which of them a
command comes to in a session, and `buffers_step` that the step changes the table just so. A statement about
all buffers of all runs is then a matter of six kinds of moves.

A move also tells where each buffer goes (`Move.follow`): a buffer keeps its name, takes another one, or is given
up. `find?_onBuffers_of_follow` finds it again under the new name, and `find?_onBuffers_cases` says that every buffer
there is after a move was there before, or has just been built.
-/

namespace ElasticBuffer

variable {σ α : Type} {k : Nat}

/-- The ways in which the table of buffers changes. -/
inductive Move (α : Type) (k : Nat) where
  /-- No buffer is touched. -/
  | keep
  /-- A new buffer takes a name, and one that had it is dropped. -/
  | enter (name : String) (slot : Slot (Item α) k)
  /-- An action is performed on a buffer. -/
  | act (name : String) (slot : Slot (Item α) k) (action : Action (Item α))
  /-- A buffer takes another name, and one that had it is dropped. -/
  | rename (name target : String) (slot : Slot (Item α) k)
  /-- Two buffers exchange their names. -/
  | swap (name other : String) (slot slot' : Slot (Item α) k)
  /-- A buffer is given up. -/
  | leave (name : String)

namespace Session

/-- The move that an action on a name comes to. -/
def actMove (name : String) (action : Action (Item α)) (session : Session σ α k) : Move α k :=
  match session.buffers.find? name with
  | none => .keep
  | some slot => .act name slot action

/-- The move that an action with a stored reference comes to. -/
def actOnMove (name label : String) (action : Reference → Action (Item α)) (session : Session σ α k) :
    Move α k :=
  match session.references.find? label with
  | none => .keep
  | some reference => session.actMove name (action reference)

/-- The move that building a buffer comes to. -/
def enterMove (name : String) (provider : Provider k) :
    Except Halt (Buffer (Item α)) → Move α k
  | .error _ => .keep
  | .ok buffer => .enter name ⟨buffer, provider⟩

/-- The move that giving up a name comes to. -/
def leaveMove (name : String) (session : Session σ α k) : Move α k :=
  match session.buffers.find? name with
  | none => .keep
  | some _ => .leave name

/-- The move that a command comes to. -/
def move [Sized α] [BlockSource σ] (command : Command α) (session : Session σ α k) : Move α k :=
  match command with
  | .new name source =>
    match session.provider? source with
    | none => .keep
    | some provider => .enter name ⟨Buffer.new session.nextId, provider⟩
  | .build name config source =>
    match session.provider? source with
    | none => .keep
    | some provider =>
      enterMove name provider
        (Buffer.build session.nextId config (session.pool.source provider)).outcome
  | .collect name values =>
    let intake :=
      (Buffer.new session.nextId).extend (Item.number session.ledger.issued values) session.pool.heap
    match intake.outcome with
    | .error _ => .keep
    | .ok () => .enter name ⟨intake.buffer, .heap⟩
  | .copy name target =>
    match session.buffers.find? name with
    | none => .keep
    | some slot =>
      enterMove target slot.provider
        ((slot.buffer.renumber session.ledger.issued).copy session.nextId
          (session.pool.source slot.provider)).outcome
  | .rename name target =>
    match session.buffers.find? name with
    | none => .keep
    | some slot => .rename name target slot
  | .swap name other =>
    match session.buffers.find? name, session.buffers.find? other with
    | some slot, some slot' => .swap name other slot slot'
    | _, _ => .keep
  | .discard name => session.leaveMove name
  | .takeFirst name _ => session.leaveMove name
  | .drain name => session.leaveMove name
  | .act name action => session.actMove name (action.number session.ledger.issued)
  | .refer name index _ => session.actMove name (.refer index)
  | .resolve name label => session.actOnMove name label .resolve
  | .overwrite name label value =>
    session.actOnMove name label (.overwrite · ⟨session.ledger.issued, value⟩)
  | .isLive name label => session.actOnMove name label .isLive
  | _ => .keep

end Session

namespace Move

/-- The table of buffers after a move. -/
def onBuffers [Element α] [BlockSource σ] (move : Move α k) (session : Session σ α k) :
    Names (Slot (Item α) k) :=
  match move with
  | keep => session.buffers
  | enter name slot => session.buffers.insert name slot
  | act name slot action =>
    session.buffers.insert name
      { slot with
        buffer := (action.perform slot.buffer (session.pool.source slot.provider)).buffer }
  | rename name target slot => (session.buffers.erase name).insert target slot
  | swap name other slot slot' => (session.buffers.insert name slot').insert other slot
  | leave name => session.buffers.erase name

/-- The buffers that a move speaks of are those of the session. -/
def Fits (session : Session σ α k) : Move α k → Prop
  | keep => True
  | enter _ _ => True
  | act name slot _ => session.buffers.find? name = some slot
  | rename name _ slot => session.buffers.find? name = some slot
  | swap name other slot slot' =>
    session.buffers.find? name = some slot ∧ session.buffers.find? other = some slot'
  | leave _ => True

/-- The name that the buffer of a name has after a move, if it is not given up. -/
def follow (name : String) : Move α k → Option String
  | keep => some name
  | enter target _ => if name = target then none else some name
  | act _ _ _ => some name
  | rename source target _ =>
    if name = source then some target else if name = target then none else some name
  | swap first second _ _ =>
    if name = first then some second else if name = second then some first else some name
  | leave gone => if name = gone then none else some name

/-- The action that a move performs on the buffer of a name. -/
def action? (name : String) : Move α k → Option (Action (Item α))
  | act target _ action => if name = target then some action else none
  | _ => none

/-- What a move makes of the buffer of a name. -/
def onSlot [Element α] [BlockSource σ] (move : Move α k) (name : String) (slot : Slot (Item α) k)
    (session : Session σ α k) : Slot (Item α) k :=
  match move.action? name with
  | none => slot
  | some action =>
    { slot with buffer := (action.perform slot.buffer (session.pool.source slot.provider)).buffer }

end Move

/-! ### The move of a step is what the step does -/

namespace Session

theorem fits_actMove (name : String) (action : Action (Item α)) (session : Session σ α k) :
    (session.actMove name action).Fits session := by
  unfold actMove
  cases hfind : session.buffers.find? name with
  | none => exact trivial
  | some slot => exact hfind

theorem fits_actOnMove (name label : String) (action : Reference → Action (Item α))
    (session : Session σ α k) : (session.actOnMove name label action).Fits session := by
  unfold actOnMove
  cases session.references.find? label with
  | none => exact trivial
  | some reference => exact fits_actMove ..

theorem fits_enterMove (name : String) (provider : Provider k)
    (outcome : Except Halt (Buffer (Item α))) (session : Session σ α k) :
    (enterMove name provider outcome).Fits session := by
  cases outcome <;> exact trivial

theorem fits_leaveMove (name : String) (session : Session σ α k) :
    (session.leaveMove name).Fits session := by
  unfold leaveMove
  cases session.buffers.find? name <;> exact trivial

theorem fits_move [Sized α] [BlockSource σ] (command : Command α) (session : Session σ α k) :
    (session.move command).Fits session := by
  cases command with
  | new name source =>
    simp only [move]
    cases session.provider? source <;> exact trivial
  | build name config source =>
    simp only [move]
    cases session.provider? source with
    | none => exact trivial
    | some provider => exact fits_enterMove ..
  | collect name values =>
    simp only [move]
    split <;> exact trivial
  | copy name target =>
    simp only [move]
    cases session.buffers.find? name with
    | none => exact trivial
    | some slot => exact fits_enterMove ..
  | rename name target =>
    simp only [move]
    cases hfind : session.buffers.find? name with
    | none => exact trivial
    | some slot => exact hfind
  | swap name other =>
    simp only [move]
    cases hfind : session.buffers.find? name with
    | none => exact trivial
    | some slot =>
      cases hother : session.buffers.find? other with
      | none => exact trivial
      | some slot' => exact ⟨hfind, hother⟩
  | discard name => exact fits_leaveMove ..
  | takeFirst name count => exact fits_leaveMove ..
  | drain name => exact fits_leaveMove ..
  | act name action => exact fits_actMove ..
  | refer name index label => exact fits_actMove ..
  | resolve name label => exact fits_actOnMove ..
  | overwrite name label value => exact fits_actOnMove ..
  | isLive name label => exact fits_actOnMove ..
  | _ => exact trivial

theorem buffers_act [Element α] [BlockSource σ] (name : String) (action : Action α)
    (session : Session σ α k) :
    (session.act name action).2.buffers =
      (session.actMove name (action.number session.ledger.issued)).onBuffers session := by
  simp only [act, actMove]
  cases session.buffers.find? name <;> rfl

theorem buffers_actOn [Element α] [BlockSource σ] (name label : String) (action : Reference → Action α)
    (session : Session σ α k) :
    (session.actOn name label action).2.buffers =
      (session.actOnMove name label
        fun reference => (action reference).number session.ledger.issued).onBuffers session := by
  simp only [actOn, actOnMove]
  cases session.references.find? label with
  | none => rfl
  | some reference => exact buffers_act ..

/-- What taking a reference answers. -/
theorem outcome_act_refer [Element α] [BlockSource σ] (name : String) (index : Nat)
    (session : Session σ α k) :
    (∃ cause, (session.act name (.refer index)).1.outcome = .error cause ∧
      ∀ slot, session.buffers.find? name = some slot → slot.buffer.length ≤ index) ∨
    ∃ (slot : Slot (Item α) k) (r : Reference), session.buffers.find? name = some slot ∧
      index < slot.buffer.length ∧ r.index = index ∧
      (session.act name (.refer index)).1.outcome = .ok (.reference r) := by
  simp only [act, Action.number, Action.perform]
  cases hfind : session.buffers.find? name with
  | none =>
    refine .inl ⟨_, rfl, ?_⟩
    intro slot hslot
    cases hslot
  | some slot =>
    rcases Buffer.refer_cases index slot.buffer with ⟨hindex, hrefer⟩ | ⟨hindex, hrefer⟩
    · refine .inr ⟨slot, ⟨slot.buffer.id, slot.buffer.generation, index⟩, rfl, hindex, rfl, ?_⟩
      simp only [hrefer]
      rfl
    · refine .inl ⟨.fault (.indexOutOfRange index slot.buffer.length), ?_, ?_⟩
      · simp only [hrefer]
        rfl
      · intro slot' hslot
        cases hslot
        exact hindex

/-- Taking a reference is an action, after which the reference is stored if there is one. -/
theorem refer_cases [Element α] [BlockSource σ] (name : String) (index : Nat) (label : String)
    (session : Session σ α k) :
    (∃ cause, (session.act name (.refer index)).1.outcome = .error cause ∧
      (∀ slot, session.buffers.find? name = some slot → slot.buffer.length ≤ index) ∧
      session.refer name index label = session.act name (.refer index)) ∨
    ∃ (slot : Slot (Item α) k) (r : Reference), session.buffers.find? name = some slot ∧
      index < slot.buffer.length ∧ r.index = index ∧
      (session.act name (.refer index)).1.outcome = .ok (.reference r) ∧
      session.refer name index label =
        ((session.act name (.refer index)).1,
          { (session.act name (.refer index)).2 with
            references := (session.act name (.refer index)).2.references.insert label r }) := by
  have hact := outcome_act_refer name index session
  rw [refer]
  generalize session.act name (.refer index) = result at hact
  obtain ⟨⟨outcome, events⟩, after⟩ := result
  rcases hact with ⟨cause, rfl, hindex⟩ | ⟨slot, r, hfind, hindex, hr, rfl⟩
  · exact .inl ⟨cause, rfl, hindex, rfl⟩
  · exact .inr ⟨slot, r, hfind, hindex, hr, rfl, rfl⟩

theorem buffers_refer [Element α] [BlockSource σ] (name : String) (index : Nat) (label : String)
    (session : Session σ α k) :
    (session.refer name index label).2.buffers = (session.act name (.refer index)).2.buffers := by
  simp only [refer]
  split <;> rfl

/-- An action with a stored reference is an action, unless there is no such reference. -/
theorem actOn_cases [Element α] [BlockSource σ] (name label : String) (action : Reference → Action α)
    (session : Session σ α k) :
    (session.references.find? label = none ∧
        session.actOn name label action = session.stop (.missing .reference)) ∨
      ∃ reference, session.references.find? label = some reference ∧
        session.actOn name label action = session.act name (action reference) := by
  simp only [actOn]
  cases session.references.find? label with
  | none => exact .inl ⟨rfl, rfl⟩
  | some reference => exact .inr ⟨reference, rfl, rfl⟩

theorem buffers_enroll [Element α] [BlockSource σ] (name : String) (provider : Provider k)
    (construction : Construction σ (Item α)) (session : Session σ α k) :
    (session.enroll name provider construction).2.buffers =
      (enterMove name provider construction.outcome).onBuffers session := by
  simp only [enroll]
  cases construction.outcome <;> rfl

theorem buffers_giveUp [Element α] [BlockSource σ] (name : String) (count : Nat)
    (reply : List (Item α) → Answer σ (Item α)) (session : Session σ α k) :
    (session.giveUp name count reply).2.buffers = (session.leaveMove name).onBuffers session := by
  simp only [giveUp, leaveMove]
  cases session.buffers.find? name <;> rfl

/-- **A step changes the table of buffers as its move says.** -/
theorem buffers_step [Element α] [BlockSource σ] (command : Command α) (session : Session σ α k) :
    (session.step command).2.buffers = (session.move command).onBuffers session := by
  cases command with
  | new name source =>
    simp only [step, move, new]
    cases session.provider? source <;> rfl
  | build name config source =>
    simp only [step, move, build]
    cases session.provider? source with
    | none => rfl
    | some provider => exact buffers_enroll ..
  | collect name values =>
    simp only [step, move, collect]
    cases (Buffer.extend (Item.number session.ledger.issued values) (Buffer.new session.nextId)
      session.pool.heap).outcome <;> rfl
  | copy name target =>
    simp only [step, move, copy]
    cases session.buffers.find? name with
    | none => rfl
    | some slot =>
      simp only [buffers_enroll]
      -- the ledger has no part in it
      cases ((slot.buffer.renumber session.ledger.issued).copy session.nextId
        (session.pool.source slot.provider)).outcome <;> rfl
  | rename name target =>
    simp only [step, move, rename]
    cases session.buffers.find? name <;> rfl
  | swap name other =>
    simp only [step, move, swap]
    cases session.buffers.find? name with
    | none => rfl
    | some slot => cases session.buffers.find? other <;> rfl
  | discard name => exact buffers_giveUp ..
  | takeFirst name count => exact buffers_giveUp ..
  | drain name => exact buffers_giveUp ..
  | act name action => exact buffers_act ..
  | refer name index label => exact (buffers_refer ..).trans (buffers_act ..)
  | resolve name label => exact buffers_actOn ..
  | overwrite name label value => exact buffers_actOn ..
  | isLive name label => exact buffers_actOn ..
  | liveReferences name =>
    simp only [step, move, liveReferences]
    cases session.buffers.find? name <;> rfl
  | reference label =>
    simp only [step, move, reference]
    cases session.references.find? label <;> rfl
  | sameReference label other =>
    simp only [step, move, sameReference]
    split <;> rfl
  | source name =>
    simp only [step, move, source]
    cases session.pool.provider? name <;> rfl
  | resetSource name =>
    simp only [step, move, resetSource]
    cases session.pool.provider? name <;> rfl
  | request name capacity =>
    simp only [step, move, request]
    cases session.pool.provider? name with
    | none => rfl
    | some provider =>
      simp only
      split <;> rfl
  | drawId => rfl
  | countReferences => rfl

end Session

/-! ### Where the buffers are after a move -/

namespace Names

variable {β : Type}

theorem find?_insert (name other : String) (value : β) (table : Names β) :
    (table.insert name value).find? other = if other = name then some value else table.find? other := by
  by_cases h : other = name
  · subst h
    rw [if_pos rfl, find?_insert_self]
  · rw [if_neg h, find?_insert_of_ne h]

theorem find?_erase (name other : String) (table : Names β) :
    (table.erase name).find? other = if other = name then none else table.find? other := by
  by_cases h : other = name
  · subst h
    rw [if_pos rfl, find?_erase_self]
  · rw [if_neg h, find?_erase_of_ne h]

end Names

namespace Move

variable [Element α] [BlockSource σ]

/-- A buffer that is not given up is found where the move takes it. -/
theorem find?_onBuffers_of_follow {move : Move α k} {session : Session σ α k} {name target : String}
    {slot : Slot (Item α) k} (hfits : move.Fits session) (hfind : session.buffers.find? name = some slot)
    (hfollow : move.follow name = some target) :
    (move.onBuffers session).find? target = some (move.onSlot name slot session) := by
  cases move with
  | keep =>
    cases hfollow
    exact hfind
  | enter entered new =>
    simp only [follow] at hfollow
    split at hfollow
    · cases hfollow
    · rename_i hne
      cases hfollow
      exact (Names.find?_insert_of_ne hne ..).trans hfind
  | act acted old action =>
    cases hfollow
    simp only [onBuffers, onSlot, action?, Names.find?_insert]
    by_cases hname : name = acted
    · subst hname
      have hold : slot = old := Option.some.inj (hfind.symm.trans hfits)
      subst hold
      simp only [if_true]
    · simp only [if_neg hname]
      exact hfind
  | rename source goal old =>
    simp only [onBuffers, onSlot, action?]
    simp only [follow] at hfollow
    split at hfollow
    · rename_i hname
      cases hfollow
      subst hname
      rw [Names.find?_insert_self]
      exact hfits.symm.trans hfind
    · rename_i hname
      split at hfollow
      · cases hfollow
      · rename_i hgoal
        cases hfollow
        rw [Names.find?_insert_of_ne hgoal, Names.find?_erase_of_ne hname]
        exact hfind
  | swap first second old old' =>
    obtain ⟨hfirst, hsecond⟩ := hfits
    simp only [onBuffers, onSlot, action?]
    simp only [follow] at hfollow
    split at hfollow
    · rename_i hname
      cases hfollow
      subst hname
      rw [Names.find?_insert_self]
      exact hfirst.symm.trans hfind
    · rename_i hname
      split at hfollow
      · rename_i hother
        cases hfollow
        subst hother
        rw [Names.find?_insert_of_ne (Ne.symm hname), Names.find?_insert_self]
        exact hsecond.symm.trans hfind
      · rename_i hother
        cases hfollow
        rw [Names.find?_insert_of_ne hother, Names.find?_insert_of_ne hname]
        exact hfind
  | leave gone =>
    simp only [follow] at hfollow
    split at hfollow
    · cases hfollow
    · rename_i hne
      cases hfollow
      exact (Names.find?_erase_of_ne hne ..).trans hfind

/-- Every buffer there is after a move has just been built, or was there before. -/
theorem find?_onBuffers_cases {move : Move α k} {session : Session σ α k} {target : String}
    {result : Slot (Item α) k} (hfits : move.Fits session)
    (hfind : (move.onBuffers session).find? target = some result) :
    move = .enter target result ∨
      ∃ name slot, session.buffers.find? name = some slot ∧ move.follow name = some target ∧
        result = move.onSlot name slot session := by
  cases move with
  | keep => exact .inr ⟨target, result, hfind, rfl, rfl⟩
  | enter entered new =>
    simp only [onBuffers, Names.find?_insert] at hfind
    split at hfind
    · rename_i hname
      cases hfind
      subst hname
      exact .inl rfl
    · rename_i hname
      exact .inr ⟨target, result, hfind, if_neg hname, rfl⟩
  | act acted old action =>
    right
    simp only [onBuffers, Names.find?_insert] at hfind
    split at hfind
    · rename_i hname
      cases hfind
      subst hname
      exact ⟨target, old, hfits, rfl, by simp only [onSlot, action?, if_true]⟩
    · rename_i hname
      exact ⟨target, result, hfind, rfl, by simp only [onSlot, action?, if_neg hname]⟩
  | rename source goal old =>
    right
    simp only [onBuffers, Names.find?_insert, Names.find?_erase] at hfind
    split at hfind
    · rename_i hname
      cases hfind
      subst hname
      exact ⟨source, result, hfits, if_pos rfl, rfl⟩
    · rename_i hgoal
      split at hfind
      · cases hfind
      · rename_i hname
        exact ⟨target, result, hfind, by simp only [follow, if_neg hname, if_neg hgoal], rfl⟩
  | swap first second old old' =>
    right
    obtain ⟨hfirst, hsecond⟩ := hfits
    simp only [onBuffers, Names.find?_insert] at hfind
    split at hfind
    · rename_i hname
      cases hfind
      subst hname
      exact ⟨first, result, hfirst, if_pos rfl, rfl⟩
    · rename_i hother
      split at hfind
      · rename_i hname
        cases hfind
        subst hname
        refine ⟨second, result, hsecond, ?_, rfl⟩
        simp only [follow, if_neg (Ne.symm hother), if_true]
      · rename_i hname
        exact ⟨target, result, hfind, by simp only [follow, if_neg hname, if_neg hother], rfl⟩
  | leave gone =>
    right
    simp only [onBuffers, Names.find?_erase] at hfind
    split at hfind
    · cases hfind
    · rename_i hname
      exact ⟨target, result, hfind, if_neg hname, rfl⟩

end Move

/-! ### New buffers -/

theorem Buffer.length_renumber (start : Nat) (buffer : Buffer (Item α)) :
    (buffer.renumber start).length = buffer.length :=
  Array.size_mapIdx

/-- The elements of a sound buffer may have other numbers. -/
theorem Buffer.Sound.renumber {buffer : Buffer (Item α)} (hsound : buffer.Sound) (start : Nat) :
    (buffer.renumber start).Sound := by
  refine (Buffer.Evolves.elements .refl ?_).sound hsound
  rw [Array.size_mapIdx]
  exact hsound.length_le

/-- The ways in which a session comes to a new buffer. -/
inductive Session.Entrant [Sized α] [BlockSource σ] (session : Session σ α k) :
    Slot (Item α) k → Prop
  /-- It is empty and has the default settings. -/
  | new (provider : Provider k) : Entrant session ⟨Buffer.new session.nextId, provider⟩
  /-- It was built with given settings. -/
  | build {config : Config} {provider : Provider k} {buffer : Buffer (Item α)} :
      (Buffer.build session.nextId config (session.pool.source provider)).outcome = .ok buffer →
      Entrant session ⟨buffer, provider⟩
  /-- It collected values. -/
  | collect {values : List (Item α)} :
      ((Buffer.new session.nextId).extend values session.pool.heap).outcome = .ok () →
      Entrant session
        ⟨((Buffer.new session.nextId).extend values session.pool.heap).buffer, .heap⟩
  /-- It is a copy of another buffer. -/
  | copy {name : String} {slot : Slot (Item α) k} {buffer : Buffer (Item α)} :
      session.buffers.find? name = some slot →
      ((slot.buffer.renumber session.ledger.issued).copy session.nextId
        (session.pool.source slot.provider)).outcome = .ok buffer →
      Entrant session ⟨buffer, slot.provider⟩

namespace Session

theorem actMove_ne_enter {name : String} {action : Action (Item α)} {session : Session σ α k}
    {target : String} {slot : Slot (Item α) k} : session.actMove name action ≠ .enter target slot := by
  intro h
  unfold actMove at h
  split at h <;> cases h

theorem actOnMove_ne_enter {name label : String} {action : Reference → Action (Item α)}
    {session : Session σ α k} {target : String} {slot : Slot (Item α) k} :
    session.actOnMove name label action ≠ .enter target slot := by
  intro h
  unfold actOnMove at h
  split at h
  · cases h
  · exact actMove_ne_enter h

theorem leaveMove_ne_enter {name : String} {session : Session σ α k} {target : String}
    {slot : Slot (Item α) k} : session.leaveMove name ≠ .enter target slot := by
  intro h
  unfold leaveMove at h
  split at h <;> cases h

theorem enterMove_eq_enter {name : String} {provider : Provider k}
    {outcome : Except Halt (Buffer (Item α))} {target : String} {slot : Slot (Item α) k}
    (h : enterMove name provider outcome = .enter target slot) :
    ∃ buffer, outcome = .ok buffer ∧ slot = ⟨buffer, provider⟩ := by
  cases outcome with
  | error halt => cases h
  | ok buffer =>
    cases h
    exact ⟨buffer, rfl, rfl⟩

/-- A buffer that is not given up is found where its move takes it, with what the move makes of it. -/
theorem find?_step_of_follow [Element α] [BlockSource σ] {session : Session σ α k} {command : Command α}
    {name target : String} {slot : Slot (Item α) k} (hfind : session.buffers.find? name = some slot)
    (hfollow : (session.move command).follow name = some target) :
    (session.step command).2.buffers.find? target =
      some ((session.move command).onSlot name slot session) := by
  rw [buffers_step]
  exact Move.find?_onBuffers_of_follow (fits_move command session) hfind hfollow

/-- A new buffer has its name after the step. -/
theorem find?_step_of_enter [Element α] [BlockSource σ] {session : Session σ α k} {command : Command α}
    {name : String} {slot : Slot (Item α) k} (h : session.move command = .enter name slot) :
    (session.step command).2.buffers.find? name = some slot := by
  rw [buffers_step, h]
  exact Names.find?_insert_self ..

theorem entrant_of_move [Sized α] [BlockSource σ] {command : Command α} {session : Session σ α k}
    {target : String} {slot : Slot (Item α) k} (h : session.move command = .enter target slot) :
    Entrant session slot := by
  cases command with
  | new name source =>
    simp only [move] at h
    split at h
    · cases h
    · cases h
      exact .new _
  | build name config source =>
    simp only [move] at h
    split at h
    · cases h
    · obtain ⟨buffer, hbuild, rfl⟩ := enterMove_eq_enter h
      exact .build hbuild
  | collect name values =>
    simp only [move] at h
    split at h
    · cases h
    · rename_i houtcome
      cases h
      exact .collect houtcome
  | copy name target =>
    simp only [move] at h
    split at h
    · cases h
    · rename_i hfind
      obtain ⟨buffer, hcopy, rfl⟩ := enterMove_eq_enter h
      exact .copy hfind hcopy
  | rename name target =>
    simp only [move] at h
    split at h <;> cases h
  | swap name other =>
    simp only [move] at h
    split at h <;> cases h
  | discard name => exact absurd h leaveMove_ne_enter
  | takeFirst name count => exact absurd h leaveMove_ne_enter
  | drain name => exact absurd h leaveMove_ne_enter
  | act name action => exact absurd h actMove_ne_enter
  | refer name index label => exact absurd h actMove_ne_enter
  | resolve name label => exact absurd h actOnMove_ne_enter
  | overwrite name label value => exact absurd h actOnMove_ne_enter
  | isLive name label => exact absurd h actOnMove_ne_enter
  | _ => cases h

end Session

end ElasticBuffer
