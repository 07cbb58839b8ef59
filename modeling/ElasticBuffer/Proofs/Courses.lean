import ElasticBuffer.Proofs.Moves

/-!
# The courses that a step can take

A command looks up what it speaks of, and then does one of a few things. `Session.Course` lists them, each with all that
the step comes to, and `course_step` says that there are no others. What a step does to one part of a session is then a
matter of nine courses and not of all commands: to the sources and their names, to the identity that is drawn next, to
the ledger, to what is reported.
-/

namespace ElasticBuffer

variable {σ α : Type} {k : Nat}

namespace Session

/-! ### What comes along with a command, and what it draws -/

/-- The values that come along with a command. A value that is to be written through a stored reference is not
made before the reference is found. -/
def brought (command : Command α) (session : Session σ α k) : List α :=
  match command with
  | .act _ action => action.values
  | .collect _ values => values
  | .overwrite _ label value =>
    match session.references.find? label with
    | none => []
    | some _ => [value]
  | _ => []

variable [Element α] [BlockSource σ]

/-- The number of identities that a step draws: one for each buffer that is built, and one for a caller who asks. Values
that are collected draw an identity whether they can be stored or not. -/
def drawn (command : Command α) (session : Session σ α k) : Nat :=
  match command with
  | .drawId => 1
  | .collect _ _ => 1
  | .new _ _ => bif (session.step command).1.outcome.isOk then 1 else 0
  | .build _ _ _ => bif (session.step command).1.outcome.isOk then 1 else 0
  | .copy _ _ => bif (session.step command).1.outcome.isOk then 1 else 0
  | _ => 0

/-! ### Courses -/

/-- The commands that build a buffer and enroll it under a name, with the number of elements that are copied for it. -/
inductive Builds (session : Session σ α k) :
    Command α → (name : String) → Provider k → Construction σ (Item α) → (copies : Nat) → Prop
  /-- An empty buffer. -/
  | new {name : String} {source : Option String} {provider : Provider k} :
      session.provider? source = some provider →
      Builds session (.new name source) name provider
        ⟨.ok (Buffer.new session.nextId), session.pool.source provider, []⟩ 0
  /-- An empty buffer with given settings. -/
  | build {name : String} {config : Config} {source : Option String} {provider : Provider k} :
      session.provider? source = some provider →
      Builds session (.build name config source) name provider
        (Buffer.build session.nextId config (session.pool.source provider)) 0
  /-- A copy of another buffer. -/
  | copy {name target : String} {slot : Slot (Item α) k} {copying : Copying σ (Item α)} :
      session.buffers.find? name = some slot →
      copying = (slot.buffer.renumber session.ledger.issued).copy session.nextId
        (session.pool.source slot.provider) →
      Builds session (.copy name target) target slot.provider copying.toConstruction copying.made.length

/-- The moves of buffers that keep what they hold, with the values that leave: those that are handed to the caller, and
those that are dropped. -/
inductive Arranges (session : Session σ α k) : Move α k → (handed dropped : List (Item α)) → Prop
  /-- The session is only looked at. -/
  | look : Arranges session .keep [] []
  /-- A buffer takes another name, and one that had it is dropped. -/
  | rename {name target : String} {slot : Slot (Item α) k} : session.buffers.find? name = some slot →
      Arranges session (.rename name target slot) [] ((session.remove name).elementsOf target)
  /-- Two buffers exchange their names. -/
  | swap {name other : String} {slot slot' : Slot (Item α) k} :
      session.buffers.find? name = some slot → session.buffers.find? other = some slot' →
      Arranges session (.swap name other slot slot') [] []
  /-- A buffer is given up for its first elements. -/
  | leave {name : String} {slot : Slot (Item α) k} (count : Nat) : session.buffers.find? name = some slot →
      Arranges session (.leave name) (slot.buffer.toList.take count) (slot.buffer.toList.drop count)

/-- The commands that perform an action on the buffer of a name. -/
inductive Performs (session : Session σ α k) : Command α → (name : String) → Action α → Prop
  /-- The action is given. -/
  | act {name : String} {action : Action α} : Performs session (.act name action) name action
  /-- A reference is taken. -/
  | refer {name : String} {index : Nat} {label : String} :
      Performs session (.refer name index label) name (.refer index)
  /-- A stored reference is resolved. -/
  | resolve {name label : String} {r : Reference} : session.references.find? label = some r →
      Performs session (.resolve name label) name (.resolve r)
  /-- A value is written through a stored reference. -/
  | overwrite {name label : String} {value : α} {r : Reference} : session.references.find? label = some r →
      Performs session (.overwrite name label value) name (.overwrite r value)
  /-- A stored reference is checked. -/
  | isLive {name label : String} {r : Reference} : session.references.find? label = some r →
      Performs session (.isLive name label) name (.isLive r)

section Parts

variable {session : Session σ α k} {command : Command α} {name : String} {provider : Provider k}
  {construction : Construction σ (Item α)} {copies : Nat} {action : Action α}

theorem Builds.drawn_eq (h : session.Builds command name provider construction copies) :
    session.drawn command = bif (session.step command).1.outcome.isOk then 1 else 0 := by
  cases h <;> rfl

theorem Builds.brought_eq (h : session.Builds command name provider construction copies) :
    session.brought command = [] := by
  cases h <;> rfl

theorem Builds.move_eq (h : session.Builds command name provider construction copies) :
    session.move command = enterMove name provider construction.outcome := by
  cases h with
  | new hprovider =>
    simp only [move, hprovider]
    rfl
  | build hprovider => simp only [move, hprovider]
  | copy hfind hcopying => simp only [move, hfind, hcopying]

theorem Performs.drawn_eq (h : session.Performs command name action) : session.drawn command = 0 := by
  cases h <;> rfl

omit [Element α] [BlockSource σ] in
theorem Performs.brought_eq (h : session.Performs command name action) : session.brought command = action.values := by
  cases h with
  | overwrite hfind =>
    simp only [brought, hfind]
    rfl
  | _ => rfl

theorem Performs.move_eq (h : session.Performs command name action) :
    session.move command = session.actMove name (action.number session.ledger.issued) := by
  cases h with
  | act => rfl
  | refer => rfl
  | resolve hfind =>
    simp only [move, actOnMove, hfind]
    rfl
  | overwrite hfind =>
    simp only [move, actOnMove, hfind]
    rfl
  | isLive hfind =>
    simp only [move, actOnMove, hfind]
    rfl

omit [Element α] [BlockSource σ] in
/-- Only an action that is given asks for a block. -/
theorem Performs.mayAllocate (h : session.Performs command name action) :
    command = .act name action ∨ action.mayAllocate = false := by
  cases h with
  | act => exact .inl rfl
  | _ => exact .inr rfl

end Parts

/-- What a step can come to. -/
inductive Course (session : Session σ α k) (command : Command α) : Report σ α × Session σ α k → Prop
  /-- Something that the command speaks of is not there, and nothing is done. -/
  | missing {what : Missing} : session.move command = .keep → session.drawn command = 0 →
      session.brought command = [] → Course session command (session.stop (.missing what))
  /-- There is an answer. Buffers may have taken other names, or been given up. -/
  | answered {handed dropped : List (Item α)} {answer : Answer σ (Item α)} :
      session.Arranges (session.move command) handed dropped → session.drawn command = 0 →
      session.brought command = [] →
      Course session command
        ({ session with
          buffers := (session.move command).onBuffers session
          ledger := (session.ledger.giveBack handed).drop dropped }.answer answer)
  /-- An identity is drawn. -/
  | drew : command = .drawId →
      Course session command
        ({ session with nextId := session.nextId.next }.answer (.identity session.nextId))
  /-- A buffer is built, or not, and enrolled. -/
  | enrolled {name : String} {provider : Provider k} {construction : Construction σ (Item α)} {copies : Nat} :
      session.Builds command name provider construction copies →
      Course session command
        ({ session with ledger := session.ledger.issue copies }.enroll name provider construction)
  /-- A buffer collects values. -/
  | collected {name : String} {values : List α} : command = .collect name values →
      Course session command (session.collect name values)
  /-- An action is performed. -/
  | acted {name : String} {action : Action α} : session.Performs command name action →
      Course session command (session.act name action)
  /-- A reference is taken and stored. -/
  | referred {name : String} {index : Nat} {label : String} {r : Reference} :
      command = .refer name index label →
      (session.act name (.refer index)).1.outcome = .ok (.reference r) →
      Course session command
        ((session.act name (.refer index)).1,
          { (session.act name (.refer index)).2 with
            references := (session.act name (.refer index)).2.references.insert label r })
  /-- The caller asks a source for a block, which may end the call. -/
  | requested {name : String} {capacity : Nat} {provider : Provider k}
      {outcome : Except Stop (Answer σ (Item α))} :
      command = .request name capacity → session.pool.provider? name = some provider →
      (∀ cause, outcome = .error cause → ∃ message, cause = .panic (.source message)) →
      Course session command
        (⟨outcome, []⟩, session.updateSource provider
          (BlockSource.request (session.pool.source provider) (Sized.bytes α) capacity).2)
  /-- The caller resets a source. -/
  | reset {name : String} {provider : Provider k} :
      command = .resetSource name → session.pool.provider? name = some provider →
      Course session command
        ((session.updateSource provider (BlockSource.reset (session.pool.source provider))).answer .done)

/-! ### There are no other courses -/

/-- There is an answer, and the session is what the move makes of it. -/
theorem Course.of_arranges {session : Session σ α k} {command : Command α} {move : Move α k}
    {handed dropped : List (Item α)} {answer : Answer σ (Item α)} (h : session.Arranges move handed dropped)
    (hmove : session.move command = move) (hdrawn : session.drawn command = 0)
    (hbrought : session.brought command = []) :
    session.Course command
      ({ session with
        buffers := move.onBuffers session
        ledger := (session.ledger.giveBack handed).drop dropped }.answer answer) := by
  subst hmove
  exact .answered h hdrawn hbrought

/-- A look at the session changes nothing. -/
theorem Course.told {session : Session σ α k} {command : Command α} {answer : Answer σ (Item α)}
    (hmove : session.move command = .keep) (hdrawn : session.drawn command = 0)
    (hbrought : session.brought command = []) : session.Course command (session.answer answer) :=
  .of_arranges .look hmove hdrawn hbrought

theorem course_giveUp {command : Command α} {name : String} {session : Session σ α k} (count : Nat)
    (reply : List (Item α) → Answer σ (Item α)) (hmove : session.move command = session.leaveMove name)
    (hdrawn : session.drawn command = 0) (hbrought : session.brought command = []) :
    session.Course command (session.giveUp name count reply) := by
  simp only [leaveMove] at hmove
  simp only [giveUp]
  cases hfind : session.buffers.find? name with
  | none =>
    rw [hfind] at hmove
    exact .missing hmove hdrawn hbrought
  | some slot =>
    rw [hfind] at hmove
    exact .of_arranges (.leave count hfind) hmove hdrawn hbrought

theorem course_actOn {command : Command α} {name label : String} {action : Reference → Action α}
    {session : Session σ α k}
    (hperforms : ∀ r, session.references.find? label = some r → session.Performs command name (action r))
    (hnone : session.references.find? label = none →
      session.move command = .keep ∧ session.drawn command = 0 ∧ session.brought command = []) :
    session.Course command (session.actOn name label action) := by
  rcases actOn_cases name label action session with ⟨hfind, hact⟩ | ⟨r, hfind, hact⟩
  · obtain ⟨hmove, hdrawn, hbrought⟩ := hnone hfind
    rw [hact]
    exact .missing hmove hdrawn hbrought
  · rw [hact]
    exact .acted (hperforms r hfind)

/-- **A step takes one of the courses.** -/
theorem course_step (command : Command α) (session : Session σ α k) :
    session.Course command (session.step command) := by
  cases command with
  | new name source =>
    simp only [step, new]
    cases hprovider : session.provider? source with
    | none => exact .missing (by simp only [move, hprovider]) (by simp only [drawn, step, new, hprovider]; rfl) rfl
    | some provider => exact .enrolled (.new hprovider)
  | build name config source =>
    simp only [step, build]
    cases hprovider : session.provider? source with
    | none => exact .missing (by simp only [move, hprovider]) (by simp only [drawn, step, build, hprovider]; rfl) rfl
    | some provider => exact .enrolled (.build hprovider)
  | collect name values => exact .collected rfl
  | copy name target =>
    simp only [step, copy]
    cases hfind : session.buffers.find? name with
    | none => exact .missing (by simp only [move, hfind]) (by simp only [drawn, step, copy, hfind]; rfl) rfl
    | some slot =>
      -- a copy drops nothing on the way
      simp only [Buffer.dropped_copy]
      exact .enrolled (.copy hfind rfl)
  | rename name target =>
    simp only [step, rename]
    cases hfind : session.buffers.find? name with
    | none => exact .missing (by simp only [move, hfind]) rfl rfl
    | some slot => exact .of_arranges (.rename hfind) (by simp only [move, hfind]) rfl rfl
  | swap name other =>
    simp only [step, swap]
    cases hfind : session.buffers.find? name with
    | none => exact .missing (by simp only [move, hfind]) rfl rfl
    | some slot =>
      cases hother : session.buffers.find? other with
      | none => exact .missing (by simp only [move, hfind, hother]) rfl rfl
      | some slot' => exact .of_arranges (.swap hfind hother) (by simp only [move, hfind, hother]) rfl rfl
  | discard name =>
    rw [step, discard]
    exact course_giveUp _ _ rfl rfl rfl
  | takeFirst name count => exact course_giveUp _ _ rfl rfl rfl
  | drain name =>
    rw [step, drain]
    exact course_giveUp _ _ rfl rfl rfl
  | drawId => exact .drew rfl
  | act name action => exact .acted .act
  | refer name index label =>
    rcases refer_cases name index label session with ⟨-, -, -, hrefer⟩ | ⟨-, r, -, -, -, hact, hrefer⟩
    · rw [step, hrefer]
      exact .acted .refer
    · rw [step, hrefer]
      exact .referred rfl hact
  | resolve name label =>
    refine course_actOn (fun r hfind => .resolve hfind) fun hfind => ⟨?_, rfl, rfl⟩
    simp only [move, actOnMove, hfind]
  | overwrite name label value =>
    refine course_actOn (fun r hfind => .overwrite hfind) fun hfind => ⟨?_, rfl, ?_⟩
    · simp only [move, actOnMove, hfind]
    · simp only [brought, hfind]
  | isLive name label =>
    refine course_actOn (fun r hfind => .isLive hfind) fun hfind => ⟨?_, rfl, rfl⟩
    simp only [move, actOnMove, hfind]
  | liveReferences name =>
    simp only [step, liveReferences]
    cases session.buffers.find? name with
    | none => exact .missing rfl rfl rfl
    | some slot => exact .told rfl rfl rfl
  | reference label =>
    simp only [step, reference]
    cases session.references.find? label with
    | none => exact .missing rfl rfl rfl
    | some r => exact .told rfl rfl rfl
  | sameReference label other =>
    simp only [step, sameReference]
    cases session.references.find? label with
    | none => exact .missing rfl rfl rfl
    | some r =>
      cases session.references.find? other with
      | none => exact .missing rfl rfl rfl
      | some r' => exact .told rfl rfl rfl
  | countReferences => exact .told rfl rfl rfl
  | source name =>
    simp only [step, source]
    cases session.pool.provider? name with
    | none => exact .missing rfl rfl rfl
    | some provider => exact .told rfl rfl rfl
  | resetSource name =>
    simp only [step, resetSource]
    cases hprovider : session.pool.provider? name with
    | none => exact .missing rfl rfl rfl
    | some provider => exact .reset rfl hprovider
  | request name capacity =>
    simp only [step, request]
    cases hprovider : session.pool.provider? name with
    | none => exact .missing rfl rfl rfl
    | some provider =>
      simp only
      split
      · exact .requested rfl hprovider (by rintro cause ⟨⟩)
      · exact .requested rfl hprovider (by rintro cause ⟨⟩)
      · refine .requested rfl hprovider ?_
        rintro cause ⟨⟩
        exact ⟨_, rfl⟩

/-- A buffer is acted on by a command that performs the action. -/
theorem performs_of_move {session : Session σ α k} {command : Command α} {name : String} {slot : Slot (Item α) k}
    {action : Action (Item α)} (h : session.move command = .act name slot action) :
    ∃ plain, session.Performs command name plain ∧ action = plain.number session.ledger.issued := by
  have hcourse := course_step command session
  generalize session.step command = result at hcourse
  have hperforms {acted : String} {plain : Action α} (hplain : session.Performs command acted plain) :
      ∃ plain, session.Performs command name plain ∧ action = plain.number session.ledger.issued := by
    have hmove := hplain.move_eq
    rw [h, actMove] at hmove
    split at hmove
    · cases hmove
    · cases hmove
      exact ⟨plain, hplain, rfl⟩
  cases hcourse with
  | missing hmove =>
    rw [h] at hmove
    cases hmove
  | answered harranges =>
    rw [h] at harranges
    cases harranges
  | enrolled hbuilds =>
    rw [hbuilds.move_eq] at h
    unfold enterMove at h
    split at h <;> cases h
  | collected hcommand =>
    subst hcommand
    simp only [move] at h
    split at h <;> cases h
  | acted hplain => exact hperforms hplain
  | referred hcommand =>
    subst hcommand
    exact hperforms .refer
  | drew hcommand | requested hcommand | reset hcommand =>
    subst hcommand
    cases h

end Session

end ElasticBuffer
