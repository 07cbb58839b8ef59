import ElasticBuffer.Allocator
import ElasticBuffer.Proofs.Requests

/-!
# Calls that fail

A call either is carried out or leaves everything as it was. There are many places where it may fail: the
ceiling, the sum of a length and an addition, a source that refuses, offers a block that cannot be built on or ends
the call, settings that are not valid, an index or a reference that leads nowhere. All of them come before the
first change.

Only a call that takes a run of values may stop in the middle of it; it is set apart (`Command.isSeries`). What
a failed call may leave behind is said by `Session.Kept`: the values that came along are dropped. The sources may have
been asked (`Session.Draws`). Nothing else differs (`Session.step_atomic`).
-/

namespace ElasticBuffer

variable {σ α : Type} {k : Nat}

/-! ### Actions that fail -/

namespace Buffer

/-- Without a new block, the buffer stays as it was. -/
theorem Replacement.buffer_of_error {buffer : Buffer α} {capacity growths : Nat} {reason : Reason}
    {source : σ} {attempt : Attempt σ α} {halt : Halt}
    (hcases : Replacement buffer capacity reason growths source attempt)
    (herror : attempt.outcome = .error halt) : attempt.buffer = buffer := by
  cases hcases with
  | moved room hroom => cases herror
  | refused => rfl
  | panicked message => rfl

variable [Sized α] [BlockSource σ]

theorem reserve_buffer_of_error {additional : Nat} {buffer : Buffer α} {source : σ} {halt : Halt}
    (herror : (buffer.reserve additional source).outcome = .error halt) :
    (buffer.reserve additional source).buffer = buffer := by
  rcases reserve_cases additional buffer source with
    ⟨-, hreserve⟩ | ⟨-, hreserve⟩ | ⟨-, -, hreserve⟩ | ⟨-, -, hcases⟩
  · rw [hreserve]
  · rw [hreserve]
    rfl
  · rw [hreserve]
  · exact hcases.buffer_of_error herror

theorem fit_buffer_of_error {buffer : Buffer α} {source : σ} {halt : Halt}
    (herror : (buffer.fit source).outcome = .error halt) : (buffer.fit source).buffer = buffer := by
  rcases fit_cases buffer source with ⟨-, hfit⟩ | ⟨-, hcases⟩
  · rw [hfit]
    rfl
  · exact hcases.buffer_of_error herror

end Buffer

theorem Effect.exists_halt {attempt : Attempt σ α} {cause : Stop}
    (h : (Effect.ofAttempt attempt).outcome = .error cause) : ∃ halt, attempt.outcome = .error halt := by
  obtain ⟨outcome, buffer, source, events, dropped⟩ := attempt
  cases outcome with
  | error halt => exact ⟨halt, rfl⟩
  | ok _ => cases h

namespace Action

/-- The action takes a run of values, and may stop in the middle of it. -/
def isSeries : Action α → Bool
  | pushAll _ => true
  | extend _ => true
  | _ => false

variable [Element α] [BlockSource σ]

/-- **An action that fails leaves the buffer as it was**, and the value that came along is dropped. -/
theorem perform_of_error {action : Action α} (hsingle : action.isSeries = false) {buffer : Buffer α}
    (hlength : buffer.length ≤ buffer.capacity) {source : σ} {cause : Stop}
    (herror : (action.perform buffer source).outcome = .error cause) :
    (action.perform buffer source).buffer = buffer ∧ (action.perform buffer source).returned = [] ∧
      (action.perform buffer source).dropped = action.values := by
  cases action with
  | push value =>
    obtain ⟨halt, hhalt⟩ := Effect.exists_halt herror
    refine ⟨Buffer.push_buffer_of_error hlength hhalt, rfl, ?_⟩
    simp only [perform, Effect.ofPush, hhalt, Buffer.dropped_push hlength]
    rfl
  | pushAll values => cases hsingle
  | extend values => cases hsingle
  | reserve additional =>
    obtain ⟨halt, hhalt⟩ := Effect.exists_halt herror
    exact ⟨Buffer.reserve_buffer_of_error hhalt, rfl, Buffer.dropped_reserve ..⟩
  | fit =>
    obtain ⟨halt, hhalt⟩ := Effect.exists_halt herror
    exact ⟨Buffer.fit_buffer_of_error hhalt, rfl, Buffer.dropped_fit ..⟩
  | elementAt i =>
    simp only [perform]
    cases buffer.elementAt i <;> exact ⟨rfl, rfl, rfl⟩
  | index i =>
    simp only [perform]
    cases buffer.index i <;> exact ⟨rfl, rfl, rfl⟩
  | refer i =>
    simp only [perform]
    cases buffer.refer i <;> exact ⟨rfl, rfl, rfl⟩
  | put i value =>
    simp only [perform] at herror
    cases hswap : buffer.swapAt? i value with
    | none =>
      rw [hswap] at herror
      cases herror
    | some result =>
      rw [hswap] at herror
      cases herror
  | putIndex i value =>
    simp only [perform] at herror ⊢
    cases hswap : buffer.swapAt i value with
    | error panic => exact ⟨rfl, rfl, rfl⟩
    | ok result =>
      rw [hswap] at herror
      cases herror
  | overwrite reference value =>
    simp only [perform] at herror ⊢
    cases hswap : buffer.resolveSwap reference value with
    | error halt => exact ⟨rfl, rfl, rfl⟩
    | ok result =>
      rw [hswap] at herror
      cases herror
  | resolve reference => exact ⟨rfl, rfl, rfl⟩
  | _ => cases herror

end Action

/-! ### Steps that fail -/

/-- The command takes a run of values, and may stop in the middle of it. -/
def Command.isSeries : Command α → Bool
  | .act _ action => action.isSeries
  | .collect _ _ => true
  | _ => false

namespace Session

/-- The second session is the first one, but for values that were dropped and for the sources. -/
structure Kept (session after : Session σ α k) (rejected : List α) : Prop where
  /-- Every name stands for the same buffer on the same source. -/
  find?_eq (name : String) : after.buffers.find? name = session.buffers.find? name
  /-- The stored references are the same. -/
  references_eq : after.references = session.references
  /-- No identity was drawn. -/
  nextId_eq : after.nextId = session.nextId
  /-- The rejected values were dropped, and no other one left. -/
  ledger_eq : after.ledger =
    (session.ledger.issue rejected.length).drop (Item.number session.ledger.issued rejected)

theorem Kept.refl (session : Session σ α k) : session.Kept session [] :=
  ⟨fun _ => rfl, rfl, rfl, rfl⟩

/-- A buffer that is put back where it stood changes nothing. -/
theorem find?_insert_of_find? {name : String} {slot : Slot (Item α) k} {session : Session σ α k}
    (hfind : session.buffers.find? name = some slot) (other : String) :
    (session.buffers.insert name slot).find? other = session.buffers.find? other := by
  rw [Names.find?_insert]
  split
  · rename_i hname
    rw [hname, hfind]
  · rfl

variable [Element α] [BlockSource σ]

/-- Without a buffer no copies were made. -/
theorem Builds.copies_of_error {session : Session σ α k} {command : Command α} {name : String}
    {provider : Provider k} {construction : Construction σ (Item α)} {copies : Nat} {halt : Halt}
    (h : session.Builds command name provider construction copies) (herror : construction.outcome = .error halt) :
    copies = 0 := by
  cases h with
  | new _ => rfl
  | build _ => rfl
  | copy _ hcopying =>
    subst hcopying
    rw [Buffer.length_made_copy, herror]
    rfl

theorem kept_enroll {session : Session σ α k} {command : Command α} {name : String} {provider : Provider k}
    {construction : Construction σ (Item α)} {copies : Nat} {cause : Stop}
    (h : session.Builds command name provider construction copies)
    (herror : ({ session with ledger := session.ledger.issue copies }.enroll name provider
      construction).1.outcome = .error cause) :
    session.Kept ({ session with ledger := session.ledger.issue copies }.enroll name provider construction).2 [] := by
  simp only [enroll] at herror ⊢
  cases houtcome : construction.outcome with
  | error halt =>
    obtain rfl := h.copies_of_error houtcome
    exact ⟨fun _ => rfl, rfl, rfl, rfl⟩
  | ok buffer =>
    rw [houtcome] at herror
    cases herror

theorem kept_act {session : Session σ α k} (hsound : session.Sound) {name : String} {action : Action α}
    (hsingle : action.isSeries = false) {cause : Stop}
    (herror : (session.act name action).1.outcome = .error cause) :
    session.Kept (session.act name action).2 action.values := by
  have hvalues := Action.values_number session.ledger.issued action
  simp only [act] at herror ⊢
  cases hfind : session.buffers.find? name with
  | none =>
    refine ⟨fun _ => rfl, rfl, rfl, ?_⟩
    show (session.ledger.issue _).drop _ = _
    rw [hvalues, Item.length_number]
  | some slot =>
    rw [hfind] at herror
    have hnumber : (action.number session.ledger.issued).isSeries = false := by
      rw [← hsingle]
      cases action <;> rfl
    obtain ⟨hbuffer, hreturned, hdropped⟩ :=
      Action.perform_of_error hnumber (hsound name slot hfind).length_le herror
    refine ⟨fun other => ?_, rfl, rfl, ?_⟩
    · simp only [hbuffer]
      exact find?_insert_of_find? hfind other
    · simp only [hreturned, hdropped, hvalues, Item.length_number]
      rfl

omit [Element α] [BlockSource σ] in
theorem Performs.isSeries_eq {session : Session σ α k} {command : Command α} {name : String} {action : Action α}
    (h : session.Performs command name action) : command.isSeries = action.isSeries := by
  cases h <;> rfl

/-- **A step that fails leaves the session as it was**, but for the values that came along. -/
theorem kept_step {session : Session σ α k} (hsound : session.Sound) {command : Command α}
    (hsingle : command.isSeries = false) {cause : Stop}
    (herror : (session.step command).1.outcome = .error cause) :
    session.Kept (session.step command).2 (session.brought command) := by
  have hcourse := course_step command session
  generalize session.step command = result at hcourse herror ⊢
  cases hcourse with
  | missing _ _ hbrought =>
    rw [hbrought]
    exact .refl session
  | answered => cases herror
  | drew => cases herror
  | enrolled hbuilds =>
    rw [hbuilds.brought_eq]
    exact kept_enroll hbuilds herror
  | collected hcommand =>
    subst hcommand
    cases hsingle
  | acted hperforms =>
    rw [hperforms.isSeries_eq] at hsingle
    rw [hperforms.brought_eq]
    exact kept_act hsound hsingle herror
  | referred _ hact =>
    rw [hact] at herror
    cases herror
  | requested hcommand _ _ =>
    subst hcommand
    exact ⟨fun _ => rfl, rfl, rfl, rfl⟩
  | reset => cases herror

/-- **Calls that fail.** Take any session of any run, and a call that takes one value at most and fails, for
whatever reason. Then every name stands for the same buffer, with the same elements, capacity, generation, growths,
identity and settings. No identity was drawn, and every reference that was live is live. The value that came along
is dropped, and of the sources only the one that the call draws on may have been asked. -/
theorem step_atomic {session : Session σ α k} (hreachable : session.Reachable) {command : Command α}
    (hsingle : command.isSeries = false) {cause : Stop}
    (herror : (session.step command).1.outcome = .error cause) :
    session.Kept (session.step command).2 (session.brought command) ∧
      (∀ provider,
        session.Draws command provider ((session.step command).2.pool.source provider)) ∧
      ∀ name slot r, session.buffers.find? name = some slot → slot.buffer.isLive r = true →
        ∃ slot', (session.step command).2.buffers.find? name = some slot' ∧
          slot'.buffer.isLive r = true := by
  have hkept := kept_step hreachable.sound hsingle herror
  refine ⟨hkept, draws_step hreachable.sound command, ?_⟩
  intro name slot r hfind hlive
  exact ⟨slot, (hkept.find?_eq name).trans hfind, hlive⟩

/-- A buffer at its ceiling declines one more value. -/
theorem step_atomic_at_ceiling :
    let session : Session Allocator UInt8 0 :=
      (start ⟨.system, #v[], #v[]⟩).run
        [.build "a" { initialCapacity := 1, maxCapacity := 1 } none, .act "a" (.push 7)]
    (session.step (.act "a" (.push 8))).1.outcome = .error (.fault (.allocationFailure 2 1)) ∧
      session.Kept (session.step (.act "a" (.push 8))).2 [8] := by
  intro session
  have hreachable : session.Reachable := ⟨_, _, rfl⟩
  have herror : (session.step (.act "a" (.push 8))).1.outcome =
      .error (.fault (.allocationFailure 2 1)) := rfl
  exact ⟨herror, (step_atomic hreachable rfl herror).1⟩

end Session

end ElasticBuffer
