import ElasticBuffer.Proofs.Reservation
import ElasticBuffer.Proofs.Series

/-!
# Pushes that are guarded

A caller may make room for one value before it is pushed, and push it only if the room is there. The capacity is then
chosen by `Buffer.reserve` and not by the push itself: the larger of what follows in the policy and what is needed, and
then the ceiling if that is less. Since a policy always goes to a larger capacity, both choose the same
(`Buffer.reservedCapacity_succ`), as long as there is a capacity to go to.

So it makes no difference if some of the pushes of a run are guarded (`Session.guarded_pushes_agree`). All that tells
them from others is the reason that is given for a new block, and for one that could not be had.
-/

namespace ElasticBuffer

variable {σ τ α : Type} {k : Nat}

/-! ### Events apart from their reasons -/

namespace Event

/-- The event with another reason, if it gives one. -/
def withReason (reason : Reason) : Event → Event
  | replaced buffer before after generation _ => replaced buffer before after generation reason
  | blockRefused buffer before after _ => blockRefused buffer before after reason
  | event => event

/-- What an event tells, but for the reason. -/
def apartFromReason (event : Event) : Level × String × List (String × Detail) :=
  (event.level, event.message, event.details.filter fun detail => detail.1 ≠ "reason")

theorem apartFromReason_withReason (reason : Reason) (event : Event) :
    (event.withReason reason).apartFromReason = event.apartFromReason := by
  cases event <;> rfl

end Event

/-- The attempt with another reason in its events. -/
def Attempt.withReason (reason : Reason) (attempt : Attempt σ α) : Attempt σ α :=
  { attempt with events := attempt.events.map (Event.withReason reason) }

/-- What a report tells, but for the reasons. -/
def Report.apartFromReason (report : Report σ α) :
    Except Stop (Answer σ (Item α)) × List (Level × String × List (String × Detail)) :=
  (report.outcome, report.events.map Event.apartFromReason)

/-! ### The same capacity -/

namespace Buffer

/-- A full block below its ceiling goes to the same capacity for a value as for room for it. -/
theorem reservedCapacity_succ {buffer : Buffer α} (hfull : buffer.length = buffer.capacity) {next : Nat}
    (hnext : buffer.config.growth.next? buffer.capacity = some next) :
    buffer.reservedCapacity (buffer.length + 1) = buffer.grownCapacity := by
  have hlarger := Growth.lt_of_next? hnext
  have hmost : max next (buffer.length + 1) = next := Nat.max_eq_left (by omega)
  simp only [reservedCapacity, grownCapacity, hnext, Option.getD_some, hmost]

variable [Sized α] [BlockSource σ]

/-- The reason is all that tells one replacement from another. -/
theorem enlarge_withReason (capacity : Nat) (reason other : Reason) (buffer : Buffer α) (source : σ) :
    buffer.enlarge capacity reason source = (buffer.enlarge capacity other source).withReason reason := by
  unfold enlarge replaceBlock
  obtain ⟨result, next⟩ := Block.allocate (α := α) capacity source
  cases result with
  | error cause => cases cause <;> rfl
  | ok block =>
    cases hmove : buffer.block.moveInto block with
    | error cause => simp only [hmove]; rfl
    | ok blocks => simp only [hmove]; rfl

/-- **A guarded push is a push.** -/
theorem reserve_andThen_push {buffer : Buffer α} (hsound : buffer.Sound)
    (hbelow : buffer.length < buffer.config.ceiling) {next : Nat}
    (hnext : buffer.config.growth.next? buffer.capacity = some next) (value : α) (source : σ) :
    ((buffer.reserve 1 source).andThen fun buffer source => buffer.push value source) =
      (buffer.push value source).withReason .reserve := by
  have hsum : sum? buffer.length 1 = some (buffer.length + 1) := by
    have hword := buffer.config.ceiling_le_wordMax
    exact sum?_eq_some_iff.2 ⟨rfl, by omega⟩
  by_cases hfull : buffer.length = buffer.capacity
  · have hgrown : buffer.capacity < buffer.grownCapacity := by
      rw [grownCapacity_eq]
      exact Config.lt_grow (hfull ▸ hbelow)
    have hreserve : buffer.reserve 1 source = buffer.enlarge buffer.grownCapacity .reserve source := by
      have hmore : ¬ buffer.length + 1 ≤ buffer.capacity := by omega
      have hallowed : ¬ buffer.config.ceiling < buffer.length + 1 := by omega
      rw [reserve, hsum]
      simp only [if_neg hmore, if_neg hallowed]
      exact congrArg (fun capacity => buffer.enlarge capacity .reserve source) (reservedCapacity_succ hfull hnext)
    rw [hreserve, push, if_pos (isFull_iff.2 hfull), grow, if_neg (Nat.not_le.2 hgrown),
      enlarge_withReason _ .reserve .append]
    -- what comes of the request is the same for both
    have hcases := enlarge_cases .append source (show buffer.length ≤ buffer.grownCapacity by omega)
    generalize buffer.enlarge buffer.grownCapacity .append source = attempt at hcases
    cases hcases with
    | moved room hroom =>
      have hfree : (buffer.rehouse buffer.grownCapacity room 1).length <
          (buffer.rehouse buffer.grownCapacity room 1).capacity := by
        rw [length_rehouse, capacity_rehouse]
        omega
      simp only [Attempt.withReason, Attempt.andThen, push_of_lt value _ hfree, store_of_lt _ hfree]
      rfl
    | refused => rfl
    | panicked message => rfl
  · have hfree : buffer.length < buffer.capacity := Nat.lt_of_le_of_ne hsound.length_le hfull
    have hreserve : buffer.reserve 1 source = .done buffer source := by
      rw [reserve, hsum]
      exact if_pos hfree
    rw [hreserve, Attempt.andThen_of_ok rfl]
    simp only [Attempt.done, push_of_lt value source hfree]
    rfl

end Buffer

/-! ### Runs with guarded pushes -/

/-- A step of a run in which pushes may be guarded. -/
inductive Guarded (α : Type) where
  /-- A command as it is. -/
  | plain (command : Command α)
  /-- A push for which room is made first, and which is left out if there is none. -/
  | push (name : String) (value : α)

/-- The step without its guard. -/
def Guarded.command : Guarded α → Command α
  | plain command => command
  | push name value => .act name (.push value)

namespace Session

variable [Element α] [BlockSource σ]

/-- Makes room for a value and pushes it; if there is no room, the value ends. -/
def pushGuarded (name : String) (value : α) (session : Session σ α k) : Report σ α × Session σ α k :=
  let reserved := session.step (.act name (.reserve 1))
  match reserved.1.outcome with
  | .ok _ =>
    let pushed := reserved.2.step (.act name (.push value))
    ({ pushed.1 with events := reserved.1.events ++ pushed.1.events }, pushed.2)
  | .error _ =>
    let item : Item α := ⟨reserved.2.ledger.issued, value⟩
    (reserved.1, { reserved.2 with ledger := (reserved.2.ledger.issue 1).drop [item] })

/-- Carries a step out. -/
def stepGuarded (step : Guarded α) (session : Session σ α k) : Report σ α × Session σ α k :=
  match step with
  | .plain command => session.step command
  | .push name value => session.pushGuarded name value

/-- Carries steps out one after the other; after each, its report and the session then. -/
def traceGuarded : List (Guarded α) → Session σ α k → List (Report σ α × Session σ α k)
  | [], _ => []
  | step :: steps, session =>
    let first := session.stepGuarded step
    first :: traceGuarded steps first.2

/-- The session after a list of steps. -/
def runGuarded (steps : List (Guarded α)) (session : Session σ α k) : Session σ α k :=
  steps.foldl (fun session step => (session.stepGuarded step).2) session

/-- If a push is guarded, its buffer is below the ceiling, and there is a capacity that follows in the policy. -/
def Admits (step : Guarded α) (session : Session σ α k) : Prop :=
  match step with
  | .plain _ => True
  | .push name _ => ∀ slot ∈ session.buffers.find? name,
      slot.buffer.length < slot.buffer.config.ceiling ∧
        (slot.buffer.config.growth.next? slot.buffer.capacity).isSome = true

instance (step : Guarded α) (session : Session σ α k) : Decidable (session.Admits step) :=
  match step with
  | .plain _ => isTrue trivial
  | .push name _ => inferInstanceAs (Decidable (∀ slot ∈ session.buffers.find? name, _))

/-- So it is whenever the run without guards comes to a guarded push. -/
def AdmitsAll : List (Guarded α) → Session σ α k → Prop
  | [], _ => True
  | step :: steps, session => session.Admits step ∧ AdmitsAll steps (session.step step.command).2

instance decidableAdmitsAll : (steps : List (Guarded α)) → (session : Session σ α k) →
    Decidable (session.AdmitsAll steps)
  | [], _ => isTrue trivial
  | step :: steps, session =>
    have := decidableAdmitsAll steps (session.step step.command).2
    inferInstanceAs (Decidable (session.Admits step ∧ AdmitsAll steps (session.step step.command).2))

/-- A guarded push is one action, which stores the value if room was made for it. -/
theorem pushGuarded_eq {session : Session σ α k} {name : String} {slot : Slot (Item α) k}
    (hfind : session.buffers.find? name = some slot) (value : α) :
    session.pushGuarded name value =
      let item : Item α := ⟨session.ledger.issued, value⟩
      let attempt := (slot.buffer.reserve 1 (session.pool.source slot.provider)).andThen fun buffer source =>
        buffer.push item source
      let effect := Effect.ofPush item attempt
      (⟨effect.outcome, attempt.events⟩,
        session.settle name { slot with buffer := attempt.buffer } attempt.source
          ((session.ledger.issue 1).drop effect.dropped)) := by
  have hreserve : session.step (.act name (.reserve 1)) = _ := act_eq_settle hfind (.reserve 1)
  simp only [Action.number, Action.perform] at hreserve
  have hdropped := Buffer.dropped_reserve 1 slot.buffer (session.pool.source slot.provider)
  rw [pushGuarded, hreserve]
  generalize slot.buffer.reserve 1 (session.pool.source slot.provider) = attempt at hdropped
  obtain ⟨outcome, buffer, source, events, dropped⟩ := attempt
  cases hdropped
  cases outcome with
  | error halt => rfl
  | ok _ =>
    simp only [Effect.ofAttempt, step, act_settle]
    rfl

/-- A step comes to the same with and without its guard, but for the reasons. -/
theorem stepGuarded_agrees {session : Session σ α k} (hsound : session.Sound) {step : Guarded α}
    (hadmits : session.Admits step) :
    (session.stepGuarded step).1.apartFromReason = (session.step step.command).1.apartFromReason ∧
      (session.stepGuarded step).2 = (session.step step.command).2 := by
  cases step with
  | plain command => exact ⟨rfl, rfl⟩
  | push name value =>
    show (session.pushGuarded name value).1.apartFromReason =
        (session.step (.act name (.push value))).1.apartFromReason ∧
      (session.pushGuarded name value).2 = (session.step (.act name (.push value))).2
    cases hfind : session.buffers.find? name with
    | none =>
      simp only [pushGuarded, Session.step, act, hfind]
      exact ⟨rfl, rfl⟩
    | some slot =>
      obtain ⟨hbelow, hnext⟩ := hadmits slot hfind
      obtain ⟨next, hnext⟩ := Option.isSome_iff_exists.1 hnext
      rw [pushGuarded_eq hfind, step_push hfind]
      simp only [Buffer.reserve_andThen_push (hsound name slot hfind) hbelow hnext]
      refine ⟨?_, rfl⟩
      simp only [Report.apartFromReason, Attempt.withReason, List.map_map, Function.comp_def,
        Event.apartFromReason_withReason]
      rfl

/-- So does a run. -/
theorem traceGuarded_agrees {steps : List (Guarded α)} {session : Session σ α k} (hsound : session.Sound)
    (hadmits : session.AdmitsAll steps) :
    (session.traceGuarded steps).map (fun result => (result.1.apartFromReason, result.2)) =
        (session.trace (steps.map Guarded.command)).map (fun result => (result.1.apartFromReason, result.2)) ∧
      session.runGuarded steps = session.run (steps.map Guarded.command) := by
  induction steps generalizing session with
  | nil => exact ⟨rfl, rfl⟩
  | cons step steps ih =>
    obtain ⟨hfirst, hrest⟩ := hadmits
    obtain ⟨hreport, hsession⟩ := stepGuarded_agrees hsound hfirst
    obtain ⟨htrace, hrun⟩ := ih (hsound.step step.command) hrest
    constructor
    · simp only [traceGuarded, List.map_cons, trace, hreport, hsession, htrace]
    · show (session.stepGuarded step).2.runGuarded steps = _
      rw [hsession]
      exact hrun

/-- It is not the sources that tell whether guards are admitted. -/
theorem AdmitsAll.of_mapSource [BlockSource τ] {f : σ → τ} (hf : Commutes f) {steps : List (Guarded α)}
    {session : Session σ α k} (h : (session.mapSource f).AdmitsAll steps) : session.AdmitsAll steps := by
  induction steps generalizing session with
  | nil => trivial
  | cons step steps ih =>
    obtain ⟨hfirst, hrest⟩ := h
    refine ⟨?_, ih ?_⟩
    · cases step <;> exact hfirst
    · rw [step_mapSource hf] at hrest
      exact hrest

/-- **Guards make no difference.** Take any session that a run can lead to. If a buffer is below its ceiling, and the
policy has a capacity to go to from the one that it has, it comes to the same whether a value is pushed at once, or room
for it is made first and it is pushed if that is agreed to. The outcome is the same, and so are the session, with the
elements, the capacity, the generation and the growths of the buffer and the state of its source, and the requests to
all sources. The events are the same but for their reasons.

So any pushes of a run that meet the conditions may be guarded, and every step of the run comes to the same. -/
theorem guarded_pushes_agree {session : Session σ α k} (hreachable : session.Reachable) :
    (∀ name slot value, session.buffers.find? name = some slot →
      slot.buffer.length < slot.buffer.config.ceiling →
      (slot.buffer.config.growth.next? slot.buffer.capacity).isSome = true →
      let guarded := session.pushGuarded name value
      let plain := session.step (.act name (.push value))
      guarded.1.outcome = plain.1.outcome ∧
        guarded.1.events.map Event.apartFromReason = plain.1.events.map Event.apartFromReason ∧
        guarded.2 = plain.2 ∧
        ∀ provider, ((session.recorded.pushGuarded name value).2.pool.source provider).requests =
          session.requestsIn [.act name (.push value)] provider) ∧
    ∀ steps, session.AdmitsAll steps →
      (session.traceGuarded steps).map (fun result => (result.1.apartFromReason, result.2)) =
          (session.trace (steps.map Guarded.command)).map (fun result => (result.1.apartFromReason, result.2)) ∧
        session.runGuarded steps = session.run (steps.map Guarded.command) ∧
        ∀ provider, ((session.recorded.runGuarded steps).pool.source provider).requests =
          session.requestsIn (steps.map Guarded.command) provider := by
  have hsound := hreachable.sound
  have hrecorded : session.recorded.Sound := hsound
  constructor
  · intro name slot value hfind hbelow hnext guarded plain
    have hadmits : session.Admits (.push name value) := by
      intro other hother
      rw [Option.mem_def, hfind] at hother
      cases hother
      exact ⟨hbelow, hnext⟩
    have hadmits' : session.recorded.Admits (.push name value) := hadmits
    obtain ⟨hreport, hsession⟩ := stepGuarded_agrees hsound hadmits
    obtain ⟨houtcome, hevents⟩ := Prod.mk.inj hreport
    refine ⟨houtcome, hevents, hsession, ?_⟩
    intro provider
    obtain ⟨-, hrecord⟩ := stepGuarded_agrees hrecorded hadmits'
    exact congrArg (fun session => (session.pool.source provider).requests) hrecord
  · intro steps hadmits
    obtain ⟨htrace, hrun⟩ := traceGuarded_agrees hsound hadmits
    refine ⟨htrace, hrun, ?_⟩
    intro provider
    rw [← session.mapSource_recorded] at hadmits
    obtain ⟨-, hrecord⟩ := traceGuarded_agrees hrecorded (.of_mapSource Recorder.commutes_inner hadmits)
    rw [hrecord]
    rfl

/-- The source refuses the third block that a buffer asks for, and has it when it is asked again. Three of five pushes
are guarded, one of them the one that is declined. The source is asked for the same blocks as without guards. -/
theorem guarded_pushes_agree_with_refusal :
    let session : Session Allocator UInt8 0 :=
      (start ⟨.scripted [.exact, .exact, .refuse] [], #v[], #v[]⟩).run [.build "a" { maxCapacity := 5 } none]
    let steps : List (Guarded UInt8) :=
      [.push "a" 1, .plain (.act "a" (.push 2)), .push "a" 3, .push "a" 3, .plain (.act "a" (.push 4))]
    session.AdmitsAll steps ∧ session.runGuarded steps = session.run (steps.map Guarded.command) ∧
      (session.traceGuarded steps).map (fun result => (result.1.apartFromReason, result.2)) =
        (session.trace (steps.map Guarded.command)).map (fun result => (result.1.apartFromReason, result.2)) ∧
      ((session.recorded.runGuarded steps).pool.source .heap).requests = [1, 2, 4, 4] := by
  intro session steps
  have hreachable : session.Reachable := ⟨_, _, rfl⟩
  have hadmits : session.AdmitsAll steps := by decide +kernel
  have hrequests : session.requestsIn (steps.map Guarded.command) .heap = [1, 2, 4, 4] := by decide +kernel
  clear_value session steps
  obtain ⟨-, hruns⟩ := guarded_pushes_agree hreachable
  obtain ⟨htrace, hrun, hsame⟩ := hruns steps hadmits
  exact ⟨hadmits, hrun, htrace, (hsame .heap).trans hrequests⟩

end Session

end ElasticBuffer
