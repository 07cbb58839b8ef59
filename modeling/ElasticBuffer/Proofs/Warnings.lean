import ElasticBuffer.Allocator
import ElasticBuffer.Proofs.Acts
import ElasticBuffer.Proofs.StorageHistory

/-!
# Warnings

A call may end for want of a block: the source has none, or the ceiling forbids it. The one who runs the program is
warned of it, once a call, and is not warned of anything else (`Session.shortage_warned_once`). This is true of every
call that asks for one block at most, whatever the source answers, and also if the source ends the call.

There is one exception. A call that makes room first adds up how many elements there will be. If that is no word, the
call is declined at once, and nobody is warned (`Buffer.reserve_of_overflow`). `Session.reserve_unwarned` is such a
call.
-/

namespace ElasticBuffer

variable {σ α ε β : Type} {k : Nat}

/-! ### Shortages and warnings -/

/-- The call was declined for want of a block. -/
def Halt.isShortage : Halt → Bool
  | fault (.allocationFailure _ _) => true
  | _ => false

/-- The step stopped for want of a block. -/
def Stop.isShortage : Stop → Bool
  | fault (.allocationFailure _ _) => true
  | _ => false

theorem Halt.isShortage_stop (halt : Halt) : halt.stop.isShortage = halt.isShortage := by
  cases halt with
  | fault cause => cases cause <;> rfl
  | panic cause => rfl

/-- The outcome is a failure that passes a test. -/
def failsBy (test : ε → Bool) : Except ε β → Bool
  | .error cause => test cause
  | .ok _ => false

theorem failsBy_shortage_iff {outcome : Except Stop β} :
    failsBy Stop.isShortage outcome = true ↔
      ∃ requested current, outcome = .error (.fault (.allocationFailure requested current)) := by
  constructor
  · intro h
    rcases outcome with (_ | (_ | ⟨requested, current⟩ | _ | _ | _) | _ | _) | _
    case error.fault.allocationFailure => exact ⟨requested, current, rfl⟩
    all_goals cases h
  · rintro ⟨requested, current, rfl⟩
    rfl

/-- The events that are warnings. -/
def warnings (events : List Event) : List Event := events.filter fun event => event.level = .warn

/-- There is one warning if a block was wanting, and none otherwise. -/
def Warned (shortage : Bool) (events : List Event) : Prop := (warnings events).length = shortage.toNat

/-- As many warnings as shortages, said of the one and of the other. -/
theorem Warned.spec {shortage : Bool} {events : List Event} (h : Warned shortage events) :
    (shortage = true ↔ (warnings events).length = 1) ∧ (shortage = false → warnings events = []) := by
  rw [Warned] at h
  cases shortage with
  | true => exact ⟨⟨fun _ => h, fun _ => rfl⟩, fun hfalse => by cases hfalse⟩
  | false =>
    have hnil : warnings events = [] := List.eq_nil_of_length_eq_zero h
    rw [hnil]
    exact ⟨⟨fun htrue => (by cases htrue), fun hone => by cases hone⟩, fun _ => rfl⟩

/-! ### Calls on a buffer -/

/-- The call warned of a shortage, if there was one. -/
def Attempt.Warned (attempt : Attempt σ α) : Prop :=
  ElasticBuffer.Warned (failsBy Halt.isShortage attempt.outcome) attempt.events

/-- What is stored after a successful call is not warned of. -/
theorem Attempt.Warned.andThen_done {attempt : Attempt σ α} (h : attempt.Warned) (change : Buffer α → Buffer α) :
    (attempt.andThen fun buffer source => .done (change buffer) source).Warned := by
  obtain ⟨outcome, buffer, source, events, dropped⟩ := attempt
  cases outcome with
  | error halt => exact h
  | ok _ =>
    show ElasticBuffer.Warned false (events ++ [])
    rw [List.append_nil]
    exact h

namespace Buffer

/-- A replacement warns if there was no block, and is silent if the source ends the call. -/
theorem Replacement.warned {buffer : Buffer α} {capacity growths : Nat} {reason : Reason} {source : σ}
    {attempt : Attempt σ α} (hcases : Replacement buffer capacity reason growths source attempt) :
    attempt.Warned := by
  cases hcases with
  | moved room hroom => rfl
  | refused => rfl
  | panicked message => rfl

variable [Sized α] [BlockSource σ]

theorem warned_push {buffer : Buffer α} (hlength : buffer.length ≤ buffer.capacity) (value : α) (source : σ) :
    (buffer.push value source).Warned := by
  rcases push_cases value source hlength with ⟨-, hpush⟩ | ⟨-, -, hpush⟩ | ⟨-, -, attempt, hcases, hpush⟩
  · rw [hpush]
    rfl
  · rw [hpush]
    rfl
  · rw [hpush]
    exact hcases.warned.andThen_done (append value)

/-- Room for more elements than there are words is declined, and nobody is warned. -/
theorem reserve_of_overflow {additional : Nat} {buffer : Buffer α} (source : σ)
    (h : wordMax < buffer.length + additional) :
    buffer.reserve additional source =
      ⟨.error (.fault (.allocationFailure wordMax buffer.capacity)), buffer, source, [], []⟩ := by
  rw [reserve, sum?_eq_none_iff.2 h]

theorem warned_reserve {additional : Nat} {buffer : Buffer α} (source : σ)
    (h : buffer.length + additional ≤ wordMax) : (buffer.reserve additional source).Warned := by
  rcases reserve_cases additional buffer source with
    ⟨hoverflow, -⟩ | ⟨-, hreserve⟩ | ⟨-, -, hreserve⟩ | ⟨-, -, hcases⟩
  · exact absurd h (Nat.not_le.2 hoverflow)
  · rw [hreserve]
    rfl
  · rw [hreserve]
    rfl
  · exact hcases.warned

theorem warned_fit (buffer : Buffer α) (source : σ) : (buffer.fit source).Warned := by
  rcases fit_cases buffer source with ⟨-, hfit⟩ | ⟨-, hcases⟩
  · rw [hfit]
    rfl
  · exact hcases.warned

/-- Settings that are not valid are no shortage. -/
theorem warned_build (id : BufferId) (config : Config) (source : σ) :
    let construction : Construction σ α := build id config source
    Warned (failsBy Halt.isShortage construction.outcome) construction.events := by
  intro construction
  show Warned (failsBy Halt.isShortage (build id config source).outcome) (build id config source).events
  unfold build Config.validate
  by_cases hzero : config.ceiling = 0
  · rw [if_pos hzero]
    rfl
  · rw [if_neg hzero]
    by_cases habove : config.ceiling < config.initial
    · rw [if_pos habove]
      rfl
    · rw [if_neg habove]
      obtain ⟨result, next⟩ := Block.allocate (α := α) config.initial source
      rcases result with (_ | message) | block
      · rfl
      · rfl
      · rfl

end Buffer

/-! ### Steps of a session -/

/-- What a session makes of a call warns as the call did. -/
theorem Effect.warned_ofAttempt {attempt : Attempt σ α} (h : attempt.Warned) :
    Warned (failsBy Stop.isShortage (ofAttempt attempt).outcome) attempt.events := by
  obtain ⟨outcome, buffer, source, events, dropped⟩ := attempt
  cases outcome with
  | ok _ => exact h
  | error halt =>
    show Warned halt.stop.isShortage events
    rw [halt.isShortage_stop]
    exact h

/-- The command asks for one block at most: it builds a buffer with given settings, pushes one value, makes room, or
gives up the free slots. -/
def Command.isSingleCall : Command α → Bool
  | .build _ _ _ => true
  | .act _ (.push _) => true
  | .act _ (.reserve _) => true
  | .act _ .fit => true
  | _ => false

namespace Session

/-- The command makes room for more elements than there are words. -/
def Overflows (command : Command α) (session : Session σ α k) : Prop :=
  ∃ name additional slot, command = .act name (.reserve additional) ∧
    session.buffers.find? name = some slot ∧ wordMax < slot.buffer.length + additional

theorem warned_enroll {name : String} {provider : Provider k} {construction : Construction σ (Item α)}
    {session : Session σ α k}
    (h : Warned (failsBy Halt.isShortage construction.outcome) construction.events) :
    Warned (failsBy Stop.isShortage (session.enroll name provider construction).1.outcome)
      (session.enroll name provider construction).1.events := by
  rw [events_enroll]
  obtain ⟨outcome, source, events⟩ := construction
  cases outcome with
  | ok buffer => exact h
  | error halt =>
    show Warned halt.stop.isShortage events
    rw [halt.isShortage_stop]
    exact h

variable [Element α] [BlockSource σ]

theorem warned_act {session : Session σ α k} {name : String} {action : Action α}
    (h : ∀ slot, session.buffers.find? name = some slot →
      let effect := (action.number session.ledger.issued).perform slot.buffer (session.pool.source slot.provider)
      Warned (failsBy Stop.isShortage effect.outcome) effect.events) :
    Warned (failsBy Stop.isShortage (session.act name action).1.outcome) (session.act name action).1.events := by
  cases hfind : session.buffers.find? name with
  | none =>
    simp only [act, hfind]
    rfl
  | some slot =>
    rw [act_eq_settle hfind]
    exact h slot hfind

/-- A step that asks for one block at most warns of its shortage, unless it makes room beyond all words. -/
theorem warned_step {session : Session σ α k} (hsound : session.Sound) {command : Command α}
    (hcall : command.isSingleCall = true) (hwords : ¬ session.Overflows command) :
    Warned (failsBy Stop.isShortage (session.step command).1.outcome) (session.step command).1.events := by
  cases command with
  | build name config source =>
    simp only [step, build]
    cases session.provider? source with
    | none => rfl
    | some provider => exact warned_enroll (Buffer.warned_build ..)
  | act name action =>
    apply warned_act
    intro slot hfind
    cases action with
    | push value => exact Effect.warned_ofAttempt (Buffer.warned_push (hsound name slot hfind).length_le _ _)
    | fit => exact Effect.warned_ofAttempt (Buffer.warned_fit ..)
    | reserve additional =>
      apply Effect.warned_ofAttempt
      apply Buffer.warned_reserve
      apply Nat.le_of_not_lt
      intro hoverflow
      exact hwords ⟨name, additional, slot, rfl, hfind, hoverflow⟩
    | _ => cases hcall
  | _ => cases hcall

/-- **A shortage is warned of once.** Take any session that a run can lead to, on whatever sources, and let it build a
buffer, push one value, make room, or give up free slots. If that is not to make room beyond all words, the call is
declined for want of a block if and only if it gives one warning, and otherwise it gives none. A call that is to make
room beyond all words is declined for want of a block, and reports nothing at all. -/
theorem shortage_warned_once {session : Session σ α k} (hreachable : session.Reachable) {command : Command α}
    (hcall : command.isSingleCall = true) :
    let report := (session.step command).1
    (¬ session.Overflows command →
      ((∃ requested current, report.outcome = .error (.fault (.allocationFailure requested current))) ↔
          (warnings report.events).length = 1) ∧
        ((¬ ∃ requested current, report.outcome = .error (.fault (.allocationFailure requested current))) →
          warnings report.events = [])) ∧
    (session.Overflows command →
      (∃ current, report.outcome = .error (.fault (.allocationFailure wordMax current))) ∧ report.events = []) := by
  intro report
  constructor
  · intro hwords
    obtain ⟨hone, hnone⟩ := (warned_step hreachable.sound hcall hwords).spec
    rw [← failsBy_shortage_iff]
    refine ⟨hone, ?_⟩
    intro hother
    exact hnone (Bool.eq_false_iff.2 hother)
  · rintro ⟨name, additional, slot, rfl, hfind, hoverflow⟩
    have hreport : report = _ := congrArg Prod.fst (act_eq_settle hfind (.reserve additional))
    simp only [Action.number, Action.perform, Buffer.reserve_of_overflow _ hoverflow] at hreport
    rw [hreport]
    exact ⟨⟨slot.buffer.capacity, rfl⟩, rfl⟩

/-- A buffer with one element, two slots at most, and a source that has no more blocks: the source refuses a second
slot, the ceiling forbids five more, and each is warned of once. -/
theorem shortage_warned_once_after_refusal :
    let session : Session Allocator Int64 0 := (start ⟨.failing 1 0, #v[], #v[]⟩).run
      [.build "a" { initialCapacity := 1, maxCapacity := 2 } none, .act "a" (.push 1)]
    let pushed := (session.step (.act "a" (.push 2))).1
    let reserved := (session.step (.act "a" (.reserve 5))).1
    pushed.outcome = .error (.fault (.allocationFailure 2 1)) ∧ (warnings pushed.events).length = 1 ∧
      reserved.outcome = .error (.fault (.allocationFailure 6 1)) ∧ (warnings reserved.events).length = 1 := by
  intro session pushed reserved
  have hreachable : session.Reachable := ⟨_, _, rfl⟩
  have hpush : pushed.outcome = .error (.fault (.allocationFailure 2 1)) := rfl
  have hreserve : reserved.outcome = .error (.fault (.allocationFailure 6 1)) := rfl
  have hlength : ((session.buffers.find? "a").map fun slot => slot.buffer.length) = some 1 := rfl
  obtain ⟨hpushed, -⟩ := shortage_warned_once hreachable (show (Command.act "a" (.push 2)).isSingleCall = true from rfl)
  obtain ⟨hreserved, -⟩ := shortage_warned_once hreachable
    (show (Command.act "a" (.reserve 5)).isSingleCall = true from rfl)
  refine ⟨hpush, ?_, hreserve, ?_⟩
  · apply (hpushed ?_).1.1
    · exact ⟨2, 1, hpush⟩
    · rintro ⟨name, additional, slot, hcommand, -⟩
      cases hcommand
  · apply (hreserved ?_).1.1
    · exact ⟨6, 1, hreserve⟩
    · rintro ⟨name, additional, slot, hcommand, hfind, hoverflow⟩
      cases hcommand
      rw [hfind] at hlength
      have hone : slot.buffer.length = 1 := Option.some.inj hlength
      rw [hone] at hoverflow
      exact absurd hoverflow (by decide)

/-- Nobody is warned when room is to be made for so many elements that they could not be counted. -/
theorem reserve_unwarned :
    let session : Session Allocator Int64 0 := (start ⟨.system, #v[], #v[]⟩).run
      [.build "a" { initialCapacity := 1 } none, .act "a" (.push 1)]
    let report := (session.step (.act "a" (.reserve 18446744073709551615))).1
    report.outcome = .error (.fault (.allocationFailure 18446744073709551615 1)) ∧
      warnings report.events = [] :=
  ⟨rfl, rfl⟩

end Session

end ElasticBuffer
