import ElasticBuffer.Allocator
import ElasticBuffer.Proofs.Runs

/-!
# How long a reference lasts

A reference carries the generation of the storage that it was taken at. So what becomes of it rests on how often
the block of its buffer has been replaced since. This module counts the replacements from what the caller can see:
a push onto a full block, room asked for beyond the capacity, free slots given up, each if it was carried out
(`Action.replacements`). The count is kept along a run for one buffer, wherever it is moved
(`Session.replacementsIn`), and the generation goes on by just that count (`exists_followRun`).

The main statement is `resolve_after_run`: a reference is stale after one replacement or more, with the two
generations told, until the generations come round again; without any it leads to what stands at its index.
-/

namespace ElasticBuffer

variable {σ α : Type} {k : Nat}

/-! ### Counting generations -/

namespace Generation

theorem next_eq_advance (generation : Generation) : generation.next = generation.advance 1 := rfl

theorem advance_advance (generation : Generation) (first second : Nat) :
    (generation.advance first).advance second = generation.advance (first + second) := by
  ext
  simp [advance, UInt64.ofNat_add, UInt64.add_assoc]

/-- Generations come round only after as many replacements as there are words. -/
theorem advance_ne {steps : Nat} (generation : Generation) (hpos : 1 ≤ steps) (hlt : steps < UInt64.size) :
    generation.advance steps ≠ generation := by
  intro h
  have hcount : generation.count + UInt64.ofNat steps = generation.count := congrArg count h
  have hzero : UInt64.ofNat steps = 0 := by
    simpa using hcount
  have hnat : steps % UInt64.size = 0 := by
    simpa using congrArg UInt64.toNat hzero
  rw [Nat.mod_eq_of_lt hlt] at hnat
  omega

end Generation

/-! ### Counting the replacements of an action -/

/-- The number of values that are pushed onto a full block, before one is declined. -/
def Buffer.fullPushes [Sized α] [BlockSource σ] : List α → Buffer α → σ → Nat
  | [], _, _ => 0
  | value :: values, buffer, source =>
    let first := buffer.push value source
    match first.outcome with
    | .error _ => 0
    | .ok () =>
      (if buffer.length = buffer.capacity then 1 else 0) + fullPushes values first.buffer first.source

/-- The number of times that an action replaces the block, told from lengths, capacities and outcomes: a value is
pushed onto a full block, or room is asked for beyond the capacity, or there are free slots to give up. -/
def Action.replacements [Sized α] [BlockSource σ] (action : Action α) (buffer : Buffer α) (source : σ) :
    Nat :=
  match action with
  | push value =>
    if buffer.length = buffer.capacity ∧ (buffer.push value source).outcome.isOk then 1 else 0
  | pushAll values => buffer.fullPushes values source
  | extend values => buffer.fullPushes values source
  | reserve additional =>
    if buffer.capacity < buffer.length + additional ∧ (buffer.reserve additional source).outcome.isOk
    then 1 else 0
  | fit => if buffer.length < buffer.capacity ∧ (buffer.fit source).outcome.isOk then 1 else 0
  | _ => 0

namespace Buffer

/-- A successful replacement goes on by one generation, and a failed one stays. -/
theorem Replacement.generation_eq {buffer : Buffer α} {capacity growths : Nat} {reason : Reason}
    {source : σ} {attempt : Attempt σ α}
    (hcases : Replacement buffer capacity reason growths source attempt) :
    attempt.buffer.generation =
      buffer.generation.advance (if attempt.outcome.isOk then 1 else 0) := by
  cases hcases with
  | moved room hroom => exact Generation.next_eq_advance _
  | refused => exact (Generation.advance_zero _).symm
  | panicked message => exact (Generation.advance_zero _).symm

variable [Sized α] [BlockSource σ]

/-- A push goes on by one generation if it is carried out on a full block. -/
theorem generation_push {buffer : Buffer α} (hlength : buffer.length ≤ buffer.capacity) (value : α)
    (source : σ) :
    (buffer.push value source).buffer.generation =
      buffer.generation.advance ((Action.push value).replacements buffer source) := by
  simp only [Action.replacements]
  rcases push_cases value source hlength with
    ⟨hfree, hpush⟩ | ⟨-, -, hpush⟩ | ⟨hfull, -, attempt, hcases, hpush⟩
  · rw [hpush, if_neg (fun h => by omega), Generation.advance_zero]
    rfl
  · rw [hpush, if_neg (fun h => by cases h.2), Generation.advance_zero]
  · rw [hpush]
    cases hcases with
    | moved room hroom =>
      rw [if_pos ⟨hfull, rfl⟩, ← Generation.next_eq_advance]
      rfl
    | refused =>
      rw [if_neg (fun h => by cases h.2), Generation.advance_zero]
      rfl
    | panicked message =>
      rw [if_neg (fun h => by cases h.2), Generation.advance_zero]
      rfl

theorem generation_pushAll (values : List α) {buffer : Buffer α}
    (hlength : buffer.length ≤ buffer.capacity) (source : σ) :
    (buffer.pushAll values source).buffer.generation =
      buffer.generation.advance (buffer.fullPushes values source) := by
  induction values generalizing buffer source with
  | nil => exact (Generation.advance_zero _).symm
  | cons value values ih =>
    have hfirst := generation_push hlength value source
    simp only [Action.replacements] at hfirst
    cases houtcome : (buffer.push value source).outcome with
    | error halt =>
      rw [pushAll_cons_of_error houtcome, fullPushes]
      simp only [houtcome]
      rw [houtcome, if_neg (fun h => by cases h.2)] at hfirst
      exact hfirst
    | ok _ =>
      rw [pushAll_cons_of_ok houtcome, fullPushes]
      simp only [houtcome]
      have hnext := (Evolves.refl.push hlength value source).length_le hlength
      rw [ih hnext, hfirst, houtcome, Generation.advance_advance]
      simp [Except.isOk, Except.toBool]

theorem generation_reserve (additional : Nat) (buffer : Buffer α) (source : σ) :
    (buffer.reserve additional source).buffer.generation =
      buffer.generation.advance ((Action.reserve additional).replacements buffer source) := by
  simp only [Action.replacements]
  rcases reserve_cases additional buffer source with
    ⟨-, hreserve⟩ | ⟨hroom, hreserve⟩ | ⟨-, -, hreserve⟩ | ⟨hroom, -, hcases⟩
  · rw [hreserve, if_neg (fun h => by cases h.2), Generation.advance_zero]
  · rw [hreserve, if_neg (fun h => by omega), Generation.advance_zero]
    rfl
  · rw [hreserve, if_neg (fun h => by cases h.2), Generation.advance_zero]
  · rw [hcases.generation_eq]
    simp only [hroom, true_and]

theorem generation_fit {buffer : Buffer α} (hlength : buffer.length ≤ buffer.capacity) (source : σ) :
    (buffer.fit source).buffer.generation =
      buffer.generation.advance (Action.fit.replacements buffer source) := by
  simp only [Action.replacements]
  rcases fit_cases buffer source with ⟨hfull, hfit⟩ | ⟨hfull, hcases⟩
  · rw [hfit, if_neg (fun h => by omega), Generation.advance_zero]
    rfl
  · rw [hcases.generation_eq]
    have hfree : buffer.length < buffer.capacity := by omega
    simp only [hfree, true_and]

end Buffer

/-- An action goes on by as many generations as it replaces the block. -/
theorem Action.generation_perform [Element α] [BlockSource σ] (action : Action α) {buffer : Buffer α}
    (hlength : buffer.length ≤ buffer.capacity) (source : σ) :
    (action.perform buffer source).buffer.generation =
      buffer.generation.advance (action.replacements buffer source) := by
  by_cases hplace : action.mayAllocate = false
  · obtain ⟨-, elements, -, hbuffer⟩ := perform_inPlace hplace buffer source
    have hcount : action.replacements buffer source = 0 := by
      cases action <;> first | rfl | cases hplace
    rw [hbuffer, hcount, Generation.advance_zero]
    rfl
  · cases action with
    | push value => exact Buffer.generation_push hlength value source
    | pushAll values => exact Buffer.generation_pushAll values hlength source
    | extend values =>
      exact (congrArg Buffer.generation (Buffer.extend_buffer values buffer source)).trans
        (Buffer.generation_pushAll values hlength source)
    | reserve additional => exact Buffer.generation_reserve additional buffer source
    | fit => exact Buffer.generation_fit hlength source
    | _ => exact absurd rfl hplace

/-! ### Following a buffer through a run -/

namespace Session

variable [Element α] [BlockSource σ]

/-- The name that the buffer of a name has after a run, if it is not given up on the way. -/
def followRun : List (Command α) → Session σ α k → String → Option String
  | [], _, name => some name
  | command :: commands, session, name =>
    ((session.move command).follow name).bind (followRun commands (session.step command).2)

/-- The number of times that a command replaces the block of the buffer of a name. -/
def replacements (command : Command α) (session : Session σ α k) (name : String) : Nat :=
  match (session.move command).action? name, session.buffers.find? name with
  | some action, some slot =>
    action.replacements slot.buffer (session.pool.source slot.provider)
  | _, _ => 0

/-- The number of times that a run replaces the block of the buffer that has a name at first. -/
def replacementsIn : List (Command α) → Session σ α k → String → Nat
  | [], _, _ => 0
  | command :: commands, session, name =>
    session.replacements command name +
      match (session.move command).follow name with
      | none => 0
      | some target => replacementsIn commands (session.step command).2 target

/-- A step takes a buffer where its move does, and goes on by as many generations as it replaces the block. -/
theorem exists_follow {session : Session σ α k} (hsound : session.Sound) (command : Command α)
    {name target : String} {slot : Slot (Item α) k} (hfind : session.buffers.find? name = some slot)
    (hfollow : (session.move command).follow name = some target) :
    ∃ result, (session.step command).2.buffers.find? target = some result ∧
      result.buffer.id = slot.buffer.id ∧
      result.buffer.generation =
        slot.buffer.generation.advance (session.replacements command name) := by
  have hslot := hsound name slot hfind
  refine ⟨(session.move command).onSlot name slot session, ?_, ?_⟩
  · rw [buffers_step]
    exact Move.find?_onBuffers_of_follow (fits_move command session) hfind hfollow
  · simp only [Move.onSlot, replacements, hfind]
    cases (session.move command).action? name with
    | none => exact ⟨rfl, (Generation.advance_zero _).symm⟩
    | some action =>
      exact ⟨(hslot.evolves action _).id_eq, action.generation_perform hslot.length_le _⟩

/-- A buffer that is not given up keeps its identity through a run, and its generation goes on by the number of
times that its block was replaced. -/
theorem exists_followRun (commands : List (Command α)) {session : Session σ α k} (hsound : session.Sound)
    {name target : String} {slot : Slot (Item α) k} (hfind : session.buffers.find? name = some slot)
    (hfollow : session.followRun commands name = some target) :
    ∃ result, (session.run commands).buffers.find? target = some result ∧
      result.buffer.id = slot.buffer.id ∧
      result.buffer.generation =
        slot.buffer.generation.advance (session.replacementsIn commands name) := by
  induction commands generalizing session name slot with
  | nil =>
    cases hfollow
    exact ⟨slot, hfind, rfl, (Generation.advance_zero _).symm⟩
  | cons command commands ih =>
    obtain ⟨next, hnext, hrest⟩ := Option.bind_eq_some_iff.1 hfollow
    obtain ⟨middle, hmiddle, hid, hgeneration⟩ := exists_follow hsound command hfind hnext
    obtain ⟨result, hresult, hid', hgeneration'⟩ := ih (hsound.step command) hmiddle hrest
    refine ⟨result, hresult, hid'.trans hid, ?_⟩
    simp only [replacementsIn, hnext]
    rw [hgeneration', hgeneration, Generation.advance_advance]

end Session

/-! ### What becomes of a reference -/

namespace Buffer

/-- A reference taken from the buffer before its storage was replaced is stale. -/
theorem locate_of_generation_ne {r : Reference} {buffer : Buffer α} (hid : r.buffer = buffer.id)
    (hgeneration : r.generation ≠ buffer.generation) :
    buffer.locate r = .error (.staleReference r.generation buffer.generation) := by
  simp only [locate, hid, hgeneration, ne_eq, not_true, not_false_eq_true, if_true, if_false]

theorem locate_of_le {r : Reference} {buffer : Buffer α} (hid : r.buffer = buffer.id)
    (hgeneration : r.generation = buffer.generation) (hindex : buffer.length ≤ r.index) :
    buffer.locate r = .error (.indexOutOfRange r.index buffer.length) := by
  simp only [locate, hid, hgeneration, hindex, ne_eq, not_true, if_true, if_false]

theorem isLive_iff {r : Reference} {buffer : Buffer α} (hid : r.buffer = buffer.id)
    (hgeneration : r.generation = buffer.generation) :
    buffer.isLive r = true ↔ r.index < buffer.length := by
  simp only [isLive, hid, hgeneration, decide_true, Bool.true_and, decide_eq_true_eq]

theorem isLive_of_generation_ne {r : Reference} {buffer : Buffer α}
    (hgeneration : r.generation ≠ buffer.generation) : buffer.isLive r = false := by
  simp only [isLive, hgeneration, decide_false, Bool.and_false, Bool.false_and]

end Buffer

/-- **The invalidation of references.** Take a reference to the element at `index` of a buffer in some session of a
run, and follow the buffer through the rest of the run, wherever it is moved. If its block was replaced on the way,
and not as often as there are words, the reference is stale, and the fault tells the two generations. If its block
was not replaced, the reference leads to what stands at its index now, or is out of range. -/
theorem Session.resolve_after_run [Element α] [BlockSource σ] {session : Session σ α k}
    (hreachable : session.Reachable) {name target : String} {slot : Slot (Item α) k}
    (hfind : session.buffers.find? name = some slot) {index : Nat} {r : Reference}
    (hrefer : slot.buffer.refer index = .ok r) {commands : List (Command α)}
    (hfollow : session.followRun commands name = some target) :
    ∃ result, (session.run commands).buffers.find? target = some result ∧
      result.buffer.id = slot.buffer.id ∧
      (1 ≤ session.replacementsIn commands name → session.replacementsIn commands name < UInt64.size →
        let stale := Fault.staleReference slot.buffer.generation result.buffer.generation
        result.buffer.resolve r = .error (.fault stale) ∧
          (∀ value, result.buffer.resolveSwap r value = .error (.fault stale)) ∧
          result.buffer.isLive r = false) ∧
      (session.replacementsIn commands name = 0 →
        (index < result.buffer.length → ∃ element, result.buffer.toList[index]? = some element ∧
          result.buffer.resolve r = .ok element ∧
          ∀ value, ∃ after, result.buffer.resolveSwap r value = .ok (element, after) ∧
            after.toList = result.buffer.toList.set index value) ∧
        (result.buffer.length ≤ index →
          let removed := Fault.indexOutOfRange index result.buffer.length
          result.buffer.resolve r = .error (.fault removed) ∧
            ∀ value, result.buffer.resolveSwap r value = .error (.fault removed)) ∧
        (result.buffer.isLive r = true ↔ index < result.buffer.length)) := by
  obtain ⟨result, hresult, hid, hgeneration⟩ :=
    exists_followRun commands hreachable.sound hfind hfollow
  obtain rfl := Buffer.refer_eq_ok hrefer
  refine ⟨result, hresult, hid, fun hpos hlt => ?_, fun hzero => ?_⟩
  · -- the generation has moved on, and has not come round
    have hne : slot.buffer.generation ≠ result.buffer.generation := by
      rw [hgeneration]
      exact (Generation.advance_ne _ hpos hlt).symm
    have hlocate := Buffer.locate_of_generation_ne
      (r := ⟨slot.buffer.id, slot.buffer.generation, index⟩) hid.symm hne
    exact ⟨Buffer.resolve_of_locate_error hlocate,
      fun value => Buffer.resolveSwap_of_locate_error value hlocate,
      Buffer.isLive_of_generation_ne hne⟩
  · have hsame : slot.buffer.generation = result.buffer.generation := by
      rw [hgeneration, hzero, Generation.advance_zero]
    have hlive := Buffer.isLive_iff
      (r := ⟨slot.buffer.id, slot.buffer.generation, index⟩) hid.symm hsame
    refine ⟨fun hindex => ?_, fun hindex => ?_, hlive⟩
    · obtain ⟨element, helement⟩ := Buffer.exists_getElem? hindex
      have hlocate := Buffer.locate_eq_ok_iff.2 ⟨hlive.2 hindex, rfl⟩
      refine ⟨element, helement, Buffer.resolve_of_some hlocate helement, fun value => ?_⟩
      exact ⟨_, Buffer.resolveSwap_of_some value hlocate helement, Buffer.toList_write ..⟩
    · have hlocate := Buffer.locate_of_le
        (r := ⟨slot.buffer.id, slot.buffer.generation, index⟩) hid.symm hsame hindex
      exact ⟨Buffer.resolve_of_locate_error hlocate,
        fun value => Buffer.resolveSwap_of_locate_error value hlocate⟩

/-- A buffer of two slots is filled, renamed and pushed to once more: the reference to its first element is stale. -/
theorem Session.resolve_after_growth :
    let session : Session Allocator UInt8 0 :=
      (start ⟨.system, #v[], #v[]⟩).run
        [.build "a" { initialCapacity := 2 } none, .act "a" (.pushAll [1, 2])]
    let commands : List (Command UInt8) := [.rename "a" "b", .act "b" (.push 3)]
    session.replacementsIn commands "a" = 1 ∧
      ∃ result, (session.run commands).buffers.find? "b" = some result ∧
        result.buffer.resolve ⟨.first, .initial, 0⟩ =
          .error (.fault (.staleReference .initial result.buffer.generation)) := by
  intro session commands
  have hreachable : session.Reachable := ⟨_, _, rfl⟩
  obtain ⟨result, hresult, -, hstale, -⟩ :=
    resolve_after_run hreachable (show session.buffers.find? "a" = some _ from rfl)
      (show Buffer.refer 0 _ = .ok _ from rfl)
      (show session.followRun commands "a" = some "b" from rfl)
  exact ⟨rfl, result, hresult, (hstale (by decide) (by decide)).1⟩

end ElasticBuffer
