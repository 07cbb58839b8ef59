import ElasticBuffer.Proofs.Contents
import ElasticBuffer.Proofs.GrowthChain

/-!
# Totals along a run

What becomes of a buffer in a run is the work of the actions on it, in between all that is done to others. This module
lists these actions (`Session.actionsIn`) and sums up what they do (`Session.amountIn`), for a buffer that is followed
wherever it is moved. What every action adds to a total, a run adds to it (`amountIn_rule`).

The first total is the number of values stored (`Action.stored`): a buffer has at most so many elements more than at
first, and just so many if nothing else is done to it.
-/

namespace ElasticBuffer

variable {σ α : Type} {k : Nat}

/-! ### Values that an action stores -/

namespace Buffer

variable [Sized α] [BlockSource σ]

theorem accepted_le (values : List α) (buffer : Buffer α) (source : σ) :
    buffer.accepted values source ≤ values.length := by
  induction values generalizing buffer source with
  | nil => exact Nat.le_refl 0
  | cons value values ih =>
    rw [accepted]
    cases (buffer.push value source).outcome with
    | error halt => exact Nat.zero_le _
    | ok _ => exact Nat.succ_le_succ (ih ..)

theorem length_pushAll (values : List α) {buffer : Buffer α} (hlength : buffer.length ≤ buffer.capacity)
    (source : σ) :
    (buffer.pushAll values source).buffer.length = buffer.length + buffer.accepted values source := by
  rw [← length_toList, toList_pushAll values hlength source, List.length_append, length_toList,
    List.length_take_of_le (accepted_le values buffer source)]

end Buffer

namespace Action

/-- The number of values that an action stores behind the elements. -/
def stored [Sized α] [BlockSource σ] (action : Action α) (buffer : Buffer α) (source : σ) : Nat :=
  if action.isAppend then buffer.accepted action.values source else 0

variable [Element α] [BlockSource σ]

/-- An action that appends pushes its values. -/
theorem buffer_perform_of_isAppend {action : Action α} (h : action.isAppend = true) (buffer : Buffer α)
    (source : σ) :
    (action.perform buffer source).buffer = (buffer.pushAll action.values source).buffer := by
  cases action with
  | push value =>
    show (buffer.push value source).buffer = (buffer.pushAll [value] source).buffer
    cases houtcome : (buffer.push value source).outcome with
    | error halt => rw [Buffer.pushAll_cons_of_error houtcome]
    | ok _ => rw [Buffer.pushAll_cons_of_ok houtcome]; rfl
  | pushAll values => rfl
  | extend values => exact Buffer.extend_buffer values buffer source
  | _ => cases h

theorem length_perform_of_isAppend {action : Action α} (h : action.isAppend = true) {buffer : Buffer α}
    (hlength : buffer.length ≤ buffer.capacity) (source : σ) :
    (action.perform buffer source).buffer.length = buffer.length + action.stored buffer source := by
  rw [buffer_perform_of_isAppend h, Buffer.length_pushAll action.values hlength source, stored, if_pos h]

/-- Only values that are stored make a buffer longer. -/
theorem length_perform_le (action : Action α) {buffer : Buffer α} (hlength : buffer.length ≤ buffer.capacity)
    (source : σ) :
    (action.perform buffer source).buffer.length ≤ buffer.length + action.stored buffer source := by
  by_cases happend : action.isAppend = true
  · exact Nat.le_of_eq (length_perform_of_isAppend happend hlength source)
  · rw [stored, if_neg happend, Nat.add_zero]
    by_cases hplace : action.mayAllocate = false
    · obtain ⟨-, elements, hsize, hbuffer⟩ := perform_inPlace hplace buffer source
      rw [hbuffer]
      exact hsize
    · cases action with
      | push | pushAll | extend => exact absurd rfl happend
      | reserve additional =>
        exact Nat.le_of_eq (congrArg List.length (Buffer.toList_reserve additional buffer source))
      | fit => exact Nat.le_of_eq (congrArg List.length (Buffer.toList_fit buffer source))
      | _ => exact absurd rfl hplace

end Action

/-! ### Along a run -/

namespace Session

variable [Element α] [BlockSource σ]

/-- The actions on the buffer that has a name at first, until it is given up. -/
def actionsIn : List (Command α) → Session σ α k → String → List (Action (Item α))
  | [], _, _ => []
  | command :: commands, session, name =>
    ((session.move command).action? name).toList ++
      match (session.move command).follow name with
      | none => []
      | some target => actionsIn commands (session.step command).2 target

/-- A quantity of the action that a command performs on the buffer of a name, if it does. -/
def amount (quantity : Action (Item α) → Buffer (Item α) → σ → Nat) (command : Command α)
    (session : Session σ α k) (name : String) : Nat :=
  match (session.move command).action? name, session.buffers.find? name with
  | some action, some slot => quantity action slot.buffer (session.pool.source slot.provider)
  | _, _ => 0

/-- The sum of a quantity over the actions on the buffer that has a name at first, until it is given up. -/
def amountIn (quantity : Action (Item α) → Buffer (Item α) → σ → Nat) :
    List (Command α) → Session σ α k → String → Nat
  | [], _, _ => 0
  | command :: commands, session, name =>
    session.amount quantity command name +
      match (session.move command).follow name with
      | none => 0
      | some target => amountIn quantity commands (session.step command).2 target

/-- **What every action adds to a total, a run adds to it.** -/
theorem amountIn_rule (quantity : Action (Item α) → Buffer (Item α) → σ → Nat)
    {P : Action (Item α) → Prop} {R : Nat → Buffer (Item α) → Prop}
    (hperform : ∀ (action : Action (Item α)) (buffer : Buffer (Item α)) (source : σ) (total : Nat),
      buffer.Sound → P action → R total buffer →
        R (total + quantity action buffer source) (action.perform buffer source).buffer)
    (commands : List (Command α)) {session : Session σ α k} (hsound : session.Sound) {name target : String}
    {slot result : Slot (Item α) k} (hfind : session.buffers.find? name = some slot)
    (hfollow : session.followRun commands name = some target)
    (hresult : (session.run commands).buffers.find? target = some result)
    (hallowed : ∀ action ∈ session.actionsIn commands name, P action) {total : Nat}
    (h : R total slot.buffer) : R (total + session.amountIn quantity commands name) result.buffer := by
  induction commands generalizing session name slot total with
  | nil =>
    cases hfollow
    cases hfind.symm.trans hresult
    exact h
  | cons command commands ih =>
    obtain ⟨next, hnext, hrest⟩ := Option.bind_eq_some_iff.1 hfollow
    simp only [actionsIn, hnext, List.mem_append, Option.mem_toList] at hallowed
    have hstep : R (total + session.amount quantity command name)
        ((session.move command).onSlot name slot session).buffer := by
      simp only [Move.onSlot, amount, hfind]
      cases haction : (session.move command).action? name with
      | none => exact h
      | some action => exact hperform action _ _ total (hsound name slot hfind) (hallowed action (.inl haction)) h
    have hlater := ih (hsound.step command) (find?_step_of_follow hfind hnext) hrest hresult
      (fun action hmem => hallowed action (.inr hmem)) hstep
    simp only [amountIn, hnext]
    rw [← Nat.add_assoc]
    exact hlater

/-- A run makes a buffer longer by at most the number of values that it stores there. -/
theorem length_le_of_followRun (commands : List (Command α)) {session : Session σ α k} (hsound : session.Sound)
    {name target : String} {slot result : Slot (Item α) k} (hfind : session.buffers.find? name = some slot)
    (hfollow : session.followRun commands name = some target)
    (hresult : (session.run commands).buffers.find? target = some result) :
    result.buffer.length ≤ slot.buffer.length + session.amountIn Action.stored commands name := by
  refine amountIn_rule Action.stored (P := fun _ => True) (R := fun total buffer => buffer.length ≤ total) ?_
    commands hsound hfind hfollow hresult (fun _ _ => trivial) (Nat.le_refl _)
  intro action buffer source total hslot _ hle
  exact Nat.le_trans (action.length_perform_le hslot.length_le source) (Nat.add_le_add_right hle _)

/-- If nothing else is done to it, by just that number. -/
theorem length_eq_of_followRun (commands : List (Command α)) {session : Session σ α k} (hsound : session.Sound)
    {name target : String} {slot result : Slot (Item α) k} (hfind : session.buffers.find? name = some slot)
    (hfollow : session.followRun commands name = some target)
    (hresult : (session.run commands).buffers.find? target = some result)
    (happend : ∀ action ∈ session.actionsIn commands name, action.isAppend = true) :
    result.buffer.length = slot.buffer.length + session.amountIn Action.stored commands name := by
  refine amountIn_rule Action.stored (R := fun total buffer => buffer.length = total) ?_ commands hsound hfind
    hfollow hresult happend rfl
  intro action buffer source total hslot hallowed heq
  rw [Action.length_perform_of_isAppend hallowed hslot.length_le source, heq]

end Session

end ElasticBuffer
