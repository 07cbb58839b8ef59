import ElasticBuffer.Proofs.Runs

/-!
# Buffers as plain lists

A session of buffers is, for one who looks at the elements only, a table of plain lists. This module says what
each command does to such a table (`Lists.step`), and proves that the elements of every buffer are those of its
list after every run (`Session.view_run`).

## The model

A list cannot know whether a source grants a block, or whether a reference is still good. So a step on lists is told,
besides the command, what the step on buffers let the caller know (`Verdict`): whether it was carried out, and how
many of a run of values were stored before one was declined. The lists look at it only where a block or a reference
is at stake; all else they find out for themselves. Capacities, generations and growth are not part of the table:
the contents of a buffer do not depend on them in any other way.

The table also keeps the index of each stored reference, since a value may be written through one.
-/

namespace ElasticBuffer

variable {σ α : Type} {k : Nat}

/-! ### The table of lists -/

/-- What a step lets the caller know of its success. -/
structure Verdict where
  /-- The step was carried out. -/
  carried : Bool
  /-- The number of values that were stored, of those pushed one after the other. -/
  stored : Nat

/-- What an action does to a plain list. -/
def Action.onList [Element α] (verdict : Verdict) (action : Action α) (list : List α) : List α :=
  match action with
  | push value => bif verdict.carried then list ++ [value] else list
  | pushAll values => list ++ bif verdict.carried then values else values.take verdict.stored
  | extend values => list ++ bif verdict.carried then values else values.take verdict.stored
  | pop => list.dropLast
  | truncate length => list.take length
  | clear => []
  | put i value => list.set i value
  | putIndex i value => list.set i value
  | overwrite reference value => bif verdict.carried then list.set reference.index value else list
  | reverse => list.reverse
  | bumpAll => list.map Element.bump
  | bumpAlternate => list.mapIdx fun i value => if i % 2 = 0 then Element.bump value else value
  | _ => list

/-- Plain lists by name, and the indices of stored references by label. -/
@[ext] structure Lists (α : Type) where
  /-- The list of a name. -/
  list? : String → Option (List α)
  /-- The index that the reference of a label was taken at. -/
  mark? : String → Option Nat

namespace Lists

/-- The table without lists. -/
def empty : Lists α := ⟨fun _ => none, fun _ => none⟩

/-- Gives a name to a list, or to none. -/
def assign (name : String) (list? : Option (List α)) (lists : Lists α) : Lists α :=
  { lists with list? := fun other => if other = name then list? else lists.list? other }

/-- Changes the list of a name. -/
def modify (name : String) (f : List α → List α) (lists : Lists α) : Lists α :=
  lists.assign name ((lists.list? name).map f)

/-- Gives a label to an index. -/
def mark (label : String) (index : Nat) (lists : Lists α) : Lists α :=
  { lists with mark? := fun other => if other = label then some index else lists.mark? other }

/-- What a command does to the lists. -/
def step [Element α] (command : Command α) (verdict : Verdict) (lists : Lists α) : Lists α :=
  match command with
  | .act name action => lists.modify name (action.onList verdict)
  | .new name _ => bif verdict.carried then lists.assign name (some []) else lists
  | .build name _ _ => bif verdict.carried then lists.assign name (some []) else lists
  | .collect name values => bif verdict.carried then lists.assign name (some values) else lists
  | .copy name target => bif verdict.carried then lists.assign target (lists.list? name) else lists
  | .rename name target =>
    match lists.list? name with
    | none => lists
    | some list => (lists.assign name none).assign target (some list)
  | .swap name other =>
    match lists.list? name, lists.list? other with
    | some list, some list' => (lists.assign name (some list')).assign other (some list)
    | _, _ => lists
  | .discard name => lists.assign name none
  | .takeFirst name _ => lists.assign name none
  | .drain name => lists.assign name none
  | .refer name index label =>
    match lists.list? name with
    | none => lists
    | some list => if index < list.length then lists.mark label index else lists
  | .overwrite name label value =>
    match lists.mark? label with
    | none => lists
    | some index =>
      bif verdict.carried then lists.modify name fun list => list.set index value else lists
  | _ => lists

/-- The lists after a run. -/
def run [Element α] (steps : List (Command α × Verdict)) (lists : Lists α) : Lists α :=
  steps.foldl (fun lists step => lists.step step.1 step.2) lists

theorem assign_self (name : String) (lists : Lists α) : lists.assign name (lists.list? name) = lists := by
  refine Lists.ext (funext fun other => ?_) rfl
  simp only [assign]
  split
  · rename_i h
    rw [h]
  · rfl

theorem modify_id (name : String) (lists : Lists α) : (lists.modify name fun list => list) = lists := by
  rw [modify, Option.map_id']
  exact assign_self name lists

theorem modify_of_none {name : String} {lists : Lists α} (h : lists.list? name = none)
    (f : List α → List α) : lists.modify name f = lists := by
  rw [modify, h, Option.map_none, ← h]
  exact assign_self name lists

theorem modify_bif (name : String) (carried : Bool) (f : List α → List α) (lists : Lists α) :
    (lists.modify name fun list => bif carried then f list else list) =
      bif carried then lists.modify name f else lists := by
  cases carried
  · exact modify_id name lists
  · rfl

end Lists

/-! ### What a session shows -/

/-- The number of values that are pushed before one is declined. -/
def Buffer.accepted [Sized α] [BlockSource σ] : List α → Buffer α → σ → Nat
  | [], _, _ => 0
  | value :: values, buffer, source =>
    let first := buffer.push value source
    match first.outcome with
    | .error _ => 0
    | .ok () => accepted values first.buffer first.source + 1

/-- The number of values that an action stores, of those it pushes one after the other. -/
def Action.accepted [Sized α] [BlockSource σ] (action : Action α) (buffer : Buffer α) (source : σ) : Nat :=
  match action with
  | pushAll values => buffer.accepted values source
  | extend values => buffer.accepted values source
  | _ => 0

/-- The values in a buffer. -/
def Slot.values (slot : Slot (Item α) k) : List α := slot.buffer.toList.map Item.value

theorem Slot.length_values (slot : Slot (Item α) k) : slot.values.length = slot.buffer.length :=
  List.length_map _

namespace Session

/-- The values in the buffers, and the indices of the references. -/
def view (session : Session σ α k) : Lists α where
  list? name := (session.buffers.find? name).map Slot.values
  mark? label := (session.references.find? label).map Reference.index

variable [Element α] [BlockSource σ]

/-- What a step lets the caller know of its success. -/
def verdict (command : Command α) (session : Session σ α k) : Verdict where
  carried := (session.step command).1.outcome.isOk
  stored :=
    match session.move command with
    | .act _ slot action => action.accepted slot.buffer (session.pool.source slot.provider)
    | _ => 0

/-- The steps of a run with what each lets the caller know. -/
def verdicts : List (Command α) → Session σ α k → List (Command α × Verdict)
  | [], _ => []
  | command :: commands, session =>
    (command, session.verdict command) :: verdicts commands (session.step command).2

end Session

/-! ### Actions do to a buffer what they do to its list -/

namespace Buffer

theorem values_renumber (start : Nat) (buffer : Buffer (Item α)) :
    (buffer.renumber start).toList.map Item.value = buffer.toList.map Item.value := by
  rw [renumber, toList_modify]
  apply List.ext_getElem?
  intro i
  simp only [List.getElem?_map, List.getElem?_mapIdx, Option.map_map]
  rfl

/-- Whatever comes of asking for another block, the elements stay. -/
theorem Replacement.toList_eq {buffer : Buffer α} {capacity growths : Nat} {reason : Reason} {source : σ}
    {attempt : Attempt σ α} (hcases : Replacement buffer capacity reason growths source attempt) :
    attempt.buffer.toList = buffer.toList := by
  cases hcases <;> rfl

variable [Sized α] [BlockSource σ]

theorem toList_push {buffer : Buffer α} (hlength : buffer.length ≤ buffer.capacity) (value : α)
    (source : σ) :
    (buffer.push value source).buffer.toList =
      bif (buffer.push value source).outcome.isOk then buffer.toList ++ [value] else buffer.toList := by
  rcases push_cases value source hlength with
    ⟨-, hpush⟩ | ⟨-, -, hpush⟩ | ⟨-, -, attempt, hcases, hpush⟩
  · rw [hpush]
    exact toList_append value buffer
  · rw [hpush]
    rfl
  · rw [hpush]
    cases hcases with
    | moved room hroom => exact toList_append value _
    | refused => rfl
    | panicked message => rfl

/-- A run of pushes stores the values before the first one that is declined. -/
theorem toList_pushAll (values : List α) {buffer : Buffer α}
    (hlength : buffer.length ≤ buffer.capacity) (source : σ) :
    (buffer.pushAll values source).buffer.toList =
      buffer.toList ++ values.take (buffer.accepted values source) := by
  induction values generalizing buffer source with
  | nil => exact (List.append_nil _).symm
  | cons value values ih =>
    have hfirst := toList_push hlength value source
    cases houtcome : (buffer.push value source).outcome with
    | error halt =>
      rw [houtcome] at hfirst
      rw [pushAll_cons_of_error houtcome, accepted]
      simp only [houtcome, List.take_zero, List.append_nil]
      exact hfirst
    | ok _ =>
      rw [houtcome] at hfirst
      have hnext := (Evolves.refl.push hlength value source).length_le hlength
      rw [pushAll_cons_of_ok houtcome, accepted]
      simp only [houtcome, List.take_succ_cons]
      rw [ih hnext, hfirst]
      simp [Except.isOk, Except.toBool]

/-- A run of pushes that is carried out stores every value. -/
theorem accepted_of_ok (values : List α) {buffer : Buffer α} {source : σ}
    (h : (buffer.pushAll values source).outcome = .ok ()) :
    buffer.accepted values source = values.length := by
  induction values generalizing buffer source with
  | nil => rfl
  | cons value values ih =>
    cases houtcome : (buffer.push value source).outcome with
    | error halt =>
      rw [pushAll_cons_of_error houtcome, houtcome] at h
      cases h
    | ok _ =>
      rw [pushAll_cons_of_ok houtcome] at h
      rw [accepted]
      simp only [houtcome]
      rw [ih h]
      rfl

/-- A run of pushes stores every value if it is carried out, and else those before the declined one. -/
theorem toList_pushAll_isOk (values : List α) {buffer : Buffer α}
    (hlength : buffer.length ≤ buffer.capacity) (source : σ) :
    (buffer.pushAll values source).buffer.toList =
      buffer.toList ++ bif (buffer.pushAll values source).outcome.isOk then values
        else values.take (buffer.accepted values source) := by
  rw [toList_pushAll values hlength source]
  cases houtcome : (buffer.pushAll values source).outcome with
  | error halt => rfl
  | ok _ => rw [accepted_of_ok values houtcome, List.take_length]; rfl

theorem isOk_extend (values : List α) (buffer : Buffer α) (source : σ) :
    (buffer.extend values source).outcome.isOk = (buffer.pushAll values source).outcome.isOk := by
  rw [extend]
  split
  · rename_i fault houtcome
    rw [houtcome]
    rfl
  · rfl

theorem toList_reserve (additional : Nat) (buffer : Buffer α) (source : σ) :
    (buffer.reserve additional source).buffer.toList = buffer.toList := by
  rcases reserve_cases additional buffer source with
    ⟨-, hreserve⟩ | ⟨-, hreserve⟩ | ⟨-, -, hreserve⟩ | ⟨-, -, hcases⟩
  · rw [hreserve]
  · rw [hreserve]
    rfl
  · rw [hreserve]
  · exact hcases.toList_eq

theorem toList_fit (buffer : Buffer α) (source : σ) :
    (buffer.fit source).buffer.toList = buffer.toList := by
  rcases fit_cases buffer source with ⟨-, hfit⟩ | ⟨-, hcases⟩
  · rw [hfit]
    rfl
  · exact hcases.toList_eq

end Buffer

theorem Effect.isOk_ofPush (value : α) (attempt : Attempt σ α) :
    (Effect.ofPush value attempt).outcome.isOk = attempt.outcome.isOk := by
  obtain ⟨outcome, buffer, source, events, dropped⟩ := attempt
  cases outcome <;> rfl

theorem Effect.isOk_ofIntake (intake : Intake σ α) :
    (Effect.ofIntake intake).outcome.isOk = intake.outcome.isOk := by
  simp only [Effect.ofIntake]
  cases intake.outcome <;> rfl

namespace Action

variable [Element α] [BlockSource σ]

/-- **An action does to a buffer what it does to the list of its elements.** -/
theorem toList_perform (action : Action α) {buffer : Buffer α}
    (hlength : buffer.length ≤ buffer.capacity) (source : σ) :
    (action.perform buffer source).buffer.toList =
      action.onList ⟨(action.perform buffer source).outcome.isOk, action.accepted buffer source⟩
        buffer.toList := by
  cases action with
  | push value =>
    show (buffer.push value source).buffer.toList =
      onList ⟨(Effect.ofPush value (buffer.push value source)).outcome.isOk, 0⟩ (push value) _
    rw [Effect.isOk_ofPush]
    exact Buffer.toList_push hlength value source
  | pushAll values =>
    show (buffer.pushAll values source).buffer.toList =
      onList ⟨(Effect.ofIntake (buffer.pushAll values source)).outcome.isOk, _⟩ (pushAll values) _
    rw [Effect.isOk_ofIntake]
    exact Buffer.toList_pushAll_isOk values hlength source
  | extend values =>
    show (buffer.extend values source).buffer.toList =
      onList ⟨(Effect.ofIntake (buffer.extend values source)).outcome.isOk, _⟩ (extend values) _
    rw [Effect.isOk_ofIntake, Buffer.isOk_extend, Buffer.extend_buffer]
    exact Buffer.toList_pushAll_isOk values hlength source
  | reserve additional => exact Buffer.toList_reserve additional buffer source
  | fit => exact Buffer.toList_fit buffer source
  | pop => exact Buffer.toList_pop buffer
  | truncate length => exact Buffer.toList_truncate length buffer
  | clear => exact Buffer.toList_clear buffer
  | reverse => exact Buffer.toList_reverse buffer
  | bumpAll =>
    refine (Buffer.toList_modify _ buffer).trans ?_
    apply List.ext_getElem?
    intro i
    simp [onList]
  | bumpAlternate => exact Buffer.toList_modify _ buffer
  | put i value =>
    by_cases hindex : i < buffer.length
    · obtain ⟨old, hold⟩ := Buffer.exists_getElem? hindex
      rw [perform, Buffer.swapAt?_of_some value hold]
      exact Buffer.toList_write i value buffer
    · have hle := Nat.not_lt.1 hindex
      rw [perform, Buffer.swapAt?_of_le value hle]
      exact (List.set_eq_of_length_le hle).symm
  | putIndex i value =>
    by_cases hindex : i < buffer.length
    · obtain ⟨old, hold⟩ := Buffer.exists_getElem? hindex
      rw [perform, Buffer.swapAt_of_some value hold]
      exact Buffer.toList_write i value buffer
    · have hle := Nat.not_lt.1 hindex
      rw [perform, Buffer.swapAt_of_le value hle]
      exact (List.set_eq_of_length_le hle).symm
  | overwrite reference value =>
    rcases Buffer.locate_cases reference buffer with ⟨-, hindex, hlocate⟩ | ⟨-, fault, hlocate⟩
    · obtain ⟨old, hold⟩ := Buffer.exists_getElem? hindex
      rw [perform, Buffer.resolveSwap_of_some value hlocate hold]
      exact Buffer.toList_write reference.index value buffer
    · rw [perform, Buffer.resolveSwap_of_locate_error value hlocate]
      rfl
  | elementAt i =>
    rw [perform]
    cases buffer.elementAt i <;> rfl
  | index i =>
    rw [perform]
    cases buffer.index i <;> rfl
  | refer i =>
    rw [perform]
    cases buffer.refer i <;> rfl
  | get | elements | backwards | plainText | prettyText | config | source | resolve | isLive => rfl

omit [BlockSource σ] in
/-- Numbering the values does not change what an action does to them. -/
theorem map_value_onList_number (verdict : Verdict) (action : Action α) (start : Nat)
    (list : List (Item α)) :
    ((action.number start).onList verdict list).map Item.value =
      action.onList verdict (list.map Item.value) := by
  cases action with
  | push value =>
    simp only [number, onList]
    cases verdict.carried <;> simp
  | pushAll values =>
    simp only [number, onList]
    cases verdict.carried <;> simp
  | extend values =>
    simp only [number, onList]
    cases verdict.carried <;> simp
  | pop => exact List.map_dropLast
  | truncate length => exact List.map_take
  | put i value => exact List.map_set
  | putIndex i value => exact List.map_set
  | overwrite reference value =>
    simp only [number, onList]
    cases verdict.carried
    · rfl
    · exact List.map_set
  | reverse => exact List.map_reverse
  | bumpAll => simp [number, onList, Element.bump]
  | bumpAlternate =>
    apply List.ext_getElem?
    intro i
    simp only [number, onList, List.getElem?_map, List.getElem?_mapIdx]
    cases list[i]? with
    | none => rfl
    | some item =>
      simp only [Option.map_some]
      split <;> rfl
  | _ => rfl

end Action

/-! ### Steps do to a session what they do to its lists -/

namespace Session

theorem view_eq {session : Session σ α k} {lists : Lists α}
    (hlist : ∀ name, (session.buffers.find? name).map Slot.values = lists.list? name)
    (hmark : ∀ label, (session.references.find? label).map Reference.index = lists.mark? label) :
    session.view = lists :=
  Lists.ext (funext hlist) (funext hmark)

theorem list?_of_none {session : Session σ α k} {name : String}
    (hfind : session.buffers.find? name = none) : session.view.list? name = none :=
  congrArg (Option.map Slot.values) hfind

theorem list?_of_some {session : Session σ α k} {name : String} {slot : Slot (Item α) k}
    (hfind : session.buffers.find? name = some slot) : session.view.list? name = some slot.values :=
  congrArg (Option.map Slot.values) hfind

theorem values_insert (name other : String) (slot : Slot (Item α) k) (table : Names (Slot (Item α) k)) :
    ((table.insert name slot).find? other).map Slot.values =
      if other = name then some slot.values else (table.find? other).map Slot.values := by
  rw [Names.find?_insert]
  split <;> rfl

theorem values_erase (name other : String) (table : Names (Slot (Item α) k)) :
    ((table.erase name).find? other).map Slot.values =
      if other = name then none else (table.find? other).map Slot.values := by
  rw [Names.find?_erase]
  split <;> rfl

/-- A buffer that takes a name brings its elements along. -/
theorem view_place (name : String) (slot : Slot (Item α) k) (session : Session σ α k) :
    (session.place name slot).view = session.view.assign name (some slot.values) :=
  view_eq (fun other => values_insert name other slot session.buffers) fun _ => rfl

theorem view_remove (name : String) (session : Session σ α k) :
    (session.remove name).view = session.view.assign name none :=
  view_eq (fun other => values_erase name other session.buffers) fun _ => rfl

theorem view_store (label : String) (r : Reference) (session : Session σ α k) :
    ({ session with references := session.references.insert label r }).view =
      session.view.mark label r.index := by
  refine view_eq (fun _ => rfl) fun other => ?_
  simp only [Names.find?_insert, Lists.mark, view]
  split <;> rfl

/-- A buffer that was built takes its name, and nothing happens if there is none. -/
theorem view_enroll {list : List α} (name : String) (provider : Provider k)
    (construction : Construction σ (Item α)) (session : Session σ α k)
    (h : ∀ buffer, construction.outcome = .ok buffer → buffer.toList.map Item.value = list) :
    (session.enroll name provider construction).2.view =
      bif (session.enroll name provider construction).1.outcome.isOk then
        session.view.assign name (some list)
      else session.view := by
  simp only [enroll]
  cases houtcome : construction.outcome with
  | error halt => rfl
  | ok buffer =>
    refine (view_place name ⟨buffer, provider⟩ _).trans ?_
    rw [Slot.values, h buffer houtcome]
    rfl

/-- A buffer that is given up takes its elements along. -/
theorem view_giveUp (name : String) (count : Nat) (reply : List (Item α) → Answer σ (Item α))
    (session : Session σ α k) :
    (session.giveUp name count reply).2.view = session.view.assign name none := by
  simp only [giveUp]
  cases hfind : session.buffers.find? name with
  | none =>
    rw [← list?_of_none hfind]
    exact (Lists.assign_self name session.view).symm
  | some slot => exact view_remove name session

theorem values_build [Sized α] [BlockSource σ] {id : BufferId} {config : Config} {source : σ}
    {buffer : Buffer (Item α)} (h : (Buffer.build id config source).outcome = .ok buffer) :
    buffer.toList.map Item.value = [] := by
  rcases Buffer.build_cases (α := Item α) id config source with
    ⟨-, room, -, hbuild⟩ | ⟨halt, hbuild⟩
  · rw [hbuild] at h
    cases h
    rfl
  · rw [hbuild] at h
    cases h

/-- Values that are collected are all stored, or else the buffer is given up. -/
theorem values_collect [Sized α] [BlockSource σ] {id : BufferId} {start : Nat} {values : List α}
    {source : σ} (h : ((Buffer.new id).extend (Item.number start values) source).outcome = .ok ()) :
    ((Buffer.new id).extend (Item.number start values) source).buffer.toList.map Item.value = values := by
  have hlist := Buffer.toList_pushAll_isOk (Item.number start values)
    (show (Buffer.new id).length ≤ (Buffer.new id).capacity from Nat.le_refl 0) source
  rw [← Buffer.isOk_extend, ← Buffer.extend_buffer, h] at hlist
  exact (congrArg (List.map Item.value) hlist).trans (Item.map_value_number start values)

/-- The values of a copy are those of the buffer, with other numbers. -/
theorem values_copy [Sized α] [BlockSource σ] {id : BufferId} {source : σ} {start : Nat}
    {buffer result : Buffer (Item α)} (h : ((buffer.renumber start).copy id source).outcome = .ok result) :
    result.toList.map Item.value = buffer.toList.map Item.value := by
  rcases Buffer.copy_cases id (buffer.renumber start) source with ⟨room, -, hcopy⟩ | ⟨halt, hcopy⟩
  · rw [hcopy] at h
    cases h
    exact buffer.values_renumber start
  · rw [hcopy] at h
    cases h

variable [Element α] [BlockSource σ]

/-- An action changes the list of its buffer, and no other. -/
theorem view_act {session : Session σ α k} (hsound : session.Sound) (name : String) (action : Action α) :
    (session.act name action).2.view =
      session.view.modify name
        (action.onList ⟨(session.act name action).1.outcome.isOk,
          match session.actMove name (action.number session.ledger.issued) with
          | .act _ slot action => action.accepted slot.buffer (session.pool.source slot.provider)
          | _ => 0⟩) := by
  simp only [act, actMove]
  cases hfind : session.buffers.find? name with
  | none => exact (Lists.modify_of_none (list?_of_none hfind) _).symm
  | some slot =>
    refine view_eq (fun other => ?_) fun _ => rfl
    refine (values_insert name other _ session.buffers).trans ?_
    simp only [Lists.modify, Lists.assign, view, hfind]
    split
    · refine congrArg some ?_
      rw [Slot.values, Action.toList_perform _ (hsound name slot hfind).length_le,
        Action.map_value_onList_number]
      rfl
    · rfl

/-- An action that does nothing to a list leaves all lists as they are. -/
theorem view_act_of_same {session : Session σ α k} (action : Action α)
    (hsame : ∀ verdict list, action.onList verdict list = list) (hsound : session.Sound)
    (name : String) : (session.act name action).2.view = session.view := by
  rw [view_act hsound name action, funext (hsame _)]
  exact Lists.modify_id name session.view

theorem view_collect (name : String) (values : List α) (session : Session σ α k) :
    (session.collect name values).2.view =
      bif (session.collect name values).1.outcome.isOk then session.view.assign name (some values)
      else session.view := by
  simp only [collect]
  split
  · rfl
  · rename_i houtcome
    refine (view_place name _ _).trans ?_
    rw [Slot.values, values_collect houtcome]
    rfl

/-- A reference is stored for each element there is. -/
theorem view_refer {session : Session σ α k} (hsound : session.Sound) (name : String) (index : Nat)
    (label : String) :
    (session.refer name index label).2.view =
      match session.view.list? name with
      | none => session.view
      | some list => if index < list.length then session.view.mark label index else session.view := by
  have hact := view_act_of_same (.refer index) (fun _ _ => rfl) hsound name
  rcases refer_cases name index label session with
    ⟨cause, -, hindex, hrefer⟩ | ⟨slot, r, hfind, hindex, hr, -, hrefer⟩
  · rw [hrefer, hact]
    cases hfind : session.buffers.find? name with
    | none => rw [list?_of_none hfind]
    | some slot =>
      have hle : ¬ index < slot.values.length := by
        rw [slot.length_values]
        exact Nat.not_lt.2 (hindex slot hfind)
      rw [list?_of_some hfind]
      exact (if_neg hle).symm
  · have hlt : index < slot.values.length := by
      rw [slot.length_values]
      exact hindex
    rw [hrefer, list?_of_some hfind]
    refine (view_store label r _).trans ?_
    rw [hact, hr]
    exact (if_pos hlt).symm

/-- **A step does to the buffers what it does to their lists.** -/
theorem view_step {session : Session σ α k} (hsound : session.Sound) (command : Command α) :
    (session.step command).2.view = session.view.step command (session.verdict command) := by
  cases command with
  | act name action => exact view_act hsound name action
  | new name source =>
    simp only [step, verdict, Lists.step, new]
    cases session.provider? source with
    | none => rfl
    | some provider =>
      refine view_enroll name provider _ session fun buffer h => ?_
      cases h
      rfl
  | build name config source =>
    simp only [step, verdict, Lists.step, build]
    cases session.provider? source with
    | none => rfl
    | some provider => exact view_enroll name provider _ session fun buffer h => values_build h
  | collect name values => exact view_collect name values session
  | copy name target =>
    simp only [step, verdict, Lists.step, copy]
    cases hfind : session.buffers.find? name with
    | none => rfl
    | some slot =>
      rw [list?_of_some hfind]
      -- the ledger is no part of the view
      exact view_enroll target slot.provider _ { session with ledger := _ } fun buffer h => values_copy h
  | rename name target =>
    simp only [step, Lists.step, rename]
    cases hfind : session.buffers.find? name with
    | none =>
      rw [list?_of_none hfind]
      rfl
    | some slot =>
      rw [list?_of_some hfind, ← view_remove]
      exact view_place target slot (session.remove name)
  | swap name other =>
    simp only [step, Lists.step, swap]
    cases hfind : session.buffers.find? name with
    | none =>
      rw [list?_of_none hfind]
      rfl
    | some slot =>
      cases hother : session.buffers.find? other with
      | none =>
        rw [list?_of_some hfind, list?_of_none hother]
        rfl
      | some slot' =>
        rw [list?_of_some hfind, list?_of_some hother]
        simp only
        rw [← view_place name slot' session]
        exact view_place other slot (session.place name slot')
  | discard name => exact view_giveUp name 0 _ session
  | takeFirst name count => exact view_giveUp name count _ session
  | drain name => exact view_giveUp name _ _ session
  | refer name index label => exact view_refer hsound name index label
  | overwrite name label value =>
    simp only [step, verdict, Lists.step, actOn]
    cases hfind : session.references.find? label with
    | none =>
      have hmark : session.view.mark? label = none := congrArg (Option.map Reference.index) hfind
      rw [hmark]
      rfl
    | some reference =>
      have hmark : session.view.mark? label = some reference.index :=
        congrArg (Option.map Reference.index) hfind
      rw [hmark]
      exact (view_act hsound name (.overwrite reference value)).trans
        (Lists.modify_bif name _ _ session.view)
  | resolve name label =>
    simp only [step, Lists.step, actOn]
    cases session.references.find? label with
    | none => rfl
    | some reference => exact view_act_of_same (.resolve reference) (fun _ _ => rfl) hsound name
  | isLive name label =>
    simp only [step, Lists.step, actOn]
    cases session.references.find? label with
    | none => rfl
    | some reference => exact view_act_of_same (.isLive reference) (fun _ _ => rfl) hsound name
  | liveReferences name =>
    simp only [step, Lists.step, liveReferences]
    cases session.buffers.find? name <;> rfl
  | reference label =>
    simp only [step, Lists.step, reference]
    cases session.references.find? label <;> rfl
  | sameReference label other =>
    simp only [step, Lists.step, sameReference]
    split <;> rfl
  | source name =>
    simp only [step, Lists.step, source]
    cases session.pool.provider? name <;> rfl
  | resetSource name =>
    simp only [step, Lists.step, resetSource]
    cases session.pool.provider? name <;> rfl
  | request name capacity =>
    simp only [step, Lists.step, request]
    cases session.pool.provider? name with
    | none => rfl
    | some provider =>
      simp only
      split <;> rfl
  | drawId => rfl
  | countReferences => rfl

/-- A run does to the buffers what it does to their lists. -/
theorem view_run {session : Session σ α k} (hsound : session.Sound) (commands : List (Command α)) :
    (session.run commands).view = session.view.run (session.verdicts commands) := by
  induction commands generalizing session with
  | nil => rfl
  | cons command commands ih =>
    rw [run_cons, ih (hsound.step command), view_step hsound command]
    rfl

end Session

/-! ### What a buffer lets the caller see -/

/-- Every way to look at the elements of a buffer gives what the list gives. -/
structure Buffer.Reads (buffer : Buffer (Item α)) (list : List α) : Prop where
  /-- All elements in order. -/
  toList : buffer.toList.map Item.value = list
  /-- The number of elements. -/
  length : buffer.length = list.length
  /-- Whether there is none. -/
  isEmpty : buffer.isEmpty = list.isEmpty
  /-- One element, if there is one. -/
  get? (i : Nat) : (buffer.get? i).map Item.value = list[i]?
  /-- One element, or a fault that tells the index and the length. -/
  elementAt (i : Nat) : (buffer.elementAt i).map Item.value =
    match list[i]? with
    | some value => .ok value
    | none => .error (.indexOutOfRange i list.length)
  /-- One element, or a panic that tells the index and the length. -/
  index (i : Nat) : (buffer.index i).map Item.value =
    match list[i]? with
    | some value => .ok value
    | none => .error (.indexOutOfBounds i list.length)
  /-- The element that is taken out at the end. -/
  pop : buffer.pop.1.map Item.value = list.getLast?

/-- A buffer reads as the list of its values. -/
theorem Slot.reads (slot : Slot (Item α) k) : slot.buffer.Reads slot.values := by
  have hlength := slot.length_values
  have hget (i : Nat) : slot.values[i]? = (slot.buffer.toList[i]?).map Item.value := List.getElem?_map ..
  refine ⟨rfl, hlength.symm, ?_, fun i => ?_, fun i => ?_, fun i => ?_, ?_⟩
  · rw [Bool.eq_iff_iff, List.isEmpty_iff_length_eq_zero, hlength]
    exact decide_eq_true_iff
  · rw [hget, Buffer.get?_eq]
  · rw [hget, hlength]
    cases hi : slot.buffer.toList[i]? with
    | none =>
      rw [Buffer.elementAt_of_le (List.getElem?_eq_none_iff.1 hi)]
      rfl
    | some value =>
      rw [Buffer.elementAt_of_some hi]
      rfl
  · rw [hget, hlength]
    cases hi : slot.buffer.toList[i]? with
    | none =>
      rw [Buffer.index_of_le (List.getElem?_eq_none_iff.1 hi)]
      rfl
    | some value =>
      rw [Buffer.index_of_some hi]
      rfl
  · rw [Slot.values, List.getLast?_map, ← Buffer.pop_fst]

namespace Session

variable [Element α] [BlockSource σ]

/-- Giving a buffer up for all its elements hands out its values. -/
theorem outcome_drain {session : Session σ α k} {name : String} {slot : Slot (Item α) k}
    (hfind : session.buffers.find? name = some slot) :
    ∃ items, (session.step (.drain name)).1.outcome = .ok (.elements items) ∧
      items.map Item.value = slot.values := by
  refine ⟨slot.buffer.toList, ?_, rfl⟩
  simp only [step, drain, giveUp, elementsOf, hfind, List.take_length]
  rfl

/-- **Buffers are plain lists.** Start with any sources, and carry out any commands. Then the values in the buffers are
what the same commands make of plain lists, and every way to look at a buffer gives what its list gives. -/
theorem run_refines_lists (pool : Pool σ k) (commands : List (Command α)) :
    ((start pool).run commands).view = Lists.empty.run ((start pool).verdicts commands) ∧
    ∀ name,
      match (Lists.empty.run ((start pool).verdicts commands)).list? name with
      | none => ((start pool).run commands).buffers.find? name = none
      | some list =>
        ∃ slot, ((start pool).run commands).buffers.find? name = some slot ∧ slot.buffer.Reads list ∧
          ∃ items, (((start pool).run commands).step (.drain name)).1.outcome = .ok (.elements items) ∧
            items.map Item.value = list := by
  have hview := view_run (sound_start pool) commands
  have hstart : (start pool : Session σ α k).view = Lists.empty := rfl
  rw [hstart] at hview
  refine ⟨hview, fun name => ?_⟩
  rw [← hview]
  simp only [view]
  cases hfind : ((start pool).run commands).buffers.find? name with
  | none => rfl
  | some slot => exact ⟨slot, rfl, slot.reads, outcome_drain hfind⟩

end Session

end ElasticBuffer
