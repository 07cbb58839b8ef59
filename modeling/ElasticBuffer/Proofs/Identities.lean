import ElasticBuffer.Allocator
import ElasticBuffer.Proofs.Lifetime

/-!
# Every buffer has an identity of its own

A session draws identities one after the other. This module counts how many it has drawn (`Session.drawnIn`), and shows
that no identity is given twice as long as there are fewer of them than words (`Session.Numbered`): the buffers of a
session have different ones, and a buffer that is built later has one that was not there before.

A reference tells the identity of the buffer it was taken from. So the main statement is `resolve_foreign`: whatever
becomes of a buffer after a reference was taken from it, no other buffer accepts the reference.
-/

namespace ElasticBuffer

variable {σ α : Type} {k : Nat}

/-! ### Counting identities -/

namespace BufferId

/-- The identity that is drawn after `count` others. -/
def nth (count : Nat) : BufferId := ⟨UInt64.ofNat (count + 1)⟩

theorem next_nth (count : Nat) : (nth count).next = nth (count + 1) := by
  ext
  simp [next, nth, UInt64.ofNat_add]

/-- Identities do not come round before there are as many as words. -/
theorem toNat_nth {count : Nat} (h : count + 1 < UInt64.size) :
    (nth count).serial.toNat = count + 1 :=
  UInt64.toNat_ofNat_of_lt' h

end BufferId

namespace Session

/-! ### What a step draws and builds -/

variable [Element α] [BlockSource σ]

/-- The number of identities that a run draws. -/
def drawnIn : List (Command α) → Session σ α k → Nat
  | [], _ => 0
  | command :: commands, session => session.drawn command + drawnIn commands (session.step command).2

/-- The identity of the buffer that a step builds. A buffer that cannot store all the values it collects is built
too, and dropped in the same step. -/
def built (command : Command α) (session : Session σ α k) : Option BufferId :=
  match command with
  | .collect _ values =>
    some ((Buffer.new session.nextId).extend (Item.number session.ledger.issued values)
      session.pool.heap).buffer.id
  | _ =>
    match session.move command with
    | .enter _ slot => some slot.buffer.id
    | _ => none

/-- The identities of the buffers that a run builds, in the order in which they are built. -/
def builtIn : List (Command α) → Session σ α k → List BufferId
  | [], _ => []
  | command :: commands, session =>
    (session.built command).toList ++ builtIn commands (session.step command).2

/-! ### Identities are drawn in order -/

omit [Element α] [BlockSource σ] in
theorem nextId_enroll (name : String) (provider : Provider k) (construction : Construction σ (Item α))
    (session : Session σ α k) :
    (session.enroll name provider construction).2.nextId =
      bif (session.enroll name provider construction).1.outcome.isOk then session.nextId.next
      else session.nextId := by
  simp only [enroll]
  cases construction.outcome <;> rfl

theorem nextId_act (name : String) (action : Action α) (session : Session σ α k) :
    (session.act name action).2.nextId = session.nextId := by
  simp only [act]
  cases session.buffers.find? name <;> rfl

theorem nextId_collect (name : String) (values : List α) (session : Session σ α k) :
    (session.collect name values).2.nextId = session.nextId.next := by
  simp only [collect]
  split <;> rfl

/-- A step draws identities one after the other. -/
theorem nextId_step {session : Session σ α k} {count : Nat} (h : session.nextId = .nth count)
    (command : Command α) :
    (session.step command).2.nextId = .nth (count + session.drawn command) := by
  have hnext : session.nextId.next = .nth (count + 1) := by rw [h, BufferId.next_nth]
  have hcourse := course_step command session
  generalize hresult : session.step command = result at hcourse ⊢
  cases hcourse with
  | missing _ hdrawn _ =>
    rw [hdrawn]
    exact h
  | answered _ hdrawn _ =>
    rw [hdrawn]
    exact h
  | drew hcommand =>
    subst hcommand
    exact hnext
  | enrolled hbuilds =>
    -- an identity is drawn for a buffer that was built
    rw [hbuilds.drawn_eq, hresult, nextId_enroll, hnext]
    cases Except.isOk _ with
    | false => exact h
    | true => rfl
  | collected hcommand =>
    subst hcommand
    rw [nextId_collect]
    exact hnext
  | acted hperforms =>
    rw [hperforms.drawn_eq, nextId_act]
    exact h
  | referred hcommand _ =>
    subst hcommand
    exact (nextId_act ..).trans h
  | requested hcommand _ _ =>
    subst hcommand
    exact h
  | reset hcommand _ =>
    subst hcommand
    exact h

/-! ### New buffers -/

/-- Collected values stand in the buffer that was built for them. -/
theorem id_extend_new (id : BufferId) (values : List (Item α)) (source : σ) :
    ((Buffer.new id).extend values source).buffer.id = id := by
  rw [Buffer.extend_buffer]
  exact (Buffer.evolves_pushAll (Buffer.sound_new id).length_le values source).id_eq

/-- A new buffer has the identity that is drawn next. -/
theorem Entrant.id_eq {session : Session σ α k} {slot : Slot (Item α) k} (h : Entrant session slot) :
    slot.buffer.id = session.nextId := by
  cases h with
  | new provider => rfl
  | @build config provider buffer hbuild =>
    rcases Buffer.build_cases (α := Item α) session.nextId config (session.pool.source provider) with
      ⟨-, room, -, hok⟩ | ⟨halt, herror⟩
    · rw [hok] at hbuild
      cases hbuild
      rfl
    · rw [herror] at hbuild
      cases hbuild
  | collect _ => exact id_extend_new ..
  | @copy name slot buffer hfind hcopy =>
    rcases Buffer.copy_cases session.nextId (slot.buffer.renumber session.ledger.issued)
      (session.pool.source slot.provider) with ⟨room, -, hok⟩ | ⟨halt, herror⟩
    · rw [hok] at hcopy
      cases hcopy
      rfl
    · rw [herror] at hcopy
      cases hcopy

/-- A buffer enters a session only if an identity is drawn. -/
theorem drawn_of_move {session : Session σ α k} {command : Command α} {target : String}
    {slot : Slot (Item α) k} (h : session.move command = .enter target slot) :
    session.drawn command = 1 := by
  cases command with
  | new name source =>
    simp only [move, drawn, step, new] at h ⊢
    cases hprovider : session.provider? source with
    | none =>
      rw [hprovider] at h
      cases h
    | some provider => rfl
  | build name config source =>
    simp only [move, drawn, step, build] at h ⊢
    cases hprovider : session.provider? source with
    | none =>
      rw [hprovider] at h
      cases h
    | some provider =>
      rw [hprovider] at h
      obtain ⟨buffer, hbuild, -⟩ := enterMove_eq_enter h
      simp only [enroll, hbuild]
      rfl
  | copy name target =>
    simp only [move, drawn, step, copy] at h ⊢
    cases hfind : session.buffers.find? name with
    | none =>
      rw [hfind] at h
      cases h
    | some slot =>
      rw [hfind] at h
      obtain ⟨buffer, hcopy, -⟩ := enterMove_eq_enter h
      simp only [enroll, hcopy]
      rfl
  | collect name values => rfl
  | rename name target =>
    simp only [move] at h
    cases hfind : session.buffers.find? name <;> rw [hfind] at h <;> cases h
  | swap name other =>
    simp only [move] at h
    split at h <;> cases h
  | discard name => exact absurd h leaveMove_ne_enter
  | takeFirst name count => exact absurd h leaveMove_ne_enter
  | drain name => exact absurd h leaveMove_ne_enter
  | act name action => exact absurd h actMove_ne_enter
  | refer name index label => exact absurd h actMove_ne_enter
  | resolve name label => exact absurd h actOnMove_ne_enter
  | overwrite name label value => exact absurd h actOnMove_ne_enter
  | isLive name label => exact absurd h actOnMove_ne_enter
  | _ => cases h

/-- A step that builds a buffer draws one identity, and that buffer has it. -/
theorem built_eq_some {session : Session σ α k} {command : Command α} {id : BufferId}
    (h : session.built command = some id) : id = session.nextId ∧ session.drawn command = 1 := by
  by_cases hcollect : ∃ name values, command = .collect name values
  · obtain ⟨name, values, rfl⟩ := hcollect
    exact ⟨(Option.some.inj h).symm.trans (id_extend_new ..), rfl⟩
  · have hmove : ∃ target slot, session.move command = .enter target slot ∧ slot.buffer.id = id := by
      unfold built at h
      split at h
      · exact absurd ⟨_, _, rfl⟩ hcollect
      · split at h
        · rename_i target slot hmove
          exact ⟨target, slot, hmove, Option.some.inj h⟩
        · cases h
    obtain ⟨target, slot, hmove, rfl⟩ := hmove
    exact ⟨(entrant_of_move hmove).id_eq, drawn_of_move hmove⟩

/-- A buffer that enters a session is one that the step builds. -/
theorem built_of_move {session : Session σ α k} {command : Command α} {target : String}
    {slot : Slot (Item α) k} (h : session.move command = .enter target slot) :
    session.built command = some slot.buffer.id := by
  unfold built
  split
  · rw [(entrant_of_move h).id_eq, id_extend_new]
  · rw [h]

/-! ### No identity is given twice -/

/-- Where a buffer comes from: it has just been built, or it was there before and has kept its identity. -/
theorem origin_step {session : Session σ α k} (hsound : session.Sound) {command : Command α}
    {target : String} {result : Slot (Item α) k}
    (hfind : (session.step command).2.buffers.find? target = some result) :
    (session.move command = .enter target result ∧ session.built command = some result.buffer.id) ∨
      ∃ name slot, session.buffers.find? name = some slot ∧
        (session.move command).follow name = some target ∧ result.buffer.id = slot.buffer.id := by
  rw [buffers_step] at hfind
  rcases Move.find?_onBuffers_cases (fits_move command session) hfind with
    hmove | ⟨name, slot, hslot, hfollow, rfl⟩
  · exact .inl ⟨hmove, built_of_move hmove⟩
  · refine .inr ⟨name, slot, hslot, hfollow, ?_⟩
    unfold Move.onSlot
    cases (session.move command).action? name with
    | none => rfl
    | some action => exact ((hsound name slot hslot).evolves action _).id_eq

/-- So far `count` identities were drawn. Every buffer has one of them, and no two buffers have the same. -/
structure Numbered (count : Nat) (session : Session σ α k) : Prop where
  /-- The next identity follows the ones that were drawn. -/
  nextId_eq : session.nextId = .nth count
  /-- The identity of a buffer is one of those. -/
  serial_le {name : String} {slot : Slot (Item α) k} :
    session.buffers.find? name = some slot → slot.buffer.id.serial.toNat ≤ count
  /-- An identity leads to one buffer at most. -/
  name_eq {name name' : String} {slot slot' : Slot (Item α) k} :
    session.buffers.find? name = some slot → session.buffers.find? name' = some slot' →
      slot.buffer.id = slot'.buffer.id → name = name'

omit [Element α] [BlockSource σ] in
theorem numbered_start (pool : Pool σ k) : (start pool : Session σ α k).Numbered 0 where
  nextId_eq := rfl
  serial_le hfind := by cases hfind
  name_eq hfind := by cases hfind

/-- What a step builds has an identity above all those that were drawn before. -/
theorem Numbered.toNat_built {count : Nat} {session : Session σ α k} (h : session.Numbered count)
    {command : Command α} (hcount : count + session.drawn command < UInt64.size) {id : BufferId}
    (hbuilt : session.built command = some id) :
    id.serial.toNat = count + session.drawn command := by
  obtain ⟨rfl, hdrawn⟩ := built_eq_some hbuilt
  rw [hdrawn] at hcount ⊢
  rw [h.nextId_eq, BufferId.toNat_nth hcount]

/-- A step keeps the identities apart, as long as there are fewer of them than words. -/
theorem Numbered.step {count : Nat} {session : Session σ α k} (h : session.Numbered count)
    (hsound : session.Sound) {command : Command α}
    (hcount : count + session.drawn command < UInt64.size) :
    (session.step command).2.Numbered (count + session.drawn command) where
  nextId_eq := nextId_step h.nextId_eq command
  serial_le := by
    intro target result hfind
    rcases origin_step hsound hfind with ⟨-, hbuilt⟩ | ⟨name, slot, hslot, -, hid⟩
    · exact Nat.le_of_eq (h.toNat_built hcount hbuilt)
    · have hle := h.serial_le hslot
      rw [hid]
      omega
  name_eq := by
    -- a buffer that was there before does not have the identity of one that has just been built
    have hapart {name : String} {slot : Slot (Item α) k} {id : BufferId}
        (hslot : session.buffers.find? name = some slot) (hbuilt : session.built command = some id) :
        id ≠ slot.buffer.id := by
      rintro rfl
      have hle := h.serial_le hslot
      have hnew := h.toNat_built hcount hbuilt
      have hdrawn := (built_eq_some hbuilt).2
      omega
    intro target target' result result' hfind hfind' hsame
    rcases origin_step hsound hfind with ⟨hmove, hbuilt⟩ | ⟨name, slot, hslot, hfollow, hid⟩
    · rcases origin_step hsound hfind' with ⟨hmove', -⟩ | ⟨name', slot', hslot', -, hid'⟩
      · rw [hmove] at hmove'
        cases hmove'
        rfl
      · exact absurd (hsame.trans hid') (hapart hslot' hbuilt)
    · rcases origin_step hsound hfind' with ⟨-, hbuilt'⟩ | ⟨name', slot', hslot', hfollow', hid'⟩
      · exact absurd (hsame.symm.trans hid) (hapart hslot hbuilt')
      · have hname : name = name' := h.name_eq hslot hslot' (hid.symm.trans (hsame.trans hid'))
        subst hname
        exact Option.some.inj (hfollow.symm.trans hfollow')

/-- A run keeps the identities apart, as long as there are fewer of them than words. -/
theorem Numbered.run (commands : List (Command α)) {count : Nat} {session : Session σ α k}
    (h : session.Numbered count) (hsound : session.Sound)
    (hcount : count + session.drawnIn commands < UInt64.size) :
    (session.run commands).Numbered (count + session.drawnIn commands) := by
  induction commands generalizing count session with
  | nil => exact h
  | cons command commands ih =>
    rw [drawnIn, ← Nat.add_assoc] at hcount ⊢
    have hstep : count + session.drawn command < UInt64.size := by omega
    exact ih (h.step hsound hstep) (hsound.step command) hcount

/-- The buffers that a run builds have ever larger identities, all above those that were drawn before. -/
theorem Numbered.builtIn (commands : List (Command α)) {count : Nat} {session : Session σ α k}
    (h : session.Numbered count) (hsound : session.Sound)
    (hcount : count + session.drawnIn commands < UInt64.size) :
    (session.builtIn commands).Pairwise (fun id id' => id.serial < id'.serial) ∧
      ∀ id ∈ session.builtIn commands, count < id.serial.toNat := by
  induction commands generalizing count session with
  | nil => exact ⟨.nil, fun id hid => by cases hid⟩
  | cons command commands ih =>
    rw [drawnIn, ← Nat.add_assoc] at hcount
    have hstep : count + session.drawn command < UInt64.size := by omega
    obtain ⟨hincreasing, habove⟩ := ih (h.step hsound hstep) (hsound.step command) hcount
    rw [Session.builtIn]
    cases hbuilt : session.built command with
    | none =>
      refine ⟨hincreasing, fun id hid => ?_⟩
      have := habove id hid
      omega
    | some first =>
      have hfirst := h.toNat_built hstep hbuilt
      have hdrawn := (built_eq_some hbuilt).2
      refine ⟨List.pairwise_cons.2 ⟨fun id hid => ?_, hincreasing⟩, fun id hid => ?_⟩
      · have := habove id hid
        rw [UInt64.lt_iff_toNat_lt]
        omega
      · rcases List.mem_cons.1 hid with rfl | hlater
        · omega
        · have := habove id hlater
          omega

/-- Where a buffer comes from after a run: the run has built it, or it was there before, has been followed, and has kept
its identity. -/
theorem origin_run (commands : List (Command α)) {session : Session σ α k} (hsound : session.Sound)
    {target : String} {result : Slot (Item α) k}
    (hfind : (session.run commands).buffers.find? target = some result) :
    result.buffer.id ∈ session.builtIn commands ∨
      ∃ name slot, session.buffers.find? name = some slot ∧
        session.followRun commands name = some target ∧ result.buffer.id = slot.buffer.id := by
  induction commands generalizing session with
  | nil => exact .inr ⟨target, result, hfind, rfl, rfl⟩
  | cons command commands ih =>
    rcases ih (hsound.step command) hfind with hbuilt | ⟨middle, slot, hslot, hfollow, hid⟩
    · exact .inl (List.mem_append_right _ hbuilt)
    · rcases origin_step hsound hslot with ⟨-, hbuilt⟩ | ⟨name, first, hfirst, hstep, hid'⟩
      · left
        rw [hid]
        exact List.mem_append_left _ (Option.mem_toList.2 hbuilt)
      · right
        refine ⟨name, first, hfirst, ?_, hid.trans hid'⟩
        rw [followRun, hstep]
        exact hfollow

/-! ### No other buffer accepts a reference -/

theorem drawnIn_append (earlier later : List (Command α)) (session : Session σ α k) :
    session.drawnIn (earlier ++ later) =
      session.drawnIn earlier + (session.run earlier).drawnIn later := by
  induction earlier generalizing session with
  | nil => exact (Nat.zero_add _).symm
  | cons command earlier ih =>
    rw [List.cons_append, drawnIn, drawnIn, ih, run_cons, Nat.add_assoc]

/-- A buffer that is not the one that was followed has another identity. -/
theorem Numbered.id_ne {count : Nat} {session : Session σ α k} (h : session.Numbered count)
    (hsound : session.Sound) {commands : List (Command α)}
    (hcount : count + session.drawnIn commands < UInt64.size) {name target : String}
    {slot result : Slot (Item α) k} (hslot : session.buffers.find? name = some slot)
    (hresult : (session.run commands).buffers.find? target = some result)
    (hfollow : session.followRun commands name ≠ some target) : slot.buffer.id ≠ result.buffer.id := by
  intro hsame
  rcases origin_run commands hsound hresult with hbuilt | ⟨name', slot', hslot', hfollow', hid⟩
  · have hnew := (h.builtIn commands hsound hcount).2 _ hbuilt
    have hold := h.serial_le hslot
    rw [hsame] at hold
    omega
  · have hname : name' = name := h.name_eq hslot' hslot (hid.symm.trans hsame.symm)
    rw [hname] at hfollow'
    exact hfollow hfollow'

end Session

namespace Buffer

theorem locate_of_id_ne {r : Reference} {buffer : Buffer α} (h : r.buffer ≠ buffer.id) :
    buffer.locate r = .error (.foreignReference r.buffer buffer.id) :=
  if_pos h

theorem isLive_of_id_ne {r : Reference} {buffer : Buffer α} (h : r.buffer ≠ buffer.id) :
    buffer.isLive r = false := by
  simp only [isLive, h, decide_false, Bool.false_and]

/-- A live reference tells the identity of the buffer. -/
theorem id_eq_of_isLive {r : Reference} {buffer : Buffer α} (h : buffer.isLive r = true) :
    r.buffer = buffer.id := by
  simp only [isLive, Bool.and_eq_true, decide_eq_true_eq] at h
  exact h.1.1

end Buffer

/-- **A reference leads into its own buffer only.** Start with any sources, and carry out any commands that draw fewer
identities than there are words. Then the buffers that were built have ever larger identities, and each buffer there is
is one of them. No two buffers hold the same reference live.

Moreover, take any buffer in the course of the run, and any reference that was taken from it. Wherever the buffer is
moved it keeps its identity; and every buffer that is not this one, be it a copy of it, the buffer it is a copy of,
or one that was built after it was given up, answers that the reference is foreign, and tells the two identities. -/
theorem Session.resolve_foreign [Element α] [BlockSource σ] (pool : Pool σ k)
    (earlier later : List (Command α))
    (hdrawn : (start pool).drawnIn (earlier ++ later) < UInt64.size) :
    ((start pool).builtIn (earlier ++ later)).Pairwise (fun id id' => id.serial < id'.serial) ∧
    (∀ target result, ((start pool).run (earlier ++ later)).buffers.find? target = some result →
      result.buffer.id ∈ (start pool).builtIn (earlier ++ later)) ∧
    (∀ target target' result result' r,
      ((start pool).run (earlier ++ later)).buffers.find? target = some result →
      ((start pool).run (earlier ++ later)).buffers.find? target' = some result' →
      result.buffer.isLive r = true → result'.buffer.isLive r = true → target = target') ∧
    ∀ name slot, ((start pool).run earlier).buffers.find? name = some slot →
      (∀ target, ((start pool).run earlier).followRun later name = some target →
        ∃ result, ((start pool).run (earlier ++ later)).buffers.find? target = some result ∧
          result.buffer.id = slot.buffer.id) ∧
      ∀ target result, ((start pool).run (earlier ++ later)).buffers.find? target = some result →
        ((start pool).run earlier).followRun later name ≠ some target →
        ∀ index r, slot.buffer.refer index = .ok r →
          let foreign := Fault.foreignReference slot.buffer.id result.buffer.id
          result.buffer.resolve r = .error (.fault foreign) ∧
            (∀ value, result.buffer.resolveSwap r value = .error (.fault foreign)) ∧
            result.buffer.isLive r = false := by
  have hsound : (start pool : Session σ α k).Sound := sound_start pool
  have hstart : (start pool : Session σ α k).Numbered 0 := numbered_start pool
  rw [← Nat.zero_add ((start pool).drawnIn _)] at hdrawn
  have hend := hstart.run (earlier ++ later) hsound hdrawn
  refine ⟨(hstart.builtIn _ hsound hdrawn).1, fun target result hfind => ?_,
    fun target target' result result' r hfind hfind' hlive hlive' => ?_, fun name slot hslot => ?_⟩
  · rcases origin_run _ hsound hfind with hbuilt | ⟨name, slot, hslot, -, -⟩
    · exact hbuilt
    · -- there is no buffer at the start
      cases hslot
  · have hid := Buffer.id_eq_of_isLive hlive
    have hid' := Buffer.id_eq_of_isLive hlive'
    exact hend.name_eq hfind hfind' (hid.symm.trans hid')
  · rw [drawnIn_append, ← Nat.add_assoc] at hdrawn
    rw [run_append]
    have hmiddle := hstart.run earlier hsound (by omega)
    have hsound' : ((start pool).run earlier).Sound := Reachable.sound ⟨pool, earlier, rfl⟩
    refine ⟨fun target hfollow => ?_, fun target result hresult hfollow index r hrefer => ?_⟩
    · obtain ⟨result, hresult, hid, -⟩ := exists_followRun later hsound' hslot hfollow
      exact ⟨result, hresult, hid⟩
    · obtain rfl := Buffer.refer_eq_ok hrefer
      have hne := hmiddle.id_ne hsound' hdrawn hslot hresult hfollow
      have hlocate := Buffer.locate_of_id_ne (r := ⟨slot.buffer.id, slot.buffer.generation, index⟩) hne
      exact ⟨Buffer.resolve_of_locate_error hlocate,
        fun value => Buffer.resolveSwap_of_locate_error value hlocate, Buffer.isLive_of_id_ne hne⟩

/-- A buffer is copied and dropped, and another one is built under its name. Neither the copy nor the new buffer accepts
the reference that was taken from it. -/
theorem Session.resolve_foreign_after_copy :
    let earlier : List (Command UInt8) := [.new "a" none, .act "a" (.push 7)]
    let later : List (Command UInt8) := [.copy "a" "b", .discard "a", .collect "a" [7]]
    let session : Session Allocator UInt8 0 := (start ⟨.system, #v[], #v[]⟩).run (earlier ++ later)
    (start ⟨.system, #v[], #v[]⟩ : Session Allocator UInt8 0).drawnIn (earlier ++ later) = 3 ∧
      ∃ copied collected, session.buffers.find? "b" = some copied ∧
        session.buffers.find? "a" = some collected ∧
        copied.buffer.resolve ⟨.nth 0, ⟨1⟩, 0⟩ = .error (.fault (.foreignReference (.nth 0) (.nth 1))) ∧
        collected.buffer.resolve ⟨.nth 0, ⟨1⟩, 0⟩ =
          .error (.fault (.foreignReference (.nth 0) (.nth 2))) := by
  intro earlier later session
  have hdrawn : (start ⟨.system, #v[], #v[]⟩ : Session Allocator UInt8 0).drawnIn (earlier ++ later) = 3 :=
    rfl
  obtain ⟨-, -, -, hforeign⟩ := resolve_foreign ⟨Allocator.system, #v[], #v[]⟩ earlier later
    (by rw [hdrawn]; decide)
  have hslot := (hforeign "a" _ rfl).2
  refine ⟨hdrawn, _, _, rfl, rfl, ?_, ?_⟩
  · exact (hslot "b" _ rfl (by decide) 0 _ rfl).1
  · exact (hslot "a" _ rfl (by decide) 0 _ rfl).1

end ElasticBuffer
