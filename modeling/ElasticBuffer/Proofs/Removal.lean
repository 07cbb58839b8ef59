import ElasticBuffer.Proofs.Conservation
import ElasticBuffer.Proofs.Totals

/-!
# References to removed elements

A reference leads to a position of a block. So what becomes of it after the element at its position was removed is not
settled for good: it is out of range until the position is filled again, and then leads to what stands there. Only when
the block is replaced does it stay without an element.

The main statement is `resolve_after_removal`. It says when a reference to a removed element is an error, and that
otherwise it leads to another element, never to the removed one: a value that has left a session does not come back
(`Session.exits_le_run`). The smallest case in which such a reference leads to an element is `resolve_after_refill`.
-/

namespace ElasticBuffer

open Item

variable {σ α : Type} {k : Nat}

/-! ### What has left does not come back -/

namespace Ledger

/-- The number of times that a serial number has left, to the caller or for good. -/
def exits (serial : Nat) (ledger : Ledger) : Nat :=
  ledger.returned.count serial + ledger.dropped.count serial

theorem exits_leave (serial : Nat) (handed dropped : List (Item α)) (ledger : Ledger) :
    ((ledger.giveBack handed).drop dropped).exits serial =
      ledger.exits serial + tally serial handed + tally serial dropped := by
  simp only [exits, giveBack, drop, List.count_append, tally]
  omega

theorem exits_le_leave (serial : Nat) (handed dropped : List (Item α)) (ledger : Ledger) :
    ledger.exits serial ≤ ((ledger.giveBack handed).drop dropped).exits serial := by
  have hleave := exits_leave serial handed dropped ledger
  omega

theorem exits_le_drop (serial : Nat) (items : List (Item α)) (ledger : Ledger) :
    ledger.exits serial ≤ (ledger.drop items).exits serial :=
  exits_le_leave serial [] items ledger

end Ledger

namespace Session

theorem exits_le_enroll (serial : Nat) (name : String) (provider : Provider k)
    (construction : Construction σ (Item α)) (session : Session σ α k) :
    session.ledger.exits serial ≤
      (session.enroll name provider construction).2.ledger.exits serial := by
  simp only [enroll]
  cases construction.outcome with
  | error halt => exact Nat.le_refl _
  | ok buffer => exact Ledger.exits_le_drop ..

variable [Element α] [BlockSource σ]

theorem exits_le_act (serial : Nat) (name : String) (action : Action α) (session : Session σ α k) :
    session.ledger.exits serial ≤ (session.act name action).2.ledger.exits serial := by
  simp only [act]
  cases session.buffers.find? name with
  | none => exact Ledger.exits_le_drop serial _ (session.ledger.issue _)
  | some slot =>
    exact Ledger.exits_le_leave serial _ _ (session.ledger.issue _)

theorem exits_le_collect (serial : Nat) (name : String) (values : List α) (session : Session σ α k) :
    session.ledger.exits serial ≤ (session.collect name values).2.ledger.exits serial := by
  simp only [collect]
  generalize (Buffer.new session.nextId).extend (Item.number session.ledger.issued values) session.pool.heap = intake
  have hended := Ledger.exits_le_drop serial (intake.dropped ++ intake.unstored)
    (session.ledger.issue (Item.number session.ledger.issued values).length)
  -- the buffer is dropped, or one that had its name
  split
  · exact Nat.le_trans hended (Ledger.exits_le_drop ..)
  · exact Nat.le_trans hended (Ledger.exits_le_drop ..)

/-- A step adds to what has left, and takes nothing away from it. -/
theorem exits_le_step (serial : Nat) (command : Command α) (session : Session σ α k) :
    session.ledger.exits serial ≤ (session.step command).2.ledger.exits serial := by
  have hcourse := course_step command session
  generalize session.step command = result at hcourse ⊢
  cases hcourse with
  | missing | drew | requested | reset => exact Nat.le_refl _
  | answered => exact Ledger.exits_le_leave ..
  | enrolled => exact exits_le_enroll serial _ _ _ { session with ledger := session.ledger.issue _ }
  | collected => exact exits_le_collect ..
  | acted => exact exits_le_act ..
  | @referred name index => exact exits_le_act serial name (.refer index) session

theorem exits_le_run (serial : Nat) (commands : List (Command α)) (session : Session σ α k) :
    session.ledger.exits serial ≤ (session.run commands).ledger.exits serial :=
  run_induction (P := fun after => session.ledger.exits serial ≤ after.ledger.exits serial)
    (fun command after h => Nat.le_trans h (exits_le_step serial command after)) commands (Nat.le_refl _)

/-- What has left stands in no buffer, since no value has two places. -/
theorem serial_ne_of_exits {session : Session σ α k} (hreachable : session.Reachable) {serial : Nat}
    (hexits : 1 ≤ session.ledger.exits serial) {name : String} {slot : Slot (Item α) k}
    (hfind : session.buffers.find? name = some slot) {item : Item α} (hitem : item ∈ slot.buffer.toList) :
    item.serial ≠ serial := by
  rintro rfl
  have hone : session.places item.serial ≤ 1 := by
    obtain ⟨pool, commands, rfl⟩ := hreachable
    rw [places_run]
    split <;> omega
  have hheld : 1 ≤ tally item.serial (session.elementsOf name) := by
    rw [elementsOf, hfind]
    exact List.count_pos_iff.2 (List.mem_map_of_mem hitem)
  have hstored := tally_stored item.serial name session
  simp only [places, Ledger.exits] at hone hexits
  omega

end Session

/-! ### Removals -/

namespace Action

/-- The action takes elements out at the end. -/
def isRemoval : Action α → Bool
  | pop => true
  | truncate _ => true
  | clear => true
  | _ => false

/-- A removal keeps the first elements. -/
theorem exists_take_of_isRemoval [Element α] [BlockSource σ] {action : Action α}
    (h : action.isRemoval = true) (buffer : Buffer α) (source : σ) :
    ∃ count, (action.perform buffer source).buffer.toList = buffer.toList.take count := by
  cases action with
  | pop => exact ⟨buffer.toList.length - 1, (Buffer.toList_pop buffer).trans List.dropLast_eq_take⟩
  | truncate length => exact ⟨length, Buffer.toList_truncate length buffer⟩
  | clear => exact ⟨0, Buffer.toList_clear buffer⟩
  | _ => cases h

theorem values_of_isRemoval {action : Action α} (h : action.isRemoval = true) : action.values = [] := by
  cases action with
  | pop | truncate | clear => rfl
  | _ => cases h

/-- What stood behind the elements that a removal keeps has left. -/
theorem tally_removed [Element α] [BlockSource σ] {action : Action (Item α)} (h : action.isRemoval = true)
    {buffer : Buffer (Item α)} (hlength : buffer.length ≤ buffer.capacity) (source : σ) {index : Nat}
    (hkept : (action.perform buffer source).buffer.length ≤ index) {removed : Item α}
    (hremoved : buffer.toList[index]? = some removed) :
    1 ≤ tally removed.serial (action.perform buffer source).returned +
      tally removed.serial (action.perform buffer source).dropped := by
  obtain ⟨count, hlist⟩ := exists_take_of_isRemoval h buffer source
  have htally := action.tally_perform hlength source removed.serial
  have hsplit := tally_take_add_drop removed.serial count buffer.toList
  rw [hlist, values_of_isRemoval h, tally_nil] at htally
  -- the removed element stands behind the kept ones
  obtain ⟨hindex, -⟩ := List.getElem?_eq_some_iff.1 hremoved
  have hcount : count ≤ index := by
    rw [← Buffer.length_toList, hlist, List.length_take] at hkept
    omega
  have hmem : removed ∈ buffer.toList.drop count := by
    refine List.mem_iff_getElem?.2 ⟨index - count, ?_⟩
    rw [List.getElem?_drop, Nat.add_sub_cancel' hcount, hremoved]
  have hpos : 1 ≤ tally removed.serial (buffer.toList.drop count) :=
    List.count_pos_iff.2 (List.mem_map_of_mem hmem)
  omega

end Action

/-! ### What becomes of a reference -/

/-- A reference that was taken some replacements ago is stale, or out of range, or leads to what stands at its index. -/
theorem Buffer.resolve_of_advance {buffer after : Buffer α} {index : Nat} {r : Reference}
    (hrefer : buffer.refer index = .ok r) (hid : after.id = buffer.id) {count : Nat}
    (hgeneration : after.generation = buffer.generation.advance count) :
    (1 ≤ count → count < UInt64.size →
        after.resolve r = .error (.fault (.staleReference buffer.generation after.generation))) ∧
      (count = 0 → after.length ≤ index →
        after.resolve r = .error (.fault (.indexOutOfRange index after.length))) ∧
      (count = 0 → ∀ element, after.toList[index]? = some element → after.resolve r = .ok element) := by
  obtain rfl := refer_eq_ok hrefer
  refine ⟨fun hpos hlt => ?_, fun hzero hindex => ?_, fun hzero element helement => ?_⟩
  · refine resolve_of_locate_error (locate_of_generation_ne hid.symm ?_)
    rw [hgeneration]
    exact (Generation.advance_ne _ hpos hlt).symm
  · rw [hzero, Generation.advance_zero] at hgeneration
    exact resolve_of_locate_error (locate_of_le hid.symm hgeneration.symm hindex)
  · rw [hzero, Generation.advance_zero] at hgeneration
    obtain ⟨hindex, -⟩ := List.getElem?_eq_some_iff.1 helement
    have hlive := (isLive_iff (r := ⟨buffer.id, buffer.generation, index⟩) hid.symm hgeneration.symm).2 hindex
    exact resolve_of_some (locate_eq_ok_iff.2 ⟨hlive, rfl⟩) helement

namespace Session

variable [Element α] [BlockSource σ]

theorem followRun_append (first second : List (Command α)) (session : Session σ α k) (name : String) :
    session.followRun (first ++ second) name =
      (session.followRun first name).bind ((session.run first).followRun second) := by
  induction first generalizing session name with
  | nil => rfl
  | cons command first ih =>
    simp only [List.cons_append, followRun, run_cons]
    cases (session.move command).follow name with
    | none => rfl
    | some target => exact ih ..

/-- An action leaves a buffer its name, and makes of it what it does. -/
theorem follow_act {session : Session σ α k} {name : String} {slot : Slot (Item α) k}
    (hfind : session.buffers.find? name = some slot) (action : Action α) :
    (session.move (.act name action)).follow name = some name ∧
      (session.step (.act name action)).2.buffers.find? name =
        some { slot with
          buffer := ((action.number session.ledger.issued).perform slot.buffer
            (session.pool.source slot.provider)).buffer } := by
  refine ⟨?_, ?_⟩
  · simp only [move, actMove, hfind]
    rfl
  · simp only [step, act, hfind]
    exact Names.find?_insert_self ..

/-- What a removal takes out has left the session. -/
theorem exits_of_removal {session : Session σ α k} (hsound : session.Sound) {name : String}
    {slot : Slot (Item α) k} (hfind : session.buffers.find? name = some slot) {action : Action α}
    (hremoval : action.isRemoval = true) {index : Nat} {removed : Item α}
    (hremoved : slot.buffer.toList[index]? = some removed) {rest : Slot (Item α) k}
    (hrest : (session.step (.act name action)).2.buffers.find? name = some rest)
    (hgone : rest.buffer.length ≤ index) :
    1 ≤ (session.step (.act name action)).2.ledger.exits removed.serial := by
  obtain rfl := Option.some.inj (hrest.symm.trans (follow_act hfind action).2)
  have hnumber : (action.number session.ledger.issued).isRemoval = true := by
    rw [← hremoval]
    cases action <;> rfl
  have htally := Action.tally_removed hnumber (hsound name slot hfind).length_le
    (session.pool.source slot.provider) hgone hremoved
  simp only [step, act, hfind]
  show 1 ≤ (((session.ledger.issue _).giveBack _).drop _).exits removed.serial
  rw [Ledger.exits_leave]
  omega

/-- **References to removed elements.** Take a reference to the element at `index` of a buffer in any session that a run
can lead to, and go on. At some time let the element at `index` be removed by a call that takes elements out, and go on
again, however long, wherever the buffer is moved. The reference is an error as long as the values that were stored
since the removal do not fill up the position again, and the block was not replaced as often as there are words.

It is stale if the block was replaced since it was taken, and the fault tells the two generations. If the block was not
replaced, the reference is out of range as long as there are at most `index` elements. Once there are more, it leads to
the one that stands at `index` by then: enough values were stored since to reach there, and it is not the one that was
removed, which is in no buffer any more. -/
theorem resolve_after_removal {session : Session σ α k} (hreachable : session.Reachable) {name : String}
    {slot : Slot (Item α) k} (hfind : session.buffers.find? name = some slot) {index : Nat} {r : Reference}
    (hrefer : slot.buffer.refer index = .ok r) {between : List (Command α)} {held : String}
    (hbetween : session.followRun between name = some held) {holder : Slot (Item α) k}
    (hholder : (session.run between).buffers.find? held = some holder) {removed : Item α}
    (hremoved : holder.buffer.toList[index]? = some removed) {action : Action α}
    (hremoval : action.isRemoval = true) {rest : Slot (Item α) k}
    (hrest : ((session.run between).step (.act held action)).2.buffers.find? held = some rest)
    (hgone : rest.buffer.length ≤ index) {later : List (Command α)} {target : String}
    (hlater : ((session.run between).step (.act held action)).2.followRun later held = some target) :
    let after := ((session.run between).step (.act held action)).2
    let stored := after.amountIn Action.stored later held
    let replaced := session.replacementsIn (between ++ .act held action :: later) name
    ∃ result, (after.run later).buffers.find? target = some result ∧ result.buffer.id = slot.buffer.id ∧
      (rest.buffer.length + stored ≤ index → replaced < UInt64.size →
        ∃ fault, result.buffer.resolve r = .error (.fault fault)) ∧
      (1 ≤ replaced → replaced < UInt64.size →
        result.buffer.resolve r =
          .error (.fault (.staleReference slot.buffer.generation result.buffer.generation))) ∧
      (replaced = 0 →
        (result.buffer.length ≤ index →
          result.buffer.resolve r = .error (.fault (.indexOutOfRange index result.buffer.length))) ∧
        ∀ element, result.buffer.toList[index]? = some element →
          result.buffer.resolve r = .ok element ∧ index < rest.buffer.length + stored ∧
            element.serial ≠ removed.serial) := by
  intro after stored replaced
  have hreachable' : (session.run between).Reachable := by
    obtain ⟨pool, earlier, rfl⟩ := hreachable
    exact ⟨pool, earlier ++ between, (run_append ..).symm⟩
  have hfollow : session.followRun (between ++ .act held action :: later) name = some target := by
    rw [followRun_append, hbetween, Option.bind_some, followRun, (follow_act hholder action).1]
    exact hlater
  obtain ⟨result, hresult, hid, hgeneration⟩ :=
    exists_followRun (between ++ .act held action :: later) hreachable.sound hfind hfollow
  rw [run_append] at hresult
  obtain ⟨hstale, hrange, hlive⟩ := Buffer.resolve_of_advance hrefer hid hgeneration
  have hlength : result.buffer.length ≤ rest.buffer.length + stored :=
    length_le_of_followRun later (hreachable'.sound.step (.act held action)) hrest hlater hresult
  refine ⟨result, hresult, hid, fun hunfilled hword => ?_, hstale, fun hzero => ⟨hrange hzero, ?_⟩⟩
  · by_cases hzero : replaced = 0
    · exact ⟨_, hrange hzero (Nat.le_trans hlength hunfilled)⟩
    · exact ⟨_, hstale (Nat.pos_of_ne_zero hzero) hword⟩
  · intro element helement
    obtain ⟨hindex, -⟩ := List.getElem?_eq_some_iff.1 helement
    rw [Buffer.length_toList] at hindex
    refine ⟨hlive hzero element helement, by omega, ?_⟩
    -- the removed element has left, and what has left stands nowhere
    have hexits := exits_of_removal hreachable'.sound hholder hremoval hremoved hrest hgone
    have hreachable'' : (after.run later).Reachable := by
      obtain ⟨pool, earlier, hrun⟩ := hreachable'
      refine ⟨pool, earlier ++ .act held action :: later, ?_⟩
      rw [run_append, ← hrun]
      rfl
    exact serial_ne_of_exits hreachable'' (Nat.le_trans hexits (exits_le_run removed.serial later after))
      hresult (List.mem_of_getElem? helement)

/-- Two of three elements are removed, and one value is stored: the reference to the second element leads to it. -/
theorem resolve_after_removal_to_new_element :
    let session : Session Allocator UInt8 0 := (start ⟨.system, #v[], #v[]⟩).run
      [.build "a" { initialCapacity := 4 } none, .act "a" (.pushAll [1, 2, 3])]
    let after := ((session.run [.rename "a" "b"]).step (.act "b" (.truncate 1))).2
    ∃ result, (after.run [.act "b" (.push 9)]).buffers.find? "b" = some result ∧
      result.buffer.toList[1]? = some ⟨3, 9⟩ ∧ result.buffer.resolve ⟨.first, .initial, 1⟩ = .ok ⟨3, 9⟩ ∧
      1 < 1 + after.amountIn Action.stored [.act "b" (.push 9)] "b" := by
  intro session after
  have hreachable : session.Reachable := ⟨_, _, rfl⟩
  have hslot : (session.buffers.find? "a").map (fun slot => slot.buffer.refer 1) =
      some (.ok ⟨.first, .initial, 1⟩) := rfl
  have hheld : ((session.run [.rename "a" "b"]).buffers.find? "b").map (fun slot => slot.buffer.toList[1]?) =
      some (some ⟨1, 2⟩) := by decide +kernel
  have hleft : (after.buffers.find? "b").map (fun slot => slot.buffer.length) = some 1 := by decide +kernel
  have hfilled : ((after.run [.act "b" (.push 9)]).buffers.find? "b").map (fun slot => slot.buffer.toList[1]?) =
      some (some ⟨3, 9⟩) := by decide +kernel
  obtain ⟨slot, hfind, hrefer⟩ := Option.map_eq_some_iff.1 hslot
  obtain ⟨holder, hholder, hremoved⟩ := Option.map_eq_some_iff.1 hheld
  obtain ⟨rest, hrest, hone⟩ := Option.map_eq_some_iff.1 hleft
  obtain ⟨result, hresult, -, -, -, hunreplaced⟩ := resolve_after_removal hreachable hfind hrefer
    (show session.followRun [.rename "a" "b"] "a" = some "b" by decide +kernel) hholder hremoved
    (show (Action.truncate 1 : Action UInt8).isRemoval = true from rfl) hrest (Nat.le_of_eq hone)
    (show after.followRun [.act "b" (.push 9)] "b" = some "b" by decide +kernel)
  rw [hresult] at hfilled
  have helement := Option.some.inj hfilled
  obtain ⟨-, hlive⟩ := hunreplaced (by decide +kernel)
  obtain ⟨hresolve, hreached, -⟩ := hlive _ helement
  rw [hone] at hreached
  exact ⟨result, hresult, helement, hresolve, hreached⟩

/-- A reference to an element that was removed may lead to one that was stored later: the only element of a buffer is
taken out, for which the reference to it is out of range, and a value is pushed into the slot that it leaves. -/
theorem resolve_after_refill :
    let session : Session Allocator Int64 0 := (start ⟨.system, #v[], #v[]⟩).run
      [.build "a" { initialCapacity := 1 } none, .act "a" (.push 1), .refer "a" 0 "r"]
    let emptied := (session.step (.act "a" .pop)).2
    let refilled := (emptied.step (.act "a" (.push 2))).2
    (session.step (.resolve "a" "r")).1.outcome = .ok (.element ⟨0, 1⟩) ∧
      (session.step (.act "a" .pop)).1.outcome = .ok (.option (some ⟨0, 1⟩)) ∧
      (emptied.step (.resolve "a" "r")).1.outcome = .error (.fault (.indexOutOfRange 0 0)) ∧
      (refilled.step (.resolve "a" "r")).1.outcome = .ok (.element ⟨1, 2⟩) :=
  ⟨rfl, rfl, rfl, rfl⟩

end Session

end ElasticBuffer
