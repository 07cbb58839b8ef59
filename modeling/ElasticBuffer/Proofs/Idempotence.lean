import ElasticBuffer.Proofs.Demands
import ElasticBuffer.Proofs.Reservation

/-!
# Calls that have nothing left to do

Two calls change the capacity of a buffer and nothing else that can be read from it: one makes room, one gives up free
slots. Each of them first looks whether there is anything to do, and the block that it leaves is one for which there is
not. So a second call finds nothing to do. It does not even ask a source, and it is carried out whatever the sources
would say (`Session.capacity_calls_settle`).

Room that is made and then given up leaves the block that the elements fill, as giving up the free slots alone would
have done. A source might have had no block for that, while it had one for the larger room. The allocators are not like
this: where they have a block they have a smaller one as well (`Allocator.grantsLess`).
-/

namespace ElasticBuffer

variable {σ τ α : Type} {k : Nat}

/-! ### Sources that have smaller blocks as well -/

/-- If the source has a block of some capacity, it has one with fewer slots in its place. -/
def GrantsLess [BlockSource σ] (bytes : Nat) (source : σ) : Prop :=
  ∀ larger smaller, smaller ≤ larger → (BlockSource.request source bytes larger).1.Accepts larger →
    (BlockSource.request source bytes smaller).1.Accepts smaller

namespace Allocator

/-- Slots that are fewer take no more storage. -/
theorem slots_accepts_of_le {bytes larger smaller count count' held : Nat} (hcount : count' ≤ count)
    (hroom : smaller ≤ larger) (hfits : larger ≤ count → smaller ≤ count')
    (h : (slots bytes count held).Accepts larger) : (slots bytes count' held).Accepts smaller := by
  unfold slots at h ⊢
  by_cases hsize : bytes = 0
  · rw [if_pos hsize] at h ⊢
    exact ⟨h.1, Nat.le_trans hroom h.2⟩
  · rw [if_neg hsize] at h ⊢
    by_cases hstorage : count * bytes ≤ bytesMax
    · rw [if_pos hstorage] at h
      rw [if_pos (Nat.le_trans (Nat.mul_le_mul_right bytes hcount) hstorage)]
      exact ⟨h.1, hfits h.2⟩
    · rw [if_neg hstorage] at h
      cases h

theorem systemReply_accepts_of_le {bytes larger smaller : Nat} (hle : smaller ≤ larger)
    (h : (systemReply bytes larger).Accepts larger) : (systemReply bytes smaller).Accepts smaller := by
  unfold systemReply at h ⊢
  by_cases hsize : bytes = 0
  · rw [if_pos hsize] at h ⊢
    exact ⟨h.1, Nat.le_trans hle h.2⟩
  · rw [if_neg hsize] at h ⊢
    by_cases hlimit : larger * bytes < systemLimit
    · rw [if_pos (Nat.lt_of_le_of_lt (Nat.mul_le_mul_right bytes hle) hlimit)]
      exact ⟨rfl, Nat.le_refl smaller⟩
    · rw [if_neg hlimit] at h
      cases h

theorem scriptedReply_accepts_of_le {bytes larger smaller : Nat} (hle : smaller ≤ larger) {turn : Turn}
    (h : (scriptedReply bytes larger turn).Accepts larger) : (scriptedReply bytes smaller turn).Accepts smaller := by
  cases turn with
  | exact => exact slots_accepts_of_le hle hle (fun _ => Nat.le_refl smaller) h
  | refuse => cases h
  | short => exact slots_accepts_of_le (by omega) hle (fun hshort => by omega) h
  | ample => exact slots_accepts_of_le (by omega) hle (fun _ => by omega) h
  | occupied => exact slots_accepts_of_le (by omega) hle (fun _ => by omega) h

/-- **No allocator that has a block lacks a smaller one.** -/
theorem grantsLess (bytes : Nat) (allocator : Allocator) : GrantsLess bytes allocator := by
  intro larger smaller hle h
  cases allocator with
  | system => exact systemReply_accepts_of_le hle h
  | counting requests => exact slots_accepts_of_le hle hle (fun _ => Nat.le_refl smaller) h
  | failing budget calls =>
    change (if budget ≤ calls then Reply.refused else slots bytes larger 0).Accepts larger at h
    show (if budget ≤ calls then Reply.refused else slots bytes smaller 0).Accepts smaller
    by_cases hspent : budget ≤ calls
    · rw [if_pos hspent] at h
      cases h
    · rw [if_neg hspent] at h ⊢
      exact slots_accepts_of_le hle hle (fun _ => Nat.le_refl smaller) h
  | scripted turns requests => exact scriptedReply_accepts_of_le hle h

end Allocator

/-! ### One buffer -/

namespace Buffer

variable [Sized α] [BlockSource σ]

theorem fit_of_full {buffer : Buffer α} (source : σ) (h : buffer.length = buffer.capacity) :
    buffer.fit source = .done buffer source := if_pos (isFull_iff.2 h)

/-- Room that is there is not made again. -/
theorem reserve_of_room {additional : Nat} {buffer : Buffer α} (hsound : buffer.Sound) (source : σ)
    (h : buffer.length + additional ≤ buffer.capacity) : buffer.reserve additional source = .done buffer source := by
  have hword := Nat.le_trans hsound.capacity_le buffer.config.ceiling_le_wordMax
  rcases reserve_cases additional buffer source with ⟨hwords, -⟩ | ⟨-, hdone⟩ | ⟨hmore, -, -⟩ | ⟨hmore, -, -⟩
  · omega
  · exact hdone
  · omega
  · omega

/-- Once the free slots are given up, the block has none, and the elements are the same. -/
theorem fit_of_ok {buffer : Buffer α} {source : σ} (hok : (buffer.fit source).outcome.isOk = true) :
    (buffer.fit source).buffer.toList = buffer.toList ∧ (buffer.fit source).buffer.capacity = buffer.length := by
  rcases fit_cases buffer source with ⟨hfull, hfit⟩ | ⟨-, hcases⟩
  · rw [hfit]
    exact ⟨rfl, hfull.symm⟩
  · generalize buffer.fit source = attempt at hok hcases
    cases hcases with
    | moved room hroom => exact ⟨rfl, rfl⟩
    | refused => cases hok
    | panicked message => cases hok

/-- With the block that it needs, free slots are given up. -/
theorem fit_of_grants {buffer : Buffer α} {source : σ}
    (h : Grants (Sized.bytes α) (Block.demands buffer.length) source) : (buffer.fit source).outcome.isOk = true := by
  by_cases hfull : buffer.length = buffer.capacity
  · rw [fit_of_full source hfull]
    rfl
  · rw [fit_eq_replaceBlock source hfull]
    rcases replaceBlock_settled .shrink source (Nat.le_refl buffer.length) with
      ⟨-, room, events, hreplace⟩ | ⟨hdenied, -⟩
    · rw [hreplace]
      rfl
    · exact absurd h hdenied

/-- Free slots could have been given up at once if they were after room was made, on a source that has smaller blocks as
well. -/
theorem fit_of_reserve_fit {additional : Nat} {buffer : Buffer α} {source : σ}
    (hless : GrantsLess (Sized.bytes α) source)
    (hreserve : (buffer.reserve additional source).outcome.isOk = true)
    (hfit : ((buffer.reserve additional source).buffer.fit
      (buffer.reserve additional source).source).outcome.isOk = true) :
    (buffer.fit source).outcome.isOk = true := by
  rcases reserve_of_ok hreserve with ⟨-, hdone⟩ | ⟨hmore, hceiling, -⟩
  · rw [hdone] at hfit
    exact hfit
  · -- the larger block was granted in the state in which the smaller one is asked for
    have hneeded := le_reservedCapacity hceiling
    rw [reserve_eq_enlarge source hmore hceiling] at hreserve
    rcases enlarge_settled .reserve source
      (show buffer.length ≤ buffer.reservedCapacity (buffer.length + additional) by omega) with
      ⟨hgrants, -⟩ | ⟨-, halt, events, henlarge⟩
    · rw [Block.demands_of_ne (by omega)] at hgrants
      apply fit_of_grants
      by_cases hempty : buffer.length = 0
      · rw [hempty]
        trivial
      · rw [Block.demands_of_ne hempty]
        exact ⟨hless _ _ (by omega) hgrants.1, trivial⟩
    · rw [henlarge] at hreserve
      cases hreserve

end Buffer

/-! ### Sessions -/

namespace Session

variable [Element α] [BlockSource σ]

/-- The commands are carried out and change nothing. -/
structure Idle (session : Session σ α k) (commands : List (Command α)) : Prop where
  /-- Every call is carried out with nothing to report, and leaves the session as it is. -/
  trace_eq : session.trace commands = commands.map fun _ => (⟨.ok .done, []⟩, session)
  /-- So does the run. -/
  run_eq : session.run commands = session
  /-- No source is asked. -/
  requestsIn_eq (provider : Provider k) : session.requestsIn commands provider = []

/-- Calls that change nothing one by one change nothing in a row. -/
theorem run_of_idle_steps {session : Session σ α k} {commands : List (Command α)}
    (h : ∀ command ∈ commands, session.step command = (⟨.ok .done, []⟩, session)) :
    session.trace commands = commands.map (fun _ => (⟨.ok .done, []⟩, session)) ∧
      session.run commands = session := by
  induction commands with
  | nil => exact ⟨rfl, rfl⟩
  | cons command commands ih =>
    rw [List.forall_mem_cons] at h
    obtain ⟨hfirst, hrest⟩ := h
    obtain ⟨htrace, hrun⟩ := ih hrest
    constructor
    · rw [trace, hfirst, List.map_cons, htrace]
    · rw [run_cons, hfirst]
      exact hrun

/-- The buffer that was acted on last may be put in its place again. -/
theorem insert_step_act {session : Session σ α k} {name : String} {slot result : Slot (Item α) k}
    (hfind : session.buffers.find? name = some slot) (action : Action α)
    (hresult : (session.step (.act name action)).2.buffers.find? name = some result) :
    (session.step (.act name action)).2.buffers.insert name result =
      (session.step (.act name action)).2.buffers := by
  have hstep : session.step (.act name action) = _ := act_eq_settle hfind action
  rw [hstep] at hresult ⊢
  rw [find?_settle] at hresult
  obtain rfl := Option.some.inj hresult
  exact Names.insert_insert ..

/-- An action that finds nothing to do for the buffer that was acted on last changes nothing. -/
theorem step_of_done {session : Session σ α k} {name : String} {slot : Slot (Item α) k}
    (hfind : session.buffers.find? name = some slot) (hlast : session.buffers.insert name slot = session.buffers)
    {action : Action α} (hvalues : action.values = [])
    (hdone : (action.number session.ledger.issued).perform slot.buffer (session.pool.source slot.provider) =
      .ofAttempt (.done slot.buffer (session.pool.source slot.provider))) :
    session.step (.act name action) = (⟨.ok .done, []⟩, session) := by
  show session.act name action = _
  rw [act_eq_settle hfind, hdone, hvalues]
  refine congrArg (Prod.mk _) ?_
  show { session with
    buffers := session.buffers.insert name slot
    pool := session.pool.update slot.provider (session.pool.source slot.provider) } = session
  rw [hlast, Pool.update_source]

omit [BlockSource σ] in
/-- **Actions that find nothing to do are idle** on whatever sources, if no source has a part in it. -/
theorem idle_of_done [BlockSource τ] {session : Session σ α k} {name : String} {slot : Slot (Item α) k}
    (hfind : session.buffers.find? name = some slot) (hlast : session.buffers.insert name slot = session.buffers)
    {commands : List (Command α)}
    (h : ∀ command ∈ commands, ∃ action : Action α, command = .act name action ∧ action.values = [] ∧
      ∀ (τ : Type) [BlockSource τ] (source : τ), (action.number session.ledger.issued).perform slot.buffer source =
        .ofAttempt (.done slot.buffer source))
    (pool : Pool τ k) : (session.withPool pool).Idle commands := by
  have hstep : ∀ (τ : Type) [BlockSource τ] (pool : Pool τ k), ∀ command ∈ commands,
      (session.withPool pool).step command = (⟨.ok .done, []⟩, session.withPool pool) := by
    intro τ _ pool command hmem
    obtain ⟨action, rfl, hvalues, hdone⟩ := h command hmem
    have hfind' : (session.withPool pool).buffers.find? name = some slot := hfind
    exact step_of_done hfind' hlast hvalues (hdone τ _)
  obtain ⟨htrace, hrun⟩ := run_of_idle_steps (hstep τ pool)
  refine ⟨htrace, hrun, ?_⟩
  intro provider
  -- a record is a source like any other, so it stays empty
  obtain ⟨-, hrecord⟩ := run_of_idle_steps (hstep (Recorder τ) (session.withPool pool).recorded.pool)
  have hsame : (session.withPool pool).recorded.run commands = (session.withPool pool).recorded := hrecord
  rw [requestsIn, hsame, source_recorded]

/-- Giving up free slots changes a buffer and its source. -/
theorem step_fit {session : Session σ α k} {name : String} {slot : Slot (Item α) k}
    (hfind : session.buffers.find? name = some slot) :
    let attempt := slot.buffer.fit (session.pool.source slot.provider)
    session.step (.act name .fit) =
      (⟨(Effect.ofAttempt attempt).outcome, attempt.events⟩,
        session.settle name { slot with buffer := attempt.buffer } attempt.source session.ledger) := by
  have hact := act_eq_settle hfind .fit
  simp only [Action.number, Action.perform, Effect.ofAttempt, Buffer.dropped_fit] at hact
  exact hact

/-- So does making room. -/
theorem step_reserve {session : Session σ α k} {name : String} {slot : Slot (Item α) k}
    (hfind : session.buffers.find? name = some slot) (additional : Nat) :
    let attempt := slot.buffer.reserve additional (session.pool.source slot.provider)
    session.step (.act name (.reserve additional)) =
      (⟨(Effect.ofAttempt attempt).outcome, attempt.events⟩,
        session.settle name { slot with buffer := attempt.buffer } attempt.source session.ledger) := by
  have hact := act_eq_settle hfind (.reserve additional)
  simp only [Action.number, Action.perform, Effect.ofAttempt, Buffer.dropped_reserve] at hact
  exact hact

theorem isOk_step_fit {session : Session σ α k} {name : String} {slot : Slot (Item α) k}
    (hfind : session.buffers.find? name = some slot) :
    (session.step (.act name .fit)).1.outcome.isOk =
      (slot.buffer.fit (session.pool.source slot.provider)).outcome.isOk := by
  rw [step_fit hfind]
  exact Effect.isOk_ofAttempt _

/-- Once a session has given up the free slots of a buffer, the elements are the same and fill the block. -/
theorem exists_fitted {session : Session σ α k} {name : String} {slot : Slot (Item α) k}
    (hfind : session.buffers.find? name = some slot)
    (hok : (session.step (.act name .fit)).1.outcome.isOk = true) :
    ∃ buffer, (session.step (.act name .fit)).2.buffers.find? name = some { slot with buffer := buffer } ∧
      buffer.toList = slot.buffer.toList ∧ buffer.capacity = slot.buffer.length := by
  rw [isOk_step_fit hfind] at hok
  refine ⟨(slot.buffer.fit (session.pool.source slot.provider)).buffer, ?_, Buffer.fit_of_ok hok⟩
  rw [step_fit hfind]
  exact find?_settle ..

/-- Once a session has made room in a buffer, the elements are the same and the room is there. -/
theorem exists_reserved {session : Session σ α k} (hsound : session.Sound) {name : String} {slot : Slot (Item α) k}
    (hfind : session.buffers.find? name = some slot) {additional : Nat}
    (hok : (session.step (.act name (.reserve additional))).1.outcome.isOk = true) :
    ∃ buffer, (session.step (.act name (.reserve additional))).2.buffers.find? name =
        some { slot with buffer := buffer } ∧
      buffer.toList = slot.buffer.toList ∧ slot.buffer.length + additional ≤ buffer.capacity := by
  rw [step_reserve hfind] at hok ⊢
  obtain ⟨helements, -, hroom, -⟩ :=
    Buffer.promise_of_reserve (hsound name slot hfind) ((Effect.isOk_ofAttempt _).symm.trans hok)
  exact ⟨_, find?_settle .., helements, hroom⟩

/-- Free slots could have been given up at once if they were after room was made, on a source that has smaller blocks as
well. -/
theorem isOk_step_fit_of_reserve {session : Session σ α k} {name : String} {slot : Slot (Item α) k}
    (hfind : session.buffers.find? name = some slot)
    (hless : GrantsLess (Sized.bytes α) (session.pool.source slot.provider)) {additional : Nat}
    (hreserve : (session.step (.act name (.reserve additional))).1.outcome.isOk = true)
    (hfit : ((session.step (.act name (.reserve additional))).2.step (.act name .fit)).1.outcome.isOk = true) :
    (session.step (.act name .fit)).1.outcome.isOk = true := by
  rw [step_reserve hfind] at hreserve hfit
  rw [isOk_step_fit (find?_settle ..), source_settle] at hfit
  rw [isOk_step_fit hfind]
  exact Buffer.fit_of_reserve_fit hless ((Effect.isOk_ofAttempt _).symm.trans hreserve) hfit

/-- **A call that was carried out has nothing left to do.** Take any buffer of any session that a run can lead to, on
whatever source.

If it gives up its free slots, its elements fill the block. From then on the same call is carried out any number of
times, nothing is reported, no source is asked, and the session stays the same in every part, whatever the sources may
be.

If it makes room, the same is true of further calls for as much room or less. And if it then gives up its free slots,
the elements are the same as before and fill the block. So they do if it gives them up at once, on any sources that have
a block for it. Its own source has one if it has smaller blocks wherever it has larger ones, as all allocators do. -/
theorem capacity_calls_settle {session : Session σ α k} (hreachable : session.Reachable) {name : String}
    {slot : Slot (Item α) k} (hfind : session.buffers.find? name = some slot) :
    ((session.step (.act name .fit)).1.outcome.isOk = true →
      let fitted := (session.step (.act name .fit)).2
      (∃ buffer, fitted.buffers.find? name = some { slot with buffer := buffer } ∧
        buffer.toList = slot.buffer.toList ∧ buffer.capacity = buffer.length) ∧
      ∀ (τ : Type) [BlockSource τ] (pool : Pool τ k) (commands : List (Command α)),
        (∀ command ∈ commands, command = .act name .fit) → (fitted.withPool pool).Idle commands) ∧
    ∀ additional, (session.step (.act name (.reserve additional))).1.outcome.isOk = true →
      let reserved := (session.step (.act name (.reserve additional))).2
      (∀ (τ : Type) [BlockSource τ] (pool : Pool τ k) (commands : List (Command α)),
        (∀ command ∈ commands, ∃ fewer, fewer ≤ additional ∧ command = .act name (.reserve fewer)) →
        (reserved.withPool pool).Idle commands) ∧
      ((reserved.step (.act name .fit)).1.outcome.isOk = true →
        ∃ buffer, (reserved.step (.act name .fit)).2.buffers.find? name = some { slot with buffer := buffer } ∧
          buffer.toList = slot.buffer.toList ∧ buffer.capacity = slot.buffer.length ∧
          (∀ (τ : Type) [BlockSource τ] (pool : Pool τ k),
            ((session.withPool pool).step (.act name .fit)).1.outcome.isOk = true →
            ∃ alone, ((session.withPool pool).step (.act name .fit)).2.buffers.find? name =
                some { slot with buffer := alone } ∧
              buffer.toList = alone.toList ∧ buffer.capacity = alone.capacity) ∧
          (GrantsLess (Sized.bytes α) (session.pool.source slot.provider) →
            (session.step (.act name .fit)).1.outcome.isOk = true)) := by
  have hsound := hreachable.sound
  constructor
  · intro hok fitted
    obtain ⟨buffer, hbuffer, helements, hcapacity⟩ := exists_fitted hfind hok
    have hfull : buffer.length = buffer.capacity := (congrArg List.length helements).trans hcapacity.symm
    refine ⟨⟨buffer, hbuffer, helements, hfull.symm⟩, ?_⟩
    intro τ _ pool commands hcommands
    refine idle_of_done hbuffer (insert_step_act hfind .fit hbuffer) ?_ pool
    intro command hmem
    refine ⟨.fit, hcommands command hmem, rfl, ?_⟩
    intro τ _ source
    exact congrArg Effect.ofAttempt (Buffer.fit_of_full source hfull)
  · intro additional hok reserved
    obtain ⟨buffer, hbuffer, helements, hroom⟩ := exists_reserved hsound hfind hok
    have hlength : buffer.length = slot.buffer.length := congrArg List.length helements
    have hreserved : buffer.Sound := hsound.step (.act name (.reserve additional)) name _ hbuffer
    constructor
    · intro τ _ pool commands hcommands
      refine idle_of_done hbuffer (insert_step_act hfind (.reserve additional) hbuffer) ?_ pool
      intro command hmem
      obtain ⟨fewer, hfewer, rfl⟩ := hcommands command hmem
      refine ⟨.reserve fewer, rfl, rfl, ?_⟩
      intro τ _ source
      exact congrArg Effect.ofAttempt (Buffer.reserve_of_room hreserved source (by omega))
    · intro hfit
      obtain ⟨both, hboth, hkept, hexact⟩ := exists_fitted hbuffer hfit
      have hlist : both.toList = slot.buffer.toList := hkept.trans helements
      have hslots : both.capacity = slot.buffer.length := hexact.trans hlength
      refine ⟨both, hboth, hlist, hslots, ?_, ?_⟩
      · intro τ _ pool halone
        have hpool : (session.withPool pool).buffers.find? name = some slot := hfind
        obtain ⟨alone, hfound, hsame, hcapacity⟩ := exists_fitted hpool halone
        exact ⟨alone, hfound, hlist.trans hsame.symm, hslots.trans hcapacity.symm⟩
      · intro hless
        exact isOk_step_fit_of_reserve hfind hless hok hfit

/-- One element in four slots: the free ones are given up, or room for six more is made first. Both calls may be
repeated on a source that refuses everything, the second one with less room to make. -/
theorem capacity_calls_settle_on_refusing_source :
    let session : Session Allocator UInt8 0 := (start ⟨.scripted [.exact, .ample, .exact] [], #v[], #v[]⟩).run
      [.build "a" { initialCapacity := 4 } none, .act "a" (.push 7)]
    let refusing : Pool Allocator 0 := ⟨.failing 0 0, #v[], #v[]⟩
    let fitted := (session.step (.act "a" .fit)).2
    let reserved := (session.step (.act "a" (.reserve 6))).2
    (fitted.withPool refusing).Idle [.act "a" .fit, .act "a" .fit] ∧
      (reserved.withPool refusing).Idle [.act "a" (.reserve 6), .act "a" (.reserve 0)] ∧
      ∃ buffer alone, (reserved.step (.act "a" .fit)).2.buffers.find? "a" = some ⟨buffer, .heap⟩ ∧
        fitted.buffers.find? "a" = some ⟨alone, .heap⟩ ∧
        buffer.toList = alone.toList ∧ buffer.capacity = alone.capacity := by
  intro session refusing fitted reserved
  have hreachable : session.Reachable := ⟨_, _, rfl⟩
  have hslot : (session.buffers.find? "a").map Slot.provider = some .heap := by decide +kernel
  have hfit : (session.step (.act "a" .fit)).1.outcome.isOk = true := by decide +kernel
  have hreserve : (session.step (.act "a" (.reserve 6))).1.outcome.isOk = true := by decide +kernel
  have hboth : (reserved.step (.act "a" .fit)).1.outcome.isOk = true := by decide +kernel
  obtain ⟨⟨before, provider⟩, hfind, rfl⟩ := Option.map_eq_some_iff.1 hslot
  obtain ⟨hfitted, hreserved⟩ := capacity_calls_settle hreachable hfind
  obtain ⟨-, hidle⟩ := hfitted hfit
  obtain ⟨hidle', hthen⟩ := hreserved 6 hreserve
  obtain ⟨buffer, hbuffer, -, -, halone, hless⟩ := hthen hboth
  have hgranted := hless (Allocator.grantsLess _ _)
  obtain ⟨alone, hfound, hsame, hcapacity⟩ := halone Allocator session.pool hgranted
  refine ⟨hidle Allocator refusing _ (by simp), hidle' Allocator refusing _ ?_, buffer, alone, hbuffer, hfound, hsame,
    hcapacity⟩
  intro command hmem
  rcases List.mem_cons.1 hmem with rfl | hmem
  · exact ⟨6, Nat.le_refl 6, rfl⟩
  · exact ⟨0, Nat.zero_le 6, List.mem_singleton.1 hmem⟩

end Session

end ElasticBuffer
