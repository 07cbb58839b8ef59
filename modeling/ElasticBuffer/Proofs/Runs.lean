import ElasticBuffer.Proofs.Courses

/-!
# Runs of a session

A session starts with sources only, and goes on by its commands. What every step keeps holds after every run
(`Session.run_induction`). The first thing that every step keeps is that all buffers are sound
(`Session.Sound.step`), and so they are in every session that can be reached (`Session.Reachable.sound`).
-/

namespace ElasticBuffer

variable {σ α : Type} {k : Nat}

namespace Session

/-! ### Runs -/

/-- A session on given sources before its first command. -/
def start (pool : Pool σ k) : Session σ α k := { pool := pool }

variable [Element α] [BlockSource σ]

@[simp] theorem run_cons (command : Command α) (commands : List (Command α)) (session : Session σ α k) :
    session.run (command :: commands) = (session.step command).2.run commands := rfl

theorem run_append (earlier later : List (Command α)) (session : Session σ α k) :
    session.run (earlier ++ later) = (session.run earlier).run later :=
  List.foldl_append

/-- What every step keeps holds after every run. -/
theorem run_induction {P : Session σ α k → Prop}
    (hstep : ∀ (command : Command α) (session : Session σ α k), P session → P (session.step command).2)
    (commands : List (Command α)) {session : Session σ α k} (h : P session) :
    P (session.run commands) := by
  induction commands generalizing session with
  | nil => exact h
  | cons command commands ih => exact ih (hstep command session h)

/-- The session is one that a run of commands ends in. -/
def Reachable (session : Session σ α k) : Prop :=
  ∃ (pool : Pool σ k) (commands : List (Command α)), session = (start pool).run commands

/-! ### All buffers of a run are sound -/

/-- Every buffer of the session is sound. -/
def Sound (session : Session σ α k) : Prop :=
  ∀ name slot, session.buffers.find? name = some slot → slot.buffer.Sound

omit [Element α] [BlockSource σ] in
theorem sound_start (pool : Pool σ k) : (start pool : Session σ α k).Sound := by
  intro name slot hfind
  cases hfind

theorem Sound.entrant {session : Session σ α k} (hsound : session.Sound) {slot : Slot (Item α) k}
    (h : Entrant session slot) : slot.buffer.Sound := by
  cases h with
  | new provider => exact Buffer.sound_new _
  | build hbuild => exact Buffer.sound_of_build hbuild
  | @collect values _ =>
    have hnew : (Buffer.new session.nextId : Buffer (Item α)).Sound := Buffer.sound_new _
    show (Buffer.extend values _ session.pool.heap).buffer.Sound
    rw [Buffer.extend_buffer]
    exact (Buffer.evolves_pushAll hnew.length_le values _).sound hnew
  | @copy name slot buffer hfind hcopy =>
    exact ((hsound name slot hfind).renumber session.ledger.issued).copy hcopy

/-- A step builds only sound buffers, and every action keeps them sound. -/
theorem Sound.step {session : Session σ α k} (hsound : session.Sound) (command : Command α) :
    (session.step command).2.Sound := by
  intro target result hfind
  rw [buffers_step] at hfind
  rcases Move.find?_onBuffers_cases (fits_move command session) hfind with
    hmove | ⟨name, slot, hslot, -, rfl⟩
  · exact hsound.entrant (entrant_of_move hmove)
  · unfold Move.onSlot
    cases (session.move command).action? name with
    | none => exact hsound name slot hslot
    | some action => exact (hsound name slot hslot).perform action _

theorem Sound.run {session : Session σ α k} (hsound : session.Sound) (commands : List (Command α)) :
    (session.run commands).Sound :=
  run_induction (fun command _ hsound => hsound.step command) commands hsound

/-- **Every buffer of every run is sound.** -/
theorem Reachable.sound {session : Session σ α k} (h : session.Reachable) : session.Sound := by
  obtain ⟨pool, commands, rfl⟩ := h
  exact (sound_start pool).run commands

end Session

end ElasticBuffer
