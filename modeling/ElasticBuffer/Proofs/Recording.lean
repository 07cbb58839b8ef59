import ElasticBuffer.Proofs.Naturality
import ElasticBuffer.Proofs.Requests

/-!
# The record of all requests

Any source can be given a record of what it was asked for (`Recorder`), and no session notices. So the requests of a run
are those in the records after the same run on recorded sources, and a statement about them is one about the run
itself (`Session.run_within_ceiling`): every request of a buffer is for one slot at least, and for no more slots than
the ceiling of that buffer, in the step in which the buffer makes it (`Session.asks_step`).
-/

namespace ElasticBuffer

variable {σ α : Type} {k : Nat}

/-! ### Sources with a record -/

/-- A source that keeps a record of its requests. -/
structure Recorder (σ : Type) where
  /-- The source that answers. -/
  inner : σ
  /-- The numbers of slots that were asked for, in order. -/
  requests : List Nat := []

/-- The source answers as before, and a reset does not touch the record. -/
instance [BlockSource σ] : BlockSource (Recorder σ) where
  request recorder bytes capacity :=
    let answer := BlockSource.request recorder.inner bytes capacity
    (answer.1, ⟨answer.2, recorder.requests ++ [capacity]⟩)
  reset recorder := { recorder with inner := BlockSource.reset recorder.inner }

theorem Recorder.commutes_inner [BlockSource σ] : Commutes (Recorder.inner : Recorder σ → σ) :=
  ⟨fun _ _ _ => rfl, fun _ => rfl⟩

/-- Requests within a ceiling add to a record what is within the ceiling, and keep what was there. -/
theorem Asked.exists_requests [BlockSource σ] {bytes ceiling : Nat} {before after : Recorder σ}
    (h : Asked bytes ceiling before after) :
    ∃ added, after.requests = before.requests ++ added ∧ ∀ capacity ∈ added, 1 ≤ capacity ∧ capacity ≤ ceiling := by
  induction h with
  | refl => exact ⟨[], (List.append_nil _).symm, List.forall_mem_nil _⟩
  | @request current asked _ hpos hceiling ih =>
    obtain ⟨added, hadded, hall⟩ := ih
    refine ⟨added ++ [asked], ?_, ?_⟩
    · show current.requests ++ [asked] = _
      rw [hadded, List.append_assoc]
    · intro capacity hmem
      rcases List.mem_append.1 hmem with hold | hnew
      · exact hall capacity hold
      · rw [List.mem_singleton.1 hnew]
        exact ⟨hpos, hceiling⟩

/-- The sources with empty records. -/
def Pool.recorded (pool : Pool σ k) : Pool (Recorder σ) k :=
  pool.mapSource fun source => { inner := source }

theorem Pool.mapSource_recorded (pool : Pool σ k) : pool.recorded.mapSource Recorder.inner = pool :=
  pool.mapSource_cancel fun _ => rfl

namespace Session

/-! ### Who asked -/

/-- Why a source may have been asked for a block of `capacity` slots in a step. -/
inductive Asks (session : Session σ α k) (command : Command α) (provider : Provider k) (capacity : Nat) : Prop
  /-- A buffer asked within its ceiling. -/
  | buffer {config : Config} : session.asker command = some (provider, config) → 1 ≤ capacity →
      capacity ≤ config.ceiling → Asks session command provider capacity
  /-- The caller asked. -/
  | caller {name : String} : command = .request name capacity →
      session.pool.provider? name = some provider → Asks session command provider capacity

/-- It is not the sources that tell who asks. -/
theorem Asks.mapSource {τ : Type} {f : σ → τ} {session : Session σ α k} {command : Command α}
    {provider : Provider k} {capacity : Nat} (h : session.Asks command provider capacity) :
    (session.mapSource f).Asks command provider capacity := by
  cases h with
  | @buffer config hasker hpos hceiling =>
    refine .buffer ?_ hpos hceiling
    rw [← hasker]
    cases command with
    | build name config source =>
      simp only [asker, provider?_mapSource]
    | _ => rfl
  | caller hcommand hprovider => exact .caller hcommand hprovider

variable [Element α] [BlockSource σ]

/-- **A step adds to a record what is asked for in it**, and keeps what was there. -/
theorem asks_step {session : Session (Recorder σ) α k} (hsound : session.Sound) (command : Command α)
    (provider : Provider k) :
    ∃ added, ((session.step command).2.pool.source provider).requests =
        (session.pool.source provider).requests ++ added ∧
      ∀ capacity ∈ added, session.Asks command provider capacity := by
  have hdraws := draws_step hsound command provider
  generalize (session.step command).2.pool.source provider = after at hdraws ⊢
  cases hdraws with
  | untouched => exact ⟨[], (List.append_nil _).symm, List.forall_mem_nil _⟩
  | asked hasker hasked =>
    obtain ⟨added, hadded, hall⟩ := hasked.exists_requests
    exact ⟨added, hadded, fun capacity hmem => .buffer hasker (hall capacity hmem).1 (hall capacity hmem).2⟩
  | @requested name asked hcommand hprovider =>
    refine ⟨[asked], rfl, ?_⟩
    intro capacity hmem
    rw [List.mem_singleton.1 hmem]
    exact .caller hcommand hprovider
  | reset hcommand hprovider => exact ⟨[], (List.append_nil _).symm, List.forall_mem_nil _⟩

/-- Everything that a run puts into a record was asked for in one of its steps. -/
theorem asks_of_mem_run (commands : List (Command α)) {session : Session (Recorder σ) α k}
    (hsound : session.Sound) {provider : Provider k} {capacity : Nat}
    (hmem : capacity ∈ ((session.run commands).pool.source provider).requests) :
    capacity ∈ (session.pool.source provider).requests ∨
      ∃ earlier command later, commands = earlier ++ command :: later ∧
        (session.run earlier).Asks command provider capacity := by
  induction commands generalizing session with
  | nil => exact .inl hmem
  | cons command commands ih =>
    obtain ⟨added, hadded, hall⟩ := asks_step hsound command provider
    rcases ih (hsound.step command) hmem with hfirst | ⟨earlier, next, later, hcommands, hasks⟩
    · rw [hadded] at hfirst
      rcases List.mem_append.1 hfirst with hold | hnew
      · exact .inl hold
      · exact .inr ⟨[], command, commands, rfl, hall capacity hnew⟩
    · exact .inr ⟨command :: earlier, next, later, by rw [hcommands]; rfl, hasks⟩

/-- **Buffers keep within their ceilings.** Start with any sources, and carry out any commands. Then every buffer has
valid settings, no more elements than slots, no more slots than its ceiling, and no more slots than its source
set aside for them. The same run on recorded sources is the same session, and each request in a record was made
by the caller, or by a buffer for one slot at least and its ceiling at most.

This holds of each request in the step that makes it: whatever the next command is, what it adds to the record of
a source was asked for by the caller, or by the buffer that this command is about, or builds, within the ceiling
of that buffer. -/
theorem run_within_ceiling (pool : Pool σ k) (commands : List (Command α)) :
    (∀ name slot, ((start pool).run commands).buffers.find? name = some slot → slot.buffer.Sound) ∧
    ((start pool.recorded).run commands).mapSource Recorder.inner = (start pool).run commands ∧
    (∀ provider capacity,
      capacity ∈ (((start pool.recorded : Session _ α k).run commands).pool.source provider).requests →
      ∃ earlier command later, commands = earlier ++ command :: later ∧
        ((start pool).run earlier).Asks command provider capacity) ∧
    ∀ command provider, ∃ added,
      ((((start pool.recorded).run commands).step command).2.pool.source provider).requests =
          (((start pool.recorded : Session _ α k).run commands).pool.source provider).requests ++ added ∧
        ∀ capacity ∈ added, ((start pool).run commands).Asks command provider capacity := by
  have hstart : (start pool : Session σ α k) = (start pool.recorded).mapSource Recorder.inner := by
    show _ = Session.mk _ _ (pool.recorded.mapSource Recorder.inner) _ _
    rw [Pool.mapSource_recorded]
    rfl
  have herase : ∀ commands : List (Command α),
      ((start pool.recorded).run commands).mapSource Recorder.inner = (start pool).run commands := by
    intro commands
    rw [hstart, run_mapSource Recorder.commutes_inner]
  refine ⟨Reachable.sound ⟨pool, commands, rfl⟩, herase commands, ?_, ?_⟩
  · intro provider capacity hmem
    rcases asks_of_mem_run commands (sound_start pool.recorded) hmem with
      hold | ⟨earlier, command, later, hcommands, hasks⟩
    · -- the records begin empty
      have hempty : (pool.recorded.source provider).requests = [] := by
        rw [Pool.recorded, Pool.source_mapSource]
      rw [show (start pool.recorded : Session _ α k).pool = pool.recorded from rfl, hempty] at hold
      cases hold
    · refine ⟨earlier, command, later, hcommands, ?_⟩
      rw [← herase earlier]
      exact hasks.mapSource
  · intro command provider
    have hsound : ((start pool.recorded : Session _ α k).run commands).Sound :=
      Reachable.sound ⟨pool.recorded, commands, rfl⟩
    obtain ⟨added, hadded, hall⟩ := asks_step hsound command provider
    refine ⟨added, hadded, ?_⟩
    intro capacity hmem
    rw [← herase commands]
    exact (hall capacity hmem).mapSource

end Session

end ElasticBuffer
