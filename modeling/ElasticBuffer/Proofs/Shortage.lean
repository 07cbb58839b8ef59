import ElasticBuffer.Proofs.Demands
import ElasticBuffer.Proofs.StorageHistory

/-!
# When blocks run short

A source that grants nothing more does not stop its buffers. A step that needs a block of it fails
(`Session.isOk_step_of_denied`), and all its buffers stay in their blocks, but for an empty one that gives up its slots
(`Session.find?_step_of_denied`). A step that makes do with the blocks that there are (`Session.Contained`) needs
nothing of any source. And a step that needs nothing of this source goes on as if there were any other in its place, one
that grants everything for instance (`Session.step_of_undemanded`).
-/

namespace ElasticBuffer

variable {σ α : Type} {k : Nat}

theorem not_grants_of_denies [BlockSource σ] {bytes : Nat} {capacities : List Nat} {source : σ}
    (hneed : capacities ≠ []) (hdenied : Denies bytes capacities source) : ¬ Grants bytes capacities source := by
  cases capacities with
  | nil => exact absurd rfl hneed
  | cons capacity rest => exact fun hgrants => hdenied hgrants.1

theorem Pool.names_update (provider : Provider k) (source : σ) (pool : Pool σ k) :
    (pool.update provider source).names = pool.names := by
  cases provider <;> rfl

theorem Agree.refl (exchanges : List (Nat × Reply)) : Agree exchanges exchanges := by
  induction exchanges with
  | nil =>
    intro pair hmem
    cases hmem
  | cons exchange rest ih => exact List.forall_mem_cons.2 ⟨rfl, ih⟩

/-! ### Making do with a block -/

namespace Config

theorem grow_le_ceiling (config : Config) (capacity : Nat) : config.grow capacity ≤ config.ceiling := by
  unfold grow
  cases config.growth.next? capacity with
  | none => exact Nat.le_refl _
  | some next => exact Nat.min_le_right ..

/-- With free slots for all elements, or at the ceiling, no block is needed. -/
theorem pushDemands_eq_nil {config : Config} {count length capacity : Nat}
    (h : length + count ≤ capacity ∨ capacity = config.ceiling) :
    config.pushDemands count length capacity = [] := by
  induction count generalizing length with
  | zero => rfl
  | succ count ih =>
    rw [pushDemands]
    split
    · exact ih (by omega)
    · rename_i hfull
      have hceiling : config.grow capacity ≤ capacity := by
        rcases h with hroom | hceiling
        · omega
        · rw [hceiling]
          exact config.grow_le_ceiling config.ceiling
      rw [if_pos hceiling]

end Config

namespace Action

variable {β : Type}

/-- The action makes do with the block that there is: there are free slots for all it stores, or it is stopped at the
ceiling; or it has no free slots to give up, or no elements to keep; or it stores nothing. -/
def Contained (buffer : Buffer α) : Action β → Prop
  | push _ => buffer.length < buffer.capacity ∨ buffer.capacity = buffer.config.ceiling
  | pushAll values => buffer.length + values.length ≤ buffer.capacity ∨ buffer.capacity = buffer.config.ceiling
  | extend values => buffer.length + values.length ≤ buffer.capacity ∨ buffer.capacity = buffer.config.ceiling
  | reserve additional =>
    buffer.length + additional ≤ buffer.capacity ∨ buffer.config.ceiling < buffer.length + additional
  | fit => buffer.length = buffer.capacity ∨ buffer.length = 0
  | _ => True

theorem demands_of_contained {action : Action β} {buffer : Buffer α} (h : action.Contained buffer) :
    action.demands buffer = [] := by
  cases action with
  | push value => exact Config.pushDemands_eq_nil h
  | pushAll values => exact Config.pushDemands_eq_nil h
  | extend values => exact Config.pushDemands_eq_nil h
  | reserve additional =>
    have hneed : ¬ (buffer.capacity < buffer.length + additional ∧
        buffer.length + additional ≤ buffer.config.ceiling) := by
      rintro ⟨hroom, hbelow⟩
      rcases h with h | h <;> omega
    exact if_neg hneed
  | fit =>
    rw [demands, Buffer.fitDemands]
    split
    · rfl
    · rename_i hfree
      rcases h with hfull | hzero
      · exact absurd hfull hfree
      · rw [hzero]
        rfl
  | _ => rfl

theorem eq_fit_of_number {action : Action β} {start : Nat} (h : action.number start = .fit) : action = .fit := by
  cases action with
  | fit => rfl
  | _ => cases h

end Action

namespace Session

/-- The step makes do with the blocks that there are. It builds a buffer without slots, or copies one without elements,
or acts within a block, or has nothing to do with blocks. -/
def Contained (session : Session σ α k) : Command α → Prop
  | .build _ config _ => ¬ config.Valid ∨ config.initial = 0
  | .collect _ values => values = []
  | .copy name _ => ∀ slot, session.buffers.find? name = some slot → slot.buffer.length = 0
  | .act name action => ∀ slot, session.buffers.find? name = some slot → action.Contained slot.buffer
  | .request _ _ => False
  | .resetSource _ => False
  | _ => True

theorem demands_of_contained {session : Session σ α k} {command : Command α} (h : session.Contained command)
    (provider : Provider k) : session.demands command provider = [] := by
  cases hdemand : session.demand? command with
  | none => exact demands_of_none hdemand provider
  | some demand =>
    obtain ⟨drawn, capacities⟩ := demand
    have hnone : capacities = [] := by
      cases command with
      | build name config source =>
        obtain ⟨provider', -, hpair⟩ := Option.map_eq_some_iff.1 hdemand
        cases hpair
        rcases h with hinvalid | hzero
        · exact if_neg hinvalid
        · rw [hzero]
          split <;> rfl
      | collect name values =>
        cases hdemand
        rw [show values = [] from h]
        rfl
      | copy name target =>
        obtain ⟨slot, hfind, hpair⟩ := Option.map_eq_some_iff.1 hdemand
        cases hpair
        rw [h slot hfind]
        rfl
      | act name action =>
        obtain ⟨slot, hfind, hpair⟩ := Option.map_eq_some_iff.1 hdemand
        cases hpair
        exact Action.demands_of_contained (h slot hfind)
      | request => exact h.elim
      | _ => cases hdemand
    rw [demands_of_some hdemand, hnone, ite_self]

/-! ### A source that grants nothing more -/

variable [Element α] [BlockSource σ]

/-- An action on a buffer is one that the caller chose, or needs no block. -/
theorem act_or_inPlace {session : Session σ α k} {command : Command α} {name : String}
    {action : Action (Item α)} (h : (session.move command).action? name = some action) :
    (∃ plain, command = .act name plain ∧ action = plain.number session.ledger.issued) ∨
      action.mayAllocate = false := by
  obtain ⟨slot, hmove⟩ := Move.eq_act_of_action? h
  obtain ⟨plain, hperforms, rfl⟩ := performs_of_move hmove
  rcases hperforms.mayAllocate with hcommand | hplace
  · exact .inl ⟨plain, hcommand, rfl⟩
  · right
    rw [← hplace]
    cases plain <;> rfl

section

variable {session : Session σ α k} (hsound : session.Sound) {command : Command α} {provider : Provider k}
  (hdenied : Denies (Sized.bytes α) (session.demands command provider) (session.pool.source provider))

include hsound hdenied

/-- **A buffer stays in its block if its source grants nothing**, unless it is empty and gives up its slots. -/
theorem find?_step_of_denied {name target : String} {slot : Slot (Item α) k}
    (hfind : session.buffers.find? name = some slot) (hprovider : slot.provider = provider)
    (hfollow : (session.move command).follow name = some target)
    (hfit : ¬ (command = .act name .fit ∧ slot.buffer.length = 0)) :
    ∃ elements, (session.step command).2.buffers.find? target =
      some { slot with buffer := slot.buffer.withElements elements } := by
  rw [find?_step_of_follow hfind hfollow, Move.onSlot]
  cases haction : (session.move command).action? name with
  | none => exact ⟨slot.buffer.block.elements, rfl⟩
  | some action =>
    have hkept : ∃ elements, (action.perform slot.buffer (session.pool.source slot.provider)).buffer =
        slot.buffer.withElements elements := by
      rcases act_or_inPlace haction with ⟨plain, rfl, rfl⟩ | hplace
      · rw [demands_act hfind, if_pos hprovider.symm, ← Action.demands_number session.ledger.issued,
          ← hprovider] at hdenied
        refine (Action.perform_of_denied _ (hsound name slot hfind).length_le ?_ hdenied).1
        intro hnumber hzero
        exact hfit ⟨congrArg (Command.act name) (Action.eq_fit_of_number hnumber), hzero⟩
      · obtain ⟨-, elements, -, helements⟩ := Action.perform_inPlace hplace slot.buffer
          (session.pool.source slot.provider)
        exact ⟨elements, helements⟩
    obtain ⟨elements, helements⟩ := hkept
    refine ⟨elements, ?_⟩
    simp only [helements]

/-- **A step that needs a block fails if the source grants nothing.** -/
theorem isOk_step_of_denied (hcall : command.isRequest = false) (hneed : session.demands command provider ≠ []) :
    (session.step command).1.outcome.isOk = false := by
  cases hdemand : session.demand? command with
  | none => exact absurd (demands_of_none hdemand provider) hneed
  | some demand =>
    obtain ⟨drawn, capacities⟩ := demand
    rw [demands_of_some hdemand] at hdenied hneed
    split at hneed
    case isFalse => exact absurd rfl hneed
    case isTrue hdrawn =>
      subst hdrawn
      rw [if_pos rfl] at hdenied
      have hrefused := not_grants_of_denies hneed hdenied
      cases command with
      | build name config source =>
        obtain ⟨provider', hprovider, hpair⟩ := Option.map_eq_some_iff.1 hdemand
        cases hpair
        split at hrefused
        case isFalse => exact absurd trivial hrefused
        case isTrue hvalid =>
          rcases Buffer.build_settled (α := Item α) session.nextId hvalid (session.pool.source provider) with
            ⟨hgrants, -⟩ | ⟨-, halt, events, hbuild⟩
          · exact absurd hgrants hrefused
          · simp only [step, build, hprovider, hbuild]
            rfl
      | collect name values =>
        cases hdemand
        have hlength := Item.length_number session.ledger.issued values
        have hfailed := (Buffer.pushAll_of_denied (Item.number session.ledger.issued values)
          (Buffer.sound_new session.nextId).length_le (by rw [hlength]; exact hdenied)).2 (by rw [hlength]; exact hneed)
        rw [← Buffer.isOk_extend] at hfailed
        simp only [step, collect]
        cases houtcome : ((Buffer.new session.nextId).extend (Item.number session.ledger.issued values)
          session.pool.heap).outcome with
        | error halt => rfl
        | ok _ => exact absurd (hfailed.symm.trans (congrArg Except.isOk houtcome)) Bool.false_ne_true
      | copy name target =>
        obtain ⟨slot, hfind, hpair⟩ := Option.map_eq_some_iff.1 hdemand
        cases hpair
        have hlength := slot.buffer.length_renumber session.ledger.issued
        rcases Buffer.copy_settled session.nextId (slot.buffer.renumber session.ledger.issued)
          (session.pool.source slot.provider) with ⟨hgrants, -⟩ | ⟨-, halt, hcopy⟩
        · rw [hlength] at hgrants
          exact absurd hgrants hrefused
        · simp only [step, copy, hfind, hcopy]
          rfl
      | act name action =>
        obtain ⟨slot, hfind, hpair⟩ := Option.map_eq_some_iff.1 hdemand
        cases hpair
        have hfit : action.number session.ledger.issued = .fit → slot.buffer.length ≠ 0 := by
          intro hnumber hzero
          have hnone : Action.fit.Contained (β := α) slot.buffer := .inr hzero
          rw [Action.eq_fit_of_number hnumber] at hneed
          exact hneed (Action.demands_of_contained hnone)
        rw [← Action.demands_number session.ledger.issued] at hdenied hneed
        rw [step, act_eq_settle hfind]
        exact (Action.perform_of_denied _ (hsound name slot hfind).length_le hfit hdenied).2 hneed
      | request => cases hcall
      | _ => cases hdemand

end

/-! ### Steps that need nothing of a source -/

omit [Element α] [BlockSource σ] in
/-- A session is like itself with another source. -/
theorem alike_updateSource (session : Session σ α k) (provider : Provider k) (source : σ) :
    Alike (session.updateSource provider source) session := by
  refine ⟨fun name => ?_, rfl, Pool.names_update .., rfl, rfl⟩
  show Slot.FoundAlike (session.buffers.find? name) (session.buffers.find? name)
  cases hfind : session.buffers.find? name with
  | none => exact .inl ⟨rfl, rfl⟩
  | some slot => exact .inr ⟨slot, slot.buffer.block.room, rfl, rfl⟩

/-- What passes between a step and the sources does not depend on one that is not needed. -/
theorem dealt_updateSource {session : Session σ α k} {command : Command α} {provider : Provider k}
    (hnone : session.demands command provider = []) (other : σ) (drawn : Provider k) :
    (session.updateSource provider other).dealt command drawn = session.dealt command drawn := by
  have hdemands : (session.updateSource provider other).demands command drawn = session.demands command drawn :=
    demands_congr (by rfl) (Pool.names_update provider other session.pool) command drawn
  rw [dealt, dealt, hdemands]
  by_cases hdrawn : drawn = provider
  · rw [hdrawn, hnone]
    rfl
  · rw [updateSource, Pool.source_update_of_ne hdrawn]

/-- **A step that needs no block of a source goes on as if there were any other in its place.** -/
theorem step_of_undemanded {session : Session σ α k} (hsound : session.Sound) {command : Command α}
    {provider : Provider k} (hnone : session.demands command provider = []) (other : σ) :
    ((session.updateSource provider other).step command).1.shown = (session.step command).1.shown ∧
      Alike ((session.updateSource provider other).step command).2 (session.step command).2 := by
  have halike := session.alike_updateSource provider other
  cases hcall : command.isRequest with
  | true =>
    cases command with
    | request name capacity =>
      have hnames : (session.updateSource provider other).pool.provider? name = session.pool.provider? name :=
        halike.provider?_pool_eq name
      cases hdrawn : session.pool.provider? name with
      | none =>
        simp only [step, request, hnames, hdrawn]
        exact ⟨rfl, halike⟩
      | some drawn =>
        -- the source that is asked is another one
        have hne : drawn ≠ provider := by
          rintro rfl
          rw [demands_request, if_pos hdrawn] at hnone
          cases hnone
        have hsource : (session.updateSource provider other).pool.source drawn = session.pool.source drawn :=
          Pool.source_update_of_ne hne other session.pool
        have hafter (source : σ) : Alike ((session.updateSource provider other).updateSource drawn source)
            (session.updateSource drawn source) := by
          refine ⟨halike.found, rfl, ?_, rfl, rfl⟩
          exact (Pool.names_update ..).trans (halike.names_eq.trans (Pool.names_update ..).symm)
        simp only [step, request, hnames, hdrawn, hsource]
        cases (BlockSource.request (session.pool.source drawn) (Sized.bytes α) capacity).1 with
        | refused => exact ⟨rfl, hafter _⟩
        | granted room held => exact ⟨rfl, hafter _⟩
        | panic message => exact ⟨rfl, hafter _⟩
    | _ => cases hcall
  | false =>
    -- both sessions are followed with transcripts, which stay the same
    have hsound' : (session.updateSource provider other).Sound := hsound
    have hsynced : Synced (session.updateSource provider other).transcribed session.transcribed := by
      refine ⟨halike.mapSource _ _, fun drawn => ?_⟩
      rw [source_transcribed, source_transcribed]
      rfl
    have hagreed : Agreed ((session.updateSource provider other).transcribed.step command).2
        (session.transcribed.step command).2 := by
      intro drawn
      rw [exchanges_step hsound'.transcribed, exchanges_step hsound.transcribed, exchanges_transcribed,
        exchanges_transcribed, mapSource_transcribed, mapSource_transcribed, dealt_updateSource hnone]
      exact Agree.refl _
    obtain ⟨hreport, hafter⟩ := same_step hsynced hsound'.transcribed hcall hagreed
    have hmap (session : Session σ α k) :
        session.step command = mapResult Transcript.inner (session.transcribed.step command) := by
      rw [← step_mapSource Transcript.commutes_inner, mapSource_transcribed]
    rw [hmap (session.updateSource provider other), hmap session]
    refine ⟨?_, hafter.toAlike.mapSource _ _⟩
    exact (Report.shown_mapSource ..).trans (hreport.trans (Report.shown_mapSource ..).symm)

end Session

end ElasticBuffer
