import ElasticBuffer.Proofs.Interchange
import ElasticBuffer.Proofs.Reservation

/-!
# What a call needs

Which blocks a call needs can be told before it is made, from the length, the capacity and the settings of the buffer
(`Action.demands`, `Session.demands`). A block without slots is not among them: it is at hand. A call that needs no
block asks for none, and one that needs blocks asks for them in turn until one is not granted (`untilDenied`). This is
all that a source gets to see of a step (`Session.source_step`), and so a transcript of a run shows the needs of its
steps, each up to the first that was not met (`Session.exchangesIn`).

A block that was granted is moved into, and one that was not ends the call and leaves the block as it was. For each
call on a buffer there is a lemma that says which of the two it is (`Buffer.push_settled` and its like).
-/

namespace ElasticBuffer

variable {σ τ α : Type} {k : Nat}

/-! ### Blocks that are asked for in turn -/

/-- The need for a block of `capacity` slots; none are at hand. -/
def Block.demands (capacity : Nat) : List Nat := if capacity = 0 then [] else [capacity]

theorem Block.demands_of_ne {capacity : Nat} (h : capacity ≠ 0) : demands capacity = [capacity] := if_neg h

section

variable [BlockSource σ]

/-- The requests of one who asks for blocks in turn, and for no more after one that is not granted. -/
def untilDenied (bytes : Nat) : List Nat → σ → List Nat
  | [], _ => []
  | capacity :: rest, source =>
    if (BlockSource.request source bytes capacity).1.Accepts capacity then
      capacity :: untilDenied bytes rest (BlockSource.request source bytes capacity).2
    else [capacity]

/-- The first of the requests would not be granted. -/
def Denies (bytes : Nat) : List Nat → σ → Prop
  | [], _ => True
  | capacity :: _, source => ¬ (BlockSource.request source bytes capacity).1.Accepts capacity

/-- Requests that are made one after the other, with the answers. -/
def answers (bytes : Nat) : List Nat → σ → List (Nat × Reply)
  | [], _ => []
  | capacity :: rest, source =>
    (capacity, (BlockSource.request source bytes capacity).1) ::
      answers bytes rest (BlockSource.request source bytes capacity).2

theorem untilDenied_of_accepts {bytes capacity : Nat} {source : σ}
    (h : (BlockSource.request source bytes capacity).1.Accepts capacity) (rest : List Nat) :
    untilDenied bytes (capacity :: rest) source =
      capacity :: untilDenied bytes rest (BlockSource.request source bytes capacity).2 := if_pos h

theorem untilDenied_of_denied {bytes capacity : Nat} {source : σ}
    (h : ¬ (BlockSource.request source bytes capacity).1.Accepts capacity) (rest : List Nat) :
    untilDenied bytes (capacity :: rest) source = [capacity] := if_neg h

/-- One block is asked for, whatever the answer is. -/
theorem untilDenied_singleton (bytes capacity : Nat) (source : σ) :
    untilDenied bytes [capacity] source = [capacity] := by
  by_cases h : (BlockSource.request source bytes capacity).1.Accepts capacity
  · rw [untilDenied_of_accepts h]
    rfl
  · exact untilDenied_of_denied h []

theorem untilDenied_demands (bytes capacity : Nat) (source : σ) :
    untilDenied bytes (Block.demands capacity) source = Block.demands capacity := by
  by_cases hzero : capacity = 0
  · rw [hzero]
    rfl
  · rw [Block.demands_of_ne hzero]
    exact untilDenied_singleton bytes capacity source

theorem map_fst_answers (bytes : Nat) (capacities : List Nat) (source : σ) :
    (answers bytes capacities source).map Prod.fst = capacities := by
  induction capacities generalizing source with
  | nil => rfl
  | cons capacity rest ih => exact congrArg (capacity :: ·) (ih _)

theorem grants_append (bytes : Nat) (first second : List Nat) (source : σ) :
    Grants bytes (first ++ second) source ↔
      Grants bytes first source ∧ Grants bytes second (requestAll bytes first source) := by
  induction first generalizing source with
  | nil => exact (iff_of_eq (true_and _)).symm
  | cons capacity first ih => exact (and_congr_right fun _ => ih _).trans and_assoc.symm

/-- If all that is needed is granted, it is all asked for. -/
theorem untilDenied_of_grants {bytes : Nat} {capacities : List Nat} {source : σ}
    (h : Grants bytes capacities source) : untilDenied bytes capacities source = capacities := by
  induction capacities generalizing source with
  | nil => rfl
  | cons capacity rest ih => rw [untilDenied_of_accepts h.1, ih h.2]

/-- If all that was asked for was granted, all that is needed is granted. -/
theorem grants_of_accepts {bytes : Nat} {capacities : List Nat} {source : σ}
    (h : ∀ exchange ∈ answers bytes (untilDenied bytes capacities source) source,
      exchange.2.Accepts exchange.1) : Grants bytes capacities source := by
  induction capacities generalizing source with
  | nil => trivial
  | cons capacity rest ih =>
    by_cases haccepts : (BlockSource.request source bytes capacity).1.Accepts capacity
    · rw [untilDenied_of_accepts haccepts, answers, List.forall_mem_cons] at h
      exact ⟨haccepts, ih h.2⟩
    · rw [untilDenied_of_denied haccepts] at h
      exact absurd (h _ (List.mem_singleton.2 rfl)) haccepts

/-- What a source is like inside, the requests do not show. -/
theorem untilDenied_map [BlockSource τ] {f : σ → τ} (hf : Commutes f) (bytes : Nat) (capacities : List Nat)
    (source : σ) : untilDenied bytes capacities (f source) = untilDenied bytes capacities source := by
  induction capacities generalizing source with
  | nil => rfl
  | cons capacity rest ih => rw [untilDenied, untilDenied, hf.request, ih]

/-- A transcript grows by the requests and their answers, in order. -/
theorem exchanges_requestAll (bytes : Nat) (capacities : List Nat) (transcript : Transcript σ) :
    (requestAll bytes capacities transcript).exchanges =
      transcript.exchanges ++ answers bytes capacities transcript.inner := by
  induction capacities generalizing transcript with
  | nil => exact (List.append_nil _).symm
  | cons capacity rest ih =>
    rw [requestAll, ih]
    exact List.append_assoc ..

end

/-! ### One block -/

section

variable [Sized α] [BlockSource σ]

namespace Block

theorem source_allocate_eq (capacity : Nat) (source : σ) :
    (allocate (α := α) capacity source).2 = requestAll (Sized.bytes α) (demands capacity) source := by
  by_cases hzero : capacity = 0
  · rw [hzero]
    rfl
  · rw [source_allocate hzero, demands_of_ne hzero]
    rfl

/-- There is a block if it is at hand or granted, and none otherwise. -/
theorem allocate_settled (capacity : Nat) (source : σ) :
    (Grants (Sized.bytes α) (demands capacity) source ∧
        ∃ room, (allocate (α := α) capacity source).1 = .ok ⟨#[], capacity, room⟩) ∨
      (¬ Grants (Sized.bytes α) (demands capacity) source ∧
        ∃ denial, (allocate (α := α) capacity source).1 = .error denial) := by
  by_cases hzero : capacity = 0
  · subst hzero
    exact .inl ⟨trivial, 0, rfl⟩
  · rw [demands_of_ne hzero]
    by_cases haccepts : (BlockSource.request source (Sized.bytes α) capacity).1.Accepts capacity
    · obtain ⟨room, hroom⟩ := allocate_of_accepts (α := α) hzero haccepts
      exact .inl ⟨⟨haccepts, trivial⟩, room, congrArg Prod.fst hroom⟩
    · refine .inr ⟨fun h => haccepts h.1, ?_⟩
      have hblock := allocate_judgement (α := α) hzero source
      generalize hreply : (BlockSource.request source (Sized.bytes α) capacity).1 = reply at hblock haccepts
      cases reply with
      | refused => exact ⟨_, hblock⟩
      | granted room held =>
        rw [show (Reply.granted room held).judgement capacity = .rejected from if_neg haccepts] at hblock
        exact ⟨_, hblock⟩
      | panic message => exact ⟨_, hblock⟩

end Block

namespace Buffer

/-- A block that is there is moved into; otherwise the call ends and the buffer stays. -/
theorem replaceBlock_settled {buffer : Buffer α} {capacity : Nat} (reason : Reason) (source : σ)
    (hlength : buffer.length ≤ capacity) :
    let next := requestAll (Sized.bytes α) (Block.demands capacity) source
    (Grants (Sized.bytes α) (Block.demands capacity) source ∧ ∃ room events,
        buffer.replaceBlock capacity reason source = ⟨.ok (), buffer.rehouse capacity room 0, next, events, []⟩) ∨
      (¬ Grants (Sized.bytes α) (Block.demands capacity) source ∧ ∃ halt events,
        buffer.replaceBlock capacity reason source = ⟨.error halt, buffer, next, events, []⟩) := by
  intro next
  have hsource := Block.source_allocate_eq (α := α) capacity source
  have hsettled := Block.allocate_settled (α := α) capacity source
  unfold replaceBlock
  generalize Block.allocate (α := α) capacity source = allocation at hsource hsettled
  obtain ⟨result, after⟩ := allocation
  cases hsource
  rcases hsettled with ⟨hgrants, room, rfl⟩ | ⟨hdenied, denial, rfl⟩
  · obtain ⟨old, hmove, hold⟩ := Block.moveInto_of_le room (show buffer.block.length ≤ capacity from hlength)
    simp only [hmove, hold]
    exact .inl ⟨hgrants, room, _, rfl⟩
  · cases denial with
    | refused => exact .inr ⟨hdenied, _, _, rfl⟩
    | panic message => exact .inr ⟨hdenied, _, _, rfl⟩

theorem enlarge_settled {buffer : Buffer α} {capacity : Nat} (reason : Reason) (source : σ)
    (hlength : buffer.length ≤ capacity) :
    let next := requestAll (Sized.bytes α) (Block.demands capacity) source
    (Grants (Sized.bytes α) (Block.demands capacity) source ∧ ∃ room events,
        buffer.enlarge capacity reason source = ⟨.ok (), buffer.rehouse capacity room 1, next, events, []⟩) ∨
      (¬ Grants (Sized.bytes α) (Block.demands capacity) source ∧ ∃ halt events,
        buffer.enlarge capacity reason source = ⟨.error halt, buffer, next, events, []⟩) := by
  intro next
  rcases replaceBlock_settled reason source hlength with ⟨hgrants, room, events, h⟩ | ⟨hdenied, halt, events, h⟩
  · refine .inl ⟨hgrants, room, events ++ [], ?_⟩
    rw [enlarge, h]
    rfl
  · refine .inr ⟨hdenied, halt, events, ?_⟩
    rw [enlarge, h]
    rfl

theorem copy_settled (id : BufferId) (buffer : Buffer α) (source : σ) :
    let next := requestAll (Sized.bytes α) (Block.demands buffer.length) source
    (Grants (Sized.bytes α) (Block.demands buffer.length) source ∧ ∃ room,
        buffer.copy id source =
          ⟨⟨.ok (fresh id buffer.config ⟨buffer.block.elements, buffer.length, room⟩), next, []⟩, []⟩) ∨
      (¬ Grants (Sized.bytes α) (Block.demands buffer.length) source ∧ ∃ halt,
        buffer.copy id source = ⟨⟨.error halt, next, []⟩, []⟩) := by
  intro next
  have hsource := Block.source_allocate_eq (α := α) buffer.length source
  have hsettled := Block.allocate_settled (α := α) buffer.length source
  unfold copy
  generalize Block.allocate (α := α) buffer.length source = allocation at hsource hsettled
  obtain ⟨result, after⟩ := allocation
  cases hsource
  rcases hsettled with ⟨hgrants, room, rfl⟩ | ⟨hdenied, denial, rfl⟩
  · refine .inl ⟨hgrants, room, ?_⟩
    simp only [pushEach_toList]
    rfl
  · cases denial with
    | refused => exact .inr ⟨hdenied, _, rfl⟩
    | panic message => exact .inr ⟨hdenied, _, rfl⟩

theorem build_settled (id : BufferId) {config : Config} (hvalid : config.Valid) (source : σ) :
    let next := requestAll (Sized.bytes α) (Block.demands config.initial) source
    (Grants (Sized.bytes α) (Block.demands config.initial) source ∧ ∃ room,
        build id config source = ⟨.ok (fresh id config (⟨#[], config.initial, room⟩ : Block α)), next, []⟩) ∨
      (¬ Grants (Sized.bytes α) (Block.demands config.initial) source ∧ ∃ halt events,
        build (α := α) id config source = ⟨.error halt, next, events⟩) := by
  intro next
  have hsource := Block.source_allocate_eq (α := α) config.initial source
  have hsettled := Block.allocate_settled (α := α) config.initial source
  rw [build, Config.validate_eq_ok_iff.2 hvalid]
  simp only
  generalize Block.allocate (α := α) config.initial source = allocation at hsource hsettled
  obtain ⟨result, after⟩ := allocation
  cases hsource
  rcases hsettled with ⟨hgrants, room, rfl⟩ | ⟨hdenied, denial, rfl⟩
  · exact .inl ⟨hgrants, room, rfl⟩
  · cases denial with
    | refused => exact .inr ⟨hdenied, _, _, rfl⟩
    | panic message => exact .inr ⟨hdenied, _, _, rfl⟩

/-- A first block is asked for if the settings are valid. -/
theorem source_build_eq (id : BufferId) (config : Config) (source : σ) :
    (build (α := α) id config source).source = requestAll (Sized.bytes α)
      (untilDenied (Sized.bytes α) (if config.Valid then Block.demands config.initial else []) source) source := by
  by_cases hvalid : config.Valid
  · rw [if_pos hvalid, untilDenied_demands, source_build id (Config.validate_eq_ok_iff.2 hvalid),
      Block.source_allocate_eq]
  · rw [if_neg hvalid, build]
    cases hvalidate : config.validate with
    | error fault => rfl
    | ok _ => exact absurd (Config.validate_eq_ok_iff.1 hvalidate) hvalid

end Buffer

end

/-! ### Pushes -/

namespace Config

/-- The blocks that `count` more elements need, behind `length` elements in `capacity` slots. Nothing is asked for at
the ceiling, where the first element without a slot is declined. -/
def pushDemands (config : Config) : (count length capacity : Nat) → List Nat
  | 0, _, _ => []
  | count + 1, length, capacity =>
    if length < capacity then config.pushDemands count (length + 1) capacity
    else if config.grow capacity ≤ capacity then []
    else config.grow capacity :: config.pushDemands count (length + 1) (config.grow capacity)

variable {config : Config} {length capacity : Nat}

theorem pushDemands_of_lt (count : Nat) (h : length < capacity) :
    config.pushDemands (count + 1) length capacity = config.pushDemands count (length + 1) capacity := if_pos h

theorem pushDemands_of_ceiling (count : Nat) (hfull : length = capacity) (h : config.grow capacity ≤ capacity) :
    config.pushDemands (count + 1) length capacity = [] := by
  rw [pushDemands, if_neg (Nat.not_lt.2 (Nat.le_of_eq hfull.symm)), if_pos h]

theorem pushDemands_of_full (count : Nat) (hfull : length = capacity) (h : capacity < config.grow capacity) :
    config.pushDemands (count + 1) length capacity =
      config.grow capacity :: config.pushDemands count (length + 1) (config.grow capacity) := by
  rw [pushDemands, if_neg (Nat.not_lt.2 (Nat.le_of_eq hfull.symm)), if_neg (Nat.not_le.2 h)]

end Config

namespace Buffer

/-- The blocks that `count` more elements need. -/
def pushDemands (count : Nat) (buffer : Buffer α) : List Nat :=
  buffer.config.pushDemands count buffer.length buffer.capacity

theorem pushDemands_append (count : Nat) (value : α) (buffer : Buffer α) :
    (buffer.append value).pushDemands count =
      buffer.config.pushDemands count (buffer.length + 1) buffer.capacity := by
  rw [pushDemands, length_append]
  rfl

variable [Sized α] [BlockSource σ]

/-- At the ceiling a push is declined. -/
theorem push_of_ceiling {buffer : Buffer α} (value : α) (source : σ) (hfull : buffer.length = buffer.capacity)
    (hceiling : buffer.config.grow buffer.capacity ≤ buffer.capacity) :
    ∃ events, buffer.push value source =
      ⟨.error (.fault (.allocationFailure ((buffer.config.growth.next? buffer.capacity).getD wordMax) buffer.capacity)),
        buffer, source, events, []⟩ := by
  rcases push_cases value source (Nat.le_of_eq hfull) with ⟨hfree, -⟩ | ⟨-, -, hpush⟩ | ⟨-, hgrown, -⟩
  · exact absurd hfull (Nat.ne_of_lt hfree)
  · exact ⟨_, hpush⟩
  · exact absurd hceiling (Nat.not_le.2 hgrown)

/-- A push finds a free slot, or the ceiling, or a new block, or none. -/
theorem push_settled {buffer : Buffer α} (hlength : buffer.length ≤ buffer.capacity) (value : α) (source : σ) :
    let grown := buffer.config.grow buffer.capacity
    let next := (BlockSource.request source (Sized.bytes α) grown).2
    (buffer.length < buffer.capacity ∧ buffer.push value source = .done (buffer.append value) source) ∨
      (buffer.length = buffer.capacity ∧ grown ≤ buffer.capacity ∧ ∃ halt events,
        buffer.push value source = ⟨.error halt, buffer, source, events, []⟩) ∨
      (buffer.length = buffer.capacity ∧ buffer.capacity < grown ∧
        (BlockSource.request source (Sized.bytes α) grown).1.Accepts grown ∧ ∃ room events,
          buffer.push value source = ⟨.ok (), (buffer.rehouse grown room 1).append value, next, events, []⟩) ∨
      (buffer.length = buffer.capacity ∧ buffer.capacity < grown ∧
        ¬ (BlockSource.request source (Sized.bytes α) grown).1.Accepts grown ∧ ∃ halt events,
          buffer.push value source = ⟨.error halt, buffer, next, events, []⟩) := by
  intro grown next
  by_cases hfree : buffer.length < buffer.capacity
  · exact .inl ⟨hfree, push_of_lt value source hfree⟩
  right
  have hfull : buffer.length = buffer.capacity := by omega
  by_cases hceiling : grown ≤ buffer.capacity
  · obtain ⟨events, hpush⟩ := push_of_ceiling value source hfull hceiling
    exact .inl ⟨hfull, hceiling, _, events, hpush⟩
  · right
    have hgrown : buffer.capacity < grown := Nat.lt_of_not_le hceiling
    have hpos : grown ≠ 0 := Nat.ne_zero_of_lt hgrown
    by_cases haccepts : (BlockSource.request source (Sized.bytes α) grown).1.Accepts grown
    · exact .inl ⟨hfull, hgrown, haccepts, push_of_accepts value hfull hgrown haccepts⟩
    · refine .inr ⟨hfull, hgrown, haccepts, ?_⟩
      have hsettled := enlarge_settled .append source (show buffer.length ≤ grown by omega)
      rw [Block.demands_of_ne hpos] at hsettled
      rcases hsettled with ⟨hgrants, -⟩ | ⟨-, halt, events, henlarge⟩
      · exact absurd hgrants.1 haccepts
      · refine ⟨halt, events, ?_⟩
        rw [push, if_pos (isFull_iff.2 hfull), grow, grownCapacity_eq, if_neg (Nat.not_le.2 hgrown), henlarge]
        rfl

/-- **A series of pushes asks for the blocks that its values need**, until one is not granted. -/
theorem source_pushAll (values : List α) {buffer : Buffer α} (hlength : buffer.length ≤ buffer.capacity)
    (source : σ) :
    (buffer.pushAll values source).source = requestAll (Sized.bytes α)
      (untilDenied (Sized.bytes α) (buffer.pushDemands values.length) source) source := by
  induction values generalizing buffer source with
  | nil => rfl
  | cons value values ih =>
    rw [pushDemands, List.length_cons]
    rcases push_settled hlength value source with ⟨hfree, hpush⟩ | ⟨hfull, hceiling, halt, events, hpush⟩ |
      ⟨hfull, hgrown, haccepts, room, events, hpush⟩ | ⟨hfull, hgrown, hdenied, halt, events, hpush⟩
    · rw [Config.pushDemands_of_lt _ hfree, ← pushDemands_append _ value buffer,
        pushAll_cons_of_ok (congrArg Attempt.outcome hpush), hpush]
      have hlength' : (buffer.append value).length ≤ buffer.capacity := by
        rw [length_append]
        exact hfree
      exact ih hlength' source
    · rw [Config.pushDemands_of_ceiling _ hfull hceiling, pushAll_cons_of_error (congrArg Attempt.outcome hpush),
        hpush]
      rfl
    · rw [Config.pushDemands_of_full _ hfull hgrown, untilDenied_of_accepts haccepts,
        pushAll_cons_of_ok (congrArg Attempt.outcome hpush), hpush]
      have hlength' : ((buffer.rehouse (buffer.config.grow buffer.capacity) room 1).append value).length ≤
          buffer.config.grow buffer.capacity := by
        rw [length_append, length_rehouse]
        omega
      have hrest := ih hlength'
        (BlockSource.request source (Sized.bytes α) (buffer.config.grow buffer.capacity)).2
      rw [pushDemands_append] at hrest
      exact hrest
    · rw [Config.pushDemands_of_full _ hfull hgrown, untilDenied_of_denied hdenied,
        pushAll_cons_of_error (congrArg Attempt.outcome hpush), hpush]
      rfl

/-- If the first block that is needed is not granted, all happens within the block, and the series ends. -/
theorem pushAll_of_denied (values : List α) {buffer : Buffer α} (hlength : buffer.length ≤ buffer.capacity)
    {source : σ} (hdenied : Denies (Sized.bytes α) (buffer.pushDemands values.length) source) :
    (∃ elements, (buffer.pushAll values source).buffer = buffer.withElements elements) ∧
      (buffer.pushDemands values.length ≠ [] → (buffer.pushAll values source).outcome.isOk = false) := by
  induction values generalizing buffer with
  | nil => exact ⟨⟨buffer.block.elements, rfl⟩, fun h => absurd rfl h⟩
  | cons value values ih =>
    rw [pushDemands, List.length_cons] at hdenied ⊢
    rcases push_settled hlength value source with ⟨hfree, hpush⟩ | ⟨hfull, hceiling, halt, events, hpush⟩ |
      ⟨hfull, hgrown, haccepts, -⟩ | ⟨hfull, hgrown, -, halt, events, hpush⟩
    · rw [Config.pushDemands_of_lt _ hfree, ← pushDemands_append _ value buffer] at hdenied ⊢
      rw [pushAll_cons_of_ok (congrArg Attempt.outcome hpush), hpush]
      obtain ⟨⟨elements, helements⟩, houtcome⟩ := ih (by rw [length_append]; exact hfree) hdenied
      exact ⟨⟨elements, helements⟩, houtcome⟩
    · rw [pushAll_cons_of_error (congrArg Attempt.outcome hpush), hpush]
      exact ⟨⟨buffer.block.elements, rfl⟩, fun _ => rfl⟩
    · rw [Config.pushDemands_of_full _ hfull hgrown] at hdenied
      exact absurd haccepts hdenied
    · rw [pushAll_cons_of_error (congrArg Attempt.outcome hpush), hpush]
      exact ⟨⟨buffer.block.elements, rfl⟩, fun _ => rfl⟩

/-- The needs of a series are those of its first push, and then, if it is carried out, those of the others. -/
theorem pushDemands_succ {buffer : Buffer α} (hlength : buffer.length ≤ buffer.capacity) (count : Nat) (value : α)
    (source : σ) :
    ∃ rest, buffer.pushDemands (count + 1) = buffer.pushDemands 1 ++ rest ∧
      ((buffer.push value source).outcome = .ok () →
        rest = (buffer.push value source).buffer.pushDemands count) := by
  rw [pushDemands, pushDemands]
  rcases push_settled hlength value source with ⟨hfree, hpush⟩ | ⟨hfull, hceiling, halt, events, hpush⟩ |
    ⟨hfull, hgrown, -, room, events, hpush⟩ | ⟨hfull, hgrown, -, halt, events, hpush⟩
  · rw [Config.pushDemands_of_lt _ hfree, Config.pushDemands_of_lt _ hfree, hpush]
    exact ⟨_, rfl, fun _ => (pushDemands_append count value buffer).symm⟩
  · rw [Config.pushDemands_of_ceiling _ hfull hceiling, Config.pushDemands_of_ceiling _ hfull hceiling, hpush]
    exact ⟨[], rfl, fun h => by cases h⟩
  · rw [Config.pushDemands_of_full _ hfull hgrown, Config.pushDemands_of_full _ hfull hgrown, hpush]
    exact ⟨_, rfl, fun _ => (pushDemands_append count value (buffer.rehouse _ room 1)).symm⟩
  · rw [Config.pushDemands_of_full _ hfull hgrown, Config.pushDemands_of_full _ hfull hgrown, hpush]
    exact ⟨_, rfl, fun h => by cases h⟩

/-! ### Other calls -/

/-- A push is a series of one. -/
theorem pushAll_singleton (value : α) (buffer : Buffer α) (source : σ) :
    (buffer.pushAll [value] source).toAttempt = buffer.push value source := by
  cases houtcome : (buffer.push value source).outcome with
  | error halt => rw [pushAll_cons_of_error houtcome]
  | ok _ =>
    rw [pushAll_cons_of_ok houtcome]
    generalize buffer.push value source = attempt at houtcome
    obtain ⟨outcome, after, next, events, dropped⟩ := attempt
    cases houtcome
    simp only [pushAll, Attempt.done, List.append_nil]

theorem source_push {buffer : Buffer α} (hlength : buffer.length ≤ buffer.capacity) (value : α) (source : σ) :
    (buffer.push value source).source = requestAll (Sized.bytes α)
      (untilDenied (Sized.bytes α) (buffer.pushDemands 1) source) source := by
  rw [← pushAll_singleton]
  exact source_pushAll [value] hlength source

theorem push_of_denied (value : α) {buffer : Buffer α} (hlength : buffer.length ≤ buffer.capacity) {source : σ}
    (hdenied : Denies (Sized.bytes α) (buffer.pushDemands 1) source) :
    (∃ elements, (buffer.push value source).buffer = buffer.withElements elements) ∧
      (buffer.pushDemands 1 ≠ [] → (buffer.push value source).outcome.isOk = false) := by
  rw [← pushAll_singleton]
  exact pushAll_of_denied [value] hlength hdenied

/-- The block that room for `additional` more elements needs. -/
def reserveDemands (additional : Nat) (buffer : Buffer α) : List Nat :=
  if buffer.capacity < buffer.length + additional ∧ buffer.length + additional ≤ buffer.config.ceiling then
    Block.demands (buffer.reservedCapacity (buffer.length + additional))
  else []

/-- The block that is needed to give up the free slots. -/
def fitDemands (buffer : Buffer α) : List Nat :=
  if buffer.length = buffer.capacity then [] else Block.demands buffer.length

theorem source_reserve (additional : Nat) (buffer : Buffer α) (source : σ) :
    (buffer.reserve additional source).source =
      requestAll (Sized.bytes α) (buffer.reserveDemands additional) source := by
  have hceiling := buffer.config.ceiling_le_wordMax
  rcases reserve_cases additional buffer source with
    ⟨hwords, hreserve⟩ | ⟨hroom, hreserve⟩ | ⟨-, habove, hreserve⟩ | ⟨hroom, hbelow, hcases⟩
  · rw [hreserve, reserveDemands, if_neg (fun h => by omega)]
    rfl
  · rw [hreserve, reserveDemands, if_neg (fun h => by omega)]
    rfl
  · rw [hreserve, reserveDemands, if_neg (fun h => by omega)]
    rfl
  · rw [hcases.source_eq, reserveDemands, if_pos ⟨hroom, hbelow⟩, Block.source_allocate_eq]

theorem source_fit (buffer : Buffer α) (source : σ) :
    (buffer.fit source).source = requestAll (Sized.bytes α) buffer.fitDemands source := by
  rcases fit_cases buffer source with ⟨hfull, hfit⟩ | ⟨hfree, hcases⟩
  · rw [hfit, fitDemands, if_pos hfull]
    rfl
  · rw [hcases.source_eq, fitDemands, if_neg hfree, Block.source_allocate_eq]

/-- Within the ceiling, room that is not there is made in a larger block. -/
theorem reserve_eq_enlarge {additional : Nat} {buffer : Buffer α} (source : σ)
    (hroom : buffer.capacity < buffer.length + additional)
    (hbelow : buffer.length + additional ≤ buffer.config.ceiling) :
    buffer.reserve additional source =
      buffer.enlarge (buffer.reservedCapacity (buffer.length + additional)) .reserve source := by
  have hsum : sum? buffer.length additional = some (buffer.length + additional) :=
    sum?_eq_some_iff.2 ⟨rfl, Nat.le_trans hbelow buffer.config.ceiling_le_wordMax⟩
  rw [reserve, hsum]
  simp only [if_neg (Nat.not_le.2 hroom), if_neg (Nat.not_lt.2 hbelow)]
  rfl

/-- Free slots are given up for a smaller block. -/
theorem fit_eq_replaceBlock {buffer : Buffer α} (source : σ) (h : buffer.length ≠ buffer.capacity) :
    buffer.fit source = buffer.replaceBlock buffer.length .shrink source := by
  rw [fit, if_neg (by rw [isFull_iff]; exact h)]

/-- Without the block that it needs, room is not made. -/
theorem reserve_of_denied {additional : Nat} {buffer : Buffer α} {source : σ}
    (hdenied : Denies (Sized.bytes α) (buffer.reserveDemands additional) source) :
    (buffer.reserve additional source).buffer = buffer ∧
      (buffer.reserveDemands additional ≠ [] → (buffer.reserve additional source).outcome.isOk = false) := by
  rcases reserve_cases additional buffer source with
    ⟨-, hreserve⟩ | ⟨hroom, hreserve⟩ | ⟨-, -, hreserve⟩ | ⟨hroom, hbelow, -⟩
  · rw [hreserve]
    exact ⟨rfl, fun _ => rfl⟩
  · rw [hreserve, reserveDemands, if_neg (fun h => by omega)]
    exact ⟨rfl, fun h => absurd rfl h⟩
  · rw [hreserve]
    exact ⟨rfl, fun _ => rfl⟩
  · have hneeded := le_reservedCapacity hbelow
    rw [reserveDemands, if_pos ⟨hroom, hbelow⟩, Block.demands_of_ne (by omega)] at hdenied
    rw [reserve_eq_enlarge source hroom hbelow]
    rcases enlarge_settled .reserve source
      (show buffer.length ≤ buffer.reservedCapacity (buffer.length + additional) by omega) with
      ⟨hgrants, -⟩ | ⟨-, halt, events, henlarge⟩
    · rw [Block.demands_of_ne (by omega)] at hgrants
      exact absurd hgrants.1 hdenied
    · rw [henlarge]
      exact ⟨rfl, fun _ => rfl⟩

/-- Without the block that they need, the elements stay where they are. -/
theorem fit_of_denied {buffer : Buffer α} {source : σ} (hpos : buffer.length ≠ 0)
    (hdenied : Denies (Sized.bytes α) buffer.fitDemands source) :
    (buffer.fit source).buffer = buffer ∧
      (buffer.fitDemands ≠ [] → (buffer.fit source).outcome.isOk = false) := by
  by_cases hfull : buffer.length = buffer.capacity
  · rw [fitDemands, if_pos hfull, fit, if_pos (isFull_iff.2 hfull)]
    exact ⟨rfl, fun h => absurd rfl h⟩
  · rw [fitDemands, if_neg hfull, Block.demands_of_ne hpos] at hdenied
    rw [fit_eq_replaceBlock source hfull]
    rcases replaceBlock_settled .shrink source (Nat.le_refl buffer.length) with
      ⟨hgrants, -⟩ | ⟨-, halt, events, hreplace⟩
    · rw [Block.demands_of_ne hpos] at hgrants
      exact absurd hgrants.1 hdenied
    · rw [hreplace]
      exact ⟨rfl, fun _ => rfl⟩

end Buffer

/-! ### Actions -/

/-- The blocks that an action needs. -/
def Action.demands {β : Type} (action : Action β) (buffer : Buffer α) : List Nat :=
  match action with
  | push _ => buffer.pushDemands 1
  | pushAll values => buffer.pushDemands values.length
  | extend values => buffer.pushDemands values.length
  | reserve additional => buffer.reserveDemands additional
  | fit => buffer.fitDemands
  | _ => []

theorem Action.demands_number {β : Type} (start : Nat) (action : Action β) (buffer : Buffer α) :
    (action.number start).demands buffer = action.demands buffer := by
  cases action with
  | pushAll values => exact congrArg buffer.pushDemands (Item.length_number start values)
  | extend values => exact congrArg buffer.pushDemands (Item.length_number start values)
  | _ => rfl

theorem Action.demands_inPlace {β : Type} {action : Action β} (h : action.mayAllocate = false) (buffer : Buffer α) :
    action.demands buffer = [] := by
  cases action with
  | push | pushAll | extend | reserve | fit => cases h
  | _ => rfl

section

variable [Element α] [BlockSource σ] {buffer : Buffer α}

/-- **An action asks for the blocks that it needs**, until one is not granted. -/
theorem Action.source_perform (action : Action α) (hlength : buffer.length ≤ buffer.capacity) (source : σ) :
    (action.perform buffer source).source = requestAll (Sized.bytes α)
      (untilDenied (Sized.bytes α) (action.demands buffer) source) source := by
  by_cases hplace : action.mayAllocate = false
  · rw [(perform_inPlace hplace buffer source).1, demands_inPlace hplace]
    rfl
  · cases action with
    | push value => exact Buffer.source_push hlength value source
    | pushAll values => exact Buffer.source_pushAll values hlength source
    | extend values =>
      exact (Buffer.extend_source values buffer source).trans (Buffer.source_pushAll values hlength source)
    | reserve additional =>
      refine (Buffer.source_reserve additional buffer source).trans ?_
      rw [demands, Buffer.reserveDemands]
      split
      · rw [untilDenied_demands]
      · rfl
    | fit =>
      refine (Buffer.source_fit buffer source).trans ?_
      rw [demands, Buffer.fitDemands]
      split
      · rfl
      · rw [untilDenied_demands]
    | _ => exact absurd rfl hplace

/-- **Without the first block that it needs, an action happens within the block**, and fails; only an empty buffer gives
up its slots without a need. -/
theorem Action.perform_of_denied (action : Action α) (hlength : buffer.length ≤ buffer.capacity) {source : σ}
    (hfit : action = .fit → buffer.length ≠ 0)
    (hdenied : Denies (Sized.bytes α) (action.demands buffer) source) :
    (∃ elements, (action.perform buffer source).buffer = buffer.withElements elements) ∧
      (action.demands buffer ≠ [] → (action.perform buffer source).outcome.isOk = false) := by
  by_cases hplace : action.mayAllocate = false
  · obtain ⟨-, elements, -, helements⟩ := perform_inPlace hplace buffer source
    rw [demands_inPlace hplace]
    exact ⟨⟨elements, helements⟩, fun h => absurd rfl h⟩
  · cases action with
    | push value =>
      obtain ⟨hbuffer, houtcome⟩ := Buffer.push_of_denied value hlength hdenied
      exact ⟨hbuffer, fun hneed => (Effect.isOk_ofPush ..).trans (houtcome hneed)⟩
    | pushAll values =>
      obtain ⟨hbuffer, houtcome⟩ := Buffer.pushAll_of_denied values hlength hdenied
      exact ⟨hbuffer, fun hneed => (Effect.isOk_ofIntake _).trans (houtcome hneed)⟩
    | extend values =>
      obtain ⟨hbuffer, houtcome⟩ := Buffer.pushAll_of_denied values hlength hdenied
      rw [← Buffer.extend_buffer] at hbuffer
      rw [← Buffer.isOk_extend] at houtcome
      exact ⟨hbuffer, fun hneed => (Effect.isOk_ofIntake _).trans (houtcome hneed)⟩
    | reserve additional =>
      obtain ⟨hbuffer, houtcome⟩ := Buffer.reserve_of_denied hdenied
      refine ⟨⟨buffer.block.elements, hbuffer⟩, ?_⟩
      exact fun hneed => (Effect.isOk_ofAttempt _).trans (houtcome hneed)
    | fit =>
      obtain ⟨hbuffer, houtcome⟩ := Buffer.fit_of_denied (hfit rfl) hdenied
      refine ⟨⟨buffer.block.elements, hbuffer⟩, ?_⟩
      exact fun hneed => (Effect.isOk_ofAttempt _).trans (houtcome hneed)
    | _ => exact absurd rfl hplace

end

/-! ### Steps of a session -/

namespace Session

/-- The source that a step may ask, and the blocks that the step needs of it. -/
def demand? (command : Command α) (session : Session σ α k) : Option (Provider k × List Nat) :=
  match command with
  | .build _ config source => (session.provider? source).map fun provider =>
      (provider, if config.Valid then Block.demands config.initial else [])
  | .collect _ values => some (.heap, (default : Config).pushDemands values.length 0 0)
  | .copy name _ => (session.buffers.find? name).map fun slot => (slot.provider, Block.demands slot.buffer.length)
  | .act name action => (session.buffers.find? name).map fun slot => (slot.provider, action.demands slot.buffer)
  | .request name capacity => (session.pool.provider? name).map fun provider => (provider, [capacity])
  | _ => none

/-- The blocks that a step needs of a source. -/
def demands (command : Command α) (session : Session σ α k) (provider : Provider k) : List Nat :=
  match session.demand? command with
  | some (drawn, capacities) => if provider = drawn then capacities else []
  | none => []

/-- The step resets a source. -/
def Resets (command : Command α) (session : Session σ α k) (provider : Provider k) : Prop :=
  ∃ name, command = .resetSource name ∧ session.pool.provider? name = some provider

section

variable {session : Session σ α k} {command : Command α} {drawn : Provider k} {capacities : List Nat}

theorem demands_of_some (h : session.demand? command = some (drawn, capacities)) (provider : Provider k) :
    session.demands command provider = if provider = drawn then capacities else [] := by
  simp only [demands, h]

theorem demands_of_none (h : session.demand? command = none) (provider : Provider k) :
    session.demands command provider = [] := by
  simp only [demands, h]

theorem demands_act {name : String} {slot : Slot (Item α) k} (hfind : session.buffers.find? name = some slot)
    (action : Action α) (provider : Provider k) :
    session.demands (.act name action) provider =
      if provider = slot.provider then action.demands slot.buffer else [] :=
  demands_of_some (by simp only [demand?, hfind, Option.map_some]) provider

theorem demands_copy {name : String} (target : String) {slot : Slot (Item α) k}
    (hfind : session.buffers.find? name = some slot) (provider : Provider k) :
    session.demands (.copy name target) provider =
      if provider = slot.provider then Block.demands slot.buffer.length else [] :=
  demands_of_some (by simp only [demand?, hfind, Option.map_some]) provider

theorem demands_request (name : String) (capacity : Nat) (session : Session σ α k) (provider : Provider k) :
    session.demands (.request name capacity) provider =
      if session.pool.provider? name = some provider then [capacity] else [] := by
  cases hdrawn : session.pool.provider? name with
  | none => simp [demands, demand?, hdrawn]
  | some drawn => simp [demands, demand?, hdrawn, eq_comm]

/-- What is needed depends on the buffers, and on the names of the sources. -/
theorem demands_congr {first : Session σ α k} {second : Session τ α k} (hbuffers : first.buffers = second.buffers)
    (hnames : first.pool.names = second.pool.names) (command : Command α) (provider : Provider k) :
    first.demands command provider = second.demands command provider := by
  have hpool (name : String) : first.pool.provider? name = second.pool.provider? name := by
    rw [Pool.provider?, Pool.provider?, hnames]
  have hdemand : first.demand? command = second.demand? command := by
    cases command with
    | build name config source =>
      cases source with
      | none => rfl
      | some source => simp only [demand?, provider?, hpool]
    | copy name target => simp only [demand?, hbuffers]
    | act name action => simp only [demand?, hbuffers]
    | request name capacity => simp only [demand?, hpool]
    | _ => rfl
  simp only [demands, hdemand]

end

variable [Element α] [BlockSource σ]

/-- What a step leaves of a source, if the source is asked for the blocks that are needed until one is not granted. -/
def served (command : Command α) (session : Session σ α k) (provider : Provider k) : σ :=
  requestAll (Sized.bytes α)
    (untilDenied (Sized.bytes α) (session.demands command provider) (session.pool.source provider))
    (session.pool.source provider)

section

variable {session : Session σ α k} {command : Command α} {drawn : Provider k} {capacities : List Nat}

theorem served_of_none (h : session.demand? command = none) (provider : Provider k) :
    session.served command provider = session.pool.source provider := by
  rw [served, demands_of_none h]
  rfl

/-- Only the source that is drawn on gets another state. -/
theorem source_update_served (h : session.demand? command = some (drawn, capacities)) {source : σ}
    (hsource : source = requestAll (Sized.bytes α)
      (untilDenied (Sized.bytes α) capacities (session.pool.source drawn)) (session.pool.source drawn))
    (provider : Provider k) :
    (session.pool.update drawn source).source provider = session.served command provider := by
  rw [Pool.source_update, served, demands_of_some h]
  split
  · rename_i hprovider
    rw [hprovider]
    exact hsource
  · rfl

end

omit [Element α] [BlockSource σ] in
/-- A step without a need does not make a buffer ask. -/
theorem asker_eq_none {session : Session σ α k} {command : Command α} (h : session.demand? command = none) :
    session.asker command = none := by
  cases command with
  | build name config source => exact Option.map_eq_none_iff.2 (Option.map_eq_none_iff.1 h)
  | copy name target => exact Option.map_eq_none_iff.2 (Option.map_eq_none_iff.1 h)
  | act name action => exact Option.map_eq_none_iff.2 (Option.map_eq_none_iff.1 h)
  | collect name values => cases h
  | _ => rfl

/-- A step without a need leaves the sources alone, unless it resets one. -/
theorem source_step_of_none {session : Session σ α k} (hsound : session.Sound) {command : Command α}
    (hdemand : session.demand? command = none) {provider : Provider k} (hreset : ¬ session.Resets command provider) :
    (session.step command).2.pool.source provider = session.pool.source provider := by
  have hdraws := draws_step hsound command provider
  generalize (session.step command).2.pool.source provider = after at hdraws
  cases hdraws with
  | untouched => rfl
  | asked hasker _ =>
    rw [asker_eq_none hdemand] at hasker
    cases hasker
  | requested hcommand hprovider =>
    subst hcommand
    simp only [demand?, hprovider, Option.map_some] at hdemand
    cases hdemand
  | reset hcommand hprovider => exact absurd ⟨_, hcommand, hprovider⟩ hreset

/-- **A step asks a source for the blocks that it needs**, until one is not granted, and for nothing else. -/
theorem source_step {session : Session σ α k} (hsound : session.Sound) (command : Command α) (provider : Provider k)
    (hreset : ¬ session.Resets command provider) :
    (session.step command).2.pool.source provider = session.served command provider := by
  cases hdemand : session.demand? command with
  | none => rw [served_of_none hdemand, source_step_of_none hsound hdemand hreset]
  | some demand =>
    obtain ⟨drawn, capacities⟩ := demand
    cases command with
    | build name config source =>
      obtain ⟨provider', hdrawn, hpair⟩ := Option.map_eq_some_iff.1 hdemand
      cases hpair
      simp only [step, build, hdrawn]
      rw [pool_enroll]
      exact source_update_served hdemand (Buffer.source_build_eq (α := Item α) ..) provider
    | collect name values =>
      have hsource := Buffer.source_pushAll (Item.number session.ledger.issued values)
        (Buffer.sound_new session.nextId).length_le session.pool.heap
      rw [Item.length_number, ← Buffer.extend_source] at hsource
      cases hdemand
      rw [step, pool_collect]
      exact source_update_served rfl hsource provider
    | copy name target =>
      obtain ⟨slot, hfind, hpair⟩ := Option.map_eq_some_iff.1 hdemand
      cases hpair
      rw [step, pool_copy target hfind, Buffer.source_copy, Block.source_allocate_eq, Buffer.length_renumber]
      exact source_update_served hdemand (by rw [untilDenied_demands]; rfl) provider
    | act name action =>
      obtain ⟨slot, hfind, hpair⟩ := Option.map_eq_some_iff.1 hdemand
      cases hpair
      have hsource := Action.source_perform (action.number session.ledger.issued)
        (hsound name slot hfind).length_le (session.pool.source slot.provider)
      rw [Action.demands_number] at hsource
      rw [step, act_eq_settle hfind]
      exact source_update_served hdemand hsource provider
    | request name capacity =>
      obtain ⟨provider', hdrawn, hpair⟩ := Option.map_eq_some_iff.1 hdemand
      cases hpair
      have hpool : (session.step (.request name capacity)).2.pool =
          session.pool.update drawn
            (BlockSource.request (session.pool.source drawn) (Sized.bytes α) capacity).2 := by
        simp only [step, request, hdrawn]
        cases (BlockSource.request (session.pool.source drawn) (Sized.bytes α) capacity).1 <;> rfl
      rw [hpool]
      exact source_update_served hdemand (by rw [untilDenied_singleton]; rfl) provider
    | _ => cases hdemand

/-! ### Transcripts of a run -/

/-- What passes between a source and a step: the requests, with the answers. -/
def dealt (command : Command α) (session : Session σ α k) (provider : Provider k) : List (Nat × Reply) :=
  answers (Sized.bytes α)
    (untilDenied (Sized.bytes α) (session.demands command provider) (session.pool.source provider))
    (session.pool.source provider)

/-- The session on sources with empty transcripts. -/
def transcribed (session : Session σ α k) : Session (Transcript σ) α k :=
  session.mapSource fun source => { inner := source }

/-- What passes between a source and the steps of a run, as the transcript of the source tells it. -/
def exchangesIn (commands : List (Command α)) (session : Session σ α k) (provider : Provider k) :
    List (Nat × Reply) :=
  ((session.transcribed.run commands).pool.source provider).exchanges

omit [Element α] [BlockSource σ] in
theorem mapSource_transcribed (session : Session σ α k) :
    session.transcribed.mapSource Transcript.inner = session :=
  session.mapSource_cancel fun _ => rfl

omit [Element α] [BlockSource σ] in
theorem source_transcribed (session : Session σ α k) (provider : Provider k) :
    session.transcribed.pool.source provider = { inner := session.pool.source provider } :=
  source_pool_mapSource _ provider session

omit [Element α] [BlockSource σ] in
theorem Sound.transcribed {session : Session σ α k} (hsound : session.Sound) : session.transcribed.Sound := hsound

theorem exchanges_step {session : Session (Transcript σ) α k} (hsound : session.Sound) (command : Command α)
    (provider : Provider k) :
    ((session.step command).2.pool.source provider).exchanges =
      (session.pool.source provider).exchanges ++ (session.mapSource Transcript.inner).dealt command provider := by
  by_cases hreset : session.Resets command provider
  · obtain ⟨name, rfl, hprovider⟩ := hreset
    have hdealt : (session.mapSource Transcript.inner).dealt (.resetSource name) provider = [] := rfl
    rw [hdealt, List.append_nil]
    simp only [step, resetSource, hprovider]
    show ((session.pool.update provider _).source provider).exchanges = _
    rw [Pool.source_update_self]
    rfl
  · have hdemands : (session.mapSource Transcript.inner).demands command provider = session.demands command provider :=
      demands_congr rfl rfl command provider
    rw [source_step hsound command provider hreset, served, exchanges_requestAll, dealt, hdemands,
      source_pool_mapSource, untilDenied_map Transcript.commutes_inner]

omit [Element α] [BlockSource σ] in
theorem exchanges_transcribed (session : Session σ α k) (provider : Provider k) :
    (session.transcribed.pool.source provider).exchanges = [] := by
  rw [source_transcribed]

/-- What a transcript held before a run has no part in what passes in the run. -/
theorem exchanges_run (commands : List (Command α)) {session : Session (Transcript σ) α k} (hsound : session.Sound)
    (provider : Provider k) :
    ((session.run commands).pool.source provider).exchanges =
      (session.pool.source provider).exchanges ++
        (session.mapSource Transcript.inner).exchangesIn commands provider := by
  induction commands generalizing session with
  | nil =>
    show _ = _ ++ ((session.mapSource Transcript.inner).transcribed.pool.source provider).exchanges
    rw [exchanges_transcribed, List.append_nil]
    rfl
  | cons command commands ih =>
    -- the transcripts of the session itself and of one with empty transcripts grow alike
    have hinner := Sound.transcribed (show (session.mapSource Transcript.inner).Sound from hsound)
    rw [exchangesIn, run_cons, run_cons, ih (hsound.step command), ih (hinner.step command),
      exchanges_step hsound, exchanges_step hinner, exchanges_transcribed, List.nil_append]
    have hmap (other : Session (Transcript σ) α k) : (other.step command).2.mapSource Transcript.inner =
        ((other.mapSource Transcript.inner).step command).2 := by
      rw [step_mapSource Transcript.commutes_inner]
      rfl
    rw [hmap, hmap, mapSource_transcribed, List.append_assoc]

section

variable {session : Session σ α k} (hsound : session.Sound)

include hsound

/-- **The transcript of a run shows what passes in its first step, and then what passes in the others.** -/
theorem exchangesIn_cons (command : Command α) (commands : List (Command α)) (provider : Provider k) :
    session.exchangesIn (command :: commands) provider =
      session.dealt command provider ++ (session.step command).2.exchangesIn commands provider := by
  rw [exchangesIn, run_cons, exchanges_run commands (hsound.transcribed.step command),
    exchanges_step hsound.transcribed, exchanges_transcribed, List.nil_append, mapSource_transcribed]
  have hmap := step_mapSource Transcript.commutes_inner command session.transcribed
  rw [mapSource_transcribed] at hmap
  rw [hmap]
  rfl

theorem exchangesIn_singleton (command : Command α) (provider : Provider k) :
    session.exchangesIn [command] provider = session.dealt command provider := by
  rw [exchangesIn_cons hsound]
  show _ ++ ((session.step command).2.transcribed.pool.source provider).exchanges = _
  rw [exchanges_transcribed, List.append_nil]

theorem exchangesIn_append (commands later : List (Command α)) (provider : Provider k) :
    session.exchangesIn (commands ++ later) provider =
      session.exchangesIn commands provider ++ (session.run commands).exchangesIn later provider := by
  rw [exchangesIn, run_append, exchanges_run later (hsound.transcribed.run commands),
    ← run_mapSource Transcript.commutes_inner, mapSource_transcribed]
  rfl

end

end Session

end ElasticBuffer
