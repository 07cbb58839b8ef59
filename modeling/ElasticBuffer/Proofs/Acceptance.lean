import ElasticBuffer.Proofs.Naturality
import ElasticBuffer.Proofs.Requests

/-!
# What a buffer sees of its source

A buffer makes one of three things of an answer to a request: it accepts the block, it rejects the answer, or the
call ends (`Reply.judgement`). By how much a block is too large does not show, nor in which way an answer is bad. This
module says so of the calls on a buffer, `ElasticBuffer.Proofs.Interchange` of sessions.

Two calls are compared, on buffers that are the same but for the room that their sources set aside (`Buffer.Alike`),
and on two sources that keep transcripts. What is assumed is that the answers in the two transcripts after the calls
are judged alike, the first with the first and so on, as far as there are both (`Agree`). That there are equally
many, to the same requests, is not assumed but proved. One request is dealt with in `Block.allocate_alike`. All
calls but a run of pushes make one request at most, and follow from it; a run of pushes is alike as long as its
pushes are.
-/

namespace ElasticBuffer

variable {σ τ α : Type} {k : Nat}

/-! ### Answers that are judged alike -/

/-- The requests with their answers are judged alike, the first of the one list and of the other, and so on. -/
def Agree (first second : List (Nat × Reply)) : Prop :=
  ∀ pair ∈ first.zip second, pair.1.2.judgement pair.1.1 = pair.2.2.judgement pair.2.1

instance (first second : List (Nat × Reply)) : Decidable (Agree first second) :=
  inferInstanceAs (Decidable (∀ pair ∈ _, _))

namespace Agree

variable {first second : List (Nat × Reply)}

/-- What was judged alike up to some time was so before. -/
theorem of_earlier {earlier earlier' : List (Nat × Reply)} (h : Agree first second)
    (hfirst : earlier <+: first) (hsecond : earlier' <+: second) : Agree earlier earlier' := by
  obtain ⟨rest, rfl⟩ := hfirst
  obtain ⟨rest', rfl⟩ := hsecond
  intro pair hmem
  apply h pair
  -- a pair of the shorter records stands at the same index of the longer ones
  obtain ⟨i, hi⟩ := List.mem_iff_getElem?.1 hmem
  obtain ⟨hleft, hright⟩ := List.getElem?_zip_eq_some.1 hi
  refine List.mem_iff_getElem?.2 ⟨i, List.getElem?_zip_eq_some.2 ⟨?_, ?_⟩⟩
  · rw [List.getElem?_append_left (List.getElem?_eq_some_iff.1 hleft).1, hleft]
  · rw [List.getElem?_append_left (List.getElem?_eq_some_iff.1 hright).1, hright]

/-- After equally many exchanges, the next ones are judged alike. -/
theorem last {exchange exchange' : Nat × Reply} (hlength : first.length = second.length)
    (h : Agree (first ++ [exchange]) (second ++ [exchange'])) :
    exchange.2.judgement exchange.1 = exchange'.2.judgement exchange'.1 := by
  apply h (exchange, exchange')
  rw [List.zip_append hlength]
  exact List.mem_append_right _ (List.mem_singleton.2 rfl)

end Agree

/-! ### Transcripts -/

/-- A source that keeps a record of its requests and of its answers. -/
structure Transcript (σ : Type) where
  /-- The source that answers. -/
  inner : σ
  /-- The numbers of slots that were asked for, with the answers, in order. -/
  exchanges : List (Nat × Reply) := []

/-- The source answers as before, and a reset does not touch the record. -/
instance [BlockSource σ] : BlockSource (Transcript σ) where
  request transcript bytes capacity :=
    let answer := BlockSource.request transcript.inner bytes capacity
    (answer.1, ⟨answer.2, transcript.exchanges ++ [(capacity, answer.1)]⟩)
  reset transcript := { transcript with inner := BlockSource.reset transcript.inner }

namespace Transcript

/-- The numbers of slots that were asked for. -/
def requests (transcript : Transcript σ) : List Nat := transcript.exchanges.map Prod.fst

theorem length_exchanges (transcript : Transcript σ) :
    transcript.exchanges.length = transcript.requests.length := by
  rw [requests, List.length_map]

theorem commutes_inner [BlockSource σ] : Commutes (inner : Transcript σ → σ) :=
  ⟨fun _ _ _ => rfl, fun _ => rfl⟩

end Transcript

/-- Requests only add to a record. -/
theorem Asked.exchanges_earlier [BlockSource σ] {bytes ceiling : Nat} {before after : Transcript σ}
    (h : Asked bytes ceiling before after) : before.exchanges <+: after.exchanges := by
  induction h with
  | refl => exact List.prefix_rfl
  | request _ _ _ ih => exact ih.trans (List.prefix_append _ _)

/-! ### One request -/

section

variable [Sized α] [BlockSource σ] [BlockSource τ]

/-- **A request that is judged alike leads to blocks that differ in their room only**, or to the same denial. -/
theorem Block.allocate_alike (capacity : Nat) {source : Transcript σ} {source' : Transcript τ}
    (hrequests : source.requests = source'.requests)
    (hagree : Agree (allocate (α := α) capacity source).2.exchanges
      (allocate (α := α) capacity source').2.exchanges) :
    (allocate (α := α) capacity source).2.requests = (allocate (α := α) capacity source').2.requests ∧
      ((∃ room room', (allocate (α := α) capacity source).1 = .ok ⟨#[], capacity, room⟩ ∧
          (allocate (α := α) capacity source').1 = .ok ⟨#[], capacity, room'⟩) ∨
        ∃ denial, (allocate (α := α) capacity source).1 = .error denial ∧
          (allocate (α := α) capacity source').1 = .error denial) := by
  by_cases hzero : capacity = 0
  · subst hzero
    exact ⟨hrequests, .inl ⟨0, 0, rfl, rfl⟩⟩
  · have hfirst := allocate_judgement (α := α) hzero source
    have hsecond := allocate_judgement (α := α) hzero source'
    rw [source_allocate hzero, source_allocate hzero] at hagree ⊢
    -- this request is the last one in both records
    have hjudgement := hagree.last (by rw [source.length_exchanges, hrequests, source'.length_exchanges])
    refine ⟨?_, ?_⟩
    · show (source.exchanges ++ [_]).map Prod.fst = (source'.exchanges ++ [_]).map Prod.fst
      rw [List.map_append, List.map_append]
      exact congrArg (· ++ [capacity]) hrequests
    · change (BlockSource.request source (Sized.bytes α) capacity).1.judgement capacity =
        (BlockSource.request source' (Sized.bytes α) capacity).1.judgement capacity at hjudgement
      rw [← hjudgement] at hsecond
      cases hcase : (BlockSource.request source (Sized.bytes α) capacity).1.judgement capacity with
      | accepted =>
        rw [hcase] at hfirst hsecond
        obtain ⟨room, -, hfirst⟩ := hfirst
        obtain ⟨room', -, hsecond⟩ := hsecond
        exact .inl ⟨room, room', hfirst, hsecond⟩
      | rejected =>
        rw [hcase] at hfirst hsecond
        exact .inr ⟨_, hfirst, hsecond⟩
      | panicked message =>
        rw [hcase] at hfirst hsecond
        exact .inr ⟨_, hfirst, hsecond⟩

end

/-! ### Buffers that differ in their room only -/

namespace Buffer

/-- The buffer with another number of slots set aside for it. -/
def withRoom (room : Nat) (buffer : Buffer α) : Buffer α :=
  { buffer with block := { buffer.block with room := room } }

section

variable (room : Nat) (buffer : Buffer α)

@[simp] theorem toList_withRoom : (buffer.withRoom room).toList = buffer.toList := rfl

@[simp] theorem length_withRoom : (buffer.withRoom room).length = buffer.length := rfl

@[simp] theorem capacity_withRoom : (buffer.withRoom room).capacity = buffer.capacity := rfl

@[simp] theorem isFull_withRoom : (buffer.withRoom room).isFull = buffer.isFull := rfl

@[simp] theorem config_withRoom : (buffer.withRoom room).config = buffer.config := rfl

@[simp] theorem grownCapacity_withRoom :
    (buffer.withRoom room).grownCapacity = buffer.grownCapacity := rfl

end

/-- The buffers are the same but for the room that their sources set aside. -/
def Alike (first second : Buffer α) : Prop := ∃ room, second = first.withRoom room

end Buffer

/-- What became of two calls is alike: it can be told apart by the sources and by their room only, and the sources were
asked for the same. -/
structure Attempt.Alike (first : Attempt (Transcript σ) α) (second : Attempt (Transcript τ) α) : Prop where
  /-- Both were carried out, or failed for the same reason. -/
  outcome_eq : first.outcome = second.outcome
  /-- The buffers are alike. -/
  buffer : first.buffer.Alike second.buffer
  /-- The requests are the same. -/
  requests_eq : first.source.requests = second.source.requests
  /-- The reports on the way are the same. -/
  events_eq : first.events = second.events
  /-- The same elements ended with a block. -/
  dropped_eq : first.dropped = second.dropped

/-- As `Attempt.Alike`, and the same values were taken. -/
structure Intake.Alike (first : Intake (Transcript σ) α) (second : Intake (Transcript τ) α) : Prop where
  /-- The calls are alike. -/
  attempt : first.toAttempt.Alike second.toAttempt
  /-- As many values were taken. -/
  taken_eq : first.taken = second.taken
  /-- The same values were not stored. -/
  unstored_eq : first.unstored = second.unstored

/-- Two buffers that were built are alike, or none was built for the same reason. -/
structure Construction.Alike (first : Construction (Transcript σ) α) (second : Construction (Transcript τ) α) :
    Prop where
  /-- The buffers are alike. -/
  outcome : (∃ buffer room, first.outcome = .ok buffer ∧ second.outcome = .ok (buffer.withRoom room)) ∨
    ∃ halt, first.outcome = .error halt ∧ second.outcome = .error halt
  /-- The requests are the same. -/
  requests_eq : first.source.requests = second.source.requests
  /-- The reports on the way are the same. -/
  events_eq : first.events = second.events

namespace Attempt

/-- Two calls are alike if the answers on the way are judged alike. -/
def Corresponds (first : Attempt (Transcript σ) α) (second : Attempt (Transcript τ) α) : Prop :=
  Agree first.source.exchanges second.source.exchanges → first.Alike second

theorem source_andThen {first : Attempt σ α} {next : Buffer α → σ → Attempt σ α}
    (hnext : ∀ buffer source, (next buffer source).source = source) :
    (first.andThen next).source = first.source := by
  obtain ⟨outcome, buffer, source, events, dropped⟩ := first
  cases outcome with
  | error halt => rfl
  | ok _ => exact hnext buffer source

/-- Going on without a request keeps calls alike. -/
theorem Corresponds.andThen {first : Attempt (Transcript σ) α} {second : Attempt (Transcript τ) α}
    {next : Buffer α → Transcript σ → Attempt (Transcript σ) α}
    {next' : Buffer α → Transcript τ → Attempt (Transcript τ) α} (h : first.Corresponds second)
    (hsource : ∀ buffer source, (next buffer source).source = source)
    (hsource' : ∀ buffer source, (next' buffer source).source = source)
    (hnext : ∀ buffer room source source', source.requests = source'.requests →
      (next buffer source).Alike (next' (buffer.withRoom room) source')) :
    (first.andThen next).Corresponds (second.andThen next') := by
  intro hagree
  rw [source_andThen hsource, source_andThen hsource'] at hagree
  obtain ⟨houtcome, ⟨room, hbuffer⟩, hrequests, hevents, hdropped⟩ := h hagree
  obtain ⟨outcome, buffer, source, events, dropped⟩ := first
  obtain ⟨outcome', buffer', source', events', dropped'⟩ := second
  simp only at houtcome hbuffer hrequests hevents hdropped
  subst houtcome hbuffer hevents hdropped
  cases outcome with
  | error halt => exact ⟨rfl, ⟨room, rfl⟩, hrequests, rfl, rfl⟩
  | ok _ =>
    obtain ⟨houtcome, hbuffer, hrequests, hevents, hdropped⟩ := hnext buffer room source source' hrequests
    exact ⟨houtcome, hbuffer, hrequests, congrArg (events ++ ·) hevents, congrArg (dropped ++ ·) hdropped⟩

end Attempt

namespace Buffer

theorem source_store (value : α) (buffer : Buffer α) (source : σ) :
    (buffer.store value source).source = source := by
  unfold store
  cases buffer.block.push value <;> rfl

theorem store_alike (value : α) (buffer : Buffer α) (room : Nat) {source : Transcript σ}
    {source' : Transcript τ} (hrequests : source.requests = source'.requests) :
    (buffer.store value source).Alike ((buffer.withRoom room).store value source') := by
  have hpush : (buffer.withRoom room).block.push value =
      (buffer.block.push value).map fun block => { block with room := room } := by
    unfold Block.push
    by_cases hfree : buffer.block.length < buffer.block.capacity
    · rw [if_pos hfree]
      exact if_pos hfree
    · rw [if_neg hfree]
      exact if_neg hfree
  unfold store
  rw [hpush]
  cases buffer.block.push value <;> exact ⟨rfl, ⟨room, rfl⟩, hrequests, rfl, rfl⟩

section

variable [Sized α] [BlockSource σ] [BlockSource τ] {source : Transcript σ} {source' : Transcript τ}

omit [BlockSource τ] in
theorem source_replaceBlock (capacity : Nat) (reason : Reason) (buffer : Buffer α) (source : σ) :
    (buffer.replaceBlock capacity reason source).source = (Block.allocate (α := α) capacity source).2 := by
  unfold replaceBlock
  generalize Block.allocate (α := α) capacity source = allocation
  obtain ⟨result, next⟩ := allocation
  rcases result with denial | block
  · cases denial <;> rfl
  · simp only
    cases buffer.block.moveInto block <;> rfl

/-- The elements fit into both blocks, or stay where they are. -/
theorem replaceBlock_corresponds {capacity : Nat} (reason : Reason) {buffer : Buffer α}
    (hlength : buffer.length ≤ capacity) (room : Nat) (hrequests : source.requests = source'.requests) :
    (buffer.replaceBlock capacity reason source).Corresponds
      ((buffer.withRoom room).replaceBlock capacity reason source') := by
  intro hagree
  rw [source_replaceBlock, source_replaceBlock] at hagree
  obtain ⟨hafter, hcases⟩ := Block.allocate_alike capacity hrequests hagree
  unfold replaceBlock
  generalize Block.allocate (α := α) capacity source = first at hafter hcases
  generalize Block.allocate (α := α) capacity source' = second at hafter hcases
  obtain ⟨result, next⟩ := first
  obtain ⟨result', next'⟩ := second
  rcases hcases with ⟨granted, granted', rfl, rfl⟩ | ⟨denial, rfl, rfl⟩
  · obtain ⟨old, hmove, hold⟩ :=
      Block.moveInto_of_le granted (show buffer.block.length ≤ capacity from hlength)
    obtain ⟨old', hmove', hold'⟩ :=
      Block.moveInto_of_le granted' (show (buffer.withRoom room).block.length ≤ capacity from hlength)
    simp only [hmove, hmove']
    exact ⟨rfl, ⟨granted', rfl⟩, hafter, rfl, hold.trans hold'.symm⟩
  · cases denial <;> exact ⟨rfl, ⟨room, rfl⟩, hafter, rfl, rfl⟩

theorem enlarge_corresponds {capacity : Nat} (reason : Reason) {buffer : Buffer α}
    (hlength : buffer.length ≤ capacity) (room : Nat) (hrequests : source.requests = source'.requests) :
    (buffer.enlarge capacity reason source).Corresponds
      ((buffer.withRoom room).enlarge capacity reason source') :=
  (replaceBlock_corresponds reason hlength room hrequests).andThen (fun _ _ => rfl) (fun _ _ => rfl)
    fun _ room _ _ hrequests => ⟨rfl, ⟨room, rfl⟩, hrequests, rfl, rfl⟩

theorem grow_corresponds {buffer : Buffer α} (hlength : buffer.length ≤ buffer.capacity) (room : Nat)
    (hrequests : source.requests = source'.requests) :
    (buffer.grow source).Corresponds ((buffer.withRoom room).grow source') := by
  rw [grow, grow, grownCapacity_withRoom, capacity_withRoom]
  by_cases hceiling : buffer.grownCapacity ≤ buffer.capacity
  · rw [if_pos hceiling, if_pos hceiling]
    exact fun _ => ⟨rfl, ⟨room, rfl⟩, hrequests, rfl, rfl⟩
  · rw [if_neg hceiling, if_neg hceiling]
    exact enlarge_corresponds .append (show buffer.length ≤ buffer.grownCapacity by omega) room hrequests

theorem push_corresponds {buffer : Buffer α} (hlength : buffer.length ≤ buffer.capacity) (value : α)
    (room : Nat) (hrequests : source.requests = source'.requests) :
    (buffer.push value source).Corresponds ((buffer.withRoom room).push value source') := by
  rw [push, push, isFull_withRoom]
  by_cases hfull : buffer.isFull = true
  · rw [if_pos hfull, if_pos hfull]
    exact (grow_corresponds hlength room hrequests).andThen (source_store value) (source_store value)
      fun buffer room _ _ hrequests => store_alike value buffer room hrequests
  · rw [if_neg hfull, if_neg hfull]
    exact fun _ => store_alike value buffer room hrequests

/-- What happened up to the first push is part of what happened in the whole run of pushes. -/
theorem exchanges_push_earlier {buffer : Buffer α} (hlength : buffer.length ≤ buffer.capacity) (value : α)
    (values : List α) (source : Transcript σ) :
    (buffer.push value source).source.exchanges <+:
      (buffer.pushAll (value :: values) source).source.exchanges := by
  cases houtcome : (buffer.push value source).outcome with
  | error halt =>
    have hall : (buffer.pushAll (value :: values) source).source = (buffer.push value source).source := by
      rw [pushAll_cons_of_error houtcome]
    exact ⟨[], by rw [hall, List.append_nil]⟩
  | ok _ =>
    rw [pushAll_cons_of_ok houtcome]
    have hnext := (Evolves.refl.push hlength value source).length_le hlength
    exact (asked_pushAll hnext values _).exchanges_earlier

theorem pushAll_alike (values : List α) {buffer : Buffer α} (hlength : buffer.length ≤ buffer.capacity)
    (room : Nat) (hrequests : source.requests = source'.requests)
    (hagree : Agree (buffer.pushAll values source).source.exchanges
      ((buffer.withRoom room).pushAll values source').source.exchanges) :
    (buffer.pushAll values source).Alike ((buffer.withRoom room).pushAll values source') := by
  induction values generalizing buffer room source source' with
  | nil => exact ⟨⟨rfl, ⟨room, rfl⟩, hrequests, rfl, rfl⟩, rfl, rfl⟩
  | cons value values ih =>
    -- what is judged alike in the end was so after the first push
    have hfirst := push_corresponds hlength value room hrequests
      (hagree.of_earlier (exchanges_push_earlier hlength value values source)
        (exchanges_push_earlier (show (buffer.withRoom room).length ≤ _ from hlength) value values source'))
    obtain ⟨houtcome', ⟨room', hbuffer⟩, hnext, hevents, hdropped⟩ := hfirst
    cases houtcome : (buffer.push value source).outcome with
    | error halt =>
      rw [houtcome] at houtcome'
      rw [pushAll_cons_of_error houtcome, pushAll_cons_of_error houtcome'.symm]
      exact ⟨⟨houtcome.trans houtcome', ⟨room', hbuffer⟩, hnext, hevents, hdropped⟩, rfl, rfl⟩
    | ok _ =>
      -- the buffers after the first push are alike, and so are the runs of pushes from there on
      rw [houtcome] at houtcome'
      rw [pushAll_cons_of_ok houtcome, pushAll_cons_of_ok houtcome'.symm] at hagree ⊢
      simp only [hbuffer] at hagree ⊢
      have hlength' := (Evolves.refl.push hlength value source).length_le hlength
      obtain ⟨⟨hrest, hbuffers, hafter, hmore, hlater⟩, htaken, hunstored⟩ := ih hlength' room' hnext hagree
      exact ⟨⟨hrest, hbuffers, hafter, by rw [hevents, hmore], by rw [hdropped, hlater]⟩, by rw [htaken], hunstored⟩

theorem extend_alike (values : List α) {buffer : Buffer α} (hlength : buffer.length ≤ buffer.capacity)
    (room : Nat) (hrequests : source.requests = source'.requests)
    (hagree : Agree (buffer.extend values source).source.exchanges
      ((buffer.withRoom room).extend values source').source.exchanges) :
    (buffer.extend values source).Alike ((buffer.withRoom room).extend values source') := by
  rw [extend_source, extend_source] at hagree
  have halike := pushAll_alike values hlength room hrequests hagree
  unfold extend
  generalize buffer.pushAll values source = first at halike
  generalize (buffer.withRoom room).pushAll values source' = second at halike
  obtain ⟨⟨outcome, after, next, events, dropped⟩, taken, unstored⟩ := first
  obtain ⟨⟨outcome', after', next', events', dropped'⟩, taken', unstored'⟩ := second
  obtain ⟨⟨houtcome, hbuffer, hafter, hevents, hdropped⟩, htaken, hunstored⟩ := halike
  simp only at houtcome
  subst houtcome
  cases outcome with
  | ok _ => exact ⟨⟨rfl, hbuffer, hafter, hevents, hdropped⟩, htaken, hunstored⟩
  | error halt => cases halt <;> exact ⟨⟨rfl, hbuffer, hafter, hevents, hdropped⟩, htaken, hunstored⟩

theorem reserve_corresponds (additional : Nat) (buffer : Buffer α) (room : Nat)
    (hrequests : source.requests = source'.requests) :
    (buffer.reserve additional source).Corresponds
      ((buffer.withRoom room).reserve additional source') := by
  rw [reserve, reserve, length_withRoom, capacity_withRoom, config_withRoom]
  cases hsum : sum? buffer.length additional with
  | none => exact fun _ => ⟨rfl, ⟨room, rfl⟩, hrequests, rfl, rfl⟩
  | some needed =>
    obtain ⟨rfl, -⟩ := sum?_eq_some_iff.1 hsum
    simp only
    by_cases hroom : buffer.length + additional ≤ buffer.capacity
    · rw [if_pos hroom, if_pos hroom]
      exact fun _ => ⟨rfl, ⟨room, rfl⟩, hrequests, rfl, rfl⟩
    · rw [if_neg hroom, if_neg hroom]
      by_cases hceiling : buffer.config.ceiling < buffer.length + additional
      · rw [if_pos hceiling, if_pos hceiling]
        exact fun _ => ⟨rfl, ⟨room, rfl⟩, hrequests, rfl, rfl⟩
      · rw [if_neg hceiling, if_neg hceiling]
        have hneeded := le_reservedCapacity (Nat.le_of_not_lt hceiling)
        exact enlarge_corresponds .reserve
          (show buffer.length ≤ buffer.reservedCapacity (buffer.length + additional) by omega) room hrequests

theorem fit_corresponds (buffer : Buffer α) (room : Nat) (hrequests : source.requests = source'.requests) :
    (buffer.fit source).Corresponds ((buffer.withRoom room).fit source') := by
  rw [fit, fit, isFull_withRoom, length_withRoom]
  by_cases hfull : buffer.isFull = true
  · rw [if_pos hfull, if_pos hfull]
    exact fun _ => ⟨rfl, ⟨room, rfl⟩, hrequests, rfl, rfl⟩
  · rw [if_neg hfull, if_neg hfull]
    exact replaceBlock_corresponds .shrink (Nat.le_refl _) room hrequests

/-! ### Building -/

omit [BlockSource τ] in
theorem source_build (id : BufferId) {config : Config} (hvalid : config.validate = .ok ()) (source : σ) :
    (build (α := α) id config source).source = (Block.allocate (α := α) config.initial source).2 := by
  simp only [build, hvalid]
  generalize Block.allocate (α := α) config.initial source = allocation
  obtain ⟨result, next⟩ := allocation
  rcases result with denial | block
  · cases denial <;> rfl
  · rfl

theorem build_alike (id : BufferId) (config : Config) (hrequests : source.requests = source'.requests)
    (hagree : Agree (build (α := α) id config source).source.exchanges
      (build (α := α) id config source').source.exchanges) :
    (build (α := α) id config source).Alike (build (α := α) id config source') := by
  cases hvalid : config.validate with
  | error fault =>
    simp only [build, hvalid]
    exact ⟨.inr ⟨_, rfl, rfl⟩, hrequests, rfl⟩
  | ok _ =>
    rw [source_build id hvalid, source_build id hvalid] at hagree
    obtain ⟨hafter, hcases⟩ := Block.allocate_alike config.initial hrequests hagree
    simp only [build, hvalid]
    generalize Block.allocate (α := α) config.initial source = first at hafter hcases
    generalize Block.allocate (α := α) config.initial source' = second at hafter hcases
    obtain ⟨result, next⟩ := first
    obtain ⟨result', next'⟩ := second
    rcases hcases with ⟨granted, granted', rfl, rfl⟩ | ⟨denial, rfl, rfl⟩
    · exact ⟨.inl ⟨_, granted', rfl, rfl⟩, hafter, rfl⟩
    · cases denial <;> exact ⟨.inr ⟨_, rfl, rfl⟩, hafter, rfl⟩

omit [BlockSource τ] in
theorem source_copy (id : BufferId) (buffer : Buffer α) (source : σ) :
    (buffer.copy id source).source = (Block.allocate (α := α) buffer.length source).2 := by
  unfold copy
  generalize Block.allocate (α := α) buffer.length source = allocation
  obtain ⟨result, next⟩ := allocation
  rcases result with denial | block
  · cases denial <;> rfl
  · simp only
    cases block.pushEach buffer.toList <;> rfl

theorem copy_alike (id : BufferId) (buffer : Buffer α) (room : Nat)
    (hrequests : source.requests = source'.requests)
    (hagree : Agree (buffer.copy id source).source.exchanges
      ((buffer.withRoom room).copy id source').source.exchanges) :
    (buffer.copy id source).toConstruction.Alike ((buffer.withRoom room).copy id source').toConstruction := by
  rw [source_copy, source_copy, length_withRoom] at hagree
  obtain ⟨hafter, hcases⟩ := Block.allocate_alike buffer.length hrequests hagree
  rw [copy, copy, length_withRoom, toList_withRoom, config_withRoom]
  generalize Block.allocate (α := α) buffer.length source = first at hafter hcases
  generalize Block.allocate (α := α) buffer.length source' = second at hafter hcases
  obtain ⟨result, next⟩ := first
  obtain ⟨result', next'⟩ := second
  rcases hcases with ⟨granted, granted', rfl, rfl⟩ | ⟨denial, rfl, rfl⟩
  · simp only [pushEach_toList]
    exact ⟨.inl ⟨_, granted', rfl, rfl⟩, hafter, rfl⟩
  · cases denial <;> exact ⟨.inr ⟨_, rfl, rfl⟩, hafter, rfl⟩

end

end Buffer

/-! ### Actions -/

/-- The answer with nothing told of the state of a source. -/
def Answer.shown (answer : Answer σ α) : Answer Unit α := answer.mapSource fun _ => ()

/-- What became of two actions is alike. -/
structure Effect.Alike (first : Effect (Transcript σ) α) (second : Effect (Transcript τ) α) : Prop where
  /-- The answers are the same, or there is none for the same reason. -/
  outcome_eq : first.outcome.map Answer.shown = second.outcome.map Answer.shown
  /-- The buffers are alike. -/
  buffer : first.buffer.Alike second.buffer
  /-- The requests are the same. -/
  requests_eq : first.source.requests = second.source.requests
  /-- The reports on the way are the same. -/
  events_eq : first.events = second.events
  /-- The same values were handed to the caller. -/
  returned_eq : first.returned = second.returned
  /-- The same values ended. -/
  dropped_eq : first.dropped = second.dropped

namespace Effect

theorem ofAttempt_alike {first : Attempt (Transcript σ) α} {second : Attempt (Transcript τ) α}
    (h : first.Alike second) : (ofAttempt first).Alike (ofAttempt second) := by
  obtain ⟨outcome, buffer, source, events, dropped⟩ := first
  obtain ⟨outcome', buffer', source', events', dropped'⟩ := second
  obtain ⟨rfl, hbuffer, hrequests, hevents, hdropped⟩ := h
  cases outcome <;> exact ⟨rfl, hbuffer, hrequests, hevents, rfl, hdropped⟩

theorem ofPush_alike (value : α) {first : Attempt (Transcript σ) α} {second : Attempt (Transcript τ) α}
    (h : first.Alike second) : (ofPush value first).Alike (ofPush value second) := by
  obtain ⟨houtcome, hbuffer, hrequests, hevents, hreturned, -⟩ := ofAttempt_alike h
  refine ⟨houtcome, hbuffer, hrequests, hevents, hreturned, ?_⟩
  simp only [ofPush, h.outcome_eq, h.dropped_eq]

theorem ofIntake_alike {first : Intake (Transcript σ) α} {second : Intake (Transcript τ) α}
    (h : first.Alike second) : (ofIntake first).Alike (ofIntake second) := by
  obtain ⟨⟨outcome, buffer, source, events, dropped⟩, taken, unstored⟩ := first
  obtain ⟨⟨outcome', buffer', source', events', dropped'⟩, taken', unstored'⟩ := second
  obtain ⟨⟨rfl, hbuffer, hrequests, hevents, rfl⟩, rfl, rfl⟩ := h
  cases outcome <;> exact ⟨rfl, hbuffer, hrequests, hevents, rfl, rfl⟩

end Effect

namespace Buffer

/-! Writing to an element does not see the room either. -/

theorem swapAt?_withRoom (index : Nat) (value : α) (room : Nat) (buffer : Buffer α) :
    (buffer.withRoom room).swapAt? index value =
      (buffer.swapAt? index value).map fun result => (result.1, result.2.withRoom room) := by
  by_cases hindex : index < buffer.length
  · obtain ⟨old, hold⟩ := exists_getElem? hindex
    rw [swapAt?_of_some value hold]
    exact swapAt?_of_some value hold
  · rw [swapAt?_of_le value (Nat.not_lt.1 hindex)]
    exact swapAt?_of_le value (Nat.not_lt.1 hindex)

theorem swapAt_withRoom (index : Nat) (value : α) (room : Nat) (buffer : Buffer α) :
    (buffer.withRoom room).swapAt index value =
      (buffer.swapAt index value).map fun result => (result.1, result.2.withRoom room) := by
  by_cases hindex : index < buffer.length
  · obtain ⟨old, hold⟩ := exists_getElem? hindex
    rw [swapAt_of_some value hold]
    exact swapAt_of_some value hold
  · rw [swapAt_of_le value (Nat.not_lt.1 hindex)]
    exact swapAt_of_le value (Nat.not_lt.1 hindex)

theorem resolveSwap_withRoom (r : Reference) (value : α) (room : Nat) (buffer : Buffer α) :
    (buffer.withRoom room).resolveSwap r value =
      (buffer.resolveSwap r value).map fun result => (result.1, result.2.withRoom room) := by
  have hlocate : (buffer.withRoom room).locate r = buffer.locate r := rfl
  rw [resolveSwap, resolveSwap, hlocate]
  cases buffer.locate r with
  | error fault => rfl
  | ok index =>
    simp only [swapAt_withRoom]
    cases buffer.swapAt index value <;> rfl

end Buffer

/-- An action within the block does not see the room. -/
theorem Action.perform_alike_inPlace [Element α] [BlockSource σ] [BlockSource τ] {action : Action α}
    (hplace : action.mayAllocate = false) (buffer : Buffer α) (room : Nat) {source : Transcript σ}
    {source' : Transcript τ} (hrequests : source.requests = source'.requests) :
    (action.perform buffer source).Alike (action.perform (buffer.withRoom room) source') := by
  cases action with
  | put i value =>
    simp only [perform, Buffer.swapAt?_withRoom]
    cases buffer.swapAt? i value <;> exact ⟨rfl, ⟨room, rfl⟩, hrequests, rfl, rfl, rfl⟩
  | putIndex i value =>
    simp only [perform, Buffer.swapAt_withRoom]
    cases buffer.swapAt i value <;> exact ⟨rfl, ⟨room, rfl⟩, hrequests, rfl, rfl, rfl⟩
  | overwrite reference value =>
    simp only [perform, Buffer.resolveSwap_withRoom]
    cases buffer.resolveSwap reference value <;> exact ⟨rfl, ⟨room, rfl⟩, hrequests, rfl, rfl, rfl⟩
  | elementAt i =>
    simp only [perform, show (buffer.withRoom room).elementAt i = buffer.elementAt i from rfl]
    cases buffer.elementAt i <;> exact ⟨rfl, ⟨room, rfl⟩, hrequests, rfl, rfl, rfl⟩
  | index i =>
    simp only [perform, show (buffer.withRoom room).index i = buffer.index i from rfl]
    cases buffer.index i <;> exact ⟨rfl, ⟨room, rfl⟩, hrequests, rfl, rfl, rfl⟩
  | refer i =>
    simp only [perform, show (buffer.withRoom room).refer i = buffer.refer i from rfl]
    cases buffer.refer i <;> exact ⟨rfl, ⟨room, rfl⟩, hrequests, rfl, rfl, rfl⟩
  | resolve reference =>
    refine ⟨?_, ⟨room, rfl⟩, hrequests, rfl, rfl, rfl⟩
    simp only [perform, show (buffer.withRoom room).resolve reference = buffer.resolve reference from rfl]
    cases buffer.resolve reference <;> rfl
  | push | pushAll | extend | reserve | fit => cases hplace
  | pop | truncate | clear | get | elements | backwards | reverse | bumpAll | bumpAlternate | plainText
  | prettyText | config | source | isLive =>
    exact ⟨rfl, ⟨room, rfl⟩, hrequests, rfl, rfl, rfl⟩

/-- **An action sees its source through the judgements only.** -/
theorem Action.perform_alike [Element α] [BlockSource σ] [BlockSource τ] (action : Action α) {buffer : Buffer α}
    (hlength : buffer.length ≤ buffer.capacity) (room : Nat) {source : Transcript σ}
    {source' : Transcript τ} (hrequests : source.requests = source'.requests)
    (hagree : Agree (action.perform buffer source).source.exchanges
      (action.perform (buffer.withRoom room) source').source.exchanges) :
    (action.perform buffer source).Alike (action.perform (buffer.withRoom room) source') := by
  by_cases hplace : action.mayAllocate = false
  · exact perform_alike_inPlace hplace buffer room hrequests
  · cases action with
    | push value => exact Effect.ofPush_alike value (Buffer.push_corresponds hlength value room hrequests hagree)
    | pushAll values => exact Effect.ofIntake_alike (Buffer.pushAll_alike values hlength room hrequests hagree)
    | extend values => exact Effect.ofIntake_alike (Buffer.extend_alike values hlength room hrequests hagree)
    | reserve additional =>
      exact Effect.ofAttempt_alike (Buffer.reserve_corresponds additional buffer room hrequests hagree)
    | fit => exact Effect.ofAttempt_alike (Buffer.fit_corresponds buffer room hrequests hagree)
    | _ => exact absurd rfl hplace

end ElasticBuffer
