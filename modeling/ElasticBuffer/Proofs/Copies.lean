import ElasticBuffer.Proofs.Demands

/-!
# Copies

A copy of a buffer and the buffer itself after it gave up its free slots came about in different ways: the one by
copying element after element into a new block, the other by moving them all. Yet nobody who calls the one and the other can
tell them apart, unless by their identities and generations. Both are *twins* (`Buffer.Twin`): they hold the same
values in equally many slots with the same settings, and the second is so many generations and so many growths ahead
of the first.

What a call needs and what it gives depends on nothing else, so calls keep twins twins, as long as their sources grant
the blocks (`Action.perform_twin`). `Session.copy_behaves_as_fitted` says what follows for any sequence of calls.
-/

namespace ElasticBuffer

variable {σ τ α : Type} {k : Nat}

theorem Generation.initial_advance (generation : Generation) :
    Generation.initial.advance generation.count.toNat = generation := by
  ext
  simp [advance, initial]

/-! ### Twins -/

namespace Buffer

/-- The buffers hold the same values in equally many slots with the same settings. The second is `lead` generations and
`growths` growths ahead of the first. -/
structure Twin (lead growths : Nat) (first second : Buffer (Item α)) : Prop where
  /-- The values are the same. -/
  values_eq : first.toList.map Item.value = second.toList.map Item.value
  /-- There are equally many slots. -/
  capacity_eq : first.capacity = second.capacity
  /-- The settings are the same. -/
  config_eq : first.config = second.config
  /-- The second went on by so many generations more. -/
  generation_eq : second.generation = first.generation.advance lead
  /-- The second had so many growths more. -/
  growthEvents_eq : second.growthEvents = first.growthEvents + growths

namespace Twin

variable {lead growths : Nat} {first second : Buffer (Item α)}

theorem length_eq (h : Twin lead growths first second) : first.length = second.length := by
  rw [← length_toList, ← List.length_map Item.value, h.values_eq, List.length_map, length_toList]

theorem demands_eq {β : Type} (h : Twin lead growths first second) (action : Action β) :
    action.demands first = action.demands second := by
  cases action with
  | push value => simp only [Action.demands, pushDemands, h.config_eq, h.length_eq, h.capacity_eq]
  | pushAll values => simp only [Action.demands, pushDemands, h.config_eq, h.length_eq, h.capacity_eq]
  | extend values => simp only [Action.demands, pushDemands, h.config_eq, h.length_eq, h.capacity_eq]
  | reserve additional =>
    simp only [Action.demands, reserveDemands, reservedCapacity, h.config_eq, h.length_eq, h.capacity_eq]
  | fit => simp only [Action.demands, fitDemands, h.length_eq, h.capacity_eq]
  | _ => rfl

/-- The values may change where they stand. -/
theorem withElements (h : Twin lead growths first second) {elements elements' : Array (Item α)}
    (hvalues : elements.toList.map Item.value = elements'.toList.map Item.value) :
    Twin lead growths (first.withElements elements) (second.withElements elements') :=
  ⟨hvalues, h.capacity_eq, h.config_eq, h.generation_eq, h.growthEvents_eq⟩

/-- The same value, in whichever numbers, may be stored in both. -/
theorem append (h : Twin lead growths first second) (value : α) (start start' : Nat) :
    Twin lead growths (first.append ⟨start, value⟩) (second.append ⟨start', value⟩) := by
  refine ⟨?_, h.capacity_eq, h.config_eq, h.generation_eq, h.growthEvents_eq⟩
  rw [toList_append, toList_append, List.map_append, List.map_append, h.values_eq, List.map_singleton,
    List.map_singleton]

/-- Both may move into blocks of equally many slots. -/
theorem rehouse (h : Twin lead growths first second) (capacity room room' more : Nat) :
    Twin lead growths (first.rehouse capacity room more) (second.rehouse capacity room' more) := by
  refine ⟨h.values_eq, rfl, h.config_eq, ?_, ?_⟩
  · show second.generation.next = first.generation.next.advance lead
    rw [h.generation_eq, Generation.next_advance, Generation.next_eq_advance, Generation.advance_advance,
      Nat.add_comm]
  · show second.growthEvents + more = first.growthEvents + more + growths
    rw [h.growthEvents_eq]
    omega

end Twin

end Buffer

/-- Two calls have the same outcome, and leave twins. -/
structure Attempt.Twin (lead growths : Nat) (first : Attempt σ (Item α)) (second : Attempt τ (Item α)) : Prop where
  /-- Both were carried out, or failed for the same reason. -/
  outcome_eq : first.outcome = second.outcome
  /-- The buffers are twins. -/
  buffer : first.buffer.Twin lead growths second.buffer

/-! ### Calls on twins -/

namespace Buffer.Twin

variable [Sized α] [BlockSource σ] [BlockSource τ] {lead growths : Nat} {first second : Buffer (Item α)}
  {source : σ} {source' : τ}

theorem replaceBlock (h : Twin lead growths first second) {capacity : Nat} (reason : Reason)
    (hlength : first.length ≤ capacity) (hgrants : Grants (Sized.bytes α) (Block.demands capacity) source)
    (hgrants' : Grants (Sized.bytes α) (Block.demands capacity) source') :
    (first.replaceBlock capacity reason source).Twin lead growths (second.replaceBlock capacity reason source') := by
  rcases replaceBlock_settled reason source hlength with ⟨-, room, events, hfirst⟩ | ⟨hdenied, -⟩
  · rcases replaceBlock_settled reason source' (h.length_eq ▸ hlength) with
      ⟨-, room', events', hsecond⟩ | ⟨hdenied, -⟩
    · rw [hfirst, hsecond]
      exact ⟨rfl, h.rehouse capacity room room' 0⟩
    · exact absurd hgrants' hdenied
  · exact absurd hgrants hdenied

theorem enlarge (h : Twin lead growths first second) {capacity : Nat} (reason : Reason)
    (hlength : first.length ≤ capacity) (hgrants : Grants (Sized.bytes α) (Block.demands capacity) source)
    (hgrants' : Grants (Sized.bytes α) (Block.demands capacity) source') :
    (first.enlarge capacity reason source).Twin lead growths (second.enlarge capacity reason source') := by
  rcases enlarge_settled reason source hlength with ⟨-, room, events, hfirst⟩ | ⟨hdenied, -⟩
  · rcases enlarge_settled reason source' (h.length_eq ▸ hlength) with ⟨-, room', events', hsecond⟩ | ⟨hdenied, -⟩
    · rw [hfirst, hsecond]
      exact ⟨rfl, h.rehouse capacity room room' 1⟩
    · exact absurd hgrants' hdenied
  · exact absurd hgrants hdenied

/-- Both find a free slot, or both the ceiling, or both a new block. -/
theorem push (value : α) (start start' : Nat) (h : Twin lead growths first second)
    (hlength : first.length ≤ first.capacity) (hgrants : Grants (Sized.bytes α) (first.pushDemands 1) source)
    (hgrants' : Grants (Sized.bytes α) (first.pushDemands 1) source') :
    (first.push ⟨start, value⟩ source).Twin lead growths (second.push ⟨start', value⟩ source') := by
  by_cases hfree : first.length < first.capacity
  · have hfree' : second.length < second.capacity := by rw [← h.length_eq, ← h.capacity_eq]; exact hfree
    rw [push_of_lt _ source hfree, push_of_lt _ source' hfree']
    exact ⟨rfl, h.append value start start'⟩
  · have hfull : first.length = first.capacity := by omega
    have hfull' : second.length = second.capacity := by rw [← h.length_eq, ← h.capacity_eq]; exact hfull
    by_cases hceiling : first.config.grow first.capacity ≤ first.capacity
    · obtain ⟨events, hfirst⟩ := push_of_ceiling ⟨start, value⟩ source hfull hceiling
      obtain ⟨events', hsecond⟩ := push_of_ceiling ⟨start', value⟩ source' hfull'
        (by rw [← h.config_eq, ← h.capacity_eq]; exact hceiling)
      rw [hfirst, hsecond, ← h.config_eq, ← h.capacity_eq]
      exact ⟨rfl, h⟩
    · have hgrown : first.capacity < first.config.grow first.capacity := Nat.lt_of_not_le hceiling
      rw [pushDemands, Config.pushDemands_of_full 0 hfull hgrown] at hgrants hgrants'
      have hgrown' : second.grownCapacity = first.config.grow first.capacity := by
        rw [grownCapacity_eq, ← h.config_eq, ← h.capacity_eq]
      obtain ⟨room, events, hfirst⟩ := push_of_accepts ⟨start, value⟩ hfull hgrown hgrants.1
      obtain ⟨room', events', hsecond⟩ := push_of_accepts ⟨start', value⟩ hfull'
        (by rw [hgrown', ← h.capacity_eq]; exact hgrown) (by rw [hgrown']; exact hgrants'.1)
      rw [hfirst, hsecond, hgrown']
      exact ⟨rfl, (h.rehouse _ room room' 1).append value start start'⟩

/-- What is left for the later pushes is granted after the first one. -/
theorem grants_rest {buffer : Buffer (Item α)} (hlength : buffer.length ≤ buffer.capacity) {count : Nat}
    (item : Item α) (hgrants : Grants (Sized.bytes α) (buffer.pushDemands (count + 1)) source) :
    Grants (Sized.bytes α) (buffer.pushDemands 1) source ∧
      ((buffer.push item source).outcome = .ok () →
        Grants (Sized.bytes α) ((buffer.push item source).buffer.pushDemands count)
          (buffer.push item source).source) := by
  obtain ⟨rest, hsplit, hrest⟩ := pushDemands_succ hlength count item source
  rw [hsplit, grants_append] at hgrants
  refine ⟨hgrants.1, fun hok => ?_⟩
  have hsource : (buffer.push item source).source =
      requestAll (Sized.bytes α) (buffer.pushDemands 1) source := by
    rw [source_push hlength]
    exact congrArg (requestAll (Sized.bytes α) · source) (untilDenied_of_grants hgrants.1)
  rw [hsource, ← hrest hok]
  exact hgrants.2

/-- Series of the same values, in whichever numbers, are carried out alike. -/
theorem pushAll (values : List α) (start start' : Nat) (h : Twin lead growths first second)
    (hlength : first.length ≤ first.capacity)
    (hgrants : Grants (Sized.bytes α) (first.pushDemands values.length) source)
    (hgrants' : Grants (Sized.bytes α) (first.pushDemands values.length) source') :
    (first.pushAll (Item.number start values) source).toAttempt.Twin lead growths
        (second.pushAll (Item.number start' values) source').toAttempt ∧
      (first.pushAll (Item.number start values) source).taken =
        (second.pushAll (Item.number start' values) source').taken := by
  induction values generalizing first second source source' start start' with
  | nil => exact ⟨⟨rfl, h⟩, rfl⟩
  | cons value values ih =>
    have hlength' : second.length ≤ second.capacity := by rw [← h.length_eq, ← h.capacity_eq]; exact hlength
    have hsame (count : Nat) : first.pushDemands count = second.pushDemands count := by
      simp only [pushDemands, h.config_eq, h.length_eq, h.capacity_eq]
    obtain ⟨hfirst, hrest⟩ := grants_rest hlength ⟨start, value⟩ hgrants
    rw [hsame] at hgrants'
    obtain ⟨hsecond, hrest'⟩ := grants_rest hlength' ⟨start', value⟩ hgrants'
    rw [← hsame] at hsecond
    obtain ⟨houtcome, hbuffer⟩ := h.push value start start' hlength hfirst hsecond
    rw [Item.number, Item.number]
    cases hpush : (first.push ⟨start, value⟩ source).outcome with
    | error halt =>
      rw [hpush] at houtcome
      rw [pushAll_cons_of_error hpush, pushAll_cons_of_error houtcome.symm]
      exact ⟨⟨hpush.trans houtcome, hbuffer⟩, rfl⟩
    | ok _ =>
      rw [hpush] at houtcome
      have hnext := (Evolves.refl.push hlength ⟨start, value⟩ source).length_le hlength
      have hneeds := hrest' houtcome.symm
      rw [show (second.push ⟨start', value⟩ source').buffer.pushDemands values.length =
        (first.push ⟨start, value⟩ source).buffer.pushDemands values.length from
          (hbuffer.demands_eq (Action.pushAll values)).symm] at hneeds
      obtain ⟨⟨houtcomes, hbuffers⟩, htaken⟩ := ih (start + 1) (start' + 1) hbuffer hnext (hrest hpush) hneeds
      rw [pushAll_cons_of_ok hpush, pushAll_cons_of_ok houtcome.symm]
      exact ⟨⟨houtcomes, hbuffers⟩, congrArg (· + 1) htaken⟩

theorem extend (values : List α) (start start' : Nat) (h : Twin lead growths first second)
    (hlength : first.length ≤ first.capacity)
    (hgrants : Grants (Sized.bytes α) (first.pushDemands values.length) source)
    (hgrants' : Grants (Sized.bytes α) (first.pushDemands values.length) source') :
    (first.extend (Item.number start values) source).toAttempt.Twin lead growths
        (second.extend (Item.number start' values) source').toAttempt ∧
      (first.extend (Item.number start values) source).taken =
        (second.extend (Item.number start' values) source').taken := by
  have htwin := h.pushAll values start start' hlength hgrants hgrants'
  unfold Buffer.extend
  generalize first.pushAll (Item.number start values) source = intake at htwin
  generalize second.pushAll (Item.number start' values) source' = intake' at htwin
  obtain ⟨⟨outcome, buffer, next, events, dropped⟩, taken, unstored⟩ := intake
  obtain ⟨⟨outcome', buffer', next', events'⟩, taken', unstored'⟩ := intake'
  obtain ⟨⟨houtcome, hbuffer⟩, htaken⟩ := htwin
  cases houtcome
  cases outcome with
  | ok _ => exact ⟨⟨rfl, hbuffer⟩, htaken⟩
  | error halt =>
    cases halt with
    | fault cause => exact ⟨⟨rfl, hbuffer⟩, htaken⟩
    | panic cause => exact ⟨⟨rfl, hbuffer⟩, htaken⟩

theorem reserve (additional : Nat) (h : Twin lead growths first second)
    (hgrants : Grants (Sized.bytes α) (first.reserveDemands additional) source)
    (hgrants' : Grants (Sized.bytes α) (first.reserveDemands additional) source') :
    (first.reserve additional source).Twin lead growths (second.reserve additional source') := by
  by_cases hneed : first.capacity < first.length + additional ∧ first.length + additional ≤ first.config.ceiling
  · obtain ⟨hroom, hbelow⟩ := hneed
    have hcapacity : second.reservedCapacity (second.length + additional) =
        first.reservedCapacity (first.length + additional) := by
      simp only [reservedCapacity, h.config_eq, h.length_eq, h.capacity_eq]
    have hneeded := le_reservedCapacity hbelow
    rw [reserveDemands, if_pos ⟨hroom, hbelow⟩] at hgrants hgrants'
    rw [reserve_eq_enlarge source hroom hbelow,
      reserve_eq_enlarge source' (by rw [← h.capacity_eq, ← h.length_eq]; exact hroom)
        (by rw [← h.config_eq, ← h.length_eq]; exact hbelow), hcapacity]
    exact h.enlarge .reserve (by omega) hgrants hgrants'
  · -- room that is there, or that cannot be made, has nothing to do with the sources
    rw [Buffer.reserve, Buffer.reserve, ← h.length_eq, ← h.capacity_eq, ← h.config_eq]
    cases hsum : sum? first.length additional with
    | none => exact ⟨rfl, h⟩
    | some needed =>
      obtain ⟨rfl, -⟩ := sum?_eq_some_iff.1 hsum
      simp only
      by_cases hroom : first.length + additional ≤ first.capacity
      · rw [if_pos hroom, if_pos hroom]
        exact ⟨rfl, h⟩
      · rw [if_neg hroom, if_neg hroom, if_pos (by omega), if_pos (by omega)]
        exact ⟨rfl, h⟩

theorem fit (h : Twin lead growths first second) (hgrants : Grants (Sized.bytes α) first.fitDemands source)
    (hgrants' : Grants (Sized.bytes α) first.fitDemands source') :
    (first.fit source).Twin lead growths (second.fit source') := by
  by_cases hfull : first.length = first.capacity
  · have hfull' : second.length = second.capacity := by rw [← h.length_eq, ← h.capacity_eq]; exact hfull
    rw [Buffer.fit, Buffer.fit, if_pos (isFull_iff.2 hfull), if_pos (isFull_iff.2 hfull')]
    exact ⟨rfl, h⟩
  · have hfree' : second.length ≠ second.capacity := by rw [← h.length_eq, ← h.capacity_eq]; exact hfull
    rw [fitDemands, if_neg hfull] at hgrants hgrants'
    rw [fit_eq_replaceBlock source hfull, fit_eq_replaceBlock source' hfree', ← h.length_eq]
    exact h.replaceBlock .shrink (Nat.le_refl _) hgrants hgrants'

/-- A tight block of copied elements and one that the elements were moved into make twins. -/
theorem copy_fit (buffer : Buffer (Item α)) (id : BufferId) (start room : Nat)
    (hgrants : Grants (Sized.bytes α) buffer.fitDemands source) :
    (buffer.fit source).outcome = .ok () ∧
      Twin (buffer.fit source).buffer.generation.count.toNat buffer.growthEvents
        (.fresh id buffer.config ⟨(buffer.renumber start).block.elements, buffer.length, room⟩)
        (buffer.fit source).buffer := by
  have hvalues : (buffer.renumber start).block.elements.toList.map Item.value = buffer.toList.map Item.value :=
    buffer.values_renumber start
  have hgeneration := (Generation.initial_advance (buffer.fit source).buffer.generation).symm
  by_cases hfull : buffer.length = buffer.capacity
  · rw [Buffer.fit, if_pos (isFull_iff.2 hfull)] at hgeneration ⊢
    exact ⟨rfl, hvalues, hfull, rfl, hgeneration, (Nat.zero_add _).symm⟩
  · rw [fitDemands, if_neg hfull] at hgrants
    rw [fit_eq_replaceBlock source hfull] at hgeneration ⊢
    rcases replaceBlock_settled .shrink source (Nat.le_refl buffer.length) with
      ⟨-, room', events, hreplace⟩ | ⟨hdenied, -⟩
    · rw [hreplace] at hgeneration ⊢
      exact ⟨rfl, hvalues, rfl, rfl, hgeneration, (Nat.zero_add _).symm⟩
    · exact absurd hgrants hdenied

end Buffer.Twin

/-! ### Actions on twins -/

/-- The answer with plain values for the items, and with nothing told of the state of a source. -/
def Answer.plain : Answer σ (Item α) → Answer Unit α
  | done => .done
  | element item => .element item.value
  | option item => .option (item.map Item.value)
  | elements items => .elements (items.map Item.value)
  | written success => .written success
  | taken number => .taken number
  | text value => .text value
  | config value => .config value
  | reference value => .reference value
  | flag value => .flag value
  | count value => .count value
  | identity value => .identity value
  | names values => .names values
  | source _ => .source ()
  | offer block => .offer block
  | obtained success => .obtained success

/-- The action shows nothing of the identity and the generation of the buffer, nor of its source. -/
def Action.isAnonymous : Action α → Bool
  | plainText => false
  | prettyText => false
  | source => false
  | refer _ => false
  | resolve _ => false
  | overwrite _ _ => false
  | isLive _ => false
  | _ => true

/-- What becomes of two actions is the same, but for the numbers of the items, and the buffers are twins. -/
structure Effect.Twin (lead growths : Nat) (first : Effect σ (Item α)) (second : Effect τ (Item α)) : Prop where
  /-- The answers are the same, or there is none for the same reason. -/
  outcome_eq : first.outcome.map Answer.plain = second.outcome.map Answer.plain
  /-- The buffers are twins. -/
  buffer : first.buffer.Twin lead growths second.buffer

section

variable {lead growths : Nat}

theorem Effect.ofAttempt_twin {first : Attempt σ (Item α)} {second : Attempt τ (Item α)}
    (h : first.Twin lead growths second) : (ofAttempt first).Twin lead growths (ofAttempt second) := by
  obtain ⟨outcome, buffer, source, events, dropped⟩ := first
  obtain ⟨outcome', buffer', source', events'⟩ := second
  obtain ⟨houtcome, hbuffer⟩ := h
  cases houtcome
  refine ⟨?_, hbuffer⟩
  cases outcome with
  | ok _ => rfl
  | error halt => rfl

theorem Effect.ofIntake_twin {first : Intake σ (Item α)} {second : Intake τ (Item α)}
    (h : first.toAttempt.Twin lead growths second.toAttempt) (htaken : first.taken = second.taken) :
    (ofIntake first).Twin lead growths (ofIntake second) := by
  obtain ⟨⟨outcome, buffer, source, events, dropped⟩, taken, unstored⟩ := first
  obtain ⟨⟨outcome', buffer', source', events'⟩, taken', unstored'⟩ := second
  obtain ⟨houtcome, hbuffer⟩ := h
  cases houtcome
  cases htaken
  refine ⟨?_, hbuffer⟩
  cases outcome with
  | ok _ => rfl
  | error halt => rfl

/-- There are the same values at an index, or there is none. -/
theorem Buffer.Twin.cases_at {first second : Buffer (Item α)} (h : Twin lead growths first second) (index : Nat) :
    (∃ item item', first.toList[index]? = some item ∧ second.toList[index]? = some item' ∧
        item.value = item'.value) ∨
      (first.length ≤ index ∧ second.length ≤ index) := by
  by_cases hindex : index < first.length
  · left
    obtain ⟨item, hitem⟩ := exists_getElem? hindex
    obtain ⟨item', hitem'⟩ := exists_getElem? (show index < second.length by rw [← h.length_eq]; exact hindex)
    have hvalues := congrArg (·[index]?) h.values_eq
    simp only [List.getElem?_map, hitem, hitem', Option.map_some] at hvalues
    exact ⟨item, item', hitem, hitem', Option.some.inj hvalues⟩
  · right
    exact ⟨Nat.le_of_not_lt hindex, by rw [← h.length_eq]; exact Nat.le_of_not_lt hindex⟩

/-- An action that neither asks for a block nor follows a reference needs no verdict. -/
theorem Action.onList_eq [Element α] {action : Action α} (hplace : action.mayAllocate = false)
    (hanonymous : action.isAnonymous = true) (verdict verdict' : Verdict) (list : List α) :
    action.onList verdict list = action.onList verdict' list := by
  cases action with
  | push | pushAll | extend | reserve | fit => cases hplace
  | overwrite => cases hanonymous
  | _ => rfl

variable [Element α] [BlockSource σ] [BlockSource τ] {first second : Buffer (Item α)}

/-- Within their blocks twins give the same answers. -/
theorem Action.outcome_twin_inPlace {action : Action α} (hplace : action.mayAllocate = false)
    (hanonymous : action.isAnonymous = true) (h : first.Twin lead growths second) (start start' : Nat) (source : σ)
    (source' : τ) :
    ((action.number start).perform first source).outcome.map Answer.plain =
      ((action.number start').perform second source').outcome.map Answer.plain := by
  cases action with
  | push | pushAll | extend | reserve | fit => cases hplace
  | plainText | prettyText | source | refer | resolve | overwrite | isLive => cases hanonymous
  | truncate | clear | reverse | bumpAll | bumpAlternate => rfl
  | pop =>
    show Except.ok (Answer.option (first.pop.1.map Item.value)) = .ok (.option (second.pop.1.map Item.value))
    rw [Buffer.pop_fst, Buffer.pop_fst, ← List.getLast?_map, ← List.getLast?_map, h.values_eq]
  | get index =>
    show Except.ok (Answer.option ((first.get? index).map Item.value)) =
      .ok (.option ((second.get? index).map Item.value))
    rw [Buffer.get?_eq, Buffer.get?_eq, ← List.getElem?_map, ← List.getElem?_map, h.values_eq]
  | elements => exact congrArg (Except.ok ∘ Answer.elements) h.values_eq
  | backwards =>
    show Except.ok (Answer.elements (first.toList.reverse.map Item.value)) =
      .ok (.elements (second.toList.reverse.map Item.value))
    rw [List.map_reverse, List.map_reverse, h.values_eq]
  | config => exact congrArg (Except.ok ∘ Answer.config) h.config_eq
  | elementAt index =>
    simp only [number, perform]
    rcases h.cases_at index with ⟨item, item', hitem, hitem', hvalue⟩ | ⟨hle, hle'⟩
    · rw [Buffer.elementAt_of_some hitem, Buffer.elementAt_of_some hitem']
      exact congrArg (Except.ok ∘ Answer.element) hvalue
    · rw [Buffer.elementAt_of_le hle, Buffer.elementAt_of_le hle', h.length_eq]
      rfl
  | index index =>
    simp only [number, perform]
    rcases h.cases_at index with ⟨item, item', hitem, hitem', hvalue⟩ | ⟨hle, hle'⟩
    · rw [Buffer.index_of_some hitem, Buffer.index_of_some hitem']
      exact congrArg (Except.ok ∘ Answer.element) hvalue
    · rw [Buffer.index_of_le hle, Buffer.index_of_le hle', h.length_eq]
      rfl
  | put index value =>
    simp only [number, perform]
    rcases h.cases_at index with ⟨item, item', hitem, hitem', -⟩ | ⟨hle, hle'⟩
    · rw [Buffer.swapAt?_of_some _ hitem, Buffer.swapAt?_of_some _ hitem']
      rfl
    · rw [Buffer.swapAt?_of_le _ hle, Buffer.swapAt?_of_le _ hle']
      rfl
  | putIndex index value =>
    simp only [number, perform]
    rcases h.cases_at index with ⟨item, item', hitem, hitem', -⟩ | ⟨hle, hle'⟩
    · rw [Buffer.swapAt_of_some _ hitem, Buffer.swapAt_of_some _ hitem']
      rfl
    · rw [Buffer.swapAt_of_le _ hle, Buffer.swapAt_of_le _ hle', h.length_eq]
      rfl

/-- **Actions keep twins twins**, and tell their callers the same, if the blocks that they need are granted. -/
theorem Action.perform_twin {action : Action α} (hanonymous : action.isAnonymous = true)
    (h : first.Twin lead growths second) (hlength : first.length ≤ first.capacity) (start start' : Nat) {source : σ}
    {source' : τ} (hgrants : Grants (Sized.bytes α) (action.demands first) source)
    (hgrants' : Grants (Sized.bytes α) (action.demands first) source') :
    ((action.number start).perform first source).Twin lead growths
      ((action.number start').perform second source') := by
  by_cases hplace : action.mayAllocate = false
  · refine ⟨outcome_twin_inPlace hplace hanonymous h start start' source source', ?_⟩
    have hnumber (start : Nat) : (action.number start).mayAllocate = false := by
      rw [← hplace]
      cases action <;> rfl
    have hlength' : second.length ≤ second.capacity := by rw [← h.length_eq, ← h.capacity_eq]; exact hlength
    -- what an action within the block does to the elements, it does to their values
    have hlist := toList_perform (action.number start) hlength source
    have hlist' := toList_perform (action.number start') hlength' source'
    obtain ⟨-, elements, -, hbuffer⟩ := perform_inPlace (hnumber start) first source
    obtain ⟨-, elements', -, hbuffer'⟩ := perform_inPlace (hnumber start') second source'
    rw [hbuffer, Buffer.toList_withElements] at hlist
    rw [hbuffer', Buffer.toList_withElements] at hlist'
    rw [hbuffer, hbuffer']
    apply h.withElements
    rw [hlist, hlist', map_value_onList_number, map_value_onList_number, h.values_eq]
    exact onList_eq hplace hanonymous _ _ _
  · cases action with
    | push value =>
      obtain ⟨houtcome, hbuffer⟩ := Effect.ofAttempt_twin (h.push value start start' hlength hgrants hgrants')
      exact ⟨houtcome, hbuffer⟩
    | pushAll values =>
      obtain ⟨htwin, htaken⟩ := h.pushAll values start start' hlength hgrants hgrants'
      exact Effect.ofIntake_twin htwin htaken
    | extend values =>
      obtain ⟨htwin, htaken⟩ := h.extend values start start' hlength hgrants hgrants'
      exact Effect.ofIntake_twin htwin htaken
    | reserve additional => exact Effect.ofAttempt_twin (h.reserve additional hgrants hgrants')
    | fit => exact Effect.ofAttempt_twin (h.fit hgrants hgrants')
    | _ => exact absurd rfl hplace

end

/-! ### Sessions with twins -/

namespace Session

/-- A name in the first session and a name in the second one stand for twins that draw on the same source. -/
structure Twins (lead growths : Nat) (name name' : String) (provider : Provider k) (first second : Session σ α k) :
    Prop where
  /-- The buffers of the first session are sound. -/
  sound : first.Sound
  /-- The buffers of the second session are sound. -/
  sound' : second.Sound
  /-- The names stand for twins. -/
  found : ∃ slot slot', first.buffers.find? name = some slot ∧ second.buffers.find? name' = some slot' ∧
    slot.provider = provider ∧ slot'.provider = provider ∧ slot.buffer.Twin lead growths slot'.buffer

/-- What can be told of two buffers, apart from their identities: the second may be so many generations and growths
ahead. -/
theorem Twins.told [Element α] {lead growths : Nat} {name name' : String} {provider : Provider k}
    {first second : Session σ α k} (h : Twins lead growths name name' provider first second) :
    ∃ slot slot' : Slot (Item α) k, first.buffers.find? name = some slot ∧ second.buffers.find? name' = some slot' ∧
      slot.buffer.toList.map Item.value = slot'.buffer.toList.map Item.value ∧
      slot.buffer.capacity = slot'.buffer.capacity ∧ slot.buffer.remaining = slot'.buffer.remaining ∧
      slot.buffer.memoryBytes = slot'.buffer.memoryBytes ∧
      slot'.buffer.generation.count - slot.buffer.generation.count = .ofNat lead ∧
      slot'.buffer.growthEvents = slot.buffer.growthEvents + growths := by
  obtain ⟨-, -, slot, slot', hfind, hfind', -, -, htwin⟩ := h
  have hcapacity : slot.buffer.block.capacity = slot'.buffer.block.capacity := htwin.capacity_eq
  have hlength : slot.buffer.block.length = slot'.buffer.block.length := htwin.length_eq
  refine ⟨slot, slot', hfind, hfind', htwin.values_eq, hcapacity, ?_, ?_, ?_, htwin.growthEvents_eq⟩
  · rw [Buffer.remaining, Buffer.remaining, Block.remaining, Block.remaining, hcapacity, hlength]
  · rw [Buffer.memoryBytes, Buffer.memoryBytes, Block.memoryBytes, Block.memoryBytes, hcapacity]
  · rw [htwin.generation_eq, Generation.advance, UInt64.add_comm, UInt64.add_sub_cancel]

variable [Element α] [BlockSource σ]

theorem dealt_act {session : Session σ α k} {name : String} {slot : Slot (Item α) k} {provider : Provider k}
    (hfind : session.buffers.find? name = some slot) (hprovider : slot.provider = provider) (action : Action α) :
    session.dealt (.act name action) provider =
      answers (Sized.bytes α)
        (untilDenied (Sized.bytes α) (action.demands slot.buffer) (session.pool.source provider))
        (session.pool.source provider) := by
  rw [dealt, demands_act hfind, if_pos hprovider.symm]

variable {lead growths : Nat} {name name' : String} {provider : Provider k} {first second : Session σ α k}

/-- **One action on each of the twins** tells the same, asks for the same blocks, and leaves twins. -/
theorem Twins.act (h : Twins lead growths name name' provider first second) {action : Action α}
    (hanonymous : action.isAnonymous = true)
    (haccepts : ∀ exchange ∈ first.dealt (.act name action) provider, exchange.2.Accepts exchange.1)
    (haccepts' : ∀ exchange ∈ second.dealt (.act name' action) provider, exchange.2.Accepts exchange.1) :
    (first.step (.act name action)).1.outcome.map Answer.plain =
        (second.step (.act name' action)).1.outcome.map Answer.plain ∧
      (first.dealt (.act name action) provider).map Prod.fst =
        (second.dealt (.act name' action) provider).map Prod.fst ∧
      Twins lead growths name name' provider (first.step (.act name action)).2
        (second.step (.act name' action)).2 := by
  obtain ⟨hsound, hsound', slot, slot', hfind, hfind', hprovider, hprovider', htwin⟩ := h
  have hdemands := htwin.demands_eq action
  rw [dealt_act hfind hprovider] at haccepts ⊢
  rw [dealt_act hfind' hprovider', ← hdemands] at haccepts' ⊢
  have hgrants := grants_of_accepts haccepts
  have hgrants' := grants_of_accepts haccepts'
  have heffect : Effect.Twin lead growths
      ((action.number first.ledger.issued).perform slot.buffer (first.pool.source slot.provider))
      ((action.number second.ledger.issued).perform slot'.buffer (second.pool.source slot'.provider)) := by
    rw [hprovider, hprovider']
    exact Action.perform_twin hanonymous htwin (hsound name slot hfind).length_le _ _ hgrants hgrants'
  refine ⟨?_, ?_, hsound.step _, hsound'.step _, ?_⟩
  · rw [step, step, act_eq_settle hfind, act_eq_settle hfind']
    exact heffect.outcome_eq
  · rw [map_fst_answers, map_fst_answers, untilDenied_of_grants hgrants, untilDenied_of_grants hgrants']
  · rw [step, step, act_eq_settle hfind, act_eq_settle hfind']
    exact ⟨_, _, find?_settle .., find?_settle .., hprovider, hprovider', heffect.buffer⟩

/-- **So does a sequence of actions.** -/
theorem Twins.run (actions : List (Action α)) (h : Twins lead growths name name' provider first second)
    (hanonymous : ∀ action ∈ actions, action.isAnonymous = true)
    (haccepts : ∀ exchange ∈ first.exchangesIn (actions.map (Command.act name)) provider,
      exchange.2.Accepts exchange.1)
    (haccepts' : ∀ exchange ∈ second.exchangesIn (actions.map (Command.act name')) provider,
      exchange.2.Accepts exchange.1) :
    (first.trace (actions.map (Command.act name))).map (fun result => result.1.outcome.map Answer.plain) =
        (second.trace (actions.map (Command.act name'))).map (fun result => result.1.outcome.map Answer.plain) ∧
      (first.exchangesIn (actions.map (Command.act name)) provider).map Prod.fst =
        (second.exchangesIn (actions.map (Command.act name')) provider).map Prod.fst ∧
      Twins lead growths name name' provider (first.run (actions.map (Command.act name)))
        (second.run (actions.map (Command.act name'))) := by
  induction actions generalizing first second with
  | nil =>
    refine ⟨rfl, ?_, h⟩
    show (first.transcribed.pool.source provider).exchanges.map Prod.fst =
      (second.transcribed.pool.source provider).exchanges.map Prod.fst
    rw [exchanges_transcribed, exchanges_transcribed]
  | cons action actions ih =>
    rw [List.forall_mem_cons] at hanonymous
    rw [List.map_cons, exchangesIn_cons h.sound, List.forall_mem_append] at haccepts
    rw [List.map_cons, exchangesIn_cons h.sound', List.forall_mem_append] at haccepts'
    obtain ⟨houtcome, hrequests, hnext⟩ := h.act hanonymous.1 haccepts.1 haccepts'.1
    obtain ⟨houtcomes, hlater, hlast⟩ := ih hnext hanonymous.2 haccepts.2 haccepts'.2
    refine ⟨?_, ?_, hlast⟩
    · rw [List.map_cons, List.map_cons, trace, trace, List.map_cons, List.map_cons, houtcome, houtcomes]
    · rw [List.map_cons, List.map_cons, exchangesIn_cons h.sound, exchangesIn_cons h.sound', List.map_append,
        List.map_append, hrequests, hlater]

/-! ### A copy and the buffer without its free slots -/

/-- A copy that gets its block is enrolled under its name. -/
theorem copy_of_grants {session : Session σ α k} {name : String} (target : String) {slot : Slot (Item α) k}
    (hfind : session.buffers.find? name = some slot)
    (hgrants : Grants (Sized.bytes α) (Block.demands slot.buffer.length) (session.pool.source slot.provider)) :
    (session.step (.copy name target)).1.outcome = .ok .done ∧
      ∃ room, (session.step (.copy name target)).2.buffers.find? target =
        some ⟨.fresh session.nextId slot.buffer.config
          ⟨(slot.buffer.renumber session.ledger.issued).block.elements, slot.buffer.length, room⟩, slot.provider⟩ := by
  have hlength := slot.buffer.length_renumber session.ledger.issued
  rcases Buffer.copy_settled session.nextId (slot.buffer.renumber session.ledger.issued)
    (session.pool.source slot.provider) with ⟨-, room, hcopy⟩ | ⟨hdenied, -⟩
  · rw [hlength] at hcopy
    refine ⟨?_, room, find?_step_of_enter ?_⟩
    · simp only [step, copy, hfind, hcopy]
      rfl
    · simp only [move, hfind, hcopy]
      rfl
  · rw [hlength] at hdenied
    exact absurd hgrants hdenied

/-- A buffer is not changed by being copied. -/
theorem find?_copy_of_ne {session : Session σ α k} {name target : String} {slot : Slot (Item α) k}
    (hfind : session.buffers.find? name = some slot) (hne : target ≠ name) :
    (session.step (.copy name target)).2.buffers.find? name = some slot := by
  have hmove : session.move (.copy name target) = enterMove target slot.provider
      ((slot.buffer.renumber session.ledger.issued).copy session.nextId
        (session.pool.source slot.provider)).outcome := by
    simp only [move, hfind]
  have hkept (outcome : Except Halt (Buffer (Item α))) :
      (enterMove target slot.provider outcome).follow name = some name ∧
        (enterMove target slot.provider outcome).onSlot name slot session = slot := by
    cases outcome with
    | error halt => exact ⟨rfl, rfl⟩
    | ok buffer => exact ⟨if_neg hne.symm, rfl⟩
  obtain ⟨hfollow, hslot⟩ := hkept _
  rw [← hmove] at hfollow hslot
  rw [find?_step_of_follow hfind hfollow, hslot]

/-- **A copy that gets its block and the buffer that gives up its free slots are twins.** -/
theorem twins_of_copy_of_fit {session : Session σ α k} (hsound : session.Sound) {name : String} (target : String)
    {slot : Slot (Item α) k} (hfind : session.buffers.find? name = some slot)
    (haccepts : ∀ exchange ∈ session.dealt (.copy name target) slot.provider, exchange.2.Accepts exchange.1)
    (haccepts' : ∀ exchange ∈ session.dealt (.act name .fit) slot.provider, exchange.2.Accepts exchange.1) :
    (session.step (.copy name target)).1.outcome = .ok .done ∧
      (session.step (.act name .fit)).1.outcome = .ok .done ∧
      Twins (slot.buffer.fit (session.pool.source slot.provider)).buffer.generation.count.toNat
        slot.buffer.growthEvents target name slot.provider (session.step (.copy name target)).2
        (session.step (.act name .fit)).2 := by
  rw [dealt, demands_copy target hfind, if_pos rfl] at haccepts
  rw [dealt_act hfind rfl] at haccepts'
  obtain ⟨hcopied, room, hcopy⟩ := copy_of_grants target hfind (grants_of_accepts haccepts)
  obtain ⟨hdone, htwin⟩ := Buffer.Twin.copy_fit slot.buffer session.nextId session.ledger.issued room
    (grants_of_accepts haccepts')
  have hfitted : (session.step (.act name .fit)).2.buffers.find? name =
      some ⟨(slot.buffer.fit (session.pool.source slot.provider)).buffer, slot.provider⟩ := by
    rw [step, act_eq_settle hfind]
    exact find?_settle ..
  refine ⟨hcopied, ?_, hsound.step _, hsound.step _, _, _, hcopy, hfitted, rfl, rfl, htwin⟩
  rw [step, act_eq_settle hfind]
  show (Effect.ofAttempt (slot.buffer.fit (session.pool.source slot.provider))).outcome = .ok .done
  rw [Effect.ofAttempt, hdone]

/-- **A copy behaves as the buffer does without its free slots.** Making the copy leaves the buffer as it is. Let any
actions follow, on the copy in one session and on the fitted buffer in another, and let the source grant what they ask
for. Then they give the same answers and fail for the same reasons; and after each of them the source got the same
requests, the values, the slots and their bytes are the same, and the distance of the generations, as words, and of the
numbers of growths is what it was at first. -/
theorem copy_behaves_as_fitted {session : Session σ α k} (hreachable : session.Reachable) {name : String}
    (target : String) {slot : Slot (Item α) k} (hfind : session.buffers.find? name = some slot) :
    let copied := session.step (.copy name target)
    let fitted := session.step (.act name .fit)
    (target ≠ name → copied.2.buffers.find? name = some slot) ∧
      ∃ lead : UInt64, ∀ actions : List (Action α), (∀ action ∈ actions, action.isAnonymous = true) →
        (∀ exchange ∈ session.exchangesIn (.copy name target :: actions.map (.act target)) slot.provider,
          exchange.2.Accepts exchange.1) →
        (∀ exchange ∈ session.exchangesIn (.act name .fit :: actions.map (.act name)) slot.provider,
          exchange.2.Accepts exchange.1) →
        copied.1.outcome = .ok .done ∧ fitted.1.outcome = .ok .done ∧
          (copied.2.trace (actions.map (.act target))).map (fun result => result.1.outcome.map Answer.plain) =
            (fitted.2.trace (actions.map (.act name))).map (fun result => result.1.outcome.map Answer.plain) ∧
          ∀ earlier, earlier <+: actions →
            (copied.2.exchangesIn (earlier.map (.act target)) slot.provider).map Prod.fst =
                (fitted.2.exchangesIn (earlier.map (.act name)) slot.provider).map Prod.fst ∧
              ∃ copy own : Slot (Item α) k,
                (copied.2.run (earlier.map (.act target))).buffers.find? target = some copy ∧
                (fitted.2.run (earlier.map (.act name))).buffers.find? name = some own ∧
                copy.buffer.toList.map Item.value = own.buffer.toList.map Item.value ∧
                copy.buffer.capacity = own.buffer.capacity ∧ copy.buffer.remaining = own.buffer.remaining ∧
                copy.buffer.memoryBytes = own.buffer.memoryBytes ∧
                own.buffer.generation.count - copy.buffer.generation.count = lead ∧
                own.buffer.growthEvents = copy.buffer.growthEvents + slot.buffer.growthEvents := by
  intro copied fitted
  have hsound := hreachable.sound
  refine ⟨find?_copy_of_ne hfind,
    .ofNat (slot.buffer.fit (session.pool.source slot.provider)).buffer.generation.count.toNat, ?_⟩
  intro actions hanonymous haccepts haccepts'
  rw [exchangesIn_cons hsound, List.forall_mem_append] at haccepts haccepts'
  obtain ⟨hcopied, hfitted, htwins⟩ := twins_of_copy_of_fit hsound target hfind haccepts.1 haccepts'.1
  obtain ⟨houtcomes, -, -⟩ := htwins.run actions hanonymous haccepts.2 haccepts'.2
  refine ⟨hcopied, hfitted, houtcomes, ?_⟩
  rintro earlier ⟨later, rfl⟩
  -- what is granted in all is granted to the earlier actions
  rw [List.map_append, exchangesIn_append (hsound.step _), List.forall_mem_append] at haccepts
  rw [List.map_append, exchangesIn_append (hsound.step _), List.forall_mem_append] at haccepts'
  obtain ⟨-, hrequests, hafter⟩ := htwins.run earlier
    (fun action hmem => hanonymous action (List.mem_append_left later hmem)) haccepts.2.1 haccepts'.2.1
  exact ⟨hrequests, hafter.told⟩

/-- A buffer with three elements in four slots and a ceiling of five is copied, and gives up its free slot. Then two
elements are stored, with a block of five slots, and a third one is declined; all but one are taken away again, the free
slots are given up, and new ones reserved. -/
theorem copy_behaves_as_fitted_at_ceiling :
    let session : Session Allocator UInt8 0 := (start ⟨.system, #v[], #v[]⟩).run
      [.build "a" { maxCapacity := 5 } none, .act "a" (.pushAll [1, 2, 3])]
    let actions : List (Action UInt8) :=
      [.push 4, .push 5, .push 6, .truncate 1, .fit, .reserve 3, .put 0 7, .elements]
    let copied := session.step (.copy "a" "c")
    let fitted := session.step (.act "a" .fit)
    (copied.2.trace (actions.map (.act "c"))).map (fun result => result.1.outcome.map Answer.plain) =
        (fitted.2.trace (actions.map (.act "a"))).map (fun result => result.1.outcome.map Answer.plain) ∧
      (copied.2.exchangesIn (actions.map (.act "c")) .heap).map Prod.fst = [5, 1, 4] ∧
      (fitted.2.exchangesIn (actions.map (.act "a")) .heap).map Prod.fst = [5, 1, 4] := by
  intro session actions copied fitted
  have hreachable : session.Reachable := ⟨_, _, rfl⟩
  obtain ⟨slot, hfind⟩ : ∃ slot, session.buffers.find? "a" = some slot := ⟨_, rfl⟩
  have hheap : slot.provider = .heap := by cases hfind; rfl
  have hanonymous : ∀ action ∈ actions, action.isAnonymous = true := by decide
  have haccepts : ∀ exchange ∈ session.exchangesIn (.copy "a" "c" :: actions.map (.act "c")) .heap,
      exchange.2.Accepts exchange.1 := by decide +kernel
  have haccepts' : ∀ exchange ∈ session.exchangesIn (.act "a" .fit :: actions.map (.act "a")) .heap,
      exchange.2.Accepts exchange.1 := by decide +kernel
  have hrequests : (copied.2.exchangesIn (actions.map (.act "c")) .heap).map Prod.fst = [5, 1, 4] := by decide +kernel
  clear_value actions
  obtain ⟨-, lead, hbehaves⟩ := copy_behaves_as_fitted hreachable "c" hfind
  rw [hheap] at hbehaves
  obtain ⟨-, -, houtcomes, hsame⟩ := hbehaves actions hanonymous haccepts haccepts'
  obtain ⟨hasked, -⟩ := hsame actions (List.prefix_refl actions)
  exact ⟨houtcomes, hrequests, hasked.symm.trans hrequests⟩

end Session

end ElasticBuffer
