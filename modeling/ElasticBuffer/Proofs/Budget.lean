import ElasticBuffer.Proofs.Shortage

/-!
# A budget of blocks

A source with a budget grants as many requests as the budget says, and refuses all others until it is reset. Any number
of buffers may share it, and callers may ask it themselves. Between two resets it is as if all requests were made by one
caller, one after the other (`Session.exchangesIn_eq_answers`), so the first ones get the budget, whoever made them, and
each of them is a request of a caller or a block with slots that a buffer needs (`Session.length_exchangesIn`).
`Session.budget_spent_exactly` says so of all runs, and what becomes of the buffers when the budget is spent.
-/

namespace ElasticBuffer

variable {σ α : Type} {k : Nat}

/-! ### Requests in turn -/

section

variable [BlockSource σ]

theorem answers_append (bytes : Nat) (first second : List Nat) (source : σ) :
    answers bytes (first ++ second) source =
      answers bytes first source ++ answers bytes second (requestAll bytes first source) := by
  induction first generalizing source with
  | nil => rfl
  | cons capacity first ih => exact congrArg (_ :: ·) (ih _)

/-- Nothing is asked for that is not needed. -/
theorem mem_of_mem_untilDenied {bytes capacity : Nat} {capacities : List Nat} {source : σ}
    (h : capacity ∈ untilDenied bytes capacities source) : capacity ∈ capacities := by
  induction capacities generalizing source with
  | nil => exact h
  | cons first rest ih =>
    by_cases haccepts : (BlockSource.request source bytes first).1.Accepts first
    · rw [untilDenied_of_accepts haccepts, List.mem_cons] at h
      exact List.mem_cons.2 (h.imp_right ih)
    · rw [untilDenied_of_denied haccepts, List.mem_singleton] at h
      exact List.mem_cons.2 (.inl h)

/-- What is needed is asked for, or at least the first of it. -/
theorem untilDenied_ne_nil {bytes : Nat} {capacities : List Nat} (h : capacities ≠ []) (source : σ) :
    untilDenied bytes capacities source ≠ [] := by
  cases capacities with
  | nil => exact absurd rfl h
  | cons first rest =>
    by_cases haccepts : (BlockSource.request source bytes first).1.Accepts first
    · rw [untilDenied_of_accepts haccepts]
      exact List.cons_ne_nil _ _
    · rw [untilDenied_of_denied haccepts]
      exact List.cons_ne_nil _ _

end

namespace Allocator

/-- The budget stays, and the calls are counted, as a word. -/
theorem requestAll_failing (bytes : Nat) (capacities : List Nat) (budget calls : UInt64) :
    requestAll bytes capacities (failing budget calls) = failing budget (calls + .ofNat capacities.length) := by
  induction capacities generalizing calls with
  | nil => exact congrArg (failing budget) (UInt64.add_zero calls).symm
  | cons capacity rest ih =>
    refine (ih (calls + 1)).trans (congrArg (failing budget) ?_)
    rw [List.length_cons, UInt64.ofNat_add, UInt64.add_assoc, UInt64.add_comm 1]
    rfl

/-- Until the count of the calls comes round, a call is granted or refused by its place in line. -/
theorem answers_failing (bytes : Nat) {capacities : List Nat} {budget calls : UInt64}
    (hcalls : calls.toNat + capacities.length < UInt64.size) {i : Nat} {exchange : Nat × Reply}
    (hi : (answers bytes capacities (failing budget calls))[i]? = some exchange) :
    exchange.2 = if budget.toNat ≤ calls.toNat + i then .refused else slots bytes exchange.1 0 := by
  induction capacities generalizing calls i with
  | nil => cases hi
  | cons capacity rest ih =>
    rw [List.length_cons] at hcalls
    cases i with
    | zero =>
      cases hi
      rfl
    | succ i =>
      have hnext : (calls + 1).toNat = calls.toNat + 1 := by
        rw [UInt64.toNat_add]
        exact Nat.mod_eq_of_lt (show calls.toNat + 1 < UInt64.size by omega)
      have hanswer := ih (by omega) hi
      rw [hnext] at hanswer
      rw [hanswer, Nat.add_right_comm, Nat.add_assoc]

/-- Nothing is granted beyond the budget. -/
theorem denies_failing {bytes : Nat} {budget calls : UInt64} (hspent : budget ≤ calls) (capacities : List Nat) :
    Denies bytes capacities (failing budget calls) := by
  cases capacities with
  | nil => trivial
  | cons capacity rest =>
    show ¬ (if budget ≤ calls then Reply.refused else slots bytes capacity 0).Accepts capacity
    rw [if_pos hspent]
    exact not_false

/-- A block of a size that storage allows is granted within the budget. -/
theorem slots_accepts {bytes capacity : Nat} (hword : capacity ≤ wordMax) (hbytes : capacity * bytes ≤ bytesMax) :
    (slots bytes capacity 0).Accepts capacity := by
  unfold slots
  split
  · exact ⟨rfl, hword⟩
  · exact ⟨rfl, Nat.le_refl capacity⟩

end Allocator

/-! ### Requests of callers, and of buffers -/

/-- The caller asks this source directly. -/
def Command.isRequestOf (pool : Pool σ k) (provider : Provider k) : Command α → Bool
  | .request name _ => pool.provider? name = some provider
  | _ => false

/-- A block that is needed has slots. -/
theorem Config.ne_zero_of_mem_pushDemands {config : Config} {count length capacity needed : Nat}
    (h : needed ∈ config.pushDemands count length capacity) :
    needed ≠ 0 := by
  induction count generalizing length capacity with
  | zero => cases h
  | succ count ih =>
    rw [pushDemands] at h
    split at h
    · exact ih h
    · split at h
      · cases h
      · rename_i hgrown
        rcases List.mem_cons.1 h with rfl | hlater
        · omega
        · exact ih hlater

theorem Block.ne_zero_of_mem_demands {capacity needed : Nat} (h : needed ∈ demands capacity) : needed ≠ 0 := by
  by_cases hzero : capacity = 0
  · rw [hzero] at h
    cases h
  · rw [demands_of_ne hzero, List.mem_singleton] at h
    rw [h]
    exact hzero

theorem Action.ne_zero_of_mem_demands {β : Type} {action : Action β} {buffer : Buffer α} {needed : Nat}
    (h : needed ∈ action.demands buffer) : needed ≠ 0 := by
  cases action with
  | push value => exact Config.ne_zero_of_mem_pushDemands h
  | pushAll values => exact Config.ne_zero_of_mem_pushDemands h
  | extend values => exact Config.ne_zero_of_mem_pushDemands h
  | reserve additional =>
    rw [demands, Buffer.reserveDemands] at h
    split at h
    · exact Block.ne_zero_of_mem_demands h
    · cases h
  | fit =>
    rw [demands, Buffer.fitDemands] at h
    split at h
    · cases h
    · exact Block.ne_zero_of_mem_demands h
  | _ => cases h

namespace Session

theorem ne_zero_of_mem_demands {session : Session σ α k} {command : Command α} {provider : Provider k} {needed : Nat}
    (hcall : command.isRequest = false) (h : needed ∈ session.demands command provider) : needed ≠ 0 := by
  cases hdemand : session.demand? command with
  | none =>
    rw [demands_of_none hdemand] at h
    cases h
  | some demand =>
    obtain ⟨drawn, capacities⟩ := demand
    rw [demands_of_some hdemand] at h
    split at h
    · cases command with
      | build name config source =>
        obtain ⟨provider', -, hpair⟩ := Option.map_eq_some_iff.1 hdemand
        cases hpair
        split at h
        · exact Block.ne_zero_of_mem_demands h
        · cases h
      | collect name values =>
        cases hdemand
        exact Config.ne_zero_of_mem_pushDemands h
      | copy name target =>
        obtain ⟨slot, -, hpair⟩ := Option.map_eq_some_iff.1 hdemand
        cases hpair
        exact Block.ne_zero_of_mem_demands h
      | act name action =>
        obtain ⟨slot, -, hpair⟩ := Option.map_eq_some_iff.1 hdemand
        cases hpair
        exact Action.ne_zero_of_mem_demands h
      | request => cases hcall
      | _ => cases hdemand
    · cases h

/-! ### Sources keep their names -/

variable [Element α] [BlockSource σ]

theorem names_act (name : String) (action : Action α) (session : Session σ α k) :
    (session.act name action).2.pool.names = session.pool.names := by
  simp only [act]
  cases session.buffers.find? name with
  | none => rfl
  | some slot => exact Pool.names_update ..

theorem names_step (command : Command α) (session : Session σ α k) :
    (session.step command).2.pool.names = session.pool.names := by
  have hcourse := course_step command session
  generalize session.step command = result at hcourse ⊢
  cases hcourse with
  | missing | answered | drew => rfl
  | enrolled =>
    rw [pool_enroll]
    exact Pool.names_update ..
  | collected =>
    rw [pool_collect]
    exact Pool.names_update ..
  | acted => exact names_act ..
  | @referred name index => exact names_act name (.refer index) session
  | requested | reset => exact Pool.names_update ..

theorem provider?_step (command : Command α) (session : Session σ α k) (name : String) :
    (session.step command).2.pool.provider? name = session.pool.provider? name := by
  rw [Pool.provider?, Pool.provider?, names_step]

/-- A name stands for the same source during a whole run. -/
theorem provider?_run (commands : List (Command α)) (session : Session σ α k) (name : String) :
    (session.run commands).pool.provider? name = session.pool.provider? name := by
  induction commands generalizing session with
  | nil => rfl
  | cons command commands ih => rw [run_cons, ih, provider?_step]

theorem isRequestOf_run (commands : List (Command α)) (session : Session σ α k) (provider : Provider k) :
    (Command.isRequestOf (session.run commands).pool provider : Command α → Bool) =
      Command.isRequestOf session.pool provider := by
  funext command
  cases command with
  | request name capacity => simp only [Command.isRequestOf, provider?_run]
  | _ => rfl

/-! ### Runs without a reset -/

/-- **Without a reset, the requests of a run are answered as if one caller made them all**, one after the other. -/
theorem exchangesIn_eq_answers (commands : List (Command α)) {session : Session σ α k} (hsound : session.Sound)
    {provider : Provider k}
    (hreset : ∀ name, .resetSource name ∈ commands → session.pool.provider? name ≠ some provider) :
    session.exchangesIn commands provider =
        answers (Sized.bytes α) ((session.exchangesIn commands provider).map Prod.fst)
          (session.pool.source provider) ∧
      (session.run commands).pool.source provider =
        requestAll (Sized.bytes α) ((session.exchangesIn commands provider).map Prod.fst)
          (session.pool.source provider) := by
  induction commands generalizing session with
  | nil =>
    have hnone : session.exchangesIn ([] : List (Command α)) provider = [] := exchanges_transcribed session provider
    rw [hnone]
    exact ⟨rfl, rfl⟩
  | cons command commands ih =>
    have hkept : ¬ session.Resets command provider := by
      rintro ⟨name, rfl, hprovider⟩
      exact hreset name (List.mem_cons_self ..) hprovider
    have hlater : ∀ name, .resetSource name ∈ commands →
        (session.step command).2.pool.provider? name ≠ some provider := by
      intro name hmem
      rw [provider?_step]
      exact hreset name (List.mem_cons_of_mem command hmem)
    obtain ⟨hanswers, hsource⟩ := ih (hsound.step command) hlater
    have hafter := source_step hsound command provider hkept
    rw [hafter] at hanswers hsource
    rw [exchangesIn_cons hsound, List.map_append, dealt, map_fst_answers, answers_append, requestAll_append, run_cons]
    exact ⟨congrArg (_ ++ ·) hanswers, hsource⟩

/-- The number of blocks with slots that buffers asked a source for in a run, granted or not. -/
def blocksAsked (provider : Provider k) : List (Command α) → Session σ α k → Nat
  | [], _ => 0
  | command :: commands, session =>
    (if command.isRequest then 0
      else (session.exchangesIn [command] provider).countP fun exchange => exchange.1 ≠ 0) +
      blocksAsked provider commands (session.step command).2

/-- In one step a source is asked by the caller, or for blocks with slots. -/
theorem length_dealt {session : Session σ α k} (hsound : session.Sound) (command : Command α) (provider : Provider k) :
    (session.dealt command provider).length =
      (if command.isRequestOf session.pool provider then 1 else 0) +
        (if command.isRequest then 0
          else (session.exchangesIn [command] provider).countP fun exchange => exchange.1 ≠ 0) := by
  cases hcall : command.isRequest with
  | false =>
    have hother : command.isRequestOf session.pool provider = false := by
      cases command with
      | request => cases hcall
      | _ => rfl
    have hslots : ∀ exchange ∈ session.dealt command provider, decide (exchange.1 ≠ 0) = true := by
      intro exchange hmem
      have hasked := List.mem_map_of_mem (f := Prod.fst) hmem
      rw [dealt, map_fst_answers] at hasked
      exact decide_eq_true (ne_zero_of_mem_demands hcall (mem_of_mem_untilDenied hasked))
    rw [exchangesIn_singleton hsound, List.countP_eq_length.2 hslots, hother]
    simp
  | true =>
    cases command with
    | request name capacity =>
      rw [dealt, demands_request]
      by_cases hasked : session.pool.provider? name = some provider
      · simp [Command.isRequestOf, hasked, untilDenied_singleton, answers]
      · simp [Command.isRequestOf, hasked, untilDenied, answers]
    | _ => cases hcall

/-- **What a source is asked for** are the requests of its callers and the blocks with slots that buffers need. -/
theorem length_exchangesIn (commands : List (Command α)) {session : Session σ α k} (hsound : session.Sound)
    (provider : Provider k) :
    (session.exchangesIn commands provider).length =
      commands.countP (Command.isRequestOf session.pool provider) + session.blocksAsked provider commands := by
  induction commands generalizing session with
  | nil => exact congrArg List.length (exchanges_transcribed session provider)
  | cons command commands ih =>
    have hpool : Command.isRequestOf (α := α) (session.step command).2.pool provider =
        Command.isRequestOf session.pool provider := isRequestOf_run [command] session provider
    rw [exchangesIn_cons hsound, List.length_append, ih (hsound.step command), hpool, length_dealt hsound,
      List.countP_cons, blocksAsked]
    omega

/-- Something passes between a step and a source if and only if the step needs something. -/
theorem dealt_eq_nil_iff {session : Session σ α k} {command : Command α} {provider : Provider k} :
    session.dealt command provider = [] ↔ session.demands command provider = [] := by
  constructor
  · intro hnone
    have hasked := congrArg (List.map Prod.fst) hnone
    rw [dealt, map_fst_answers] at hasked
    by_cases hneed : session.demands command provider = []
    · exact hneed
    · exact absurd hasked (untilDenied_ne_nil hneed _)
  · intro hnone
    rw [dealt, hnone]
    rfl

/-! ### A shared budget -/

section

variable {session : Session Allocator α k} (hsound : session.Sound) {provider : Provider k} {budget calls : UInt64}
  (hsource : session.pool.source provider = .failing budget calls)

omit [BlockSource σ]

include hsound hsource

/-- A budget stays the same, whatever is asked for; a reset makes all of it available again. -/
theorem failing_step (command : Command α) :
    ∃ calls', (session.step command).2.pool.source provider = .failing budget calls' ∧
      (session.Resets command provider → calls' = 0) := by
  by_cases hreset : session.Resets command provider
  · obtain ⟨name, rfl, hprovider⟩ := hreset
    refine ⟨0, ?_, fun _ => rfl⟩
    simp only [step, resetSource, hprovider]
    refine (Pool.source_update_self provider _ session.pool).trans ?_
    rw [hsource]
    rfl
  · rw [source_step hsound command provider hreset, served, hsource, Allocator.requestAll_failing]
    exact ⟨_, rfl, fun h => absurd h hreset⟩

theorem failing_run (commands : List (Command α)) :
    ∃ calls', (session.run commands).pool.source provider = .failing budget calls' := by
  induction commands generalizing session calls with
  | nil => exact ⟨calls, hsource⟩
  | cons command commands ih =>
    obtain ⟨calls', hafter, -⟩ := failing_step hsound hsource command
    exact ih (hsound.step command) hafter

/-- After a run that ends with a reset, no calls are counted. -/
theorem failing_run_reset (before : List (Command α)) {name : String}
    (hprovider : session.pool.provider? name = some provider) :
    (session.run (before ++ [.resetSource name])).pool.source provider = .failing budget 0 := by
  obtain ⟨calls', hbefore⟩ := failing_run hsound hsource before
  obtain ⟨calls'', hafter, hzero⟩ := failing_step (hsound.run before) hbefore (.resetSource name)
  rw [← provider?_run before] at hprovider
  rw [hzero ⟨name, rfl, hprovider⟩] at hafter
  rw [run_append]
  exact hafter

omit hsound in
/-- A caller who asks for a block beyond the budget gets none. -/
theorem outcome_request_of_spent (hspent : budget ≤ calls) {command : Command α} (hcall : command.isRequest = true)
    (hneed : session.demands command provider ≠ []) : (session.step command).1.outcome = .ok (.offer none) := by
  cases command with
  | request name capacity =>
    rw [demands_request] at hneed
    split at hneed
    case isFalse => exact absurd rfl hneed
    case isTrue hdrawn =>
      have hreply : (BlockSource.request (session.pool.source provider) (Sized.bytes α) capacity).1 = .refused := by
        rw [hsource]
        exact if_pos hspent
      simp only [step, request, hdrawn, hreply]
      rfl
  | _ => cases hcall

/-- **The requests since a reset get the budget**, in their order. -/
theorem failing_exchanges {commands : List (Command α)} (hfresh : calls = 0)
    (hreset : ∀ name, .resetSource name ∈ commands → session.pool.provider? name ≠ some provider)
    (hcalls : (session.exchangesIn commands provider).length < UInt64.size) :
    (∃ calls' : UInt64, (session.run commands).pool.source provider = .failing budget calls' ∧
        calls'.toNat = (session.exchangesIn commands provider).length) ∧
      ∀ (i : Nat) (exchange : Nat × Reply), (session.exchangesIn commands provider)[i]? = some exchange →
        exchange.2 = if budget.toNat ≤ i then .refused else Allocator.slots (Sized.bytes α) exchange.1 0 := by
  obtain ⟨hanswers, hafter⟩ := exchangesIn_eq_answers commands hsound hreset
  rw [hsource, hfresh] at hanswers hafter
  constructor
  · rw [Allocator.requestAll_failing, List.length_map, UInt64.zero_add] at hafter
    exact ⟨_, hafter, UInt64.toNat_ofNat_of_lt' hcalls⟩
  · intro i exchange hi
    rw [hanswers] at hi
    have hplace : (0 : UInt64).toNat + ((session.exchangesIn commands provider).map Prod.fst).length < UInt64.size := by
      rw [List.length_map, UInt64.toNat_zero, Nat.zero_add]
      exact hcalls
    have hanswer := Allocator.answers_failing (Sized.bytes α) hplace hi
    rw [hanswer]
    simp only [UInt64.toNat_zero, Nat.zero_add]

end

/-- **A shared budget is spent exactly.** Take a session with a source that grants `budget` requests, and look at what
happens after the session began, or after the source was reset, up to the next reset, if no more requests are made than
a word can count and each is for a block of a possible size. Then the source has counted the requests of callers and the
blocks with slots that buffers asked for, and it granted those within the budget and refused the others. A step that
makes do with the blocks that there are costs nothing. When the budget is spent, then in the next step no buffer on the
source moves to another block, unless it is empty and gives up its slots; a step that asks the source fails; and one
that does not ask it tells its caller the same, and leaves the same behind, as with any other source in its place. -/
theorem budget_spent_exactly (pool : Pool Allocator k) {provider : Provider k} {budget : UInt64}
    (hsource : pool.source provider = .failing budget 0) {earlier later : List (Command α)}
    (hearlier : earlier = [] ∨ ∃ before name, earlier = before ++ [.resetSource name] ∧
      pool.provider? name = some provider)
    (hlater : ∀ name, .resetSource name ∈ later → pool.provider? name ≠ some provider)
    (hcalls : (((start pool).run earlier).exchangesIn later provider).length < UInt64.size)
    (hsmall : ∀ exchange ∈ ((start pool).run earlier).exchangesIn later provider,
      exchange.1 ≤ wordMax ∧ exchange.1 * Sized.bytes α ≤ bytesMax) :
    let session := (start pool).run earlier
    let exchanges := session.exchangesIn later provider
    let final := session.run later
    (∃ calls : UInt64, final.pool.source provider = .failing budget calls ∧ calls.toNat = exchanges.length ∧
        calls.toNat = later.countP (Command.isRequestOf pool provider) + session.blocksAsked provider later) ∧
      (∀ (i : Nat) (exchange : Nat × Reply), exchanges[i]? = some exchange →
        (i < budget.toNat → exchange.2.Accepts exchange.1) ∧ (budget.toNat ≤ i → exchange.2 = .refused)) ∧
      (∀ command, final.Contained command →
        (final.step command).2.pool.source provider = final.pool.source provider) ∧
      (budget.toNat ≤ exchanges.length → ∀ command,
        (∀ (name target : String) (slot : Slot (Item α) k), final.buffers.find? name = some slot →
          slot.provider = provider → (final.move command).follow name = some target →
          ¬ (command = .act name .fit ∧ slot.buffer.length = 0) →
          ∃ elements, (final.step command).2.buffers.find? target =
            some { slot with buffer := slot.buffer.withElements elements }) ∧
        (final.exchangesIn [command] provider ≠ [] →
          if command.isRequest then (final.step command).1.outcome = .ok (.offer none)
          else (final.step command).1.outcome.isOk = false) ∧
        (final.exchangesIn [command] provider = [] → ∀ other : Allocator,
          ((final.updateSource provider other).step command).1.shown = (final.step command).1.shown ∧
            Alike ((final.updateSource provider other).step command).2 (final.step command).2)) := by
  intro session exchanges final
  have hsound : session.Sound := (sound_start pool).run earlier
  have hsound' : final.Sound := hsound.run later
  have hfresh : session.pool.source provider = .failing budget 0 := by
    rcases hearlier with rfl | ⟨before, name, rfl, hprovider⟩
    · exact hsource
    · exact failing_run_reset (sound_start pool) hsource before hprovider
  have hreset : ∀ name, .resetSource name ∈ later → session.pool.provider? name ≠ some provider := by
    intro name hmem
    rw [provider?_run]
    exact hlater name hmem
  obtain ⟨⟨calls, hafter, hcount⟩, hanswers⟩ := failing_exchanges hsound hfresh rfl hreset hcalls
  refine ⟨⟨calls, hafter, hcount, ?_⟩, ?_, ?_, ?_⟩
  · have hpool : Command.isRequestOf (α := α) session.pool provider = Command.isRequestOf pool provider :=
      isRequestOf_run earlier (start pool) provider
    rw [hcount, length_exchangesIn later hsound, hpool]
  · intro i exchange hi
    have hanswer := hanswers i exchange hi
    constructor
    · intro hwithin
      obtain ⟨hword, hbytes⟩ := hsmall exchange (List.mem_of_getElem? hi)
      rw [hanswer, if_neg (Nat.not_le.2 hwithin)]
      exact Allocator.slots_accepts hword hbytes
    · intro hbeyond
      rw [hanswer, if_pos hbeyond]
  · intro command hcontained
    have hkept : ¬ final.Resets command provider := by
      rintro ⟨name, rfl, -⟩
      exact hcontained
    rw [source_step hsound' command provider hkept, served, demands_of_contained hcontained]
    rfl
  · intro hspent command
    have hbudget : budget ≤ calls := by
      rw [UInt64.le_iff_toNat_le, hcount]
      exact hspent
    have hdenied : Denies (Sized.bytes α) (final.demands command provider) (final.pool.source provider) := by
      rw [hafter]
      exact Allocator.denies_failing hbudget _
    rw [exchangesIn_singleton hsound', ne_eq, dealt_eq_nil_iff]
    refine ⟨?_, ?_, ?_⟩
    · intro name target slot hfind hprovider hfollow hfit
      exact find?_step_of_denied hsound' hdenied hfind hprovider hfollow hfit
    · intro hneed
      split
      case isTrue hcall => exact outcome_request_of_spent hafter hbudget hcall hneed
      case isFalse hcall => exact isOk_step_of_denied hsound' hdenied (eq_false_of_ne_true hcall) hneed
    · intro hnone other
      exact step_of_undemanded hsound' hnone other

/-- After a reset, two blocks are to be had of a source. A copy gets the first, and a caller who asks for no slots the
second. A buffer without slots costs nothing; then a push and another copy are refused, so there were four calls. Now a
push fails too, and what is taken from a buffer is the same with any source. -/
theorem budget_spent_exactly_on_copies :
    let pool : Pool Allocator 1 := ⟨.system, #v["f"], #v[.failing 2 0]⟩
    let session : Session Allocator UInt8 1 := (start pool).run
      [.build "a" {} (some "f"), .act "a" (.push 1), .resetSource "f"]
    let later : List (Command UInt8) :=
      [.copy "a" "c", .request "f" 0, .build "e" {} (some "f"), .act "c" (.push 2), .copy "a" "d"]
    let final := session.run later
    (session.exchangesIn later (.shared 0)).map Prod.fst = [1, 0, 2, 1] ∧
      (∃ calls : UInt64, final.pool.source (.shared 0) = .failing 2 calls ∧ calls.toNat = 4) ∧
      (final.step (.act "a" (.push 3))).1.outcome.isOk = false ∧
      ∀ other, ((final.updateSource (.shared 0) other).step (.act "a" .pop)).1.shown =
        (final.step (.act "a" .pop)).1.shown := by
  intro pool session later final
  have hlater : ∀ name, .resetSource name ∈ later → pool.provider? name ≠ some (.shared 0) := by
    intro name hmem
    simp [later] at hmem
  have hrequests : (session.exchangesIn later (.shared 0)).map Prod.fst = [1, 0, 2, 1] := by decide +kernel
  have hlength : (session.exchangesIn later (.shared 0)).length = 4 := by decide +kernel
  have hsmall : ∀ exchange ∈ session.exchangesIn later (.shared 0),
      exchange.1 ≤ wordMax ∧ exchange.1 * Sized.bytes UInt8 ≤ bytesMax := by decide +kernel
  have hasks : final.exchangesIn [.act "a" (.push 3)] (.shared 0) ≠ [] := by decide +kernel
  have hsilent : final.exchangesIn [.act "a" .pop] (.shared 0) = [] := by decide +kernel
  have hfound : pool.provider? "f" = some (.shared 0) := by decide +kernel
  have hword : (session.exchangesIn later (.shared 0)).length < UInt64.size := by
    rw [hlength]
    decide
  obtain ⟨⟨calls, hsource, hcalls, -⟩, -, -, hspent⟩ := budget_spent_exactly pool rfl
    (.inr ⟨[.build "a" {} (some "f"), .act "a" (.push 1)], "f", rfl, hfound⟩) hlater hword hsmall
  have hbudget : (2 : UInt64).toNat ≤ (session.exchangesIn later (.shared 0)).length := by
    rw [hlength]
    decide
  obtain ⟨-, hfails, -⟩ := hspent hbudget (.act "a" (.push 3))
  obtain ⟨-, -, hsame⟩ := hspent hbudget (.act "a" .pop)
  exact ⟨hrequests, ⟨calls, hsource, hcalls.trans hlength⟩, hfails hasks, fun other => (hsame hsilent other).1⟩

end Session

end ElasticBuffer
