import ElasticBuffer.Proofs.Acts
import ElasticBuffer.Proofs.Atomicity
import ElasticBuffer.Proofs.Ceiling
import ElasticBuffer.Proofs.Contents
import ElasticBuffer.Proofs.StorageHistory

/-!
# Values in a series

Values can be pushed one by one, each with a call of its own, or in a series with one call. The series stops at the
first value that is declined, and what was stored until then stays. This module shows that nothing tells a series from
the pushes it is made of: the buffer, its source and the reports on the way are the same, and so is the cause if one is
declined (`Session.series_of_pushes`, `Session.series_cut`).

It follows that a series may be cut anywhere. What is pushed in two series, the second one only if the first was stored
whole, is pushed as in one (`Session.series_append_of_ok`, `Session.series_append_of_declined`).
-/

namespace ElasticBuffer

variable {σ α : Type} {k : Nat}

/-! ### A source that grants whatever it is asked for -/

/-- Whatever blocks of at most `ceiling` slots the source is asked for, it grants them all. -/
def GrantsAlways [BlockSource σ] (bytes ceiling : Nat) (source : σ) : Prop :=
  ∀ after, Asked bytes ceiling source after → GrantsNext bytes ceiling after

theorem GrantsAlways.after [BlockSource σ] {bytes ceiling : Nat} {source next : σ}
    (h : GrantsAlways bytes ceiling source) (hasked : Asked bytes ceiling source next) :
    GrantsAlways bytes ceiling next :=
  fun after hafter => h after (hasked.trans hafter)

/-! ### Series of pushes onto a buffer -/

theorem Attempt.outcome_of_isOk {attempt : Attempt σ α} (h : attempt.outcome.isOk = true) :
    attempt.outcome = .ok () := by
  obtain ⟨outcome, buffer, source, events, dropped⟩ := attempt
  cases outcome with
  | ok _ => rfl
  | error halt => cases h

namespace Buffer

variable [Sized α] [BlockSource σ]

/-- A series that is stored whole is followed by the values behind it. -/
theorem pushAll_append_of_ok {first : List α} {buffer : Buffer α} {source : σ}
    (h : (buffer.pushAll first source).outcome = .ok ()) (second : List α) :
    buffer.pushAll (first ++ second) source =
      let earlier := buffer.pushAll first source
      let later := earlier.buffer.pushAll second earlier.source
      { later with
        events := earlier.events ++ later.events
        dropped := earlier.dropped ++ later.dropped
        taken := first.length + later.taken } := by
  induction first generalizing buffer source with
  | nil => simp only [List.nil_append, pushAll_nil, Attempt.done, List.length_nil, Nat.zero_add]
  | cons value first ih =>
    cases hpush : (buffer.push value source).outcome with
    | error halt =>
      rw [pushAll_cons_of_error hpush, hpush] at h
      cases h
    | ok _ =>
      rw [pushAll_cons_of_ok hpush] at h
      simp only [List.cons_append, pushAll_cons_of_ok hpush, ih h, List.append_assoc, List.length_cons,
        Nat.add_right_comm]

/-- A series that is cut leaves the values behind it alone. -/
theorem pushAll_append_of_error {first : List α} {buffer : Buffer α} {source : σ} {halt : Halt}
    (h : (buffer.pushAll first source).outcome = .error halt) (second : List α) :
    buffer.pushAll (first ++ second) source =
      let earlier := buffer.pushAll first source
      { earlier with unstored := earlier.unstored ++ second } := by
  induction first generalizing buffer source with
  | nil => cases h
  | cons value first ih =>
    cases hpush : (buffer.push value source).outcome with
    | error halt =>
      rw [List.cons_append, pushAll_cons_of_error hpush, pushAll_cons_of_error hpush]
      rfl
    | ok _ =>
      rw [pushAll_cons_of_ok hpush] at h
      simp only [List.cons_append, pushAll_cons_of_ok hpush, ih h]

/-- A series that is stored whole takes all its values and leaves none. -/
theorem taken_pushAll_of_ok {values : List α} {buffer : Buffer α} {source : σ}
    (h : (buffer.pushAll values source).outcome = .ok ()) :
    (buffer.pushAll values source).taken = values.length ∧ (buffer.pushAll values source).unstored = [] := by
  induction values generalizing buffer source with
  | nil => exact ⟨rfl, rfl⟩
  | cons value values ih =>
    cases hpush : (buffer.push value source).outcome with
    | error halt =>
      rw [pushAll_cons_of_error hpush, hpush] at h
      cases h
    | ok _ =>
      rw [pushAll_cons_of_ok hpush] at h ⊢
      obtain ⟨htaken, hunstored⟩ := ih h
      exact ⟨congrArg (· + 1) htaken, hunstored⟩

/-- A value is declined by a full block only. -/
theorem length_eq_of_push_error {buffer : Buffer α} (hlength : buffer.length ≤ buffer.capacity) {value : α}
    {source : σ} {halt : Halt} (h : (buffer.push value source).outcome = .error halt) :
    buffer.length = buffer.capacity := by
  rcases push_cases value source hlength with ⟨-, hpush⟩ | ⟨hfull, -⟩ | ⟨hfull, -⟩
  · rw [hpush] at h
    cases h
  · exact hfull
  · exact hfull

/-- A series ends with the value that is declined, and that by a full block. -/
theorem pushAll_cut {buffer : Buffer α} (hlength : buffer.length ≤ buffer.capacity) {source : σ} {stored : List α}
    {value : α} {halt : Halt} (hstored : (buffer.pushAll stored source).outcome = .ok ())
    (hdeclined : ((buffer.pushAll stored source).buffer.push value (buffer.pushAll stored source).source).outcome =
      .error halt) (rest : List α) :
    let intake := buffer.pushAll (stored ++ value :: rest) source
    intake.taken = stored.length + 1 ∧ intake.buffer.length = intake.buffer.capacity := by
  have hbefore := (evolves_pushAll hlength stored source).length_le hlength
  simp only [pushAll_append_of_ok hstored, pushAll_cons_of_error hdeclined, push_buffer_of_error hbefore hdeclined,
    true_and]
  exact length_eq_of_push_error hbefore hdeclined

/-- A source that grants all requests has the values stored, up to the ceiling. -/
theorem pushAll_of_grantsAlways (values : List α) {buffer : Buffer α} (hsound : buffer.Sound) {source : σ}
    (hgrants : GrantsAlways (Sized.bytes α) buffer.config.ceiling source) :
    ((buffer.pushAll values source).outcome.isOk = true ↔
        values.length ≤ buffer.config.ceiling - buffer.length) ∧
      (buffer.pushAll values source).buffer.toList =
        buffer.toList ++ values.take (buffer.config.ceiling - buffer.length) := by
  induction values generalizing buffer source with
  | nil =>
    rw [List.take_nil, List.append_nil]
    exact ⟨⟨fun _ => Nat.zero_le _, fun _ => rfl⟩, rfl⟩
  | cons value values ih =>
    by_cases hbelow : buffer.length < buffer.config.ceiling
    · have hpush := push_of_lt_ceiling hsound (hgrants source .refl) value hbelow
      have hevolves := Evolves.refl.push hsound.length_le value source
      have helements : (buffer.push value source).buffer.toList = buffer.toList ++ [value] := by
        rw [toList_push hsound.length_le, hpush]
        rfl
      have hlength : (buffer.push value source).buffer.length = buffer.length + 1 := by
        rw [← length_toList, helements, List.length_append, length_toList, List.length_singleton]
      have hrest := ih (hevolves.sound hsound)
        (by rw [hevolves.config_eq]; exact hgrants.after (asked_push hsound.length_le value .refl))
      rw [hevolves.config_eq, hlength, helements] at hrest
      obtain ⟨hok, hstored⟩ := hrest
      have hroom : buffer.config.ceiling - buffer.length = buffer.config.ceiling - (buffer.length + 1) + 1 := by
        omega
      rw [pushAll_cons_of_ok hpush, hroom]
      constructor
      · rw [List.length_cons, Nat.add_le_add_iff_right]
        exact hok
      · rw [List.take_succ_cons]
        exact hstored.trans (List.append_assoc ..)
    · obtain ⟨hlength, -, hpush⟩ := push_at_ceiling hsound value source (Nat.le_of_not_lt hbelow)
      rw [pushAll_cons_of_error hpush, hlength, Nat.sub_self, List.take_zero, List.append_nil]
      refine ⟨⟨?_, ?_⟩, congrArg toList (push_buffer_of_error hsound.length_le hpush)⟩
      · intro hok
        cases (congrArg Except.isOk hpush).symm.trans hok
      · intro hle
        exact absurd hle (Nat.not_succ_le_zero _)

end Buffer

/-! ### Reports on series -/

/-- How a series stops where a push would, at the last of `taken` values. -/
def Stop.cutAt (taken : Nat) : Stop → Stop
  | .fault cause => .cut cause taken
  | .cut cause _ => .cut cause taken
  | stop => stop

/-- The report on a series that is the continuation of another one, of `count` values that are all stored. -/
def Report.behind (count : Nat) (events : List Event) (report : Report σ α) : Report σ α where
  outcome :=
    match report.outcome with
    | .ok (.taken taken) => .ok (.taken (count + taken))
    | .error (.cut cause taken) => .error (.cut cause (count + taken))
    | outcome => outcome
  events := events ++ report.events

/-- The calls that push values one by one. -/
def Command.pushes (name : String) (values : List α) : List (Command α) :=
  values.map fun value => .act name (.push value)

theorem Item.number_take (start count : Nat) (values : List α) :
    number start (values.take count) = (number start values).take count := by
  induction values generalizing start count with
  | nil => simp only [List.take_nil, number]
  | cons value values ih =>
    cases count with
    | zero => rfl
    | succ count => rw [List.take_succ_cons, number, number, List.take_succ_cons, ih]

theorem Effect.outcome_ofIntake_behind (count : Nat) (intake : Intake σ (Item α)) (events : List Event)
    (dropped : List (Item α)) :
    (ofIntake { intake with
      events := events ++ intake.events
      dropped := dropped ++ intake.dropped
      taken := count + intake.taken }).outcome =
      (Report.behind count events ⟨(ofIntake intake).outcome, intake.events⟩).outcome := by
  obtain ⟨⟨outcome, buffer, source, events, dropped⟩, taken, unstored⟩ := intake
  rcases outcome with (cause | cause) | _ <;> rfl

/-- What is not stored is dropped. -/
theorem Effect.dropped_ofIntake {intake : Intake σ (Item α)} (h : intake.dropped = []) :
    (ofIntake intake).dropped = intake.unstored := by
  rw [ofIntake, h, List.nil_append]

namespace Session

variable [Element α] [BlockSource σ] {session : Session σ α k} {name : String} {slot : Slot (Item α) k}

theorem step_push (hfind : session.buffers.find? name = some slot) (value : α) :
    session.step (.act name (.push value)) =
      let attempt := slot.buffer.push ⟨session.ledger.issued, value⟩ (session.pool.source slot.provider)
      let effect := Effect.ofPush (⟨session.ledger.issued, value⟩ : Item α) attempt
      (⟨effect.outcome, attempt.events⟩,
        session.settle name { slot with buffer := attempt.buffer } attempt.source
          ((session.ledger.issue 1).drop effect.dropped)) :=
  act_eq_settle hfind (.push value)

theorem step_pushAll (hsound : session.Sound) (hfind : session.buffers.find? name = some slot) (values : List α) :
    session.step (.act name (.pushAll values)) =
      let intake := slot.buffer.pushAll (Item.number session.ledger.issued values)
        (session.pool.source slot.provider)
      (⟨(Effect.ofIntake intake).outcome, intake.events⟩,
        session.settle name { slot with buffer := intake.buffer } intake.source
          ((session.ledger.issue values.length).drop intake.unstored)) := by
  have hact := act_eq_settle hfind (.pushAll values)
  simp only [Action.number, Action.perform,
    Effect.dropped_ofIntake (Buffer.dropped_pushAll (hsound name slot hfind).length_le ..)] at hact
  exact hact

/-- A series that is stored whole. -/
theorem step_pushAll_of_ok (hsound : session.Sound) (hfind : session.buffers.find? name = some slot) {values : List α}
    (hok : (session.step (.act name (.pushAll values))).1.outcome.isOk = true) :
    let intake := slot.buffer.pushAll (Item.number session.ledger.issued values)
      (session.pool.source slot.provider)
    intake.outcome = .ok () ∧
      session.step (.act name (.pushAll values)) =
        (⟨.ok (.taken values.length), intake.events⟩,
          session.settle name { slot with buffer := intake.buffer } intake.source
            (session.ledger.issue values.length)) := by
  intro intake
  rw [step_pushAll hsound hfind] at hok ⊢
  have hpushed : intake.outcome = .ok () :=
    Attempt.outcome_of_isOk ((Effect.isOk_ofIntake intake).symm.trans hok)
  obtain ⟨htaken, hunstored⟩ := Buffer.taken_pushAll_of_ok hpushed
  rw [Item.length_number] at htaken
  have houtcome : (Effect.ofIntake intake).outcome = .ok (.taken values.length) := by
    simp only [Effect.ofIntake, hpushed]
    exact congrArg _ (congrArg _ htaken)
  refine ⟨hpushed, ?_⟩
  show (Report.mk (Effect.ofIntake intake).outcome _, session.settle _ _ _ (Ledger.drop intake.unstored _)) = _
  rw [houtcome, hunstored]
  rfl

/-- **A series goes on where another one ended.** -/
theorem series_append_of_ok (hsound : session.Sound) (hfind : session.buffers.find? name = some slot) {first : List α}
    (hok : (session.step (.act name (.pushAll first))).1.outcome.isOk = true) (second : List α) :
    session.step (.act name (.pushAll (first ++ second))) =
      let earlier := session.step (.act name (.pushAll first))
      let later := earlier.2.step (.act name (.pushAll second))
      (later.1.behind first.length earlier.1.events, later.2) := by
  obtain ⟨hfirst, hearlier⟩ := step_pushAll_of_ok hsound hfind hok
  have hissued : session.ledger.issue (first ++ second).length =
      (session.ledger.issue first.length).issue second.length := by
    simp only [Ledger.issue, List.length_append, Nat.add_assoc]
  have hlength := (hsound name slot hfind).length_le
  have hnext := (Buffer.evolves_pushAll hlength (Item.number session.ledger.issued first)
    (session.pool.source slot.provider)).length_le hlength
  rw [hearlier, step_pushAll hsound hfind, Item.number_append, Buffer.pushAll_append_of_ok hfirst, Item.length_number,
    hissued]
  simp only [step, act_settle, Action.number, Action.perform, Effect.dropped_ofIntake (Buffer.dropped_pushAll hnext ..)]
  exact congrArg (fun outcome => (Report.mk outcome _, _)) (Effect.outcome_ofIntake_behind ..)

/-- What stands behind the value that is declined is not looked at. -/
theorem series_append_of_declined (hsound : session.Sound) (hfind : session.buffers.find? name = some slot)
    {first : List α}
    (hdeclined : (session.step (.act name (.pushAll first))).1.outcome.isOk = false) (second : List α) :
    (session.step (.act name (.pushAll (first ++ second)))).1 = (session.step (.act name (.pushAll first))).1 ∧
      (session.step (.act name (.pushAll (first ++ second)))).2.Matches
        (session.step (.act name (.pushAll first))).2 := by
  rw [step_pushAll hsound hfind] at hdeclined
  rw [step_pushAll hsound hfind, step_pushAll hsound hfind, Item.number_append]
  generalize hintake : slot.buffer.pushAll (Item.number session.ledger.issued first)
    (session.pool.source slot.provider) = intake at hdeclined
  rw [Effect.isOk_ofIntake] at hdeclined
  cases houtcome : intake.outcome with
  | ok _ =>
    rw [houtcome] at hdeclined
    cases hdeclined
  | error halt =>
    rw [Buffer.pushAll_append_of_error (hintake ▸ houtcome), hintake]
    exact ⟨rfl, fun _ => rfl, rfl, rfl, rfl⟩

/-! ### A series and the pushes it is made of -/

/-- A value that is stored makes a series of one. -/
theorem series_singleton_of_ok (hsound : session.Sound) (hfind : session.buffers.find? name = some slot) {value : α}
    (hok : (session.step (.act name (.push value))).1.outcome.isOk = true) :
    session.step (.act name (.pushAll [value])) =
      (⟨.ok (.taken 1), (session.step (.act name (.push value))).1.events⟩,
        (session.step (.act name (.push value))).2) := by
  rw [step_push hfind] at hok ⊢
  rw [step_pushAll hsound hfind, Item.number, Item.number]
  rw [Effect.isOk_ofPush] at hok
  have hpush := Attempt.outcome_of_isOk hok
  have hdropped := Buffer.dropped_push (hsound name slot hfind).length_le
    (⟨session.ledger.issued, value⟩ : Item α) (session.pool.source slot.provider)
  simp only [Effect.ofPush, hpush, hdropped, Buffer.pushAll_cons_of_ok hpush, Buffer.pushAll_nil, Attempt.done,
    List.append_nil]
  rfl

/-- A series goes on where a push ended. -/
theorem series_cons_of_ok (hsound : session.Sound) (hfind : session.buffers.find? name = some slot) {value : α}
    (hok : (session.step (.act name (.push value))).1.outcome.isOk = true) (values : List α) :
    session.step (.act name (.pushAll (value :: values))) =
      let first := session.step (.act name (.push value))
      let rest := first.2.step (.act name (.pushAll values))
      (rest.1.behind 1 first.1.events, rest.2) := by
  have hsingle := series_singleton_of_ok hsound hfind hok
  have hstored : (session.step (.act name (.pushAll [value]))).1.outcome.isOk = true := by
    rw [hsingle]
    rfl
  have happend := series_append_of_ok hsound hfind hstored values
  rw [hsingle] at happend
  exact happend

/-- A value that is declined stops a series at once. -/
theorem series_cons_of_error (hsound : session.Sound) (hfind : session.buffers.find? name = some slot)
    {value : α} {cause : Stop}
    (herror : (session.step (.act name (.push value))).1.outcome = .error cause) (values : List α) :
    let first := session.step (.act name (.push value))
    let series := session.step (.act name (.pushAll (value :: values)))
    series.1 = ⟨.error (cause.cutAt 1), first.1.events⟩ ∧ series.2.Matches first.2 := by
  intro first series
  rw [step_push hfind] at herror
  show (session.step _).1 = ⟨_, (session.step _).1.events⟩ ∧ (session.step _).2.Matches (session.step _).2
  rw [step_push hfind, step_pushAll hsound hfind, Item.number]
  cases hpush : (slot.buffer.push ⟨session.ledger.issued, value⟩ (session.pool.source slot.provider)).outcome with
  | ok _ =>
    simp only [Effect.ofPush, Effect.ofAttempt, hpush] at herror
    cases herror
  | error halt =>
    simp only [Effect.ofPush, Effect.ofAttempt, hpush] at herror
    cases herror
    simp only [Buffer.pushAll_cons_of_error hpush, Effect.ofIntake, hpush]
    refine ⟨?_, fun _ => rfl, rfl, rfl, rfl⟩
    cases halt <;> rfl

/-- A push leaves the buffer where it was. -/
theorem exists_find?_push (hfind : session.buffers.find? name = some slot) (value : α) :
    ∃ buffer, (session.step (.act name (.push value))).2.buffers.find? name = some { slot with buffer := buffer } := by
  rw [step_push hfind]
  exact ⟨_, find?_settle ..⟩

/-- **A series is its pushes.** If values are stored one by one, a series of them leaves the same session with the same
events behind, and takes all of them. -/
theorem series_of_pushes (hsound : session.Sound) (hfind : session.buffers.find? name = some slot) {values : List α}
    (hok : ∀ result ∈ session.trace (Command.pushes name values), result.1.outcome.isOk = true) :
    let series := session.step (.act name (.pushAll values))
    let pushed := session.run (Command.pushes name values)
    series.1 = ⟨.ok (.taken values.length), session.log (Command.pushes name values)⟩ ∧
      series.2.Matches pushed ∧ series.2.ledger = pushed.ledger := by
  induction values generalizing session slot with
  | nil =>
    rw [step_pushAll hsound hfind]
    exact ⟨rfl, matches_settle hfind _, rfl⟩
  | cons value values ih =>
    have hfirst := hok _ (List.mem_cons_self ..)
    obtain ⟨buffer, hnext⟩ := exists_find?_push hfind value
    obtain ⟨hreport, hmatches, hledger⟩ := ih (hsound.step _) hnext
      fun result hmem => hok result (List.mem_cons_of_mem _ hmem)
    rw [series_cons_of_ok hsound hfind hfirst]
    refine ⟨?_, hmatches, hledger⟩
    refine (congrArg (Report.behind 1 _) hreport).trans ?_
    rw [List.length_cons, Nat.add_comm values.length]
    rfl

/-- **A series stops at the first value that is declined.** It leaves the same session with the same events behind as
the pushes of the values before and of the one that is declined, and stops for the same cause. -/
theorem series_cut (hsound : session.Sound) (hfind : session.buffers.find? name = some slot)
    {stored : List α} {value : α} {cause : Stop}
    (hok : ∀ result ∈ session.trace (Command.pushes name stored), result.1.outcome.isOk = true)
    (herror : ((session.run (Command.pushes name stored)).step (.act name (.push value))).1.outcome = .error cause)
    (rest : List α) :
    let series := session.step (.act name (.pushAll (stored ++ value :: rest)))
    series.1 = ⟨.error (cause.cutAt (stored.length + 1)), session.log (Command.pushes name (stored ++ [value]))⟩ ∧
      series.2.Matches (session.run (Command.pushes name (stored ++ [value]))) := by
  obtain ⟨hreport, hmatches, hledger⟩ := series_of_pushes hsound hfind hok
  obtain ⟨hpush, hpushed⟩ := hmatches.act hledger name (.push value)
  have hstored : (session.step (.act name (.pushAll stored))).1.outcome.isOk = true := by
    rw [hreport]
    rfl
  have hcommands : Command.pushes name (stored ++ [value]) =
      Command.pushes name stored ++ [.act name (.push value)] := List.map_append
  obtain ⟨slot', hnext⟩ : ∃ slot', (session.step (.act name (.pushAll stored))).2.buffers.find? name = some slot' := by
    rw [step_pushAll hsound hfind]
    exact ⟨_, find?_settle ..⟩
  obtain ⟨hcut, hafter⟩ :=
    series_cons_of_error (hsound.step _) hnext ((congrArg Report.outcome hpush).trans herror) rest
  rw [series_append_of_ok hsound hfind hstored, hcommands, log_append, run_append]
  refine ⟨?_, hafter.trans hpushed⟩
  have hevents : (session.run (Command.pushes name stored)).log [.act name (.push value)] =
      ((session.step (.act name (.pushAll stored))).2.step (.act name (.push value))).1.events :=
    (List.append_nil _).trans (congrArg Report.events hpush).symm
  rw [hevents]
  refine (congr (congrArg (Report.behind stored.length) (congrArg Report.events hreport)) hcut).trans ?_
  cases cause <;> rfl

/-- A series that is cut has taken the values before the declined one and that one, and finds the block full. -/
theorem series_cut_full (hsound : session.Sound) (hfind : session.buffers.find? name = some slot)
    {stored : List α} {value : α} {cause : Stop}
    (hok : ∀ result ∈ session.trace (Command.pushes name stored), result.1.outcome.isOk = true)
    (herror : ((session.run (Command.pushes name stored)).step (.act name (.push value))).1.outcome = .error cause)
    (rest : List α) :
    (slot.buffer.pushAll (Item.number session.ledger.issued (stored ++ value :: rest))
        (session.pool.source slot.provider)).taken = stored.length + 1 ∧
      ∃ after, (session.step (.act name (.pushAll (stored ++ value :: rest)))).2.buffers.find? name = some after ∧
        after.buffer.length = after.buffer.capacity := by
  obtain ⟨hreport, hmatches, hledger⟩ := series_of_pushes hsound hfind hok
  obtain ⟨hpush, -⟩ := hmatches.act hledger name (.push value)
  have hwhole : (session.step (.act name (.pushAll stored))).1.outcome.isOk = true := by
    rw [hreport]
    rfl
  obtain ⟨hstored, hsettled⟩ := step_pushAll_of_ok hsound hfind hwhole
  have hdeclined := (congrArg Report.outcome hpush).trans herror
  rw [hsettled, act_settle] at hdeclined
  obtain ⟨halt, hhalt⟩ := Effect.exists_halt hdeclined
  have hitems : Item.number session.ledger.issued (stored ++ value :: rest) =
      Item.number session.ledger.issued stored ++
        ⟨session.ledger.issued + stored.length, value⟩ ::
          Item.number (session.ledger.issued + stored.length + 1) rest := Item.number_append ..
  obtain ⟨htaken, hfull⟩ := Buffer.pushAll_cut (hsound name slot hfind).length_le hstored hhalt
    (Item.number (session.ledger.issued + stored.length + 1) rest)
  rw [Item.length_number] at htaken
  rw [step_pushAll hsound hfind, hitems]
  exact ⟨htaken, _, find?_settle .., hfull⟩

/-- **Series and pushes.** Take any buffer of any session that a run can lead to, on whatever source. If values are
stored one by one, a series of them takes all of them and leaves the same session and the same events behind. If some
are stored and the next one is declined, a series that goes on with it takes these and that one, stops for the same
cause, leaves what the same pushes leave, and the block is full.

So a series may be cut in two anywhere: the second part is pushed if the first one was stored whole, and no source is
asked for anything else. And a source that grants whatever it is asked for has as many values stored as the ceiling
leaves room for. -/
theorem series_as_pushes {session : Session σ α k} (hreachable : session.Reachable) {name : String}
    {slot : Slot (Item α) k} (hfind : session.buffers.find? name = some slot) :
    let buffer := slot.buffer
    let source := session.pool.source slot.provider
    let series : List α → Command α := fun values => .act name (.pushAll values)
    (∀ values, (∀ result ∈ session.trace (Command.pushes name values), result.1.outcome.isOk = true) →
      (session.step (series values)).1 =
          ⟨.ok (.taken values.length), session.log (Command.pushes name values)⟩ ∧
        (session.step (series values)).2.Matches (session.run (Command.pushes name values)) ∧
        (session.step (series values)).2.ledger = (session.run (Command.pushes name values)).ledger) ∧
    (∀ stored value rest cause,
      (∀ result ∈ session.trace (Command.pushes name stored), result.1.outcome.isOk = true) →
      ((session.run (Command.pushes name stored)).step (.act name (.push value))).1.outcome = .error cause →
      (session.step (series (stored ++ value :: rest))).1 =
          ⟨.error (cause.cutAt (stored.length + 1)), session.log (Command.pushes name (stored ++ [value]))⟩ ∧
        (session.step (series (stored ++ value :: rest))).2.Matches
          (session.run (Command.pushes name (stored ++ [value]))) ∧
        (buffer.pushAll (Item.number session.ledger.issued (stored ++ value :: rest)) source).taken =
          stored.length + 1 ∧
        ∃ after, (session.step (series (stored ++ value :: rest))).2.buffers.find? name = some after ∧
          after.buffer.length = after.buffer.capacity) ∧
    (∀ first second, (session.step (series first)).1.outcome.isOk = true →
      session.step (series (first ++ second)) =
          (let earlier := session.step (series first)
          let later := earlier.2.step (series second)
          (later.1.behind first.length earlier.1.events, later.2)) ∧
        session.requestsIn [series (first ++ second)] = session.requestsIn [series first, series second]) ∧
    (∀ first second, (session.step (series first)).1.outcome.isOk = false →
      (session.step (series (first ++ second))).1 = (session.step (series first)).1 ∧
        (session.step (series (first ++ second))).2.Matches (session.step (series first)).2 ∧
        session.requestsIn [series (first ++ second)] = session.requestsIn [series first]) ∧
    (GrantsAlways (Sized.bytes α) buffer.config.ceiling source → ∀ values,
      ((session.step (series values)).1.outcome.isOk = true ↔
          values.length ≤ buffer.config.ceiling - buffer.length) ∧
        ∃ after, (session.step (series values)).2.buffers.find? name = some after ∧
          after.buffer.toList = buffer.toList ++
            Item.number session.ledger.issued
              (values.take (min values.length (buffer.config.ceiling - buffer.length)))) := by
  intro buffer source series
  have hsound := hreachable.sound
  have hrecorded : session.recorded.buffers.find? name = some slot := hfind
  have hsoundRecorded : session.recorded.Sound := hsound
  refine ⟨fun values hok => series_of_pushes hsound hfind hok, ?_, ?_, ?_, ?_⟩
  · intro stored value rest cause hok herror
    obtain ⟨hreport, hmatches⟩ := series_cut hsound hfind hok herror rest
    exact ⟨hreport, hmatches, series_cut_full hsound hfind hok herror rest⟩
  · intro first second hok
    refine ⟨series_append_of_ok hsound hfind hok second, ?_⟩
    -- the requests are read off the same equation between sessions that keep records
    funext provider
    rw [← isOk_step_recorded] at hok
    exact congrArg (fun result => (result.2.pool.source provider).requests)
      (series_append_of_ok hsoundRecorded hrecorded hok second)
  · intro first second hdeclined
    obtain ⟨hreport, hmatches⟩ := series_append_of_declined hsound hfind hdeclined second
    refine ⟨hreport, hmatches, ?_⟩
    funext provider
    rw [← isOk_step_recorded] at hdeclined
    obtain ⟨-, hrecord⟩ := series_append_of_declined hsoundRecorded hrecorded hdeclined second
    exact congrArg (fun pool => (pool.source provider).requests) hrecord.pool_eq
  · intro hgrants values
    obtain ⟨hok, hstored⟩ := Buffer.pushAll_of_grantsAlways (Item.number session.ledger.issued values)
      (hsound name slot hfind) hgrants
    rw [Item.length_number] at hok
    have htake : values.take (min values.length (buffer.config.ceiling - buffer.length)) =
        values.take (buffer.config.ceiling - buffer.length) := by
      rw [Nat.min_comm]
      exact List.take_eq_take_min.symm
    rw [step_pushAll hsound hfind, htake, Item.number_take]
    refine ⟨?_, _, find?_settle .., hstored⟩
    rw [Effect.isOk_ofIntake]
    exact hok

/-- A buffer with one byte has a ceiling of three, and its source grants whatever it is asked for. Of four more bytes
two are stored, and the third one is declined. A series of two and one of two come to the same. -/
theorem series_as_pushes_three_bytes :
    let session : Session Allocator UInt8 0 := (start ⟨.system, #v[], #v[]⟩).run
      [.build "a" { maxCapacity := 3 } none, .act "a" (.push 1)]
    let series : List UInt8 → Command UInt8 := fun values => .act "a" (.pushAll values)
    (session.step (series [2, 3])).1.outcome = .ok (.taken 2) ∧
      (session.step (series [2, 3, 4, 5])).1.outcome = .error (.cut (.allocationFailure 6 3) 3) ∧
      (session.step (series [2, 3, 4, 5])).2 = ((session.step (series [2, 3])).2.step (series [4, 5])).2 ∧
      session.requestsIn [series [2, 3, 4, 5]] = session.requestsIn [series [2, 3], series [4, 5]] ∧
      ∃ after, (session.step (series [2, 3, 4, 5])).2.buffers.find? "a" = some after ∧
        after.buffer.toList = [⟨0, 1⟩, ⟨1, 2⟩, ⟨2, 3⟩] := by
  intro session series
  have hreachable : session.Reachable := ⟨_, _, rfl⟩
  have hstored : ∀ result ∈ session.trace (Command.pushes "a" [2, 3]), result.1.outcome.isOk = true := by
    decide +kernel
  have hfull : ((session.run (Command.pushes "a" [2, 3])).buffers.find? "a").map (fun slot =>
      (slot.buffer.config, slot.buffer.length)) = some ({ maxCapacity := 3 }, 3) := by decide +kernel
  have hslot : (session.buffers.find? "a").map (fun slot =>
      (slot.buffer.toList, slot.buffer.config.ceiling, session.pool.source slot.provider)) =
        some ([⟨0, 1⟩], 3, .system) := by decide +kernel
  have hissued : session.ledger.issued = 1 := by decide +kernel
  have hsystem : GrantsAlways 1 3 Allocator.system := by
    intro after hasked
    have hsame : after = .system := by
      induction hasked with
      | refl => rfl
      | request _ _ _ ih => rw [ih]; rfl
    intro capacity hpos hle
    subst hsame
    have hcases : capacity = 1 ∨ capacity = 2 ∨ capacity = 3 := by omega
    rcases hcases with rfl | rfl | rfl <;> exact ⟨by decide, by decide⟩
  clear_value session
  obtain ⟨slot, hfind, hslot⟩ := Option.map_eq_some_iff.1 hslot
  simp only [Prod.mk.injEq] at hslot
  obtain ⟨hlist, hceiling, hsource⟩ := hslot
  obtain ⟨hpushes, hcut, hsplit, -, hgranted⟩ := series_as_pushes hreachable hfind
  have hcause : ((session.run (Command.pushes "a" [2, 3])).step (.act "a" (.push 4))).1.outcome =
      .error (.fault (.allocationFailure 6 3)) := by
    obtain ⟨full, hfindFull, hfull⟩ := Option.map_eq_some_iff.1 hfull
    obtain ⟨hconfig, hlength⟩ := Prod.mk.inj hfull
    have hthree : full.buffer.config.ceiling = 3 := by
      rw [hconfig]
      decide
    have hsound : (session.run (Command.pushes "a" [2, 3])).Sound :=
      run_induction (fun command _ h => h.step command) _ hreachable.sound
    obtain ⟨-, -, hdeclined⟩ := Buffer.push_at_ceiling (hsound "a" full hfindFull)
      ⟨(session.run (Command.pushes "a" [2, 3])).ledger.issued, 4⟩
      ((session.run (Command.pushes "a" [2, 3])).pool.source full.provider) (by omega)
    rw [hthree, hconfig] at hdeclined
    rw [outcome_act hfindFull]
    exact Effect.outcome_ofAttempt_of_error hdeclined
  have hwhole := hpushes [2, 3] hstored
  have hparts := hsplit [2, 3] [4, 5] (by rw [hwhole.1]; rfl)
  have hlast := congrArg Prod.snd hparts.1
  have hmost := hgranted (by rw [hceiling, hsource]; exact hsystem) [2, 3, 4, 5]
  rw [hlist, hceiling, hissued, ← Buffer.length_toList, hlist] at hmost
  exact ⟨congrArg Report.outcome hwhole.1, congrArg Report.outcome (hcut [2, 3] 4 [5] _ hstored hcause).1,
    hlast, hparts.2, hmost.2⟩

end Session

end ElasticBuffer
