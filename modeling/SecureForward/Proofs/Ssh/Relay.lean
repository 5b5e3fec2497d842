import SecureForward.Proofs.Ssh.Teardown
import SecureForward.Proofs.Ssh.Transcript

/-!
# Relays on the account

The transfers that a relay puts on the account are the steps of its transcript, in their order. A
relay leaves the session in one of two ways: with calls added to the account, or, if the forward is
stopped in the middle of a round, with what stopping it leaves between the calls of before and those
of after. `Passage` says so of a site, `passage_exchange` is the round, and `run_copyLoop` the
induction on the waits.

`relay_copies` puts the run and the transcript together. A stop is noticed between two rounds only,
so the round in which it falls is still finished: `stopped_round_is_finished`.
-/

namespace SecureForward

open Act (run)

/-- The call waits for data, receives it or sends it. -/
def NetworkCall.isTransfer : NetworkCall → Bool
  | .select _ | .receive _ _ | .send _ _ => true
  | _ => false

/-- The call asks for the number of connections. -/
def NetworkCall.isCount : NetworkCall → Bool
  | .countConnections _ => true
  | _ => false

/-- An end of a connection. -/
def Connection.at (connection : Connection) : RelayEnd → Resource
  | .client => connection.client
  | .channel => connection.channel

/-- The call that a step of a relay puts on the account. -/
def RelayStep.call (connection : Connection) : RelayStep → NetworkCall
  | wait _ _ => .select Ssh.selectSeconds
  | receive source _ => .receive (connection.at source) Ssh.chunkLimit
  | send destination data _ => .send (connection.at destination) data

/-- A site once more calls were put on the account. -/
def Site.noted (site : Site Ssh) (calls : List NetworkCall) : Site Ssh :=
  { site with peer := { site.peer with calls := site.peer.calls ++ calls } }

/-- Calls that are noted one after the other. -/
theorem Site.noted_noted (site : Site Ssh) (calls calls' : List NetworkCall) :
    (site.noted calls).noted calls' = site.noted (calls ++ calls') := by
  unfold Site.noted
  rw [List.append_assoc]

/-- No call is noted. -/
@[simp]
theorem Site.noted_nil (site : Site Ssh) : site.noted [] = site := by
  unfold Site.noted
  rw [List.append_nil]

namespace Ssh

variable {connection : Connection} {site : Site Ssh} {event : RelayEvent} {stopFault : Option Fault}
  {first next steps : List RelayStep}

/-- Connections are accepted and relayed. -/
def IsUp (site : Site Ssh) : Prop :=
  site.peer.forward.any (·.isRunning) = true

/-! ## Single steps -/

/-- Noting a call puts it on the account. -/
theorem run_note (call : NetworkCall) (site : Site Ssh) :
    run (note call) site = (.ok (), site.noted [call]) := rfl

/-- Looking whether the forward is running changes nothing. -/
theorem run_isRunning (site : Site Ssh) :
    run isRunning site = (.ok (site.peer.forward.any (·.isRunning)), site) := rfl

/-- The calls are those of some steps, apart from counting the connections. -/
def Records (connection : Connection) (calls : List NetworkCall) (steps : List RelayStep) : Prop :=
  calls.filter (!·.isCount) = steps.map (·.call connection)

/-- The calls of some steps record them. -/
theorem records_map (connection : Connection) (steps : List RelayStep) :
    Records connection (steps.map (·.call connection)) steps := by
  unfold Records
  rw [List.filter_eq_self]
  intro call hcall
  obtain ⟨step, -, rfl⟩ := List.mem_map.1 hcall
  cases step <;> rfl

/-- Calls after each other record the steps after each other. -/
theorem Records.append {calls calls' : List NetworkCall} (h : Records connection calls first)
    (h' : Records connection calls' next) :
    Records connection (calls ++ calls') (first ++ next) := by
  unfold Records at h h' ⊢
  rw [List.filter_append, h, h', List.map_append]

/-- A recorded call counts the connections or is that of a step. -/
theorem Records.mem {calls : List NetworkCall} (h : Records connection calls steps)
    {call : NetworkCall}
    (hcall : call ∈ calls) : call.isCount = true ∨ ∃ step ∈ steps, step.call connection = call := by
  cases hcount : call.isCount with
  | true => exact .inl rfl
  | false =>
    have hmem : call ∈ steps.map (·.call connection) := by
      rw [← h]
      exact List.mem_filter.2 ⟨hcall, by rw [hcount]; rfl⟩
    exact .inr (List.mem_map.1 hmem)

/-- The recorded calls that transfer data are those of the steps. -/
theorem Records.transfers {calls : List NetworkCall} (h : Records connection calls steps) :
    calls.filter (·.isTransfer) = steps.map (·.call connection) := by
  have hsteps :
      (steps.map (·.call connection)).filter (·.isTransfer) = steps.map (·.call connection) := by
    rw [List.filter_eq_self]
    intro call hcall
    obtain ⟨step, -, rfl⟩ := List.mem_map.1 hcall
    cases step <;> rfl
  have hcounts (call : NetworkCall) : (call.isTransfer && !call.isCount) = call.isTransfer := by
    cases call <;> rfl
  rw [← hsteps, ← h, List.filter_filter]
  simp only [hcounts]

/-- What some steps end with: their fault, or whether there is more to come. -/
def verdict (steps : List RelayStep) : Except Fault Bool :=
  match steps.findSome? (·.fault?) with
  | some fault => .error fault
  | none => .ok (!steps.any (·.atEnd))

/-- After steps that do not end a relay there is more to come. -/
theorem verdict_of_not_ends (h : steps.any (·.ends) = false) : verdict steps = .ok true := by
  have hnot (step : RelayStep) (hstep : step ∈ steps) :
      step.atEnd = false ∧ step.fault? = none := by
    simpa [RelayStep.ends] using List.any_eq_false.1 h step hstep
  have hfault : steps.findSome? (·.fault?) = none :=
    List.findSome?_eq_none_iff.2 fun step hstep => (hnot step hstep).2
  have hend : steps.any (·.atEnd) = false :=
    List.any_eq_false.2 fun step hstep => by simp [(hnot step hstep).1]
  unfold verdict
  rw [hfault, hend]
  rfl

/-- After steps that end a relay there is a fault, or nothing more to come. -/
theorem verdict_of_ends (h : steps.any (·.ends) = true) :
    (∃ fault, verdict steps = .error fault) ∨ verdict steps = .ok false := by
  unfold verdict
  cases hfault : steps.findSome? (·.fault?) with
  | some fault => exact .inl ⟨fault, rfl⟩
  | none =>
    obtain ⟨step, hstep, hends⟩ := List.any_eq_true.1 h
    have hend : steps.any (·.atEnd) = true := by
      refine List.any_eq_true.2 ⟨step, hstep, ?_⟩
      simpa [RelayStep.ends, List.findSome?_eq_none_iff.1 hfault step hstep] using hends
    exact .inr (by rw [hend]; rfl)

/-- Steps that follow others which do not end a relay decide what the whole ends with. -/
theorem verdict_append (h : first.any (·.ends) = false) (next : List RelayStep) :
    verdict (first ++ next) = verdict next := by
  have hnot (step : RelayStep) (hstep : step ∈ first) :
      step.atEnd = false ∧ step.fault? = none := by
    simpa [RelayStep.ends] using List.any_eq_false.1 h step hstep
  have hfault : first.findSome? (·.fault?) = none :=
    List.findSome?_eq_none_iff.2 fun step hstep => (hnot step hstep).2
  have hend : first.any (·.atEnd) = false :=
    List.any_eq_false.2 fun step hstep => by simp [(hnot step hstep).1]
  unfold verdict
  rw [List.findSome?_append, hfault, List.any_append, hend, Option.none_or, Bool.false_or]

/-! ## Copying -/

/-- The task takes these steps and does nothing else. -/
def Does (connection : Connection) (task : Task Bool) (steps : List RelayStep) : Prop :=
  ∀ site, run task site = (verdict steps, site.noted (steps.map (·.call connection)))

/-- One copy takes its steps. -/
theorem does_copyChunk (connection : Connection) (event : RelayEvent) (source : RelayEnd) :
    Does connection (copyChunk (connection.at source) (connection.at source.other)
      (event.answer? source) (event.sendFault? source.other)) (copying event source) := by
  intro site
  obtain ⟨hanswer, h⟩ | ⟨_, hanswer, h⟩ | ⟨hanswer, h⟩ | ⟨data, hdata, hanswer, h⟩ :=
    copying_cases event source <;> rw [h, hanswer]
  · rw [List.map_nil, Site.noted_nil]
    rfl
  · rfl
  · rfl
  · obtain ⟨byte, data, rfl⟩ := List.exists_cons_of_ne_nil hdata
    have hcalls (call call' : NetworkCall) :
        site.noted [call, call'] = (site.noted [call]).noted [call'] :=
      (Site.noted_noted site [call] [call']).symm
    rw [List.map_cons, List.map_singleton, hcalls]
    cases event.sendFault? source.other <;> rfl

/-- A second task that is left out if the first one has nothing more to come takes the steps that
follow those of the first. -/
theorem Does.andThen {task task' : Task Bool} (h : Does connection task first)
    (hnext : Does connection task' next) :
    Does connection (task >>= fun more => if !more then pure false else task')
      (andThen first next) := by
  intro site
  have hfirst := h site
  cases hends : first.any (·.ends) with
  | true =>
    rw [andThen_of_ends hends]
    obtain ⟨fault, hverdict⟩ | hverdict := verdict_of_ends hends
    · rw [hverdict] at hfirst ⊢
      exact Act.run_bind_of_error hfirst
    · rw [hverdict] at hfirst ⊢
      exact Act.run_bind_of_ok hfirst
  | false =>
    rw [verdict_of_not_ends hends] at hfirst
    rw [andThen_of_not_ends hends, Act.run_bind_of_ok hfirst, verdict_append hends, List.map_append,
      ← Site.noted_noted]
    exact hnext _

/-- Copies what both ends have, the client first. -/
def copyBoth (connection : Connection) (event : RelayEvent) : Task Bool := do
  let more ← copyChunk connection.client connection.channel event.client event.channelFault
  if !more then return false
  copyChunk connection.channel connection.client event.channel event.clientFault

/-- Both copies take their steps. -/
theorem does_copyBoth (connection : Connection) (event : RelayEvent) :
    Does connection (copyBoth connection event) (exchanging event) :=
  (does_copyChunk connection event .client).andThen (does_copyChunk connection event .channel)

/-! ## One round -/

/-- What a relay comes to after some steps. -/
inductive Passage (connection : Connection) (site : Site Ssh) :
    Option Fault → List RelayStep → Site Ssh → Prop
  /-- Calls were added to the account. -/
  | running {added steps} :
      Records connection added steps → steps.any (·.stops) = false →
      Passage connection site none steps (site.noted added)
  /-- Calls were added before and after the forward was stopped. -/
  | halted {before after steps} :
      Records connection (before ++ after) steps → steps.any (·.stops) = true →
      Passage connection site (stopForward.fault? (site.noted before)) steps
        ((run stopForward (site.noted before)).2.noted after)

/-- The calls of a round before the forward may be stopped. -/
def roundStart (event : RelayEvent) (site : Site Ssh) : List NetworkCall :=
  .select selectSeconds ::
    if event.countsConnections then
      [.countConnections ((site.peer.forward.map (·.connections.length)).getD 0)]
    else []

/-- The rest of a round after the forward may have been stopped. -/
def roundRest (connection : Connection) (event : RelayEvent) : Task Bool := do
  fail? event.waitFault
  copyBoth connection event

/-- A round waits and counts, stops the forward if that is what happens, and does the rest. -/
theorem run_exchange_eq (connection : Connection) (event : RelayEvent) (site : Site Ssh) :
    run (exchange connection event) site =
      run (if event.stops then stopForward >>= fun _ => roundRest connection event
        else roundRest connection event) (site.noted (roundStart event site)) := by
  unfold exchange roundStart
  rw [Act.run_bind_of_ok (run_note _ _)]
  cases event.countsConnections with
  | true =>
    rw [if_pos rfl, if_pos rfl, Act.run_bind_of_ok (run_session _),
      Act.run_bind_of_ok (run_note _ _), Site.noted_noted]
    rfl
  | false => rfl

/-- The rest of a round does what follows the wait. -/
theorem run_roundRest (fault : Option Fault) (connection : Connection) (event : RelayEvent)
    (site : Site Ssh) :
    ∃ calls, run (fail? fault >>= fun _ => copyBoth connection event) site =
        (verdict (andThen [.wait event fault] (exchanging event)), site.noted calls) ∧
      .select selectSeconds :: calls =
        (andThen [.wait event fault] (exchanging event)).map (·.call connection) := by
  cases fault with
  | some fault => exact ⟨[], by rw [Site.noted_nil]; rfl, rfl⟩
  | none => exact ⟨_, does_copyBoth connection event site, rfl⟩

/-- A round in which the forward is stopped fails as that does, or goes on with its rest. -/
theorem run_stopForward_roundRest (connection : Connection) (event : RelayEvent) (site : Site Ssh) :
    ∃ calls, run (stopForward >>= fun _ => roundRest connection event) site =
        (verdict (andThen [.wait event ((stopForward.fault? site).or event.waitFault)]
          (exchanging event)), (run stopForward site).2.noted calls) ∧
      .select selectSeconds :: calls =
        (andThen [.wait event ((stopForward.fault? site).or event.waitFault)]
          (exchanging event)).map (·.call connection) := by
  cases hstopped : stopForward.fault? site with
  | some fault =>
    refine ⟨[], ?_, rfl⟩
    rw [Act.run_bind_of_error (Act.run_of_fault?_eq_some hstopped), Site.noted_nil]
    rfl
  | none =>
    obtain ⟨_, hrun⟩ := Act.exists_of_fault?_eq_none hstopped
    rw [Act.run_bind_of_ok hrun]
    exact run_roundRest event.waitFault connection event _

/-- Stopping the forward transfers no data. -/
theorem stopping_isTransfer (calls : List NetworkCall) :
    Stopping fun site =>
      ∃ added, site.peer.calls = calls ++ added ∧ added.filter (·.isTransfer) = [] where
  change _ _ := fun _ h => h
  close resource := by
    rintro site ⟨added, hcalls, hadded⟩
    refine ⟨added ++ [.close resource], ?_, ?_⟩
    · rw [run_note, Site.noted, hcalls, List.append_assoc]
    · rw [List.filter_append, hadded]
      rfl
  join name seconds := by
    rintro site ⟨added, hcalls, hadded⟩
    refine ⟨added ++ [.joinThread name seconds], ?_, ?_⟩
    · rw [run_note, Site.noted, hcalls, List.append_assoc]
    · rw [List.filter_append, hadded]
      rfl
  report _ _ := fun _ h => h

/-- What stops a forward does not let it run again. -/
theorem stopping_not_isUp : Stopping fun site => ¬ IsUp site where
  change f hf := by
    intro site h hup
    obtain ⟨forward, hforward, hrunning⟩ := (Option.any_eq_true _ _).1 hup
    obtain ⟨old, hold, rfl⟩ := Option.map_eq_some_iff.1 hforward
    exact h ((Option.any_eq_true _ _).2 ⟨old, hold, hf old hrunning⟩)
  close _ := fun _ h => h
  join _ _ := fun _ h => h
  report _ _ := fun _ h => h

/-- A forward that was stopped is not running, whatever stopping it ended with. -/
theorem not_isUp_stopForward (site : Site Ssh) : ¬ IsUp (run stopForward site).2 := by
  cases hforward : site.peer.forward with
  | none =>
    rw [run_stopForward_of_none hforward]
    unfold IsUp
    rw [hforward]
    exact Bool.false_ne_true
  | some forward =>
    rw [run_stopForward_eq hforward]
    exact stopping_not_isUp.giveUp forward _ Bool.false_ne_true

/-- One round takes its steps, and stops the forward in between if that is what happens. -/
theorem passage_exchange (connection : Connection) (event : RelayEvent) (site : Site Ssh) :
    ∃ stopFault, (run (exchange connection event) site).1 = verdict (round stopFault event) ∧
      Passage connection site stopFault (round stopFault event)
        (run (exchange connection event) site).2 := by
  have hcalls {stopFault : Option Fault} {calls : List NetworkCall}
      (h : .select selectSeconds :: calls = (round stopFault event).map (·.call connection)) :
      Records connection (roundStart event site ++ calls) (round stopFault event) := by
    have hstart : (roundStart event site).filter (!·.isCount) = [.select selectSeconds] := by
      unfold roundStart
      cases event.countsConnections <;> rfl
    have hround := records_map connection (round stopFault event)
    unfold Records at hround ⊢
    rw [← h] at hround ⊢
    rw [List.filter_append, hstart, ← hround]
    rfl
  rw [run_exchange_eq]
  cases hstops : event.stops with
  | false =>
    have hfault : waitFault? none event = event.waitFault := by simp [waitFault?, hstops]
    obtain ⟨calls, hrun, hsteps⟩ := run_roundRest event.waitFault connection event
      (site.noted (roundStart event site))
    rw [← hfault] at hrun hsteps
    refine ⟨none, ?_⟩
    rw [if_neg Bool.false_ne_true, roundRest, ← hfault, hrun, Site.noted_noted]
    exact ⟨rfl, .running (hcalls hsteps) (by rw [any_stops_round, hstops])⟩
  | true =>
    have hfault (stopFault : Option Fault) :
        waitFault? stopFault event = stopFault.or event.waitFault := by
      simp [waitFault?, hstops]
    obtain ⟨calls, hrun, hsteps⟩ := run_stopForward_roundRest connection event
      (site.noted (roundStart event site))
    rw [← hfault] at hrun hsteps
    refine ⟨stopForward.fault? (site.noted (roundStart event site)), ?_⟩
    rw [if_pos rfl, hrun]
    exact ⟨rfl, .halted (hcalls hsteps) (by rw [any_stops_round, hstops])⟩

/-! ## The whole relay -/

/-- Relays over some waits. -/
def copyLoop (connection : Connection) : List RelayEvent → Task Unit
  | [] => pure ()
  | event :: waits => do
    if !(← isRunning) then return
    if ← exchange connection event then copyLoop connection waits

/-- Relaying over events is relaying over the waits that they come to. -/
theorem relayLoop_eq (connection : Connection) :
    (events : List RelayEvent) → relayLoop connection events = copyLoop connection (waits events)
  | [] => by
    unfold relayLoop waits copyLoop
    rfl
  | event :: events => by
    unfold relayLoop waits
    cases event.closed with
    | none => rw [copyLoop, relayLoop_eq connection events]
    | some closed =>
      cases closed with
      | true =>
        simp only [ite_self]
        rfl
      | false =>
        cases events with
        | nil =>
          have hlast : (discard (exchange connection .quiet) : Task Unit) =
              exchange connection .quiet >>= fun more =>
                if more then copyLoop connection [] else pure () := by
            funext site
            change run (exchange connection .quiet >>= fun _ => pure ()) site = run _ site
            rw [Act.run_bind, Act.run_bind]
            rcases run (exchange connection .quiet) site with ⟨_ | _ | _, _⟩ <;> rfl
          dsimp only
          rw [copyLoop, hlast]
        | cons event events =>
          dsimp only
          rw [copyLoop, relayLoop_eq connection events]

/-- What a relay does after steps that added to the account follows these. -/
theorem Passage.after {site' : Site Ssh} {added : List NetworkCall}
    (h : Passage connection (site.noted added) stopFault next site')
    (hadded : Records connection added first)
    (hstops : first.any (·.stops) = false) :
    Passage connection site stopFault (first ++ next) site' := by
  cases h with
  | @running added' _ hadded' hstops' =>
    rw [Site.noted_noted]
    exact .running (hadded.append hadded') (by rw [List.any_append, hstops, hstops', Bool.or_self])
  | @halted before after _ hcalls hstops' =>
    rw [Site.noted_noted]
    refine .halted ?_ (by rw [List.any_append, hstops', Bool.or_true])
    rw [List.append_assoc]
    exact hadded.append hcalls

/-- A relay in whose steps the forward is stopped leaves it stopped. -/
theorem Passage.not_isUp {site' : Site Ssh} (h : Passage connection site stopFault steps site')
    (hstops : steps.any (·.stops) = true) : ¬ IsUp site' := by
  cases h with
  | running _ hnot =>
    rw [hstops] at hnot
    cases hnot
  | halted => exact not_isUp_stopForward _

/-- A forward that is not running relays nothing. -/
theorem run_copyLoop_of_not_isUp (h : ¬ IsUp site) (connection : Connection)
    (waits : List RelayEvent) :
    run (copyLoop connection waits) site = (.ok (), site) := by
  cases waits with
  | nil => rfl
  | cons event waits =>
    have hrunning : site.peer.forward.any (·.isRunning) = false := Bool.eq_false_iff.2 h
    unfold copyLoop
    rw [Act.run_bind_of_ok (run_isRunning site), hrunning]
    rfl

/-- A forward that is running relays one round, and goes on if there is more to come. -/
theorem run_copyLoop_cons (h : IsUp site) (connection : Connection) (event : RelayEvent)
    (waits : List RelayEvent) :
    run (copyLoop connection (event :: waits)) site =
      run (exchange connection event >>= fun more =>
        if more then copyLoop connection waits else pure ())
        site := by
  rw [copyLoop, Act.run_bind_of_ok (run_isRunning site), h]
  rfl

/-- Work that is followed by more only if there is more to come ends as it does itself where nothing
more is done. -/
theorem run_bind_more {task : Task Bool} {outcome : Except Fault Bool} {site' : Site Ssh}
    (next : Task Unit) (h : run task site = (outcome, site'))
    (hnext : outcome = .ok true → run next site' = (.ok (), site')) :
    run (task >>= fun more => if more then next else pure ()) site =
      (outcome.map (fun _ => ()), site') := by
  rcases outcome with fault | _ | _
  · rw [Act.run_bind_of_error h]
    rfl
  · rw [Act.run_bind_of_ok h]
    rfl
  · rw [Act.run_bind_of_ok h, if_pos rfl, hnext rfl]
    rfl

/-- A relay takes the steps of its transcript, and stops the forward in between if that is what
happens. The induction is on the waits: each round is followed by the relay over the other waits, on
the site that it leaves. -/
theorem run_copyLoop (connection : Connection) (waits : List RelayEvent) (site : Site Ssh)
    (h : IsUp site) :
    ∃ stopFault,
      (run (copyLoop connection waits) site).1 =
        (verdict (transcript stopFault waits)).map (fun _ => ()) ∧
      Passage connection site stopFault (transcript stopFault waits)
        (run (copyLoop connection waits) site).2 := by
  induction waits generalizing site with
  | nil =>
    refine ⟨none, rfl, ?_⟩
    have hnone : Passage connection site none [] (site.noted []) := .running rfl rfl
    rwa [Site.noted_nil] at hnone
  | cons event waits ih =>
    obtain ⟨stopFault, hverdict, hpassage⟩ := passage_exchange connection event site
    rw [run_copyLoop_cons h]
    have hrun : run (exchange connection event) site =
        (verdict (round stopFault event), (run (exchange connection event) site).2) :=
          Prod.ext hverdict rfl
    generalize (run (exchange connection event) site).2 = site' at hrun hpassage
    cases hends : (round stopFault event).any (·.ends) with
    | true =>
      have hlast := run_bind_more (copyLoop connection waits) hrun fun hmore => by
        rcases verdict_of_ends hends with ⟨_, hverdict⟩ | hverdict <;> rw [hverdict] at hmore <;>
          cases hmore
      refine ⟨stopFault, ?_⟩
      rw [hlast, transcript_of_ends hends]
      exact ⟨rfl, hpassage⟩
    | false =>
      cases hstops : event.stops with
      | true =>
        -- The next round finds the forward stopped.
        have hlast := run_bind_more _ hrun fun _ =>
          run_copyLoop_of_not_isUp (hpassage.not_isUp (by rw [any_stops_round, hstops]))
            connection waits
        refine ⟨stopFault, ?_⟩
        rw [hlast, transcript_of_stops hstops]
        exact ⟨rfl, hpassage⟩
      | false =>
        rw [verdict_of_not_ends hends] at hrun
        rw [Act.run_bind_of_ok hrun, if_pos rfl]
        have hround := any_stops_round stopFault event
        rw [hstops] at hround
        generalize hsteps : round stopFault event = steps at hpassage hround hends
        cases hpassage with
        | halted _ hhalted =>
          rw [hround] at hhalted
          cases hhalted
        | @running added _ hadded hnot =>
          obtain ⟨stopFault, hverdict, hpassage⟩ := ih (site.noted added) h
          rw [round_of_not_stops hstops _ stopFault] at hsteps
          rw [← hsteps] at hends hadded hnot
          refine ⟨stopFault, ?_, ?_⟩
          · rw [transcript_of_goes_on hstops hends, verdict_append hends, hverdict]
          · rw [transcript_of_goes_on hstops hends]
            exact hpassage.after hadded hnot

/-- The waits that a relay gets to: those of its events, if the forward is running. -/
def waitsOn (site : Site Ssh) (events : List RelayEvent) : List RelayEvent :=
  if site.peer.forward.any (·.isRunning) then waits events else []

/-- A relay takes the steps over the waits that it gets to. -/
theorem run_relayLoop (connection : Connection) (events : List RelayEvent) (site : Site Ssh) :
    ∃ stopFault,
      (run (relayLoop connection events) site).1 =
        (verdict (transcript stopFault (waitsOn site events))).map (fun _ => ()) ∧
      Passage connection site stopFault (transcript stopFault (waitsOn site events))
        (run (relayLoop connection events) site).2 := by
  rw [relayLoop_eq]
  unfold waitsOn
  by_cases hup : IsUp site
  · have hrunning : site.peer.forward.any (·.isRunning) = true := hup
    rw [if_pos hrunning]
    exact run_copyLoop connection _ site hup
  · have hrunning : ¬ site.peer.forward.any (·.isRunning) = true := hup
    rw [if_neg hrunning, run_copyLoop_of_not_isUp hup]
    have hnone : Passage connection site none [] (site.noted []) := .running rfl rfl
    rw [Site.noted_nil] at hnone
    exact ⟨none, rfl, hnone⟩

/-- The transfers of a relay are those of its steps. -/
theorem Passage.calls_eq {site' : Site Ssh} (h : Passage connection site stopFault steps site') :
    ∃ added, site'.peer.calls = site.peer.calls ++ added ∧
      added.filter (·.isTransfer) = steps.map (·.call connection) := by
  cases h with
  | @running added _ hadded _ => exact ⟨added, rfl, hadded.transfers⟩
  | @halted before after _ hcalls _ =>
    obtain ⟨stopping, hstopping, hnone⟩ :=
      (stopping_isTransfer (site.peer.calls ++ before)).stopForward
      (site.noted before) ⟨[], (List.append_nil _).symm, rfl⟩
    refine ⟨before ++ stopping ++ after, ?_, ?_⟩
    · rw [Site.noted, hstopping]
      simp only [List.append_assoc]
    · rw [List.filter_append, List.filter_append, hnone, List.append_nil, ← List.filter_append,
        hcalls.transfers]

/-- The fault of stopping the forward is that with which it was stopped on the way. -/
theorem Passage.stopFault_eq {site' : Site Ssh} (h : Passage connection site stopFault steps site')
    (hstops : steps.any (·.stops) = true) :
    ∃ before, stopFault = stopForward.fault? (site.noted before) := by
  cases h with
  | running _ hnot =>
    rw [hstops] at hnot
    cases hnot
  | @halted before => exact ⟨before, rfl⟩

/-- What is left of an outcome when the faults that end a relay are only reported. -/
def settled : Except Fault Unit → Except Fault Unit
  | .ok () => .ok ()
  | .error fault => if endsRelay fault then .ok () else .error fault

/-- A relay leaves the session as the copying left it, and passes on the faults that do not just end
it. -/
theorem run_relay (name : String) (connection : Connection) (events : List RelayEvent)
    (site : Site Ssh) :
    ∃ machine, run (relay name connection events) site =
      (settled (run (relayLoop connection events) site).1,
        { machine, peer := (run (relayLoop connection events) site).2.peer }) := by
  obtain ⟨machine, htolerate⟩ : ∃ machine, run (tolerate endsRelay (.relayBroken name)
      (relayLoop connection events)) site =
        (settled (run (relayLoop connection events) site).1,
          { machine, peer := (run (relayLoop connection events) site).2.peer }) := by
    unfold tolerate
    rw [Act.run_bind_of_ok (Act.run_attempt _ _)]
    rcases run (relayLoop connection events) site with ⟨fault | ⟨⟩, site'⟩
    · dsimp only [settled]
      cases endsRelay fault with
      | true => exact ⟨_, rfl⟩
      | false => exact ⟨_, rfl⟩
    · exact ⟨_, rfl⟩
  refine ⟨(run (Machine.report (.relayEnded name)) machine).2, ?_⟩
  have hreport (site' : Site Ssh) : run (report (.relayEnded name)) site' =
      (.ok (),
        { site' with
          machine := (run (Machine.report (.relayEnded name)) site'.machine).2 }) := rfl
  unfold relay
  rw [Act.run_ensuring_of_ok (hreport _), htolerate]

/-- A relay copies faithfully. Over the waits that it gets to it takes the steps of its transcript:
what is sent to an end is what was received from the other one, each chunk at once and the last of
all perhaps in vain; nothing is done after the first end of data and the first fault, and after the
first stop there is no other wait. The faults that break a connection only end the relay; others are
passed on. -/
theorem relay_copies (name : String) (connection : Connection) (events : List RelayEvent)
    (site : Site Ssh) :
    ∃ stopFault added,
      let steps := transcript stopFault (waitsOn site events)
      let ended := run (relay name connection events) site
      ended.2.peer.calls = site.peer.calls ++ added ∧
      added.filter (·.isTransfer) = steps.map (·.call connection) ∧
      Relayed (waitsOn site events) steps ∧
      (∀ destination, sent destination steps = chunks destination.other steps) ∧
      (steps.any (·.stops) = true → ∃ before, stopFault = stopForward.fault? (site.noted before)) ∧
      ended.1 = match steps.findSome? (·.fault?) with
        | none => .ok ()
        | some fault => if endsRelay fault then .ok () else .error fault := by
  obtain ⟨stopFault, hverdict, hpassage⟩ := run_relayLoop connection events site
  obtain ⟨machine, hrelay⟩ := run_relay name connection events site
  obtain ⟨added, hadded, htransfers⟩ := hpassage.calls_eq
  have hrelayed := relayed_transcript stopFault (waitsOn site events)
  refine ⟨stopFault, added, ?_, htransfers, hrelayed, hrelayed.copied.sent_eq,
    hpassage.stopFault_eq, ?_⟩
  · rw [hrelay, hadded]
  · rw [hrelay, hverdict]
    unfold verdict
    cases (transcript stopFault (waitsOn site events)).findSome? (·.fault?) <;> rfl

/-- A connection that closes without a fault. -/
def quietConnection : Connection :=
  { client := ⟨.client, 1⟩, channel := ⟨.channel, 2⟩, clientFault := none, channelFault := none }

/-- A session that relays this connection. -/
def relayingSite : Site Ssh :=
  { machine := (trialSite (.outside .system "system")).machine
    peer :=
      { idle trialNetwork with
        opened := 3
        forward := some (trialForward none none [("a:1", quietConnection)]) } }

/-- A client that has bytes to relay while the forward is stopped. -/
def stoppedEvent : RelayEvent :=
  { RelayEvent.quiet with stops := true, client := some (.ok [97, 98, 99]) }

/-- A forward that is stopped while data is waited for: both ends of the connection are closed, and
after that the bytes of the client are still received and sent. -/
theorem stopped_round_is_finished :
    let ended := run (relay "a:1" quietConnection [stoppedEvent]) relayingSite
    ended.1 = .ok () ∧ ended.2.peer.forward.any (·.isRunning) = false ∧
      ended.2.peer.calls =
        [.select selectSeconds, .close ⟨.channel, 2⟩, .close ⟨.client, 1⟩,
          .receive ⟨.client, 1⟩ chunkLimit, .send ⟨.channel, 2⟩ [97, 98, 99]] :=
  ⟨rfl, rfl, rfl⟩

end Ssh

end SecureForward
