import RoverDispatch.Session.Supervisor

/-!
# Supervisors, Case by Case

Every input of a supervisor has a handful of outcomes. They are listed here
once, with the conditions under which they come about, so that an invariant of
sessions is proved by going through the list instead of through the code.

A report is handled in two steps. Its number decides whether it is news, and
only news says anything about the mission; `Supervisor.Supervises` lists the
outcomes of that. `Supervisor.Receives` then says which messages get so far in
which phase. Both keep the whole state, so what does not change can be read
off.

An event that comes from a report tells what the report says. This is
`SessionEvent.Tells`, and the other events come from the supervisor itself:
the mission was accepted, or the session failed without a word of the rover.

## Main definitions

* `Message.outcome?`: How a terminal report ends a session.
* `SessionEvent.outcome?`: How an event ends a session.
* `SessionEvent.Tells`: An event says what a report says.
* `SessionEvent.IsLocal`: An event that comes from no report.
* `Supervision.InTransfer`: The mission is being transferred.
* `Supervisor.heard`: The rover was heard of.
* `Supervisor.Supervises`: What a report on a watched mission can lead to.
* `Supervisor.Receives`: What a message can lead to.
* `Supervisor.Polls`: What the passing of time can lead to.
* `Supervisor.Greets`, `Supervisor.Transmits`: What the other inputs can lead to.
* `Supervisor.Concludes`: A reaction ends the session as its events say.
* `Supervisor.Speaks`: What a reaction keeps and what it can say.

## Theorems

* `Supervisor.of_prepare`: What a supervisor is like before it greets.
* `Supervisor.supervises`, `Supervisor.receives`, `Supervisor.polls`,
  `Supervisor.greets`, `Supervisor.transmits`: The lists are complete.
* `Supervisor.Receives.tells`: Every event of a message is local or tells it.
* `Supervisor.Polls.local`: Every event of time is local.
* `Supervisor.Receives.outcome`, `Supervisor.Polls.outcome`: A session ends
  exactly with an event that says so.
* `Supervisor.Receives.speaks`, `Supervisor.Polls.speaks`: What goes out.
-/

namespace RoverDispatch

/-- How a terminal report ends a session. -/
def Message.outcome? (m : Message) : Option SessionOutcome :=
  match m.kind, m.payload with
  | .completed, _ => some .completed
  | .error, .error e => some (.failed (.missionError e))
  | _, _ => none

/-- The event of an outcome. -/
def SessionOutcome.event (afterProgress : Bool) : SessionOutcome → SessionEvent
  | completed => .completed
  | failed reason => .failed reason afterProgress

namespace SessionEvent

/-- How an event ends a session, if it does. -/
def outcome? : SessionEvent → Option SessionOutcome
  | completed => some .completed
  | failed reason _ => some (.failed reason)
  | _ => none

/-- An event says what a report says. -/
def Tells (m : Message) : SessionEvent → Prop
  | progress p => m.kind = .progress ∧ m.payload = .progress p
  | completed => m.kind = .completed
  | failed (.missionError e) _ => m.kind = .error ∧ m.payload = .error e
  | _ => False

/-- An event that comes from no report. -/
inductive IsLocal : SessionEvent → Prop where
  | accepted : IsLocal .accepted
  | failed {reason : FailureReason} (h : reason.report? = none) (afterProgress : Bool) :
      IsLocal (.failed reason afterProgress)

theorem outcome?_event (o : SessionOutcome) (afterProgress : Bool) :
    (o.event afterProgress).outcome? = some o := by
  cases o <;> rfl

/-- The event of a terminal report tells it. -/
theorem tells_event {m : Message} {o : SessionOutcome} (h : m.outcome? = some o)
    (afterProgress : Bool) : (o.event afterProgress).Tells m := by
  rw [Message.outcome?] at h
  split at h
  · rename_i hkind
    cases h
    exact hkind
  · rename_i hkind hpayload
    cases h
    exact ⟨hkind, hpayload⟩
  · cases h

/-- What tells a terminal report ends the session as the report does. -/
theorem Tells.outcome? {m : Message} {e : SessionEvent} (h : e.Tells m) :
    e.outcome? = m.outcome? := by
  cases e with
  | accepted => exact h.elim
  | progress p =>
      rw [Message.outcome?, h.1]
      rfl
  | completed =>
      rw [Message.outcome?, show m.kind = .completed from h]
      rfl
  -- Of all failures only an error that the rover reports comes from a message.
  | failed reason afterProgress =>
      cases reason with
      | missionError e =>
          rw [Message.outcome?, h.1, h.2]
          rfl
      | unresponsive => exact h.elim
      | declined => exact h.elim
      | transferUnconfirmed => exact h.elim
      | silent => exact h.elim

end SessionEvent

/-- The mission is being transferred, after so many retries. -/
def Supervision.InTransfer (phase : Supervision) (retries : Nat) : Prop :=
  phase = .transmitting retries ∨ ∃ deadline, phase = .awaitingAck retries deadline

namespace Supervisor

/-- What a supervisor is like before it greets. -/
theorem of_prepare {timing : Timing} {rover : Int} {mission : Mission} {s : Supervisor}
    (h : prepare timing rover mission = .ok s) :
    ∃ transfer, mission.transferMessages rover timing.fragmentSize = .ok transfer ∧
      s = ⟨timing, rover, mission, transfer, .idle, .empty, 0⟩ := by
  simp only [prepare, bind, Except.bind] at h
  split at h
  · cases h
  · rename_i transfer htransfer
    cases h
    exact ⟨transfer, htransfer, rfl⟩

/-- A check that is passed was passed by a supervisor that could be prepared. -/
theorem exists_prepare_of_check {timing : Timing} {rover : Int} {mission : Mission}
    {p : Supervisor → Prop} [DecidablePred p]
    (h : (prepare timing rover mission).toOption.any (fun s => decide (p s)) = true) :
    ∃ s, prepare timing rover mission = .ok s ∧ p s := by
  cases hs : prepare timing rover mission with
  | error e =>
      rw [hs] at h
      cases h
  | ok s =>
      rw [hs] at h
      exact ⟨s, rfl, of_decide_eq_true h⟩

/-- The rover was heard of. -/
def heard (s : Supervisor) (now : Nat) : Supervisor := { s with lastActivity := now }

/-- What a report on a mission that is watched can lead to. -/
inductive Supervises (s : Supervisor) (m : Message) (now : Nat) : SupervisorReaction → Prop where
  /-- The number is not new. -/
  | recovers (known : m.seq ≤ s.log.last) :
      Supervises s m now
        { state := { s with log := s.log.recover m.seq }
          messages := [{ s with log := s.log.recover m.seq }.ack m.seq false] }
  /-- There is progress. -/
  | progress {p : Progress} (new : s.log.last < m.seq) (kind : m.kind = .progress)
      (payload : m.payload = .progress p) :
      Supervises s m now
        { state := { s with
            phase := .watching (later now (s.timing.progressTimeout s.mission.updateInterval))
            log := { s.log.advance m.seq with progressSeen := true } }
          messages := [{ s with
            log := { s.log.advance m.seq with progressSeen := true } }.ack m.seq false]
          events := [.progress p] }
  /-- The mission is over. -/
  | ends {o : SessionOutcome} (new : s.log.last < m.seq) (outcome : m.outcome? = some o) :
      Supervises s m now
        ({ s with log := s.log.advance m.seq }.finish o (o.event s.log.progressSeen) m.seq now)
  /-- The payload is not one of a report of this kind. -/
  | malformed (new : s.log.last < m.seq)
      (progress : m.kind = .progress → ∀ p, m.payload ≠ .progress p) (outcome : m.outcome? = none) :
      Supervises s m now (.quiet { s with log := s.log.advance m.seq })

/-- The outcomes of a report are those listed. -/
theorem supervises (s : Supervisor) (m : Message) (now : Nat) :
    Supervises s m now (s.supervise m now) := by
  rw [supervise]
  by_cases hknown : m.seq ≤ s.log.last
  · rw [if_pos hknown]
    exact .recovers hknown
  · have hnew : s.log.last < m.seq := Int.lt_of_not_ge hknown
    rw [if_neg hknown, onNews]
    -- The cases of the code are those of the kind and payload.
    split
    · rename_i p hkind hpayload
      exact .progress hnew hkind hpayload
    · rename_i hkind
      refine Supervises.ends hnew (o := .completed) ?_
      rw [Message.outcome?, hkind]
    · rename_i e hkind hpayload
      refine Supervises.ends hnew (o := .failed (.missionError e)) ?_
      rw [Message.outcome?, hkind, hpayload]
    · rename_i hcompleted hprogress herror
      refine .malformed hnew (fun hkind p hp => hprogress p hkind hp) ?_
      rw [Message.outcome?]
      split
      · rename_i hkind
        exact absurd hkind hcompleted
      · rename_i e hkind hpayload
        exact absurd hpayload (herror e hkind)
      · rfl

/-- What a message can lead to. -/
inductive Receives (s : Supervisor) (m : Message) (now : Nat) : SupervisorReaction → Prop where
  /-- It is from another rover or about another mission. -/
  | foreign (foreign : ¬ (m.sender = s.rover ∧ m.mission = s.mission.id)) :
      Receives s m now (.quiet s)
  /-- It is of no use in this phase; a report is not before the transfer. -/
  | useless (report : m.kind.isReport →
      s.phase = .idle ∨ ∃ retries deadline, s.phase = .awaitingResponse retries deadline) :
      Receives s m now (.quiet (s.heard now))
  /-- The rover is available. -/
  | transfers {retries deadline : Nat} (phase : s.phase = .awaitingResponse retries deadline)
      (kind : m.kind = .response) (available : m.success = true) :
      Receives s m now
        { state := { s.heard now with phase := .transmitting retries }, messages := s.transfer }
  /-- The rover is not available. -/
  | declined {retries deadline : Nat} (phase : s.phase = .awaitingResponse retries deadline)
      (kind : m.kind = .response) (unavailable : m.success = false) :
      Receives s m now ((s.heard now).fail .declined)
  /-- The rover has the mission. -/
  | accepted {retries : Nat} (phase : s.phase.InTransfer retries) (kind : m.kind = .ack)
      (complete : missingIn m = []) :
      Receives s m now { state := (s.heard now).watch now, events := [.accepted] }
  /-- The rover asks for what it is missing. -/
  | asked {retries : Nat} (phase : s.phase.InTransfer retries) (kind : m.kind = .ack)
      (missing : missingIn m ≠ []) :
      Receives s m now
        { state := { s.heard now with phase := .awaitingAck retries (after now s.timing.timeout) }
          messages := s.requested (missingIn m) }
  /-- The rover reports, so it has the mission. -/
  | acceptedReport {retries : Nat} {r : SupervisorReaction} (phase : s.phase.InTransfer retries)
      (report : m.kind.isReport = true) (supervises : Supervises ((s.heard now).watch now) m now r) :
      Receives s m now { r with events := .accepted :: r.events }
  /-- The rover reports on the mission that is watched. -/
  | reported {deadline : Nat} {r : SupervisorReaction} (phase : s.phase = .watching deadline)
      (report : m.kind.isReport = true) (supervises : Supervises (s.heard now) m now r) :
      Receives s m now r
  /-- The rover reports after the end. -/
  | acknowledged {outcome : SessionOutcome} {farewell : Farewell}
      (phase : s.phase = .ended outcome farewell) (report : m.kind.isReport = true) :
      Receives s m now
        { state := s.heard now, messages := [(s.heard now).ack m.seq m.kind.isTerminal] }

/-- What a response leads to. -/
theorem receives_onResponse {s : Supervisor} {m : Message} (hkind : m.kind = .response)
    (now : Nat) : Receives s m now ((s.heard now).onResponse m.success) := by
  cases hphase : s.phase with
  | awaitingResponse retries deadline =>
      simp only [onResponse, heard, hphase]
      split
      · rename_i havailable
        exact .transfers hphase hkind havailable
      · rename_i hunavailable
        exact .declined hphase hkind (eq_false_of_ne_true hunavailable)
  | _ =>
      -- Nobody waits for an answer in the other phases.
      simp only [onResponse, heard, hphase]
      rw [← hphase]
      refine .useless (fun hreport => ?_)
      rw [hkind] at hreport
      cases hreport

/-- What an acknowledgement leads to. -/
theorem receives_onAck {s : Supervisor} {m : Message} (hkind : m.kind = .ack) (now : Nat) :
    Receives s m now ((s.heard now).onAck (missingIn m) now) := by
  -- Both phases of the transfer take an acknowledgement in the same way.
  have hmissing : ∀ {retries : Nat}, s.phase.InTransfer retries →
      Receives s m now ((s.heard now).onMissing retries (missingIn m) now) := by
    intro retries hphase
    rw [onMissing]
    split
    · rename_i hnil
      exact .accepted hphase hkind hnil
    · rename_i hne
      exact .asked hphase hkind hne
  rw [onAck]
  split
  · rename_i retries hphase
    exact hmissing (.inl hphase)
  · rename_i retries deadline hphase
    exact hmissing (.inr ⟨deadline, hphase⟩)
  · refine .useless (fun hreport => ?_)
    rw [hkind] at hreport
    cases hreport

/-- What a report leads to. -/
theorem receives_onReport {s : Supervisor} {m : Message} (hreport : m.kind.isReport = true)
    (now : Nat) : Receives s m now ((s.heard now).onReport m now) := by
  rw [onReport]
  split
  · rename_i retries hphase
    exact .acceptedReport (.inl hphase) hreport (supervises _ m now)
  · rename_i retries deadline hphase
    exact .acceptedReport (.inr ⟨deadline, hphase⟩) hreport (supervises _ m now)
  · rename_i deadline hphase
    exact .reported hphase hreport (supervises _ m now)
  · rename_i outcome farewell hphase
    exact .acknowledged hphase hreport
  · -- The phases that are left come before the transfer.
    rename_i htransmitting hawaiting hwatching hended
    refine .useless (fun _ => ?_)
    cases hphase : s.phase with
    | idle => exact .inl rfl
    | awaitingResponse retries deadline => exact .inr ⟨retries, deadline, rfl⟩
    | transmitting retries => exact absurd hphase (htransmitting retries)
    | awaitingAck retries deadline => exact absurd hphase (hawaiting retries deadline)
    | watching deadline => exact absurd hphase (hwatching deadline)
    | ended outcome farewell => exact absurd hphase (hended outcome farewell)

/-- The outcomes of a message are those listed. -/
theorem receives (s : Supervisor) (m : Message) (now : Nat) :
    Receives s m now (s.receive m now) := by
  rw [receive]
  split
  · cases hkind : m.kind with
    | response => exact receives_onResponse hkind now
    | ack => exact receives_onAck hkind now
    | progress => exact receives_onReport (hkind ▸ rfl) now
    | completed => exact receives_onReport (hkind ▸ rfl) now
    | error => exact receives_onReport (hkind ▸ rfl) now
    | _ => exact .useless (fun hreport => absurd (hkind ▸ hreport) nofun)
  · rename_i hforeign
    exact .foreign hforeign

/-- What the passing of time can lead to. -/
inductive Polls (s : Supervisor) (now : Nat) : SupervisorReaction → Prop where
  /-- Nothing is due. -/
  | quiet (early : ∀ deadline, s.deadline? = some deadline → now < deadline) :
      Polls s now (.quiet s)
  /-- The hello is sent once more. -/
  | greets {retries deadline : Nat} (phase : s.phase = .awaitingResponse retries deadline)
      (due : deadline ≤ now) (more : retries + 1 < s.timing.maxAttempts) :
      Polls s now
        { state := { s with phase := .awaitingResponse (retries + 1) (after now s.timing.timeout) }
          messages := [s.hello] }
  /-- No hello was answered. -/
  | unresponsive {retries deadline : Nat} (phase : s.phase = .awaitingResponse retries deadline)
      (due : deadline ≤ now) (spent : s.timing.maxAttempts ≤ retries + 1) :
      Polls s now (s.fail .unresponsive)
  /-- The transfer is sent once more. -/
  | resends {retries deadline : Nat} (phase : s.phase = .awaitingAck retries deadline)
      (due : deadline ≤ now) (more : retries + 1 < s.timing.maxAttempts) :
      Polls s now
        { state := { s with phase := .awaitingAck (retries + 1) (after now s.timing.timeout) }
          messages := s.transfer }
  /-- The transfer was never confirmed. -/
  | unconfirmed {retries deadline : Nat} (phase : s.phase = .awaitingAck retries deadline)
      (due : deadline ≤ now) (spent : s.timing.maxAttempts ≤ retries + 1) :
      Polls s now (s.fail .transferUnconfirmed)
  /-- The rover has been silent for too long. -/
  | silent {deadline : Nat} (phase : s.phase = .watching deadline) (due : deadline ≤ now) :
      Polls s now (s.fail .silent)
  /-- The final acknowledgement is sent once more. -/
  | farewells {outcome : SessionOutcome} {farewell : Farewell}
      (phase : s.phase = .ended outcome farewell) (left : farewell.left ≠ 0)
      (due : farewell.next ≤ now) : Polls s now (s.repeatFarewell outcome farewell now)

/-- Nobody waits, so nothing is due. -/
theorem Polls.of_none (hnone : s.deadline? = none) : Polls s now (.quiet s) := by
  refine .quiet (fun deadline hdeadline => ?_)
  cases hnone.symm.trans hdeadline

/-- The one deadline there is has not come. -/
theorem Polls.of_lt {deadline : Nat} (hdeadline : s.deadline? = some deadline)
    (hearly : now < deadline) : Polls s now (.quiet s) := by
  refine .quiet (fun d hd => ?_)
  cases hdeadline.symm.trans hd
  exact hearly

/-- The outcomes of time are those listed. -/
theorem polls (s : Supervisor) (now : Nat) : Polls s now (s.poll now) := by
  cases hphase : s.phase with
  | idle =>
      simp only [poll, hphase]
      exact .of_none (by rw [deadline?, hphase]; rfl)
  | transmitting retries =>
      simp only [poll, hphase]
      exact .of_none (by rw [deadline?, hphase]; rfl)
  | awaitingResponse retries deadline =>
      simp only [poll, hphase, retry]
      split
      · rename_i hearly
        exact .of_lt (by rw [deadline?, hphase]; rfl) hearly
      · rename_i hdue
        split
        · rename_i hmore
          exact .greets hphase (Nat.le_of_not_lt hdue) hmore
        · rename_i hspent
          exact .unresponsive hphase (Nat.le_of_not_lt hdue) (Nat.le_of_not_lt hspent)
  -- The transfer is repeated in the same way as the greeting.
  | awaitingAck retries deadline =>
      simp only [poll, hphase, retry]
      split
      · rename_i hearly
        exact .of_lt (by rw [deadline?, hphase]; rfl) hearly
      · rename_i hdue
        split
        · rename_i hmore
          exact .resends hphase (Nat.le_of_not_lt hdue) hmore
        · rename_i hspent
          exact .unconfirmed hphase (Nat.le_of_not_lt hdue) (Nat.le_of_not_lt hspent)
  | watching deadline =>
      simp only [poll, hphase]
      split
      · rename_i hearly
        exact .of_lt (by rw [deadline?, hphase]; rfl) hearly
      · rename_i hdue
        exact .silent hphase (Nat.le_of_not_lt hdue)
  | ended outcome farewell =>
      simp only [poll, hphase]
      -- A farewell has a deadline only while something of it is left.
      by_cases hleft : farewell.left = 0
      · rw [if_pos (.inl hleft)]
        exact .of_none (by rw [deadline?, hphase, Supervision.deadline?, if_pos hleft])
      · split
        · rename_i hquiet
          refine .of_lt ?_ (hquiet.resolve_left hleft)
          rw [deadline?, hphase, Supervision.deadline?, if_neg hleft]
        · rename_i hdue
          rw [not_or] at hdue
          exact .farewells hphase hleft (Nat.le_of_not_lt hdue.2)

section Events

variable {s : Supervisor} {m : Message} {now : Nat} {r : SupervisorReaction} {e : SessionEvent}
  {o : SessionOutcome}

theorem Supervises.tells (h : Supervises s m now r) (he : e ∈ r.events) : e.Tells m := by
  cases h with
  | recovers known => cases he
  | progress new kind payload =>
      cases List.mem_singleton.1 he
      exact ⟨kind, payload⟩
  | ends new outcome =>
      cases List.mem_singleton.1 he
      exact SessionEvent.tells_event outcome _
  | malformed new progress outcome => cases he

/-- Every event of a message is local or tells the message. -/
theorem Receives.tells (h : Receives s m now r) (he : e ∈ r.events) : e.IsLocal ∨ e.Tells m := by
  cases h with
  | foreign foreign => cases he
  | useless report => cases he
  | transfers phase kind available => cases he
  -- The greeting and its answer are the session's own affair.
  | declined phase kind unavailable =>
      cases List.mem_singleton.1 he
      exact .inl (.failed rfl _)
  | accepted phase kind complete =>
      cases List.mem_singleton.1 he
      exact .inl .accepted
  | asked phase kind missing => cases he
  -- The report stands in for the acknowledgement that was lost, so it tells two things.
  | acceptedReport phase report supervises =>
      rcases List.mem_cons.1 he with rfl | he
      · exact .inl .accepted
      · exact .inr (supervises.tells he)
  | reported phase report supervises => exact .inr (supervises.tells he)
  | acknowledged phase report => cases he

/-- The rover has the mission, whenever a message leads to its acceptance: it
    reports or says that nothing is missing. -/
theorem Receives.of_accepted (h : Receives s m now r) (he : .accepted ∈ r.events) :
    m.kind.isReport = true ∨ m.kind = .ack ∧ missingIn m = [] := by
  cases h with
  | foreign foreign => cases he
  | useless report => cases he
  | transfers phase kind available => cases he
  | declined phase kind unavailable => cases List.mem_singleton.1 he
  | accepted phase kind complete => exact .inr ⟨kind, complete⟩
  | asked phase kind missing => cases he
  | acceptedReport phase report supervises => exact .inl report
  | reported phase report supervises => exact .inl report
  | acknowledged phase report => cases he

/-- Every event of time is local. -/
theorem Polls.local (h : Polls s now r) (he : e ∈ r.events) : e.IsLocal ∧ e ≠ .accepted := by
  cases h with
  | quiet early => cases he
  | greets phase due more => cases he
  | unresponsive phase due spent =>
      cases List.mem_singleton.1 he
      exact ⟨.failed rfl _, nofun⟩
  | resends phase due more => cases he
  | unconfirmed phase due spent =>
      cases List.mem_singleton.1 he
      exact ⟨.failed rfl _, nofun⟩
  | silent phase due =>
      cases List.mem_singleton.1 he
      exact ⟨.failed rfl _, nofun⟩
  | farewells phase left due => cases he

theorem outcome?_eq {phase : Supervision} (h : s.phase = phase) : s.outcome? = phase.outcome? :=
  congrArg Supervision.outcome? h

/-- What a reaction says about the end of the session is what becomes of it. -/
def Concludes (s : Supervisor) (r : SupervisorReaction) : Prop :=
  ∀ o, r.state.outcome? = some o ↔ s.outcome? = some o ∨ ∃ e ∈ r.events, e.outcome? = some o

/-- A reaction that ends nothing and has no event that ends anything. -/
theorem concludes_of_same (hstate : r.state.outcome? = s.outcome?)
    (hevents : ∀ e ∈ r.events, e.outcome? = none) : s.Concludes r := by
  intro o
  rw [hstate]
  refine ⟨.inl, ?_⟩
  rintro (h | ⟨e, he, ho⟩)
  · exact h
  · rw [hevents e he] at ho
    cases ho

/-- A reaction whose one event ends the session. -/
theorem concludes_of_ended (hnone : s.outcome? = none) (hstate : r.state.outcome? = some o)
    (hevents : r.events = [e]) (he : e.outcome? = some o) : s.Concludes r := by
  intro o'
  rw [hstate, hnone, hevents]
  simp only [List.mem_singleton, exists_eq_left, he, reduceCtorEq, false_or]

theorem concludes_fail (hnone : s.outcome? = none) (reason : FailureReason) :
    s.Concludes (s.fail reason) :=
  concludes_of_ended hnone rfl rfl rfl

theorem Supervises.outcome {deadline : Nat} (hphase : s.phase = .watching deadline)
    (h : Supervises s m now r) : s.Concludes r := by
  have hnone : s.outcome? = none := outcome?_eq hphase
  cases h with
  | recovers known => exact concludes_of_same rfl (fun e he => absurd he List.not_mem_nil)
  | progress new kind payload =>
      refine concludes_of_same hnone.symm (fun e he => ?_)
      cases List.mem_singleton.1 he
      rfl
  | ends new outcome => exact concludes_of_ended hnone rfl rfl (SessionEvent.outcome?_event _ _)
  | malformed new progress outcome =>
      exact concludes_of_same rfl (fun e he => absurd he List.not_mem_nil)

theorem outcome?_of_inTransfer {retries : Nat} (h : s.phase.InTransfer retries) :
    s.outcome? = none := by
  rcases h with h | ⟨deadline, h⟩ <;> exact outcome?_eq h

/-- A session ends exactly with an event that says so. -/
theorem Receives.outcome (h : Receives s m now r) : s.Concludes r := by
  cases h with
  | foreign foreign => exact concludes_of_same rfl (fun e he => absurd he List.not_mem_nil)
  | useless report => exact concludes_of_same rfl (fun e he => absurd he List.not_mem_nil)
  | transfers phase kind available =>
      exact concludes_of_same (outcome?_eq phase).symm (fun e he => absurd he List.not_mem_nil)
  | declined phase kind unavailable =>
      exact concludes_fail (s := s.heard now) (outcome?_eq phase) .declined
  | accepted phase kind complete =>
      refine concludes_of_same (outcome?_of_inTransfer phase).symm (fun e he => ?_)
      cases List.mem_singleton.1 he
      rfl
  | asked phase kind missing =>
      exact concludes_of_same (outcome?_of_inTransfer phase).symm
        (fun e he => absurd he List.not_mem_nil)
  | acceptedReport phase report supervises =>
      -- Acceptance ends nothing, so the report alone decides.
      have hwatched := supervises.outcome rfl
      intro o
      refine (hwatched o).trans ?_
      rw [outcome?_of_inTransfer phase]
      simp only [List.mem_cons, exists_eq_or_imp, SessionEvent.outcome?, reduceCtorEq, false_or]
      exact ⟨fun h => h.resolve_left nofun, .inr⟩
  | reported phase report supervises => exact Supervises.outcome (s := s.heard now) phase supervises
  | acknowledged phase report =>
      exact concludes_of_same rfl (fun e he => absurd he List.not_mem_nil)

theorem Polls.outcome (h : Polls s now r) : s.Concludes r := by
  cases h with
  | quiet early => exact concludes_of_same rfl (fun e he => absurd he List.not_mem_nil)
  | greets phase due more =>
      exact concludes_of_same (outcome?_eq phase).symm (fun e he => absurd he List.not_mem_nil)
  | unresponsive phase due spent =>
      exact concludes_fail (outcome?_eq phase) _
  | resends phase due more =>
      exact concludes_of_same (outcome?_eq phase).symm (fun e he => absurd he List.not_mem_nil)
  | unconfirmed phase due spent =>
      exact concludes_fail (outcome?_eq phase) _
  | silent phase due => exact concludes_fail (outcome?_eq phase) _
  | farewells phase left due =>
      exact concludes_of_same (outcome?_eq phase).symm (fun e he => absurd he List.not_mem_nil)

/-- What a reaction keeps and what it can say: the session stays about its
    mission and its rover, and what goes out is the hello, the transfer or an
    acknowledgement. -/
structure Speaks (s : Supervisor) (r : SupervisorReaction) : Prop where
  rover : r.state.rover = s.rover
  mission : r.state.mission = s.mission
  transfer : r.state.transfer = s.transfer
  messages : ∀ x ∈ r.messages,
    x ∈ s.transfer ∨ x.mission = s.mission.id ∧ (x.kind = .hello ∨ x.kind = .ack)

/-- A reaction that says nothing. -/
theorem Speaks.silent {s' : Supervisor} {events : List SessionEvent} (rover : s'.rover = s.rover)
    (mission : s'.mission = s.mission) (transfer : s'.transfer = s.transfer) :
    s.Speaks { state := s', events } :=
  ⟨rover, mission, transfer, fun _ hx => absurd hx List.not_mem_nil⟩

/-- A reaction that says one thing that is no part of the transfer. -/
theorem Speaks.one {s' : Supervisor} {x : Message} {events : List SessionEvent}
    (rover : s'.rover = s.rover) (mission : s'.mission = s.mission)
    (transfer : s'.transfer = s.transfer) (about : x.mission = s.mission.id)
    (kind : x.kind = .hello ∨ x.kind = .ack) :
    s.Speaks { state := s', messages := [x], events } := by
  refine ⟨rover, mission, transfer, fun y hy => ?_⟩
  cases List.mem_singleton.1 hy
  exact .inr ⟨about, kind⟩

theorem Supervises.speaks (h : Supervises s m now r) : s.Speaks r := by
  cases h with
  | recovers known => exact .one rfl rfl rfl rfl (.inr rfl)
  | progress new kind payload => exact .one rfl rfl rfl rfl (.inr rfl)
  | ends new outcome => exact .one rfl rfl rfl rfl (.inr rfl)
  | malformed new progress outcome => exact .silent rfl rfl rfl

theorem Receives.speaks (h : Receives s m now r) : s.Speaks r := by
  cases h with
  | foreign foreign => exact .silent rfl rfl rfl
  | useless report => exact .silent rfl rfl rfl
  | transfers phase kind available => exact ⟨rfl, rfl, rfl, fun x hx => .inl hx⟩
  | declined phase kind unavailable => exact .silent rfl rfl rfl
  | accepted phase kind complete => exact .silent rfl rfl rfl
  -- What is asked for again is a part of the transfer.
  | asked phase kind missing =>
      exact ⟨rfl, rfl, rfl, fun x hx => .inl (List.mem_filter.1 hx).1⟩
  | acceptedReport phase report supervises =>
      have hr := supervises.speaks
      exact ⟨hr.rover, hr.mission, hr.transfer, hr.messages⟩
  | reported phase report supervises =>
      have hr := supervises.speaks
      exact ⟨hr.rover, hr.mission, hr.transfer, hr.messages⟩
  | acknowledged phase report => exact .one rfl rfl rfl rfl (.inr rfl)

theorem Polls.speaks (h : Polls s now r) : s.Speaks r := by
  cases h with
  | quiet early => exact .silent rfl rfl rfl
  | greets phase due more => exact .one rfl rfl rfl rfl (.inl rfl)
  | unresponsive phase due spent => exact .silent rfl rfl rfl
  | resends phase due more => exact ⟨rfl, rfl, rfl, fun x hx => .inl hx⟩
  | unconfirmed phase due spent => exact .silent rfl rfl rfl
  | silent phase due => exact .silent rfl rfl rfl
  | farewells phase left due => exact .one rfl rfl rfl rfl (.inr rfl)

/-- What opening a session can lead to. -/
inductive Greets (s : Supervisor) (now : Nat) : SupervisorReaction → Prop where
  /-- It is open already. -/
  | quiet (phase : s.phase ≠ .idle) : Greets s now (.quiet s)
  /-- The rover is greeted. -/
  | opens (phase : s.phase = .idle) :
      Greets s now
        { state := { s with
            phase := .awaitingResponse 0 (after now s.timing.timeout), lastActivity := now }
          messages := [s.hello] }

theorem greets (s : Supervisor) (now : Nat) : Greets s now (s.greet now) := by
  rw [greet]
  split
  · rename_i hphase
    exact .opens hphase
  · rename_i hphase
    exact .quiet hphase

theorem Greets.speaks (h : Greets s now r) : s.Speaks r := by
  cases h with
  | quiet phase => exact .silent rfl rfl rfl
  | opens phase => exact .one rfl rfl rfl rfl (.inl rfl)

theorem Greets.events (h : Greets s now r) : r.events = [] := by
  cases h <;> rfl

theorem Greets.outcome (h : Greets s now r) : s.Concludes r := by
  cases h with
  | quiet phase => exact concludes_of_same rfl (fun e he => absurd he List.not_mem_nil)
  | opens phase =>
      exact concludes_of_same (outcome?_eq phase).symm (fun e he => absurd he List.not_mem_nil)

/-- What it can lead to that the transfer has been sent. -/
inductive Transmits (s : Supervisor) (now : Nat) : Supervisor → Prop where
  /-- No transfer was being sent. -/
  | quiet (phase : ∀ retries, s.phase ≠ .transmitting retries) : Transmits s now s
  /-- The acknowledgement is waited for. -/
  | waits {retries : Nat} (phase : s.phase = .transmitting retries) :
      Transmits s now { s with phase := .awaitingAck 0 (after now s.timing.timeout) }

theorem transmits (s : Supervisor) (now : Nat) : Transmits s now (s.transmitted now) := by
  rw [transmitted]
  split
  · rename_i retries hphase
    exact .waits hphase
  · rename_i hphase
    exact .quiet hphase

theorem Transmits.speaks {s' : Supervisor} (h : Transmits s now s') : s.Speaks { state := s' } := by
  cases h <;> exact .silent rfl rfl rfl

theorem Transmits.outcome {s' : Supervisor} (h : Transmits s now s') :
    s.Concludes { state := s' } := by
  cases h with
  | quiet phase => exact concludes_of_same rfl (fun e he => absurd he List.not_mem_nil)
  | waits phase =>
      exact concludes_of_same (outcome?_eq phase).symm (fun e he => absurd he List.not_mem_nil)

end Events

end Supervisor

end RoverDispatch
