import RoverDispatch.Proofs.Session.Supervisors

/-!
# What a Supervisor Makes of Reports

Which reports become events, and what an acknowledgement proves.

A report is told once at most, because its event raises the highest number
that the log remembers to its own. `Supervisor.Logs` lists what a report can
do: nothing, when its number is not new or the session is over; become one
event; or, if its payload is not one of its kind, raise the number only.

An acknowledgement is only sent in answer to a report with its number, or
after the end as a repetition of the final one. The mission in turn is only
sent once a rover has said that it is available, and a session that has come
so far can end in four ways but no longer in the two that come before.
`Supervisor.Answers` keeps these facts of one reaction.

## Main definitions

* `newsIn`: The events that come from a report.
* `Message.IsWellFormed`: The payload of a report is one of its kind.
* `Supervision.Underway`: The transfer has begun.
* `Supervisor.farewell?`: The number of the final acknowledgement that is still
  to be sent.
* `Supervisor.Logs`: What a report does.
* `Supervisor.Answers`: What a reaction can acknowledge and launch.

## Theorems

* `Supervisor.Receives.logs`: A report is told once at most, and then its
  number is new and remembered.
* `Supervisor.Receives.log_eq`, `Supervisor.Polls.log_eq`: Nothing else changes
  what is remembered.
* `Supervisor.Receives.answers`, `Supervisor.Polls.answers`: Acknowledgements
  answer reports.
-/

namespace RoverDispatch

/-- The events that come from a report: acceptance comes from the message that
    shows that the rover has the mission. -/
def newsIn (events : List SessionEvent) : List SessionEvent :=
  events.filter (fun e => e ≠ .accepted)

/-- The payload of a report is one of its kind. -/
def Message.IsWellFormed (m : Message) : Prop :=
  (m.kind = .progress ∧ ∃ p, m.payload = .progress p) ∨ ∃ o, m.outcome? = some o

/-- What ends a session is a terminal report. -/
theorem Message.kind_of_outcome? {m : Message} {o : SessionOutcome} (h : m.outcome? = some o) :
    m.kind.isReport = true ∧ m.kind.isTerminal = true := by
  rw [outcome?] at h
  split at h
  · rename_i hkind
    rw [hkind]
    exact ⟨rfl, rfl⟩
  · rename_i hkind hpayload
    rw [hkind]
    exact ⟨rfl, rfl⟩
  · cases h

/-- The transfer has begun, so the rover has answered and is available. -/
def Supervision.Underway : Supervision → Prop
  | idle => False
  | awaitingResponse _ _ => False
  | ended (.failed .unresponsive) _ => False
  | ended (.failed .declined) _ => False
  | _ => True

theorem Supervision.Underway.ended {o : SessionOutcome} {farewell farewell' : Farewell}
    (h : (Supervision.ended o farewell).Underway) : (Supervision.ended o farewell').Underway := by
  cases o with
  | completed => trivial
  | failed reason => cases reason <;> exact h

/-- A session that a report has ended had begun its transfer. -/
theorem underway_of_outcome? {m : Message} {o : SessionOutcome} (h : m.outcome? = some o)
    (farewell : Farewell) : (Supervision.ended o farewell).Underway := by
  rw [Message.outcome?] at h
  split at h
  · cases h
    trivial
  · cases h
    trivial
  · cases h

namespace Supervisor

/-- The number of the final acknowledgement that is still to be sent. -/
def farewell? (s : Supervisor) : Option Int :=
  match s.phase with
  | .ended _ farewell => if farewell.left = 0 then none else some farewell.seq
  | _ => none

/-- What a report does to a session. -/
inductive Logs (s : Supervisor) (m : Message) (r : SupervisorReaction) : Prop where
  /-- Nothing, since it is foreign, premature, late or known. -/
  | idle (news : newsIn r.events = []) (last : r.state.log.last = s.log.last)
      (cause : ¬ (m.sender = s.rover ∧ m.mission = s.mission.id) ∨ ¬ s.phase.Underway ∨
        s.isTerminal = true ∨ m.seq ≤ s.log.last)
  /-- It is told. -/
  | told {e : SessionEvent} (going : s.isTerminal = false) (new : s.log.last < m.seq)
      (news : newsIn r.events = [e]) (tells : e.Tells m) (last : r.state.log.last = m.seq)
  /-- Its number is remembered. -/
  | counted (going : s.isTerminal = false) (new : s.log.last < m.seq)
      (news : newsIn r.events = []) (last : r.state.log.last = m.seq)
      (malformed : ¬ m.IsWellFormed)

section Reactions

variable {s : Supervisor} {m : Message} {now : Nat} {r : SupervisorReaction}

theorem isTerminal_eq {phase : Supervision} (h : s.phase = phase) :
    s.isTerminal = phase.outcome?.isSome := by
  rw [isTerminal, outcome?, h]

theorem newsIn_singleton {e : SessionEvent} (he : e.Tells m) : newsIn [e] = [e] := by
  refine List.filter_eq_self.2 (fun e' he' => decide_eq_true ?_)
  cases List.mem_singleton.1 he'
  rintro rfl
  exact he

theorem Supervises.logs {deadline : Nat} (hphase : s.phase = .watching deadline)
    (h : Supervises s m now r) : s.Logs m r := by
  have hgoing : s.isTerminal = false := isTerminal_eq hphase
  cases h with
  | recovers known => exact .idle rfl rfl (.inr (.inr (.inr known)))
  | @progress p new kind payload =>
      have htells : (SessionEvent.progress p).Tells m := ⟨kind, payload⟩
      exact .told hgoing new (newsIn_singleton htells) htells rfl
  | @ends o new outcome =>
      have htells := SessionEvent.tells_event outcome s.log.progressSeen
      exact .told hgoing new (newsIn_singleton htells) htells rfl
  | malformed new progress outcome =>
      -- A well-formed report has one of the two other outcomes.
      refine .counted hgoing new rfl rfl ?_
      rintro (⟨hkind, p, hp⟩ | ⟨o, ho⟩)
      · exact progress hkind p hp
      · rw [outcome] at ho
        cases ho

/-- A report is told once at most, and then its number is new and
    remembered. -/
theorem Receives.logs (h : Receives s m now r) (hreport : m.kind.isReport = true) : s.Logs m r := by
  cases h with
  | foreign foreign => exact .idle rfl rfl (.inl foreign)
  | useless report =>
      -- A report is only useless before the transfer.
      refine .idle rfl rfl (.inr (.inl ?_))
      rcases report hreport with hphase | ⟨retries, deadline, hphase⟩
      · rw [hphase]
        exact id
      · rw [hphase]
        exact id
  | transfers phase kind available =>
      rw [kind] at hreport
      cases hreport
  | declined phase kind unavailable =>
      rw [kind] at hreport
      cases hreport
  | accepted phase kind complete =>
      rw [kind] at hreport
      cases hreport
  | asked phase kind missing =>
      rw [kind] at hreport
      cases hreport
  | acceptedReport phase report supervises =>
      -- Acceptance is no news, and the session goes on until then.
      have hgoing : s.isTerminal = false := by
        rw [isTerminal, outcome?_of_inTransfer phase]
        rfl
      cases supervises.logs rfl with
      | idle news last cause =>
          refine .idle news last ?_
          rcases cause with hforeign | hunder | hterminal | hknown
          · exact .inl hforeign
          · exact absurd trivial hunder
          · cases hterminal
          · exact .inr (.inr (.inr hknown))
      | told going new news tells last => exact .told hgoing new news tells last
      | counted going new news last malformed => exact .counted hgoing new news last malformed
  | reported phase report supervises =>
      cases Supervises.logs (s := s.heard now) phase supervises with
      | idle news last cause => exact .idle news last cause
      | told going new news tells last => exact .told going new news tells last
      | counted going new news last malformed => exact .counted going new news last malformed
  | acknowledged phase report =>
      exact .idle rfl rfl (.inr (.inr (.inl (isTerminal_eq phase))))

/-- What is no report does not change what is remembered. -/
theorem Receives.log_eq (h : Receives s m now r) (hreport : m.kind.isReport = false) :
    r.state.log = s.log := by
  cases h with
  | foreign foreign => rfl
  | useless report => rfl
  | transfers phase kind available => rfl
  | declined phase kind unavailable => rfl
  | accepted phase kind complete => rfl
  | asked phase kind missing => rfl
  | acceptedReport phase report supervises => exact absurd (hreport.symm.trans report) nofun
  | reported phase report supervises => exact absurd (hreport.symm.trans report) nofun
  | acknowledged phase report => rfl

theorem Polls.log_eq (h : Polls s now r) : r.state.log = s.log := by
  cases h <;> rfl

theorem Greets.log_eq (h : Greets s now r) : r.state.log = s.log := by
  cases h <;> rfl

theorem Transmits.log_eq {s' : Supervisor} (h : Transmits s now s') : s'.log = s.log := by
  cases h <;> rfl

/-- What a reaction can acknowledge and launch: an acknowledgement answers the
    report that caused the reaction, or repeats the final one; the mission is
    sent once the transfer has begun, and from then on it has. -/
structure Answers (s : Supervisor) (cause : Option Message) (r : SupervisorReaction) : Prop where
  underway : s.phase.Underway → r.state.phase.Underway
  launched : ∀ x ∈ r.messages, x.kind = .mission → r.state.phase.Underway
  acked : ∀ x ∈ r.messages, x.kind = .ack →
    (∃ y, cause = some y ∧ y.kind.isReport = true ∧ y.seq = x.seq) ∨ s.farewell? = some x.seq
  farewell : ∀ seq, r.state.farewell? = some seq →
    (∃ y, cause = some y ∧ y.kind.isReport = true ∧ y.seq = seq) ∨ s.farewell? = some seq

/-- A reaction that says nothing. -/
theorem Answers.silent {cause : Option Message} {s' : Supervisor} {events : List SessionEvent}
    (underway : s.phase.Underway → s'.phase.Underway)
    (farewell : s'.farewell? = none ∨ s'.farewell? = s.farewell?) :
    s.Answers cause { state := s', events } where
  underway := underway
  launched := fun _ hx => absurd hx List.not_mem_nil
  acked := fun _ hx => absurd hx List.not_mem_nil
  farewell := by
    intro seq hseq
    rcases farewell with hnone | hsame
    · exact absurd (hnone.symm.trans hseq) nofun
    · exact .inr (hsame.symm.trans hseq)

/-- A reaction that acknowledges the report that caused it. -/
theorem Answers.acknowledgement {s' s'' : Supervisor} {final : Bool} {events : List SessionEvent}
    (report : m.kind.isReport = true) (underway : s.phase.Underway → s'.phase.Underway)
    (farewell : s'.farewell? = none ∨ s'.farewell? = s.farewell? ∨
      ∀ seq, s'.farewell? = some seq → m.seq = seq) :
    s.Answers (some m) { state := s', messages := [s''.ack m.seq final], events } where
  underway := underway
  -- An acknowledgement launches nothing, and confirms the report that it answers.
  launched := by
    intro x hx hkind
    cases List.mem_singleton.1 hx
    cases hkind
  acked := by
    intro x hx _
    cases List.mem_singleton.1 hx
    exact .inl ⟨m, rfl, report, rfl⟩
  farewell := by
    intro seq hseq
    rcases farewell with hnone | hsame | hown
    · exact absurd (hnone.symm.trans hseq) nofun
    · exact .inr (hsame.symm.trans hseq)
    · exact .inl ⟨m, rfl, report, hown seq hseq⟩

/-- A reaction that sends messages of the transfer. -/
theorem Answers.transfer {cause : Option Message} {s' : Supervisor} {messages : List Message}
    (kinds : ∀ x ∈ messages, x.kind = .mission) (underway : s'.phase.Underway)
    (farewell : s'.farewell? = none) : s.Answers cause { state := s', messages } where
  underway := fun _ => underway
  launched := fun _ _ _ => underway
  acked := by
    intro x hx hkind
    rw [kinds x hx] at hkind
    cases hkind
  farewell := fun seq hseq => absurd (farewell.symm.trans hseq) nofun

/-- A reaction that greets the rover. -/
theorem Answers.greeting {cause : Option Message} {s' : Supervisor}
    (before : ¬ s.phase.Underway) (farewell : s'.farewell? = none) :
    s.Answers cause { state := s', messages := [s.hello] } where
  underway := fun h => absurd h before
  launched := by
    intro x hx hkind
    cases List.mem_singleton.1 hx
    cases hkind
  acked := by
    intro x hx hkind
    cases List.mem_singleton.1 hx
    cases hkind
  farewell := fun seq hseq => absurd (farewell.symm.trans hseq) nofun

theorem not_underway_of_awaitingResponse {retries deadline : Nat}
    (h : s.phase = .awaitingResponse retries deadline) : ¬ s.phase.Underway := by
  rw [h]
  exact id

theorem Supervises.answers {deadline : Nat} (hphase : s.phase = .watching deadline)
    (hreport : m.kind.isReport = true) (h : Supervises s m now r) : s.Answers (some m) r := by
  have hnone : s.farewell? = none := by rw [farewell?, hphase]
  cases h with
  | recovers known => exact .acknowledgement hreport id (.inr (.inl rfl))
  | progress new kind payload => exact .acknowledgement hreport (fun _ => trivial) (.inl rfl)
  | @ends o new outcome =>
      -- The farewell that is left repeats the number of this report.
      refine .acknowledgement hreport (fun _ => underway_of_outcome? outcome _) (.inr (.inr ?_))
      intro seq hseq
      simp only [farewell?] at hseq
      split at hseq
      · cases hseq
      · exact Option.some.inj hseq
  | malformed new progress outcome => exact .silent id (.inr rfl)

/-- What a reaction to a message acknowledges and launches. -/
theorem Receives.answers (h : Receives s m now r) (hkinds : ∀ x ∈ s.transfer, x.kind = .mission) :
    s.Answers (some m) r := by
  cases h with
  | foreign foreign => exact .silent id (.inr rfl)
  | useless report => exact .silent id (.inr rfl)
  | transfers phase kind available => exact .transfer hkinds trivial rfl
  | declined phase kind unavailable =>
      exact .silent (fun h => absurd h (not_underway_of_awaitingResponse phase)) (.inl rfl)
  | accepted phase kind complete => exact .silent (fun _ => trivial) (.inl rfl)
  | asked phase kind missing =>
      exact .transfer (fun x hx => hkinds x (List.mem_filter.1 hx).1) trivial rfl
  | acceptedReport phase report supervises =>
      -- A session that has just begun to watch has no farewell to say.
      have hanswers := supervises.answers rfl report
      refine ⟨fun _ => hanswers.underway trivial, hanswers.launched, ?_, ?_⟩
      · intro x hx hkind
        rcases hanswers.acked x hx hkind with hcause | hnone
        · exact .inl hcause
        · cases hnone
      · intro seq hseq
        rcases hanswers.farewell seq hseq with hcause | hnone
        · exact .inl hcause
        · cases hnone
  | reported phase report supervises =>
      have hanswers := Supervises.answers (s := s.heard now) phase report supervises
      exact ⟨hanswers.underway, hanswers.launched, hanswers.acked, hanswers.farewell⟩
  | acknowledged phase report => exact .acknowledgement report id (.inr (.inl rfl))

/-- What a reaction to the passing of time acknowledges and launches. -/
theorem Polls.answers (h : Polls s now r) (hkinds : ∀ x ∈ s.transfer, x.kind = .mission) :
    s.Answers none r := by
  cases h with
  | quiet early => exact .silent id (.inr rfl)
  | greets phase due more => exact .greeting (not_underway_of_awaitingResponse phase) rfl
  | unresponsive phase due spent =>
      exact .silent (fun h => absurd h (not_underway_of_awaitingResponse phase)) (.inl rfl)
  | resends phase due more => exact .transfer hkinds trivial rfl
  | unconfirmed phase due spent => exact .silent (fun _ => trivial) (.inl rfl)
  | silent phase due => exact .silent (fun _ => trivial) (.inl rfl)
  | @farewells outcome farewell phase left due =>
      -- The farewell that is repeated is one that was left to say.
      have hseq : s.farewell? = some farewell.seq := by
        simp only [farewell?, phase, left, if_false]
      exact {
        underway := by
          rw [phase]
          exact Supervision.Underway.ended
        launched := by
          intro x hx hkind
          cases List.mem_singleton.1 hx
          cases hkind
        acked := by
          intro x hx _
          cases List.mem_singleton.1 hx
          exact .inr hseq
        farewell := by
          intro seq hleft
          simp only [repeatFarewell, farewell?] at hleft
          split at hleft
          · cases hleft
          · cases hleft
            exact .inr hseq }

theorem Greets.answers (h : Greets s now r) : s.Answers none r := by
  cases h with
  | quiet phase => exact .silent id (.inr rfl)
  | opens phase =>
      refine .greeting ?_ rfl
      rw [phase]
      exact id

theorem Transmits.answers {s' : Supervisor} (h : Transmits s now s') :
    s.Answers none { state := s' } := by
  cases h with
  | quiet phase => exact .silent id (.inr rfl)
  | waits phase => exact .silent (fun _ => trivial) (.inl rfl)

/-- A session that has ended stays so. -/
theorem Concludes.isTerminal (h : s.Concludes r) (hs : s.isTerminal = true) :
    r.state.isTerminal = true := by
  rcases Option.isSome_iff_exists.1 hs with ⟨o, ho⟩
  exact Option.isSome_iff_exists.2 ⟨o, (h o).2 (.inl ho)⟩

end Reactions

end Supervisor

end RoverDispatch
