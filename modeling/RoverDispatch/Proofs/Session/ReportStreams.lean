import RoverDispatch.Proofs.Session.Acknowledgements
import RoverDispatch.Proofs.Session.ReportLedgers

/-!
# Report Streams of an Agent's Sessions

The reports that an agent sends, session by session.

An agent sends reports in several places: a poll sends the first waiting report,
repeats the one in flight, or goes on to the next when that is given up; an
acknowledgement sends the next at once, and with it whatever it lists as
missing. Only in one of them is a report sent for the first time, and then the
queue keeps it as the latest that was sent. So the reports that were sent first,
in order, are those that the queue has kept, from the earliest to the latest.

`Conveys` says this of one turn of an agent: a session that goes on sends
nothing but what its queue has kept by then, and one that is left has sent
nothing new. What the queue holds is said by its stage, `Stage.Allows`. A
mission that ends puts its last report into the queue at the tick at which the
session begins to wait for the confirmation, so one statement about the queue
answers when there is a terminal report and how many there are.

## Main definitions

* `reportsIn`: The reports among messages.
* `InOrder`: What was told in a session is in order.
* `AgentSession.Continues`, `Conveys`: What a turn makes of the reports that
  were sent.
* `Correspondence`: An agent with all reports that were sent, session by session.

## Theorems

* `ReportQueue.inOrder`: What a queue keeps is in order.
* `Agent.relays_receive`, `Agent.relays_poll`: What messages and time make of the
  reports.
* `Correspondence.Sound.run`: The correspondence is sound after any inputs.
* `Correspondence.run_eq`: It is all that the agent reports.
* `Correspondence.reported_in_order`: The reports of every session.
-/

namespace RoverDispatch

/-- The reports among messages. -/
def reportsIn (messages : List Message) : List Message :=
  messages.filter (fun m => m.kind.isReport)

/-- What is told in a session: reports that are numbered from one as they are
    sent first, with progress in all of them but the last. What is sent again is
    as it was. -/
structure InOrder (told : List Message) : Prop where
  seqs : (firsts told).map Message.seq =
    (List.range (firsts told).length).map (fun i : Nat => (i : Int) + 1)
  reports : ∀ m ∈ told, m.kind = .progress ∨ m.kind = .completed ∨ m.kind = .error
  progress : ∀ m ∈ (firsts told).dropLast, m.kind = .progress
  again : ∀ m ∈ told, m ∈ firsts told

theorem InOrder.nil : InOrder [] where
  seqs := rfl
  reports := fun _ hm => absurd hm List.not_mem_nil
  progress := fun _ hm => absurd hm List.not_mem_nil
  again := fun _ hm => absurd hm List.not_mem_nil

/-! ### What a queue keeps -/

section Kinds

variable {k : Kind}

theorem Kind.isReport_iff : k.isReport = true ↔ k = .progress ∨ k = .completed ∨ k = .error := by
  cases k <;> decide

/-- A report that does not end the mission is progress. -/
theorem Kind.eq_progress (hreport : k.isReport = true) (hgoing : k.isTerminal = false) :
    k = .progress := by
  rcases isReport_iff.1 hreport with rfl | rfl | rfl
  · rfl
  · cases hgoing
  · cases hgoing

end Kinds

namespace ReportQueue

variable {q : ReportQueue} {m : Message} {told : List Message}

theorem Orderly.isReport (h : q.Orderly) (hm : m ∈ q.sent) : m.kind.isReport = true := by
  rcases h.reports m hm with ⟨report, he⟩
  rw [he]
  exact report.isReport_kind

/-- What was sent before the latest report comes after the first value of the
    row. -/
theorem isTerminal_mem_tail_stream (hm : m ∈ q.sent.tail) : m.kind.isTerminal ∈ q.stream.tail := by
  -- Reports that wait only push the sent ones further from the front.
  have hsub : (q.sent.map (fun m => m.kind.isTerminal)).tail.Sublist q.stream.tail :=
    (List.sublist_append_right ..).tail
  rw [← List.map_tail] at hsub
  exact hsub.subset (List.mem_map_of_mem hm)

/-- Before the latest report, none ends the mission. -/
theorem going_of_mem_tail (h : q.Open ∨ q.Closing) (hm : m ∈ q.sent.tail) :
    m.kind.isTerminal = false := by
  have hmem := isTerminal_mem_tail_stream hm
  rcases h with hopen | ⟨rest, hstream, hrest⟩
  · exact hopen _ (List.mem_of_mem_tail hmem)
  · rw [hstream, List.tail_cons] at hmem
    exact hrest _ hmem

/-- The reports that end the mission, waiting and sent. -/
theorem countP_stream (q : ReportQueue) :
    q.stream.countP id =
      q.waiting.countP Report.isTerminal + q.sent.countP (fun m => m.kind.isTerminal) := by
  rw [stream, List.countP_append, List.countP_reverse, List.countP_map, List.countP_map]
  rfl

theorem countP_of_false {row : List Bool} (h : ∀ b ∈ row, b = false) : row.countP id = 0 := by
  refine List.countP_eq_zero.2 (fun b hb => ?_)
  rw [h b hb]
  exact Bool.false_ne_true

theorem Closing.countP_stream (h : q.Closing) : q.stream.countP id = 1 := by
  rcases h with ⟨rest, hstream, hrest⟩
  rw [hstream, List.countP_cons_of_pos rfl, countP_of_false hrest]

/-- If what a queue keeps are the reports that were sent first, all that was sent
    is in order. -/
theorem inOrder (h : q.Orderly) (hends : q.Open ∨ q.Closing)
    (hfirsts : firsts told = q.sent.reverse) (hknown : ∀ m ∈ told, m ∈ q.sent) : InOrder told where
  seqs := by
    rw [hfirsts, List.length_reverse]
    exact h.numbered.seqs
  reports := fun m hm => Kind.isReport_iff.1 (h.isReport (hknown m hm))
  progress := by
    intro m hm
    -- All but the last of the first sendings are all but the latest that the queue keeps.
    rw [hfirsts, List.dropLast_reverse] at hm
    have htail := List.mem_reverse.1 hm
    exact Kind.eq_progress (h.isReport (List.mem_of_mem_tail htail)) (going_of_mem_tail hends htail)
  again := by
    intro m hm
    rw [hfirsts]
    exact List.mem_reverse.2 (hknown m hm)

end ReportQueue

/-! ### Turns -/

/-- A session that goes on, with the reports that are sent meanwhile: whatever is
    sent is kept, and no more is kept than one report that is sent. The last report
    is waited for until the end. -/
structure AgentSession.Continues (s s' : AgentSession) (reports : List Message) : Prop where
  mission : s'.mission = s.mission
  known : ∀ m ∈ reports, m ∈ s'.reports.sent
  sent : s'.reports.sent = s.reports.sent ∨ ∃ m ∈ reports, s'.reports.sent = m :: s.reports.sent
  ended : s.stage = .reporting → s'.stage = .reporting

/-- What a turn of an agent makes of its session, with the reports that are sent. -/
inductive Conveys : Option AgentSession → Option AgentSession → List Message → Prop where
  | without : Conveys none none []
  | opens {s : AgentSession} (blank : s.reports.sent = []) : Conveys none (some s) []
  | goes {s s' : AgentSession} {reports : List Message} (continues : s.Continues s' reports) :
      Conveys (some s) (some s') reports
  /-- The session is left, for another or for none. -/
  | leaves {s : AgentSession} {s' : Option AgentSession} {reports : List Message}
      (other : s'.map AgentSession.mission ≠ some s.mission)
      (known : ∀ m ∈ reports, m ∈ s.reports.sent) (blank : ∀ t ∈ s', t.reports.sent = []) :
      Conveys (some s) s' reports

/-- A session that is left for none. -/
theorem Conveys.closes {s : AgentSession} {reports : List Message}
    (known : ∀ m ∈ reports, m ∈ s.reports.sent) : Conveys (some s) none reports :=
  .leaves (Option.some_ne_none _).symm known (fun _ ht => absurd ht (Option.not_mem_none _))

namespace AgentSession

variable {s s' : AgentSession} {reports : List Message} {t : Timing}

/-- A session whose queue stays as it is. -/
theorem Continues.keeps (hmission : s'.mission = s.mission) (hreports : s'.reports = s.reports)
    (hended : s.stage = .reporting → s'.stage = .reporting) : s.Continues s' [] :=
  ⟨hmission, fun _ hm => absurd hm List.not_mem_nil, .inl (congrArg ReportQueue.sent hreports),
    hended⟩

theorem Continues.refl (s : AgentSession) : s.Continues s [] :=
  .keeps rfl rfl (fun hended => hended)

/-- A session that sends what its queue has. -/
theorem Continues.sends {q : ReportQueue} {messages : List Message}
    (h : s.reports.Sends q messages) :
    s.Continues { s with reports := q } (reportsIn messages) where
  mission := rfl
  known := fun m hm => h.known m (List.mem_of_mem_filter hm)
  sent := by
    rcases h.sent with he | ⟨m, hm, he⟩
    · exact .inl he
    · -- What is kept is a report, so it is among the reports that were sent.
      have hreport := h.orderly.isReport (he ▸ List.mem_cons_self ..)
      exact .inr ⟨m, List.mem_filter.2 ⟨hm, hreport⟩, he⟩
  ended := id

/-- A session that goes on for a while in which nothing is sent. -/
theorem Continues.after (h : s.Continues s' []) (hsent : s'.reports.sent = s.reports.sent)
    {next : Option AgentSession} (h' : Conveys (some s') next reports) :
    Conveys (some s) next reports := by
  cases h' with
  -- What is sent later counts from the same reports, since none was sent in between.
  | goes continues =>
      refine .goes ⟨continues.mission.trans h.mission, continues.known, ?_,
        fun hended => continues.ended (h.ended hended)⟩
      rw [← hsent]
      exact continues.sent
  | leaves other known blank =>
      refine .leaves ?_ ?_ blank
      · rw [← h.mission]
        exact other
      · rw [← hsent]
        exact known

theorem phase_eq_reportingTerminal : s.phase = .reportingTerminal ↔ s.stage = .reporting := by
  rw [phase]
  cases s.stage with
  | receiving r =>
      refine ⟨fun hphase => ?_, nofun⟩
      dsimp only at hphase
      split at hphase <;> cases hphase
  | executing e => exact ⟨nofun, nofun⟩
  | reporting => exact ⟨fun _ => rfl, fun _ => rfl⟩

/-- The mission of a session is over, or no report ends it. -/
theorem Regular.ends (h : s.Regular t) :
    (s.stage = .reporting ∧ s.reports.Closing) ∨ (s.stage ≠ .reporting ∧ s.reports.Open) := by
  have hstage := h.stage
  cases hs : s.stage with
  | receiving r =>
      rw [hs] at hstage
      exact .inr ⟨nofun, hstage.2.isOpen⟩
  | executing e =>
      rw [hs] at hstage
      exact .inr ⟨nofun, hstage⟩
  | reporting =>
      rw [hs] at hstage
      exact .inl ⟨rfl, hstage.1⟩

/-- A mission under way can be driven on, by any rover. -/
theorem Regular.drive (h : s.Regular t) {e : Execution} (he : s.stage = .executing e)
    (rover : Rover) : Drive.Sound ⟨e, rover, s.reports, false⟩ := by
  have hstage := h.stage
  rw [he] at hstage
  exact ⟨h.reports.orderly, fun _ => hstage, fun hended => absurd hended Bool.false_ne_true⟩

end AgentSession

namespace Agent

variable {a : Agent} {s s' : AgentSession}

/-- What a reaction of an agent makes of its session and the reports. -/
def Relays (a : Agent) (r : AgentReaction) : Prop :=
  Conveys a.session r.state.session (reportsIn r.messages)

/-- Nothing becomes of the session, and no report is sent. -/
theorem Relays.same {messages : List Message} {events : List AgentEvent}
    (hm : reportsIn messages = []) : a.Relays { state := a, messages, events } := by
  rw [Relays, hm]
  cases a.session with
  | none => exact .without
  | some s => exact .goes (.refl s)

/-- The session goes on, and no report is sent. -/
theorem Relays.keeps (hs : a.session = some s) (hmission : s'.mission = s.mission)
    (hreports : s'.reports = s.reports) (hended : s.stage = .reporting → s'.stage = .reporting)
    {b : Agent} {messages : List Message} {events : List AgentEvent}
    (hm : reportsIn messages = []) : a.Relays { state := b.within s', messages, events } := by
  rw [Relays, hs, hm]
  exact .goes (.keeps hmission hreports hended)

/-- The session closes, and nothing is sent for the first time. -/
theorem Relays.closes (hs : a.session = some s) {r : AgentReaction}
    (hnone : r.state.session = none) (hknown : ∀ m ∈ r.messages, m ∈ s.reports.sent) :
    a.Relays r := by
  rw [Relays, hs, hnone]
  exact .closes (fun m hm => hknown m (List.mem_of_mem_filter hm))

/-! ### Messages -/

theorem relays_onHello (h : a.Regular) (hello : Message) (now : Nat) :
    a.Relays (a.onHello hello now) := by
  cases hs : a.session with
  | none =>
      simp only [onHello, hs, welcome, Relays]
      split
      · exact .without
      · exact .opens rfl
  | some s =>
      simp only [onHello, hs]
      split
      · -- The answer to a hello is no report, however often it is given.
        have hresponse : reportsIn [s.response] = [] := by
          rw [reportsIn, List.filter_singleton, (h s hs).response]
          rfl
        refine .keeps hs (s.heard_mission now) (s.heard_reports now) (fun hended => ?_) hresponse
        rw [AgentSession.heard, hended]
        exact hended
      · rename_i hother
        split
        · exact .same rfl
        · rw [Relays, hs]
          simp only [welcome]
          -- A rover out of order opens no session in place of the one that it leaves.
          split
          · exact .closes (fun _ hm => absurd hm List.not_mem_nil)
          · refine .leaves (fun he => hother (Option.some.inj he).symm)
              (fun _ hm => absurd hm List.not_mem_nil) ?_
            rintro t ht
            cases ht
            rfl

/-- While the mission is received, no report is sent. -/
theorem relays_onTransfer (hs : a.session = some s) {r : Reception} (hr : s.stage = .receiving r)
    (x : Message) (now : Nat) : a.Relays (a.onTransfer s r x now) := by
  have hgoing : s.stage ≠ .reporting := by
    intro hended
    cases hr.symm.trans hended
  -- Whatever becomes of the transfer, the queue is not touched.
  have hkeeps : ∀ (b : Agent) (total : Int) (stage : Stage) (messages : List Message)
      (events : List AgentEvent), reportsIn messages = [] →
        a.Relays { state := b.within { s with total, stage }, messages, events } := by
    intro b total stage messages events hm
    refine .keeps hs ?_ ?_ (fun hended => absurd hended hgoing) hm
    · rfl
    · rfl
  simp only [onTransfer]
  split
  · exact hkeeps { a with rover := a.rover.begin } _ _ _ _ rfl
  · split
    · simp only [onFragment]
      split
      · exact hkeeps a _ _ _ _ rfl
      · exact hkeeps a _ _ _ _ rfl
      · exact hkeeps { a with rover := a.rover.begin } _ _ _ _ rfl
    · exact hkeeps a _ _ _ _ rfl
  · exact hkeeps a _ _ _ _ rfl

theorem relays_onMission (x : Message) (now : Nat) : a.Relays (a.onMission x now) := by
  cases hs : a.session with
  | none =>
      simp only [onMission, hs]
      exact .same rfl
  | some s =>
      simp only [onMission, hs]
      split
      · exact .same rfl
      · split
        · rename_i r hr
          exact relays_onTransfer hs hr x now
        · exact .same rfl

/-- What is listed as missing is sent again, and unless the session closes, the
    next report for the first time. -/
theorem relays_onAck (h : a.Regular) (x : Message) (now : Nat) : a.Relays (a.onAck x now) := by
  cases hs : a.session with
  | none =>
      simp only [onAck, hs]
      exact .same rfl
  | some s =>
      simp only [onAck, hs]
      split
      · exact .same rfl
      · cases hc : s.reports.confirm? x.seq (ackIn x) with
        | none => exact .same rfl
        | some c =>
            have hsends := ReportQueue.sends_confirm (h s hs).reports.orderly hc
            rcases ReportQueue.confirm?_eq_some hc with ⟨-, -, -, hqueue, -, -, hreplay⟩
            simp only [onConfirmed]
            split
            · exact .closes hs rfl hreplay
            · -- The confirmation adds nothing to what was sent, so the poll after it counts.
              rw [Relays, hs]
              exact .goes (.sends (hsends.after (by rw [hqueue])
                (ReportQueue.sends_poll hsends.orderly now)))

/-- What a message makes of the session and the reports. -/
theorem relays_receive (h : a.Regular) (x : Message) (now : Nat) : a.Relays (a.receive x now) := by
  rw [receive]
  split
  · split
    · exact relays_onHello h x now
    · exact relays_onMission x now
    · exact relays_onAck h x now
    · exact .same rfl
  · exact .same rfl

/-! ### Time -/

theorem relays_pollTransfer (now : Nat) : a.Relays (a.pollTransfer now) := by
  rw [pollTransfer]
  split
  · exact .same rfl
  · rename_i s hs
    split
    · rename_i r hr
      split
      · exact .same rfl
      · split
        · exact .closes hs rfl (fun _ hm => absurd hm List.not_mem_nil)
        · rcases r.nudge now with ⟨r', request⟩
          dsimp only
          refine .keeps hs ?_ ?_ (fun hended => ?_) ?_
          · rfl
          · rfl
          · cases hr.symm.trans hended
          · -- What is asked for out of silence is an acknowledgement.
            refine List.filter_eq_nil_iff.2 (fun y hy => ?_)
            rcases List.mem_map.1 hy with ⟨q, -, rfl⟩
            exact Bool.false_ne_true
    · exact .same rfl

/-- Ticks put reports into the queue and send none. -/
theorem continues_pollExecution (h : a.Regular) (hs : a.session = some s) (now : Nat) :
    ∃ t, (a.pollExecution now).session = some t ∧ s.Continues t [] ∧
      t.reports.sent = s.reports.sent := by
  cases hr : s.stage with
  | receiving r =>
      simp only [pollExecution, hs, hr]
      exact ⟨s, rfl, .refl s, rfl⟩
  | reporting =>
      simp only [pollExecution, hs, hr]
      exact ⟨s, rfl, .refl s, rfl⟩
  -- Ticks enqueue reports, and what is enqueued has not been sent.
  | executing e =>
      have hdrive := (h s hs).drive hr a.rover
      have hsame := (Drive.ticks_sound hdrive (now / 1000 : Nat) (e.due a.rover now)).2
      simp only [pollExecution, hs, hr]
      generalize Drive.ticks _ _ _ = d at hsame ⊢
      have hsent : d.reports.sent = s.reports.sent := hsame.sent
      refine ⟨_, rfl, ⟨rfl, fun _ hm => absurd hm List.not_mem_nil, .inl hsent, ?_⟩, hsent⟩
      intro hended
      cases hr.symm.trans hended

theorem relays_pollReports (h : a.Regular) (now : Nat) : a.Relays (a.pollReports now) := by
  cases hs : a.session with
  | none =>
      rw [pollReports_of_fresh (fun s hs' => absurd (hs'.symm.trans hs) (Option.some_ne_none s))]
      exact .same rfl
  | some s =>
      have hsends := ReportQueue.sends_poll (h s hs).reports.orderly now
      rcases pollReports_cases hs now with ⟨hm, ⟨given, hgiven, hlast, hstate⟩ | ⟨-, hstate⟩⟩
      · -- With its last report given up, the session says nothing any more.
        have hnone := ReportQueue.messages_of_abandoned hgiven hlast
        refine .closes hs (by rw [hstate]; rfl) (fun m hmem => ?_)
        rw [hm, hnone] at hmem
        cases hmem
      · rw [Relays, hs, hm, hstate]
        exact .goes (.sends hsends)

/-- What the passing of time makes of the session and the reports. -/
theorem relays_poll (h : a.Regular) (now : Nat) : a.Relays (a.poll now) := by
  have hsession := (a.recover_eq now).1
  have hrecover : (a.recover now).Regular := (proceeds_recover h now).regular
  cases hbusy : a.isBusy with
  | false =>
      rw [poll_of_not_busy h.silent hbusy, Relays, ← hsession]
      exact relays_pollTransfer now
  -- The reports that a poll sends come after its ticks, which send none.
  | true =>
      have hexecution : ((a.recover now).pollExecution now).Regular :=
        (proceeds_pollExecution hrecover now).regular
      have hreports := relays_pollReports hexecution now
      rw [poll_of_busy hbusy, Relays, ← hsession]
      cases hs : (a.recover now).session with
      | none =>
          rw [isBusy, ← hsession, hs] at hbusy
          cases hbusy
      | some s =>
          rcases continues_pollExecution hrecover hs now with ⟨t, ht, hcontinues, hsent⟩
          rw [Relays, ht] at hreports
          exact hcontinues.after hsent hreports

/-- What an input makes of the session and the reports. -/
theorem relays (h : a.Regular) (i : Input) : a.Relays (a.react i) := by
  have hquiet : a.Relays (.quiet a) := .same rfl
  cases i with
  | hear x now => exact relays_receive h x now
  | wait now => exact relays_poll h now
  | inject fault => exact hquiet
  | clearFault => exact hquiet

end Agent

/-! ### Sessions -/

/-- There was a session, and it is gone, whether or not another is there. -/
def Departs (s s' : Option AgentSession) : Prop :=
  s.isSome = true ∧ s'.map AgentSession.mission ≠ s.map AgentSession.mission

instance (s s' : Option AgentSession) : Decidable (Departs s s') :=
  inferInstanceAs (Decidable (_ ∧ _))

/-- What has been told in the session that there is. What was told first, in order,
    is what its queue keeps. -/
inductive Told : Option AgentSession → List Message → Prop where
  | nothing : Told none []
  | within {s : AgentSession} {told : List Message} (firsts : firsts told = s.reports.sent.reverse)
      (known : ∀ m ∈ told, m ∈ s.reports.sent) : Told (some s) told

section Told

variable {s s' : Option AgentSession} {t t' : AgentSession} {told more : List Message}
  {timing : Timing}

theorem Told.of_blank (h : ∀ t ∈ s, t.reports.sent = []) : Told s [] := by
  cases s with
  | none => exact .nothing
  | some t =>
      refine .within ?_ (fun _ hm => absurd hm List.not_mem_nil)
      rw [h t rfl]
      rfl

theorem Told.eq_nil (h : Told none told) : told = [] := by
  cases h
  rfl

/-- What is told is in order. -/
theorem Told.inOrder (h : Told s told) (hregular : ∀ t ∈ s, t.Regular timing) : InOrder told := by
  cases h with
  | nothing => exact .nil
  | within firsts known =>
      have ht := hregular _ rfl
      have hends := ht.ends.imp And.right And.right
      exact ReportQueue.inOrder ht.reports.orderly hends.symm firsts known

/-- What is told beyond what was told before is at most one report. -/
theorem Told.continues (h : Told (some t) told) (ht' : t'.Regular timing)
    (hc : t.Continues t' more) : Told (some t') (told ++ more) := by
  cases h with
  | within hfirsts hknown =>
      have hnumbered := ht'.reports.orderly.numbered
      have hmore := hc.known
      -- What the queue keeps has stayed, or one report has come in front of it.
      rcases hc.sent with he | ⟨m, hm, he⟩
      · rw [he] at hmore
        refine .within ?_ (fun x hx => ?_)
        · rw [firsts_append, hfirsts, he]
          exact foldl_noteFirst_of_known (fun x hx => List.mem_reverse.2 (hmore x hx))
        · rw [he]
          exact (List.mem_append.1 hx).elim (hknown x) (hmore x)
      · rw [he] at hnumbered hmore
        refine .within ?_ (fun x hx => ?_)
        · rw [firsts_append, hfirsts, he]
          exact hnumbered.foldl_noteFirst hm hmore
        · rw [he]
          rcases List.mem_append.1 hx with hx | hx
          · exact List.mem_cons_of_mem _ (hknown x hx)
          · exact hmore x hx

/-- A turn that does not end the session. -/
theorem Told.stays (h : Told s told) (hc : Conveys s s' more)
    (hregular : ∀ t ∈ s', t.Regular timing) (hstays : ¬ Departs s s') : Told s' (told ++ more) := by
  cases hc with
  | without =>
      rw [List.append_nil]
      exact h
  | opens blank =>
      cases h with
      | nothing => exact .of_blank (by rintro t ⟨⟩; exact blank)
  | goes continues => exact h.continues (hregular _ rfl) continues
  | leaves other known blank => exact absurd ⟨rfl, other⟩ hstays

/-- A turn that ends the session. -/
theorem Told.departs (h : Told s told) (hc : Conveys s s' more)
    (hregular : ∀ t ∈ s, t.Regular timing) (hdeparts : Departs s s') :
    InOrder (told ++ more) ∧ Told s' [] := by
  cases hc with
  | without => cases hdeparts.1
  | opens blank => cases hdeparts.1
  | goes continues => exact absurd (congrArg some continues.mission) hdeparts.2
  | leaves other known blank =>
      -- The session says at most what it has said before.
      have htold := h.continues (hregular _ rfl) ⟨rfl, known, .inl rfl, fun hended => hended⟩
      exact ⟨htold.inOrder hregular, .of_blank blank⟩

end Told

/-- An agent with the reports that were sent in each session that it has left, and
    those sent since. -/
structure Correspondence where
  agent : Agent
  past : List (List Message)
  present : List Message
  deriving DecidableEq

namespace Correspondence

/-- Nothing has been sent yet. -/
def start (agent : Agent) : Correspondence := { agent, past := [], present := [] }

/-- Something happens to the agent. What it reports belongs to the session that it
    had, or else to the one that opens. -/
def input (c : Correspondence) (i : Agent.Input) : Correspondence :=
  let r := c.agent.react i
  let told := c.present ++ reportsIn r.messages
  if Departs c.agent.session r.state.session then
    { agent := r.state, past := c.past ++ [told], present := [] }
  else { agent := r.state, past := c.past, present := told }

/-- A number of things happen to the agent. -/
def run (c : Correspondence) (inputs : List Agent.Input) : Correspondence := inputs.foldl input c

/-- Every session that the agent has left has reported in order, and what has been
    told since belongs to the session that there is. -/
structure Sound (timing : Timing) (c : Correspondence) : Prop where
  timing : c.agent.timing = timing
  regular : c.agent.Regular
  past : ∀ told ∈ c.past, InOrder told
  present : Told c.agent.session c.present

section Run

variable {timing : Timing} {c : Correspondence} {i : Agent.Input} {s : AgentSession}

theorem input_agent (c : Correspondence) (i : Agent.Input) :
    (c.input i).agent = (c.agent.react i).state := by
  rw [input]
  split <;> rfl

/-- No report is lost. -/
theorem flatten_input (c : Correspondence) (i : Agent.Input) :
    (c.input i).past.flatten ++ (c.input i).present =
      c.past.flatten ++ c.present ++ reportsIn (c.agent.react i).messages := by
  rw [input]
  split
  · simp only [List.flatten_append, List.flatten_singleton, List.append_nil, List.append_assoc]
  · simp only [List.append_assoc]

/-- The correspondence is all that the agent reports. -/
theorem run_eq (a : Agent) (inputs : List Agent.Input) :
    ((start a).run inputs).agent = (a.run inputs).state ∧
      ((start a).run inputs).past.flatten ++ ((start a).run inputs).present =
        reportsIn (a.run inputs).messages := by
  induction inputs using List.reverseRecOn with
  | nil => exact ⟨rfl, rfl⟩
  | append_singleton inputs i ih =>
      have hrun : (start a).run (inputs ++ [i]) = ((start a).run inputs).input i := by
        rw [run, List.foldl_append]
        rfl
      rw [hrun, input_agent, flatten_input, ih.1, ih.2, Agent.run_concat]
      exact ⟨rfl, (List.filter_append ..).symm⟩

theorem Sound.start (id : Int) (timing : Timing) (rover : Rover) :
    (Correspondence.start (.start id timing rover)).Sound timing where
  timing := rfl
  regular := .start id timing rover
  past := fun _ hm => absurd hm List.not_mem_nil
  present := .nothing

/-- Every input keeps the correspondence sound. -/
theorem Sound.input (h : c.Sound timing) (i : Agent.Input) : (c.input i).Sound timing := by
  have hrelays : Conveys _ _ _ := Agent.relays h.regular i
  have hproceeds := Agent.proceeds h.regular i
  have htiming := hproceeds.timing.trans h.timing
  rw [Correspondence.input]
  -- If the session is left, what it told is complete, and the next has told nothing.
  split
  · rename_i hdeparts
    rcases h.present.departs hrelays h.regular hdeparts with ⟨horder, hnext⟩
    refine ⟨htiming, hproceeds.regular, ?_, hnext⟩
    intro told htold
    rcases List.mem_append.1 htold with htold | htold
    · exact h.past told htold
    · exact List.mem_singleton.1 htold ▸ horder
  · rename_i hstays
    exact ⟨htiming, hproceeds.regular, h.past, h.present.stays hrelays hproceeds.regular hstays⟩

/-- The correspondence is sound after any inputs. -/
theorem Sound.run (h : c.Sound timing) (inputs : List Agent.Input) :
    (c.run inputs).Sound timing := by
  induction inputs generalizing c with
  | nil => exact h
  | cons i inputs ih => exact ih (h.input i)

/-- One report ends the mission from the time at which the session waits for its
    confirmation, and none before. -/
theorem Sound.terminals (h : c.Sound timing) (hs : c.agent.session = some s) :
    s.reports.waiting.countP Report.isTerminal +
        (firsts c.present).countP (fun m => m.kind.isTerminal) =
      if s.phase = .reportingTerminal then 1 else 0 := by
  have hpresent := h.present
  rw [hs] at hpresent
  cases hpresent with
  | within hfirsts hknown =>
      rw [hfirsts, List.countP_reverse, ← ReportQueue.countP_stream]
      -- Waiting and sent reports make one row, and the stage tells how it looks.
      rcases (h.regular s hs).ends with ⟨hstage, hclosing⟩ | ⟨hstage, hopen⟩
      · rw [if_pos (AgentSession.phase_eq_reportingTerminal.2 hstage)]
        exact hclosing.countP_stream
      · rw [if_neg (fun hphase => hstage (AgentSession.phase_eq_reportingTerminal.1 hphase))]
        exact ReportQueue.countP_of_false hopen

/-- Ticks never put a second report beside the one that waits. -/
theorem Sound.short_ticks (h : c.Sound timing) (hs : c.agent.session = some s) {e : Execution}
    (he : s.stage = .executing e) (rover : Rover) (timestamp : Int) (n : Nat) :
    ((⟨e, rover, s.reports, false⟩ : Drive).ticks timestamp n).reports.waiting.length ≤ 1 := by
  have hregular := h.regular s hs
  exact (Drive.regular_ticks (hregular.drive he rover) hregular.reports timestamp n).short

/-- A session that waits for the confirmation of its last report does so until it
    closes. -/
theorem Sound.input_of_reporting (h : c.Sound timing) (hs : c.agent.session = some s)
    (hstage : s.stage = .reporting) (i : Agent.Input) :
    (c.input i).agent.session = none ∨
      ∃ t, (c.input i).agent.session = some t ∧ t.mission = s.mission ∧ t.stage = .reporting := by
  have hbusy : s.isBusy = true := AgentSession.isBusy_eq hstage
  have hpassage := (Agent.passes h.regular.silent i).passage
  have hrelays : Conveys _ _ _ := Agent.relays h.regular i
  rw [input_agent]
  rw [hs] at hpassage hrelays
  -- A busy session gives way to no other.
  rcases hpassage.of_busy hbusy with ⟨t, ht, hmission, -, -⟩ | ⟨hnone, -⟩
  · rw [ht] at hrelays
    cases hrelays with
    | goes continues => exact .inr ⟨t, ht, hmission, continues.ended hstage⟩
    | leaves other known blank => exact absurd (congrArg some hmission) other
  · exact .inl hnone

end Run

/-- The reports of every session of an agent, whatever happens to it. The reports
    that it sends are those of the sessions that it has left and those of the one
    that there is; between sessions it reports nothing. In each of them the reports
    are in order. At most one waits in the queue, also between the ticks of a poll.
    There is one that ends the mission, waiting or sent, exactly if the phase is
    that of reporting the end, which the session keeps until it closes. -/
theorem reported_in_order (id : Int) (timing : Timing) (rover : Rover)
    (inputs : List Agent.Input) :
    let c := (start (.start id timing rover)).run inputs
    let r := (Agent.start id timing rover).run inputs
    c.agent = r.state ∧ c.past.flatten ++ c.present = reportsIn r.messages ∧
    (∀ told ∈ c.past, InOrder told) ∧ InOrder c.present ∧
    (c.agent.session = none → c.present = []) ∧
    ∀ s, c.agent.session = some s →
      s.reports.waiting.length ≤ 1 ∧
      (∀ e rover timestamp n, s.stage = .executing e →
        ((⟨e, rover, s.reports, false⟩ : Drive).ticks timestamp n).reports.waiting.length ≤ 1) ∧
      s.reports.waiting.countP Report.isTerminal +
          (firsts c.present).countP (fun m => m.kind.isTerminal) =
        (if s.phase = .reportingTerminal then 1 else 0) ∧
      (s.phase = .reportingTerminal → ∀ i,
        (c.input i).agent.session = none ∨
          ∃ t, (c.input i).agent.session = some t ∧ t.mission = s.mission ∧
            t.phase = .reportingTerminal) := by
  intro c r
  have h : c.Sound timing := (Sound.start id timing rover).run inputs
  rcases run_eq (.start id timing rover) inputs with ⟨hagent, hreports⟩
  -- Between sessions nothing is being reported.
  have hnone : c.agent.session = none → c.present = [] := fun hs => (hs ▸ h.present).eq_nil
  refine ⟨hagent, hreports, h.past, h.present.inOrder h.regular, hnone, fun s hs => ?_⟩
  refine ⟨(h.regular s hs).reports.short, ?_, h.terminals hs, fun hphase i => ?_⟩
  · intro e rover timestamp n he
    exact h.short_ticks hs he rover timestamp n
  · simp only [AgentSession.phase_eq_reportingTerminal] at hphase ⊢
    exact h.input_of_reporting hs hphase i

/-- The rover fails at the first tick of a mission, which is the only report of the
    session, however often it is sent. In the next session the numbers begin again.
    Both areas have no end, so that no step needs a root. -/
theorem reported_in_order_again :
    let far : Single := ⟨0x7f800000⟩
    let hello (mission : Int) : Message := { kind := .hello, sender := 0, receiver := 7, mission }
    let transfer (m : Mission) : Message :=
      { hello m.id with kind := .mission, seq := 2, payload := .mission m }
    let failing : List Agent.Input := [.hear (hello 1) 0,
      .hear (transfer ⟨1, far, .zero, far, .zero, "scan", 60, 1, 0, 1⟩) 0, .wait 1000]
    let going : List Agent.Input := [.wait 6000, .hear { hello 1 with kind := .ack, seq := 1 } 6001,
      .wait 12000, .hear (hello 2) 12000,
      .hear (transfer ⟨2, .zero, far, .zero, far, "scan", 60, 1, 0, 1⟩) 12000, .wait 13000]
    let rover := Rover.start {} .zero .zero .hundred (some ⟨.zero, .obstacle⟩)
    let c := (start (.start 7 {} rover)).run failing
    let c' := (start (.start 7 {} rover)).run (failing ++ going)
    let told (messages : List Message) : List (Int × Kind) :=
      messages.map (fun x => (x.seq, x.kind))
    (∃ s, c.agent.session = some s ∧
        s.reports.waiting.countP Report.isTerminal +
          (firsts c.present).countP (fun x => x.kind.isTerminal) = 1 ∧
        ∃ t, (c.input (.wait 6000)).agent.session = some t ∧ t.phase = .reportingTerminal) ∧
      c'.past.map told = [[(1, .error), (1, .error)]] ∧ told c'.present = [(1, .progress)] ∧
      c'.past.flatten ++ c'.present =
        reportsIn ((Agent.start 7 {} rover).run (failing ++ going)).messages := by
  intro far hello transfer failing going rover c c' told
  rcases reported_in_order 7 {} rover failing with ⟨-, -, -, -, -, hsession⟩
  rcases reported_in_order 7 {} rover (failing ++ going) with ⟨-, hreports, -⟩
  have hrun : (∃ s ∈ c.agent.session, s.phase = .reportingTerminal) ∧
      (c.input (.wait 6000)).agent.session.isSome = true ∧
      c'.past.map told = [[(1, .error), (1, .error)]] ∧ told c'.present = [(1, .progress)] := by
    decide +kernel
  rcases hrun with ⟨⟨s, hs, hphase⟩, hopen, hpast, hpresent⟩
  rcases hsession s hs with ⟨-, -, hcount, hstays⟩
  rw [if_pos hphase] at hcount
  refine ⟨⟨s, hs, hcount, ?_⟩, hpast, hpresent, hreports⟩
  rcases hstays hphase (.wait 6000) with hnone | ⟨t, ht, -, hphase'⟩
  · rw [hnone] at hopen
    cases hopen
  · exact ⟨t, ht, hphase'⟩

end Correspondence

end RoverDispatch
