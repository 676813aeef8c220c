import RoverDispatch.Proofs.Session.Conversations
import RoverDispatch.Proofs.Session.ReportLogs

/-!
# Reporting Exactly Once

A report that an agent takes for confirmed was received, and told once or came
too late to be told.

The sender keeps one report in flight, the latest it has sent, and the
receiver keeps the highest number it has heard of. What ties the two together
is `Conversation.Fate`, which is about the latest report only. When it is
sent, no report with its number has been received, and the receiver has
remembered lower numbers only. When it first arrives it is therefore news,
unless the session has ended, and it is never news again. Earlier reports that
arrive in between, late or replayed, have lower numbers and do not touch it.

An acknowledgement in turn is only ever sent for a number that was received.
So however old the acknowledgement is that confirms the report in flight, the
report has been received, and its fate is one of the two that are left.

This holds while the agent is in its first session for the mission. A second
session numbers its reports from one again, which the supervisor cannot know.

## Main definitions

* `Receipt.isOf`, `Receipt.numbers`: What a receipt is about.
* `Conversation.receiptsOf`, `Conversation.newsOf`: The receipts of a number and
  the events that came from them.
* `Conversation.processed`: The numbers of the reports that became events.
* `Conversation.InFirstSession`: No session of the agent has closed.
* `Conversation.Booked`: What the supervisor has acknowledged and remembered.
* `Conversation.Enters`: The receipts that a reaction adds.
* `Conversation.Fate`: What has become of a report.
* `Conversation.Reported`: All reports are of the session, and the latest has a
  fate.

## Theorems

* `Conversation.Booked.reacts`: A reaction of the supervisor keeps its books.
* `Conversation.Fate.deliver`: A message to the supervisor leaves the latest
  report with a fate.
* `Conversation.Reported.agentReacts`: So does a turn of the agent.
* `Conversation.reporting_exactly_once`: What a confirmation means.
-/

namespace RoverDispatch

namespace Receipt

/-- A receipt of a report with the given number. -/
def isOf (seq : Int) (b : Receipt) : Bool := b.message.kind.isReport && b.message.seq == seq

/-- The number of a report, once for each event that came from it. -/
def numbers (b : Receipt) : List Int :=
  if b.message.kind.isReport then (newsIn b.events).map (fun _ => b.message.seq) else []

theorem isOf_iff {seq : Int} {b : Receipt} :
    b.isOf seq = true ↔ b.message.kind.isReport = true ∧ b.message.seq = seq := by
  rw [isOf, Bool.and_eq_true, beq_iff_eq]

end Receipt

/-- What a session has sent, the latest first. -/
def sentIn : Option AgentSession → List Message
  | none => []
  | some t => t.reports.sent

/-- What the agent has sent in its session, the latest first. -/
def Agent.sent (a : Agent) : List Message := sentIn a.session

theorem Agent.Serves.numbered {m : Mission} {frags : List (List Field)} {a : Agent}
    (h : a.Serves m frags) : Numbered a.sent := by
  rw [Agent.sent]
  cases hs : a.session with
  | none => exact .nil
  | some t => exact (h.session hs).orderly.numbered

/-- What an agent has sent in its session are proper reports of its own, and
    there are some only when it is busy with the mission. -/
theorem Agent.Serves.own {m : Mission} {frags : List (List Field)} {a : Agent}
    (h : a.Serves m frags) {x : Message} (hx : x ∈ a.sent) :
    (x.sender = a.id ∧ x.mission = m.id) ∧ x.IsWellFormed ∧
      ∃ t, a.session = some t ∧ t.isBusy = true := by
  rw [Agent.sent] at hx
  cases hs : a.session with
  | none =>
      rw [hs] at hx
      cases hx
  | some t =>
      rw [hs] at hx
      have ht := h.session hs
      refine ⟨(ht.reports hx).2, ?_, t, rfl, ?_⟩
      · rcases ht.orderly.reports x hx with ⟨report, he⟩
        rw [he]
        cases report with
        | progress p => exact .inl ⟨rfl, p, rfl⟩
        | completed => exact .inr ⟨_, rfl⟩
        | error e => exact .inr ⟨_, rfl⟩
      · -- A session that has not started has sent no report.
        by_contra hfree
        have hnone := (ht.fresh (eq_false_of_ne_true hfree)).sent
        rw [sentIn, hnone] at hx
        cases hx

/-- As long as no session closes, a turn sends at most one new report, and what
    it sends of reports has been sent in the session. -/
theorem Agent.Turn.sent {m : Mission} {cause : Option Message} {s s' : Option AgentSession}
    {messages : List Message} {events : List AgentEvent} (h : Turn m cause s s' messages events)
    (hopen : ∀ mission reason, .sessionClosed mission reason ∉ events) :
    (sentIn s' = sentIn s ∨ ∃ x, sentIn s' = x :: sentIn s) ∧
      ∀ x ∈ messages, x.kind.isReport = true → x ∈ sentIn s' := by
  -- Nothing but reports counts.
  have hnone : ∀ {x : Message}, x.kind = .response ∨ x.kind = .ack → x.kind.isReport ≠ true := by
    intro x hkind
    rcases hkind with hkind | hkind
    · rw [hkind]
      exact nofun
    · rw [hkind]
      exact nofun
  cases h with
  | rests => exact ⟨.inl rfl, fun x hx => absurd hx List.not_mem_nil⟩
  | declines kind mission =>
      refine ⟨.inl rfl, fun x hx hreport => absurd hreport (hnone (.inl ?_))⟩
      exact List.mem_singleton.1 hx ▸ kind
  | opens fresh free kind =>
      refine ⟨.inl fresh.sent, fun x hx hreport => absurd hreport (hnone (.inl ?_))⟩
      exact List.mem_singleton.1 hx ▸ kind
  | answers reports busy kinds =>
      refine ⟨.inl (congrArg ReportQueue.sent reports), fun x hx hreport => ?_⟩
      exact absurd hreport (hnone ((kinds x hx).imp_right And.left))
  | starts reports busy kind arrived =>
      refine ⟨.inl (congrArg ReportQueue.sent reports), fun x hx hreport => ?_⟩
      exact absurd hreport (hnone (.inr (List.mem_singleton.1 hx ▸ kind)))
  | drives sent busy busy' => exact ⟨.inl sent, fun x hx => absurd hx List.not_mem_nil⟩
  | reports busy busy' sends abandoned =>
      refine ⟨?_, fun x hx _ => sends.known x hx⟩
      rcases sends.sent with hsame | ⟨x, -, hmore⟩
      · exact .inl hsame
      · exact .inr ⟨x, hmore⟩
  | closes known abandoned reason confirmed =>
      exact absurd (List.mem_append_right _ (List.mem_singleton_self _)) (hopen _ _)

namespace Conversation

/-- The receipts of reports with a number, in order. -/
def receiptsOf (c : Conversation) (seq : Int) : List Receipt := c.receipts.filter (Receipt.isOf seq)

/-- The events that came from reports with a number. -/
def newsOf (c : Conversation) (seq : Int) : List SessionEvent :=
  (c.receiptsOf seq).flatMap (fun b => newsIn b.events)

/-- The numbers of the reports that became events, in order. -/
def processed (c : Conversation) : List Int := c.receipts.flatMap Receipt.numbers

/-- No session of the agent has closed. -/
def InFirstSession (c : Conversation) : Prop :=
  ∀ mission reason, .sessionClosed mission reason ∉ c.agentEvents

/-- What the supervisor has acknowledged and remembered. -/
structure Booked (c : Conversation) : Prop where
  heard : ∀ b ∈ c.receipts, b.message ∈ c.toSupervisor
  recorded : ∀ b ∈ c.receipts, ∀ e ∈ b.events, e ∈ c.supervisorEvents
  late : ∀ b ∈ c.receipts, b.late = true → c.supervisor.isTerminal = true
  last : c.supervisor.log.last = 0 ∨
    ∃ x ∈ c.toSupervisor, x.kind.isReport = true ∧ x.seq = c.supervisor.log.last
  acked : ∀ x ∈ c.toAgent, x.kind = .ack → c.receiptsOf x.seq ≠ []
  farewell : ∀ seq, c.supervisor.farewell? = some seq → c.receiptsOf seq ≠ []
  launched : ∀ x ∈ c.toAgent, x.kind = .mission → c.supervisor.phase.Underway
  started : ∀ p, .missionStarted p ∈ c.agentEvents → c.supervisor.phase.Underway
  increasing : c.processed.Pairwise (· < ·)
  bounded : ∀ seq ∈ c.processed, seq ≤ c.supervisor.log.last

section Books

variable {m : Mission} {frags : List (List Field)} {rover : Int} {c : Conversation}

theorem Booked.start {s : Supervisor} {a : Agent} (hphase : s.phase = .idle)
    (hlog : s.log = .empty) : (start s a).Booked where
  heard := fun _ hb => absurd hb List.not_mem_nil
  recorded := fun _ hb => absurd hb List.not_mem_nil
  late := fun _ hb => absurd hb List.not_mem_nil
  last := .inl (congrArg ReportLog.last hlog)
  acked := fun _ hx => absurd hx List.not_mem_nil
  -- A session that is idle has no farewell to say.
  farewell := by
    intro seq hseq
    simp only [Conversation.start, Supervisor.farewell?, hphase] at hseq
    cases hseq
  launched := fun _ hx => absurd hx List.not_mem_nil
  started := fun _ hp => absurd hp List.not_mem_nil
  increasing := List.Pairwise.nil
  bounded := fun _ hseq => absurd hseq List.not_mem_nil

/-- The receipts that a reaction of the supervisor enters into the books: what
    caused it has one, and what they tell is new and remembered. -/
structure Enters (c : Conversation) (cause : Option Message) (r : SupervisorReaction)
    (more : List Receipt) : Prop where
  caused : ∀ x, cause = some x → x.kind.isReport = true → ∃ b ∈ more, b.isOf x.seq = true
  heard : ∀ b ∈ more,
    b.message ∈ c.toSupervisor ∧ b.events = r.events ∧ b.late = c.supervisor.isTerminal
  last : r.state.log.last = c.supervisor.log.last ∨
    ∃ x ∈ c.toSupervisor, x.kind.isReport = true ∧ x.seq = r.state.log.last
  le : c.supervisor.log.last ≤ r.state.log.last
  increasing : (more.flatMap Receipt.numbers).Pairwise (· < ·)
  new : ∀ seq ∈ more.flatMap Receipt.numbers,
    c.supervisor.log.last < seq ∧ seq ≤ r.state.log.last

/-- A reaction without a cause enters nothing. -/
theorem enters_nil {r : SupervisorReaction} (hlog : r.state.log = c.supervisor.log) :
    c.Enters none r [] where
  caused := fun _ hx => absurd hx nofun
  heard := fun _ hb => absurd hb List.not_mem_nil
  last := .inl (congrArg ReportLog.last hlog)
  le := Int.le_of_eq (congrArg ReportLog.last hlog).symm
  increasing := List.Pairwise.nil
  new := fun _ hseq => absurd hseq List.not_mem_nil

section Enters

variable {cause : Option Message} {r : SupervisorReaction} {more : List Receipt}

/-- A number has a receipt afterwards if it is that of the cause, or had one. -/
theorem Enters.receiptsOf_ne_nil (h : c.Enters cause r more) {seq : Int}
    (hseq : (∃ x, cause = some x ∧ x.kind.isReport = true ∧ x.seq = seq) ∨
      c.receiptsOf seq ≠ []) : (c.receipts ++ more).filter (Receipt.isOf seq) ≠ [] := by
  rw [List.filter_append]
  rcases hseq with ⟨x, hx, hreport, rfl⟩ | hold
  · rcases h.caused x hx hreport with ⟨b, hb, hof⟩
    exact List.append_ne_nil_of_right_ne_nil _ (List.ne_nil_of_mem (List.mem_filter.2 ⟨hb, hof⟩))
  · exact List.append_ne_nil_of_left_ne_nil hold _

/-- Every number that is acknowledged has a receipt, also if the supervisor only
    repeats its farewell. -/
theorem Booked.acked_reacts (h : c.Booked) (henters : c.Enters cause r more)
    (hanswers : c.supervisor.Answers cause r) {x : Message} (hx : x ∈ c.toAgent ++ r.messages)
    (hkind : x.kind = .ack) : (c.receipts ++ more).filter (Receipt.isOf x.seq) ≠ [] := by
  refine henters.receiptsOf_ne_nil ?_
  rcases List.mem_append.1 hx with hx | hx
  · exact .inr (h.acked x hx hkind)
  · exact (hanswers.acked x hx hkind).imp_right (h.farewell _)

/-- What is told now is above what is remembered, and that is above all that was
    told. -/
theorem Booked.processed_reacts (h : c.Booked) (henters : c.Enters cause r more) :
    let told := (c.receipts ++ more).flatMap Receipt.numbers
    told.Pairwise (· < ·) ∧ ∀ seq ∈ told, seq ≤ r.state.log.last := by
  rw [List.flatMap_append]
  constructor
  · refine List.pairwise_append.2 ⟨h.increasing, henters.increasing, fun a ha b hb => ?_⟩
    exact Int.lt_of_le_of_lt (h.bounded a ha) (henters.new b hb).1
  · intro seq hseq
    rcases List.mem_append.1 hseq with hseq | hseq
    · exact Int.le_trans (h.bounded seq hseq) henters.le
    · exact (henters.new seq hseq).2

/-- A reaction of the supervisor keeps its books. -/
theorem Booked.reacts (h : c.Booked) (henters : c.Enters cause r more)
    (hanswers : c.supervisor.Answers cause r) (hconcludes : c.supervisor.Concludes r) :
    { c.supervisorReacts r with receipts := c.receipts ++ more }.Booked where
  heard := by
    intro b hb
    rcases List.mem_append.1 hb with hb | hb
    · exact h.heard b hb
    · exact (henters.heard b hb).1
  recorded := by
    intro b hb e he
    rcases List.mem_append.1 hb with hb | hb
    · exact List.mem_append_left _ (h.recorded b hb e he)
    · exact List.mem_append_right _ ((henters.heard b hb).2.1 ▸ he)
  -- What was late before, or is now, finds the session ended, and it stays so.
  late := by
    intro b hb hlate
    refine hconcludes.isTerminal ?_
    rcases List.mem_append.1 hb with hb | hb
    · exact h.late b hb hlate
    · exact (henters.heard b hb).2.2 ▸ hlate
  last := by
    rcases henters.last with hsame | hreport
    · rcases h.last with hzero | ⟨x, hx, hreport, hseq⟩
      · exact .inl (hsame.trans hzero)
      · exact .inr ⟨x, hx, hreport, hseq.trans hsame.symm⟩
    · exact .inr hreport
  acked := fun _ hx hkind => h.acked_reacts henters hanswers hx hkind
  farewell := fun seq hseq =>
    henters.receiptsOf_ne_nil ((hanswers.farewell seq hseq).imp_right (h.farewell seq))
  launched := by
    intro x hx hkind
    rcases List.mem_append.1 hx with hx | hx
    · exact hanswers.underway (h.launched x hx hkind)
    · exact hanswers.launched x hx hkind
  started := fun p hp => hanswers.underway (h.started p hp)
  increasing := (h.processed_reacts henters).1
  bounded := (h.processed_reacts henters).2

/-- A reaction that no message has caused leaves no receipt. -/
theorem Booked.supervisorReacts (h : c.Booked) (hanswers : c.supervisor.Answers none r)
    (hconcludes : c.supervisor.Concludes r) (hlog : r.state.log = c.supervisor.log) :
    (c.supervisorReacts r).Booked := by
  have hreacts := h.reacts (enters_nil hlog) hanswers hconcludes
  rw [List.append_nil] at hreacts
  exact hreacts

end Enters

/-- A turn of the agent does not touch the books. -/
theorem Booked.agentReacts (h : c.Booked) {cause : Option Message} {r : AgentReaction}
    (hr : c.agent.Follows m frags cause r) (hcause : ∀ x, cause = some x → x ∈ c.toAgent) :
    (c.agentReacts r).Booked where
  heard := fun b hb => List.mem_append_left _ (h.heard b hb)
  recorded := h.recorded
  late := h.late
  last := by
    rcases h.last with hzero | ⟨x, hx, hreport, hseq⟩
    · exact .inl hzero
    · exact .inr ⟨x, List.mem_append_left _ hx, hreport, hseq⟩
  acked := h.acked
  farewell := h.farewell
  launched := h.launched
  started := by
    intro p hp
    rcases List.mem_append.1 hp with hp | hp
    · exact h.started p hp
    · -- A mission that starts has arrived, so the supervisor has launched it.
      rcases (hr.turn.of_started hp).2 with ⟨y, hy, hkind⟩
      exact h.launched y (hcause y hy) hkind
  increasing := h.increasing
  bounded := h.bounded

/-- A message leaves the highest number as it is and tells nothing, or it is a
    report with a new highest number and told once at most. -/
theorem numbers_receipt (c : Conversation) (x : Message) (now : Nat) :
    let last := (c.supervisor.receive x now).state.log.last
    (last = c.supervisor.log.last ∧ (c.receipt x now).numbers = []) ∨
      x.kind.isReport = true ∧ c.supervisor.log.last < x.seq ∧ last = x.seq ∧
        ((c.receipt x now).numbers = [] ∨ (c.receipt x now).numbers = [x.seq]) := by
  have hreceives := c.supervisor.receives x now
  by_cases hreport : x.kind.isReport = true
  · have hnumbers : (c.receipt x now).numbers =
        (newsIn (c.supervisor.receive x now).events).map (fun _ => x.seq) := if_pos hreport
    rw [hnumbers]
    cases hreceives.logs hreport with
    | idle news last cause =>
        rw [news]
        exact .inl ⟨last, rfl⟩
    | told going new news tells last =>
        rw [news]
        exact .inr ⟨hreport, new, last, .inr rfl⟩
    | counted going new news last malformed =>
        rw [news]
        exact .inr ⟨hreport, new, last, .inl rfl⟩
  · have hlog := hreceives.log_eq (eq_false_of_ne_true hreport)
    exact .inl ⟨congrArg ReportLog.last hlog, if_neg hreport⟩

/-- The highest number never falls. -/
theorem last_le_receive (c : Conversation) (x : Message) (now : Nat) :
    c.supervisor.log.last ≤ (c.supervisor.receive x now).state.log.last := by
  rcases numbers_receipt c x now with ⟨hsame, -⟩ | ⟨-, hnew, hlast, -⟩
  · exact Int.le_of_eq hsame.symm
  · exact hlast ▸ Int.le_of_lt hnew

/-- A message enters its receipt. -/
theorem enters_receipt {x : Message} (hx : x ∈ c.toSupervisor) (now : Nat) :
    c.Enters (some x) (c.supervisor.receive x now) [c.receipt x now] := by
  have hnumbers := numbers_receipt c x now
  constructor
  case caused =>
    rintro y hy hreport
    cases hy
    exact ⟨_, List.mem_singleton_self _, Receipt.isOf_iff.2 ⟨hreport, rfl⟩⟩
  case heard =>
    intro b hb
    cases List.mem_singleton.1 hb
    exact ⟨hx, rfl, rfl⟩
  -- The highest number is the one before or that of the report.
  case last =>
    rcases hnumbers with ⟨hsame, -⟩ | ⟨hreport, -, hlast, -⟩
    · exact .inl hsame
    · exact .inr ⟨x, hx, hreport, hlast.symm⟩
  case le => exact last_le_receive c x now
  case increasing =>
    rw [List.flatMap_singleton]
    rcases hnumbers with ⟨-, hnone⟩ | ⟨-, -, -, hnone | hone⟩
    · exact hnone ▸ List.Pairwise.nil
    · exact hnone ▸ List.Pairwise.nil
    · exact hone ▸ List.pairwise_singleton _ _
  case new =>
    rw [List.flatMap_singleton]
    intro seq hseq
    rcases hnumbers with ⟨-, hnone⟩ | ⟨-, hnew, hlast, hnone | hone⟩
    · exact absurd (hnone ▸ hseq) List.not_mem_nil
    · exact absurd (hnone ▸ hseq) List.not_mem_nil
    · rw [List.mem_singleton.1 (hone ▸ hseq : seq ∈ [x.seq])]
      exact ⟨hnew, Int.le_of_eq hlast.symm⟩

/-- A message to the supervisor is entered into the books. -/
theorem Booked.deliver (h : c.Booked) (hsound : c.Sound m frags rover) {x : Message}
    (hx : x ∈ c.toSupervisor) (now : Nat) : (c.deliver x now).Booked := by
  have hreceives := c.supervisor.receives x now
  have hanswers := hreceives.answers (fun y hy => (hsound.transfer y hy).1)
  exact h.reacts (enters_receipt hx now) hanswers hreceives.outcome

/-- What has become of a report. -/
inductive Fate (c : Conversation) (x : Message) : Prop where
  /-- It has not been received, and will be news if the session goes on. -/
  | unheard (none : c.receiptsOf x.seq = [])
      (new : c.supervisor.isTerminal = true ∨ c.supervisor.log.last < x.seq)
  /-- It was first received when the session had ended. -/
  | late {b : Receipt} (first : (c.receiptsOf x.seq).head? = some b) (late : b.late = true)
  /-- It was told once, and will not be told again. -/
  | told {e : SessionEvent} (news : c.newsOf x.seq = [e]) (tells : e.Tells x)
      (known : c.supervisor.isTerminal = true ∨ x.seq ≤ c.supervisor.log.last)

theorem receiptsOf_deliver (c : Conversation) (x : Message) (now : Nat) (seq : Int) :
    (c.deliver x now).receiptsOf seq =
      c.receiptsOf seq ++ if (c.receipt x now).isOf seq then [c.receipt x now] else [] := by
  rw [receiptsOf, deliver, List.filter_append, List.filter_singleton, Bool.cond_eq_ite]
  rfl

/-- A reaction that is not about a report leaves it with its fate. -/
theorem Fate.reacts {c' : Conversation} {x : Message} (h : c.Fate x)
    (hreceipts : c'.receiptsOf x.seq = c.receiptsOf x.seq)
    (hterminal : c.supervisor.isTerminal = true → c'.supervisor.isTerminal = true)
    (hle : c.supervisor.log.last ≤ c'.supervisor.log.last)
    (hlt : c.supervisor.log.last < x.seq → c'.supervisor.log.last < x.seq) : c'.Fate x := by
  cases h with
  | unheard none new => exact .unheard (hreceipts.trans none) (new.imp hterminal hlt)
  | late first late => exact .late (hreceipts ▸ first) late
  | told news tells known =>
      refine .told ?_ tells (known.imp hterminal (fun hknown => Int.le_trans hknown hle))
      rw [newsOf, hreceipts]
      exact news

/-- The report itself arrives: as news if it is new, and otherwise it tells
    nothing. -/
theorem Fate.arrives {x : Message} (h : c.Fate x) (hreport : x.kind.isReport = true)
    (hown : x.sender = c.supervisor.rover ∧ x.mission = c.supervisor.mission.id)
    (hformed : x.IsWellFormed) (hunderway : c.supervisor.phase.Underway) (now : Nat) :
    (c.deliver x now).Fate x := by
  have hlogs := (c.supervisor.receives x now).logs hreport
  have hof : (c.receipt x now).isOf x.seq = true := Receipt.isOf_iff.2 ⟨hreport, rfl⟩
  have hreceipts : (c.deliver x now).receiptsOf x.seq = c.receiptsOf x.seq ++ [c.receipt x now] := by
    rw [receiptsOf_deliver, if_pos hof]
  have hnews : (c.deliver x now).newsOf x.seq =
      c.newsOf x.seq ++ newsIn (c.supervisor.receive x now).events := by
    rw [newsOf, hreceipts, List.flatMap_append, List.flatMap_singleton]
    rfl
  cases h with
  | unheard none new =>
      by_cases hterminal : c.supervisor.isTerminal = true
      · -- It comes after the end, and this receipt is its first.
        refine .late (b := c.receipt x now) ?_ hterminal
        rw [hreceipts, none]
        rfl
      · -- The session goes on and the number is new, so nothing keeps it from being told.
        have hnew := new.resolve_left hterminal
        cases hlogs with
        | idle news last cause =>
            rcases cause with hforeign | hearly | hlate | hknown
            · exact absurd hown hforeign
            · exact absurd hunderway hearly
            · exact absurd hlate hterminal
            · omega
        | told going new' news tells last =>
            refine .told ?_ tells (.inr (Int.le_of_eq last.symm))
            rw [hnews, newsOf, none, news]
            rfl
        | counted going new' news last malformed => exact absurd hformed malformed
  | late first late =>
      -- The first receipt stays the first.
      refine .late ?_ late
      rw [hreceipts, List.head?_append, first]
      rfl
  | told news tells known =>
      -- Its number is remembered, so it is no news.
      have hquiet : newsIn (c.supervisor.receive x now).events = [] := by
        cases hlogs with
        | idle news' last cause => exact news'
        | told going new' news' tells' last =>
            rcases known with hterminal | hknown
            · exact absurd (going.symm.trans hterminal) nofun
            · omega
        | counted going new' news' last malformed => exact news'
      have hconcludes := (c.supervisor.receives x now).outcome
      refine .told ?_ tells (known.imp hconcludes.isTerminal (fun hknown => ?_))
      · rw [hnews, news, hquiet]
        rfl
      · exact Int.le_trans hknown (last_le_receive c x now)

/-- All reports are of the session that the agent is in, and the latest of them
    has a fate. -/
structure Reported (c : Conversation) : Prop where
  sent : ∀ x ∈ c.toSupervisor, x.kind.isReport = true → x ∈ c.agent.sent
  fate : ∀ latest, c.agent.sent.head? = some latest → c.Fate latest

/-- The latest report has the highest number, which is how many there are. -/
theorem seq_eq_length {sent : List Message} (h : Numbered sent) {latest : Message}
    (hhead : sent.head? = some latest) : latest.seq = sent.length := by
  cases h with
  | nil => cases hhead
  | cons seq rest =>
      cases hhead
      rw [seq, List.length_cons]
      rfl

/-- A message to the supervisor leaves the latest report with a fate. -/
theorem Reported.deliver (h : c.Reported) (hsound : c.Sound m frags rover) (hbooked : c.Booked)
    {x : Message} (hx : x ∈ c.toSupervisor) (now : Nat) : (c.deliver x now).Reported where
  sent := h.sent
  fate := by
    intro latest hhead
    have hfate := h.fate latest hhead
    have hnumbered := hsound.serves.numbered
    have hlatest : latest ∈ c.agent.sent := List.mem_of_head? hhead
    rcases hsound.serves.own hlatest with ⟨hown, hformed, t, hs, hbusy⟩
    by_cases hof : (c.receipt x now).isOf latest.seq = true
    · -- It is the latest report that arrives, since nothing else has its number.
      rcases Receipt.isOf_iff.1 hof with ⟨hreport, hseq⟩
      cases hnumbered.eq_of_seq (h.sent x hx hreport) hlatest hseq
      rw [hsound.id] at hown
      refine hfate.arrives hreport ?_ hformed (hbooked.started m (hsound.busy t hs hbusy)) now
      rw [hsound.rover, hsound.mission]
      exact hown
    · refine hfate.reacts ?_ (c.supervisor.receives x now).outcome.isTerminal
        (last_le_receive c x now) (fun hlt => ?_)
      · rw [receiptsOf_deliver, if_neg hof, List.append_nil]
      · rcases numbers_receipt c x now with ⟨hsame, -⟩ | ⟨hreport, -, hlast, -⟩
        · exact hsame ▸ hlt
        · -- An earlier report has a lower number.
          have hle := hnumbered.seq_le (h.sent x hx hreport)
          have hne : x.seq ≠ latest.seq := fun he => hof (Receipt.isOf_iff.2 ⟨hreport, he⟩)
          have hlength := seq_eq_length hnumbered hhead
          change (c.supervisor.receive x now).state.log.last < latest.seq
          omega

/-- A reaction that no message has caused changes no fate. -/
theorem Reported.supervisorReacts (h : c.Reported) {r : SupervisorReaction}
    (hconcludes : c.supervisor.Concludes r) (hlog : r.state.log = c.supervisor.log) :
    (c.supervisorReacts r).Reported where
  sent := h.sent
  fate := by
    intro latest hhead
    have hlast : r.state.log.last = c.supervisor.log.last := congrArg ReportLog.last hlog
    exact (h.fate latest hhead).reacts rfl hconcludes.isTerminal (Int.le_of_eq hlast.symm)
      (fun hlt => hlast.symm ▸ hlt)

/-- A turn of the agent leaves the latest report with a fate, if it closes no
    session. -/
theorem Reported.agentReacts (h : c.Reported) (hbooked : c.Booked) {cause : Option Message}
    {r : AgentReaction} (hr : c.agent.Follows m frags cause r)
    (hopen : ∀ mission reason, .sessionClosed mission reason ∉ r.events) :
    (c.agentReacts r).Reported := by
  rcases hr.turn.sent hopen with ⟨hsent, hreports⟩
  have hnumbered := hr.serves.numbered
  refine ⟨?_, ?_⟩
  · intro x hx hreport
    rcases List.mem_append.1 hx with hx | hx
    · have hold := h.sent x hx hreport
      change x ∈ sentIn r.state.session
      rcases hsent with hsame | ⟨y, hmore⟩
      · rw [hsame]
        exact hold
      · rw [hmore]
        exact List.mem_cons_of_mem y hold
    · exact hreports x hx hreport
  · intro latest hhead
    change (sentIn r.state.session).head? = some latest at hhead
    rcases hsent with hsame | ⟨y, hmore⟩
    · rw [hsame] at hhead
      exact (h.fate latest hhead).reacts rfl (fun h => h) (Int.le_refl _) (fun h => h)
    · -- A new report has a number that nobody can have heard of.
      rw [hmore] at hhead
      cases hhead
      rw [Agent.sent, hmore] at hnumbered
      cases hnumbered with
      | cons seq rest =>
          have hlow : ∀ x ∈ c.toSupervisor, x.kind.isReport = true → x.seq < latest.seq := by
            intro x hx hreport
            have hle := rest.seq_le (h.sent x hx hreport)
            omega
          refine .unheard ?_ (.inr ?_)
          · -- What was received had been sent before.
            refine List.filter_eq_nil_iff.2 (fun b hb hof => ?_)
            rcases Receipt.isOf_iff.1 hof with ⟨hreport, hseq⟩
            exact absurd hseq (Int.ne_of_lt (hlow _ (hbooked.heard b hb) hreport))
          · rcases hbooked.last with hzero | ⟨x, hx, hreport, hseq⟩
            · change c.supervisor.log.last < latest.seq
              omega
            · exact hseq ▸ hlow x hx hreport

/-- What both ends have sent and kept adds up, the reports as long as the agent
    is in its first session. -/
structure Accounted (m : Mission) (frags : List (List Field)) (rover : Int) (c : Conversation) :
    Prop where
  sound : c.Sound m frags rover
  booked : c.Booked
  reported : c.InFirstSession → c.Reported

/-- A turn of the agent keeps the accounts. -/
theorem Accounted.agentReacts (h : c.Accounted m frags rover) {cause : Option Message}
    {r : AgentReaction} (hr : c.agent.Follows m frags cause r)
    (hcause : ∀ x, cause = some x → x ∈ c.toAgent) :
    (c.agentReacts r).Accounted m frags rover where
  sound := h.sound.agentReacts hr
  booked := h.booked.agentReacts hr hcause
  reported := by
    intro hfirst
    have hbefore : c.InFirstSession :=
      fun mission reason he => hfirst mission reason (List.mem_append_left _ he)
    exact (h.reported hbefore).agentReacts h.booked hr
      (fun mission reason he => hfirst mission reason (List.mem_append_right _ he))

theorem Accounted.rover_changes (h : c.Accounted m frags rover) {a : Agent}
    (hs : a.session = c.agent.session) (hid : a.id = c.agent.id) :
    { c with agent := a }.Accounted m frags rover where
  sound := h.sound.rover_changes hs hid
  booked := { h.booked with }
  reported := by
    intro hfirst
    have hreported := h.reported hfirst
    have hsent : a.sent = c.agent.sent := congrArg sentIn hs
    -- The accounts are about the session, which is the same.
    refine ⟨?_, ?_⟩
    · rw [hsent]
      exact hreported.sent
    · intro latest hhead
      exact (hreported.fate latest (hsent ▸ hhead)).reacts rfl (fun h => h) (Int.le_refl _)
        (fun h => h)

/-- A reaction of the supervisor that no message has caused keeps the
    accounts. -/
theorem Accounted.supervisorReacts (h : c.Accounted m frags rover) {r : SupervisorReaction}
    (hsound : (c.supervisorReacts r).Sound m frags rover)
    (hanswers : c.supervisor.Answers none r) (hconcludes : c.supervisor.Concludes r)
    (hlog : r.state.log = c.supervisor.log) : (c.supervisorReacts r).Accounted m frags rover where
  sound := hsound
  booked := h.booked.supervisorReacts hanswers hconcludes hlog
  reported := fun hfirst => (h.reported hfirst).supervisorReacts hconcludes hlog

/-- Every move keeps the accounts. -/
theorem Accounted.move (h : c.Accounted m frags rover) (hm : m.Fits)
    (hcut : frags ≠ [] → CutInto m.toFields frags.flatten) (step : Move) :
    (c.move step).Accounted m frags rover := by
  have hsound := h.sound.move hm hcut step
  have hkinds : ∀ x ∈ c.supervisor.transfer, x.kind = .mission :=
    fun x hx => (h.sound.transfer x hx).1
  cases step with
  -- What no message has caused leaves the books alone.
  | greet now =>
      have hgreets := c.supervisor.greets now
      exact h.supervisorReacts hsound hgreets.answers hgreets.outcome hgreets.log_eq
  | transmitted now =>
      have htransmits := c.supervisor.transmits now
      exact h.supervisorReacts hsound htransmits.answers htransmits.outcome htransmits.log_eq
  | pollSupervisor now =>
      have hpolls := c.supervisor.polls now
      exact h.supervisorReacts hsound (hpolls.answers hkinds) hpolls.outcome hpolls.log_eq
  | pollAgent now =>
      exact poll_induction (fun _ h => h.sound.serves)
        (fun _ _ h hs hid => h.rover_changes hs hid)
        (fun _ _ h hr => h.agentReacts hr (fun _ hx => absurd hx nofun)) h now
  | inject fault => exact h.rover_changes rfl rfl
  | clearFault => exact h.rover_changes rfl rfl
  | toAgent place now =>
      simp only [Conversation.move]
      split
      · exact h
      · rename_i x hx
        have hmem := List.mem_of_getElem? hx
        -- The agent reacts to something that was said to it.
        refine h.agentReacts
          (Agent.follows_receive h.sound.serves hm hcut (h.sound.directs x hmem) now) ?_
        rintro y hy
        cases hy
        exact hmem
  | toSupervisor place now =>
      simp only [Conversation.move]
      split
      · exact h
      · rename_i x hx
        have hmem := List.mem_of_getElem? hx
        exact {
          sound := h.sound.deliver hmem now
          booked := h.booked.deliver h.sound hmem now
          reported := fun hfirst => (h.reported hfirst).deliver h.sound h.booked hmem now }

theorem Accounted.run (h : c.Accounted m frags rover) (hm : m.Fits)
    (hcut : frags ≠ [] → CutInto m.toFields frags.flatten) (moves : List Move) :
    (c.run moves).Accounted m frags rover := by
  induction moves generalizing c with
  | nil => exact h
  | cons step moves ih => exact ih (h.move hm hcut step)

/-- What is in flight is a proper report with its number and the latest of its
    session, and if it ends the mission no other report of the session does. -/
theorem flight_of_serves (h : c.agent.Serves m frags) {t : AgentSession}
    (hs : c.agent.session = some t) {f : InFlight} (hf : t.reports.inFlight = some f) :
    f.message.seq = f.seq ∧ f.message.IsWellFormed ∧ c.agent.sent.head? = some f.message ∧
      t.isBusy = true ∧
      (f.terminal = true → (∃ o, f.message.outcome? = some o) ∧
        ∀ x ∈ c.agent.sent, x.kind.isTerminal = true → x = f.message) := by
  have ht := h.session hs
  have hsent : c.agent.sent = t.reports.sent := congrArg sentIn hs
  rcases ht.orderly.flight f hf with ⟨hseq, hterminal, hhead⟩
  rw [← hsent] at hhead
  have hmem := List.mem_of_head? hhead
  rcases h.own hmem with ⟨-, hformed, t', hs', hbusy⟩
  cases hs.symm.trans hs'
  refine ⟨hseq.symm, hformed, hhead, hbusy, fun hend => ?_⟩
  rw [hterminal] at hend
  refine ⟨?_, ?_⟩
  · rcases hformed with ⟨hkind, -⟩ | houtcome
    · rw [hkind] at hend
      cases hend
    · exact houtcome
  · -- A session with a terminal report in flight has nothing else to do.
    have hstage := ht.stage
    rw [hsent] at hhead hmem ⊢
    cases hr : t.stage with
    | receiving r =>
        rw [hr] at hstage
        have hnone := hstage.2.inFlight
        rw [hf] at hnone
        cases hnone
    | executing e =>
        rw [hr] at hstage
        have hfalse := (ReportQueue.open_iff.1 hstage).2 _ hmem
        rw [hend] at hfalse
        cases hfalse
    | reporting =>
        rw [hr] at hstage
        exact fun x hx hx' => ReportQueue.Closing.eq_head hstage hhead hend hx hx'

/-- Whatever acknowledgement confirms the report in flight, the report has been
    received, and it was told once or came after the end. -/
theorem Accounted.confirmed (h : c.Accounted m frags rover) (hfirst : c.InFirstSession)
    {x : Message} (hx : x ∈ c.toAgent) (hkind : x.kind = .ack) {t : AgentSession}
    (hs : c.agent.session = some t) {f : InFlight} (hf : t.reports.inFlight = some f)
    (hseq : f.seq = x.seq) :
    ∃ b, (c.receiptsOf f.seq).head? = some b ∧ b.message = f.message ∧
      (b.late = true ∨ ∃ e, c.newsOf f.seq = [e] ∧ e.Tells f.message) := by
  have hreported := h.reported hfirst
  rcases flight_of_serves h.sound.serves hs hf with ⟨hnumber, -, hhead, -, -⟩
  -- An acknowledgement with this number is there, so a report with it was received.
  have hne : c.receiptsOf f.seq ≠ [] := hseq ▸ h.booked.acked x hx hkind
  rcases List.exists_cons_of_ne_nil hne with ⟨b, rest, hreceipts⟩
  have hb : b ∈ c.receiptsOf f.seq := hreceipts ▸ List.mem_cons_self ..
  rcases List.mem_filter.1 hb with ⟨hmem, hof⟩
  rcases Receipt.isOf_iff.1 hof with ⟨hreport, hbseq⟩
  refine ⟨b, by rw [hreceipts, List.head?_cons], ?_, ?_⟩
  · -- In one session a number belongs to one report.
    exact h.sound.serves.numbered.eq_of_seq
      (hreported.sent _ (h.booked.heard b hmem) hreport) (List.mem_of_head? hhead)
      (hbseq.trans hnumber.symm)
  · have hfate := hreported.fate _ hhead
    cases hfate with
    | unheard none new => exact absurd (hnumber ▸ none) hne
    | late first late =>
        rw [hnumber, hreceipts, List.head?_cons] at first
        cases first
        exact .inl late
    | told news tells known => exact .inr ⟨_, hnumber ▸ news, tells⟩

/-- A session that has begun its transfer and ended has ended as a report says
    or by a timeout. -/
theorem Accounted.outcome (h : c.Accounted m frags rover) (hunderway : c.supervisor.phase.Underway)
    {o : SessionOutcome} (ho : c.supervisor.outcome? = some o) :
    (∃ x ∈ c.toSupervisor, x.outcome? = some o) ∨ o = .failed .transferUnconfirmed ∨
      o = .failed .silent := by
  rcases (h.sound.ended o).1 ho with ⟨e, he, houtcome⟩
  rcases h.sound.told e he with hlocal | ⟨x, hx, -, htells⟩
  · cases hlocal with
    | accepted => cases houtcome
    | @failed reason hreason afterProgress =>
        cases houtcome
        rw [Supervisor.outcome?] at ho
        cases hphase : c.supervisor.phase with
        | ended outcome farewell =>
            rw [hphase] at ho hunderway
            cases ho
            -- The first two reasons belong to the time before the transfer.
            cases reason with
            | unresponsive => exact hunderway.elim
            | declined => exact hunderway.elim
            | transferUnconfirmed => exact .inr (.inl rfl)
            | silent => exact .inr (.inr rfl)
            | missionError e => cases hreason
        | _ =>
            rw [hphase] at ho
            cases ho
  · exact .inl ⟨x, hx, htells.outcome?.symm.trans houtcome⟩

/-- When the terminal report in flight is confirmed, the session of the
    supervisor has ended as the report says or by a timeout. -/
theorem Accounted.confirmed_terminal (h : c.Accounted m frags rover) (hfirst : c.InFirstSession)
    {x : Message} (hx : x ∈ c.toAgent) (hkind : x.kind = .ack) {t : AgentSession}
    (hs : c.agent.session = some t) {f : InFlight} (hf : t.reports.inFlight = some f)
    (hseq : f.seq = x.seq) (hterminal : f.terminal = true) :
    ∃ o, c.supervisor.outcome? = some o ∧
      (f.message.outcome? = some o ∨ o = .failed .transferUnconfirmed ∨ o = .failed .silent) := by
  rcases flight_of_serves h.sound.serves hs hf with ⟨-, -, -, hbusy, hend⟩
  rcases hend hterminal with ⟨⟨o, ho⟩, honly⟩
  rcases h.confirmed hfirst hx hkind hs hf hseq with ⟨b, hhead, -, hlate | ⟨e, hnews, htells⟩⟩
  · -- It came too late, so the session had ended, for whatever reason.
    have hunderway := h.booked.started m (h.sound.busy t hs hbusy)
    have hb := (List.mem_filter.1 (List.mem_of_head? hhead)).1
    rcases Option.isSome_iff_exists.1 (h.booked.late b hb hlate) with ⟨o', ho'⟩
    refine ⟨o', ho', ?_⟩
    rcases h.outcome hunderway ho' with ⟨y, hy, houtcome⟩ | htimeout
    · -- Only one report of the session ends it.
      rcases Message.kind_of_outcome? houtcome with ⟨hreport, hkind'⟩
      cases honly y ((h.reported hfirst).sent y hy hreport) hkind'
      exact .inl houtcome
    · exact .inr htimeout
  · -- It was told, and its event ended the session.
    have he : e ∈ c.newsOf f.seq := hnews ▸ List.mem_singleton_self e
    rcases List.mem_flatMap.1 he with ⟨b', hb', he'⟩
    have hrecorded := h.booked.recorded b' (List.mem_filter.1 hb').1 e (List.mem_filter.1 he').1
    exact ⟨o, (h.sound.ended o).2 ⟨e, hrecorded, htells.outcome?.trans ho⟩, .inl ho⟩

/-- Nothing has been accounted for at the start. -/
theorem Accounted.start {timing agentTiming : Timing} {body : Rover} {s : Supervisor}
    (hs : Supervisor.prepare timing rover m = .ok s) :
    ∃ frags, (frags ≠ [] → CutInto m.toFields frags.flatten) ∧
      (start s (.start rover agentTiming body)).Accounted m frags rover := by
  rcases sound_start hs with ⟨frags, hcut, hsound⟩
  refine ⟨frags, hcut, hsound, ?_, fun _ => ⟨?_, ?_⟩⟩
  · rcases Supervisor.of_prepare hs with ⟨transfer, -, rfl⟩
    exact .start rfl rfl
  · exact fun _ hx => absurd hx List.not_mem_nil
  · exact fun _ hhead => absurd hhead nofun

/-- A session of the agent closes as confirmed only in answer to an
    acknowledgement of its terminal report. -/
theorem Accounted.of_closed (h : c.Accounted m frags rover) (hm : m.Fits)
    (hcut : frags ≠ [] → CutInto m.toFields frags.flatten) (hfirst : c.InFirstSession)
    {step : Move} {mission : Int} (he : .sessionClosed mission .confirmed ∈ (c.move step).agentEvents) :
    (c.move step).supervisor = c.supervisor ∧ ∃ x ∈ c.toAgent, ∃ t f, x.kind = .ack ∧
      c.agent.session = some t ∧ t.reports.inFlight = some f ∧ f.seq = x.seq ∧ f.terminal = true := by
  have hnone : .sessionClosed mission .confirmed ∉ c.agentEvents := hfirst mission .confirmed
  cases step with
  | pollAgent now =>
      let Quiet : Conversation → Prop := fun c =>
        c.Sound m frags rover ∧ .sessionClosed mission .confirmed ∉ c.agentEvents
      have hpoll : Quiet (c.agentReacts (c.agent.poll now)) := by
        refine poll_induction (fun _ h => h.1.serves)
          (fun _ _ h hs hid => ⟨h.1.rover_changes hs hid, h.2⟩)
          (fun c r h hr => ⟨h.1.agentReacts hr, fun he => ?_⟩) ⟨h.sound, hnone⟩ now
        -- No turn of a poll is caused by a message.
        rcases List.mem_append.1 he with he | he
        · exact h.2 he
        · rcases hr.turn.of_confirmed he with ⟨t, y, f, -, hy, -⟩
          cases hy
      exact absurd he hpoll.2
  | toAgent place now =>
      simp only [Conversation.move] at he ⊢
      split at he
      · exact absurd he hnone
      · rename_i x hx
        have hmem := List.mem_of_getElem? hx
        have hfollows :=
          Agent.follows_receive h.sound.serves hm hcut (h.sound.directs x hmem) now
        rcases List.mem_append.1 he with he | he
        · exact absurd he hnone
        · rcases hfollows.turn.of_confirmed he with ⟨t, y, f, hs, hy, hkind, hf, hseq, hterminal⟩
          cases hy
          exact ⟨rfl, x, hmem, t, f, hkind, hs, hf, hseq, hterminal⟩
  | toSupervisor place now =>
      simp only [Conversation.move] at he
      split at he
      · exact absurd he hnone
      · exact absurd he hnone
  | _ => exact absurd he hnone

end Books

/-- Reports are told exactly once. After any moves the numbers of the reports
    that became events increase, so none was told twice. In the agent's first
    session, an acknowledgement that confirms the report in flight shows that
    the supervisor has received this report, and either told it once, with its
    own payload, or first received it after the end; and if the session then
    closes as confirmed, the supervisor has ended as the terminal report says,
    or because the transfer was not confirmed in time, or because the rover was
    silent for too long. -/
theorem reporting_exactly_once {timing agentTiming : Timing} {rover : Int} {body : Rover}
    {m : Mission} {s : Supervisor} (hm : m.Fits)
    (hs : Supervisor.prepare timing rover m = .ok s) (moves : List Move) :
    let c := (start s (.start rover agentTiming body)).run moves
    c.processed.Pairwise (· < ·) ∧
    (c.InFirstSession →
      (∀ x ∈ c.toAgent, x.kind = .ack → ∀ t confirmation, c.agent.session = some t →
        t.reports.confirm? x.seq (Agent.ackIn x) = some confirmation →
        ∃ f b, t.reports.inFlight = some f ∧ f.seq = x.seq ∧
          (c.receiptsOf f.seq).head? = some b ∧ b.message = f.message ∧
          (b.late = true ∨ ∃ e, c.newsOf f.seq = [e] ∧ e.Tells f.message)) ∧
      (∀ step mission, .sessionClosed mission .confirmed ∈ (c.move step).agentEvents →
        ∃ t f o, c.agent.session = some t ∧ t.reports.inFlight = some f ∧ f.terminal = true ∧
          (c.move step).supervisor.outcome? = some o ∧
          (f.message.outcome? = some o ∨ o = .failed .transferUnconfirmed ∨
            o = .failed .silent))) := by
  intro c
  rcases Accounted.start hs with ⟨frags, hcut, hstart⟩
  have h : c.Accounted m frags rover := hstart.run hm hcut moves
  refine ⟨h.booked.increasing, fun hfirst => ⟨?_, ?_⟩⟩
  · -- An acknowledgement confirms what is in flight, and the latest report has a fate.
    intro x hx hkind t confirmation hsession hconfirm
    rcases ReportQueue.confirm?_eq_some hconfirm with ⟨f, hf, hseq, -⟩
    rcases h.confirmed hfirst hx hkind hsession hf hseq with ⟨b, hhead, hmessage, hfate⟩
    exact ⟨f, b, hf, hseq, hhead, hmessage, hfate⟩
  · -- The closing step is such a confirmation, of a report that ends the mission.
    intro step mission he
    rcases h.of_closed hm hcut hfirst he with
      ⟨hsame, x, hx, t, f, hkind, hsession, hf, hseq, hterminal⟩
    rcases h.confirmed_terminal hfirst hx hkind hsession hf hseq hterminal with ⟨o, ho, hcause⟩
    exact ⟨t, f, o, hsession, hf, hterminal, hsame ▸ ho, hcause⟩

/-- An obstacle ends a mission; the acknowledgement of the error report closes
    the session. The area has no end, so the first step is one without a root. -/
theorem reporting_exactly_once_obstacle :
    let m : Mission := ⟨1, ⟨0x7f800000⟩, .zero, ⟨0x7f800000⟩, .zero, "scan", 60, 2, 0, 1⟩
    let moves : List Move := [.greet 0, .toAgent 0 1, .toSupervisor 0 2, .toAgent 1 3,
      .toSupervisor 1 4, .inject .obstacle, .pollAgent 2000, .toSupervisor 2 2001]
    ∃ s, Supervisor.prepare {} 7 m = .ok s ∧
      let c := (start s (.start 7 {} (.start {} .zero .zero .hundred none))).run moves
      c.agentEvents = [.missionStarted m] ∧
      .sessionClosed 1 .confirmed ∈ (c.move (.toAgent 2 2002)).agentEvents ∧
      ∃ t f o, c.agent.session = some t ∧ t.reports.inFlight = some f ∧ f.terminal = true ∧
        (c.move (.toAgent 2 2002)).supervisor.outcome? = some o ∧
        (f.message.outcome? = some o ∨ o = .failed .transferUnconfirmed ∨ o = .failed .silent) := by
  intro m moves
  have hrun : ∃ s, Supervisor.prepare {} 7 m = .ok s ∧
      ((start s (.start 7 {} (.start {} .zero .zero .hundred none))).run moves).agentEvents =
        [.missionStarted m] ∧
      .sessionClosed 1 .confirmed ∈ (((start s (.start 7 {}
        (.start {} .zero .zero .hundred none))).run moves).move (.toAgent 2 2002)).agentEvents :=
    Supervisor.exists_prepare_of_check (by decide +kernel)
  rcases hrun with ⟨s, hs, hevents, hclosed⟩
  refine ⟨s, hs, hevents, hclosed, ?_⟩
  refine ((reporting_exactly_once (by decide) hs moves).2 ?_).2 _ 1 hclosed
  intro mission reason he
  rw [hevents] at he
  cases List.mem_singleton.1 he

end Conversation

end RoverDispatch
