import RoverDispatch.Session.Reports

/-!
# Stop and Wait

What holds of a report queue whatever is put into it, acknowledged and polled.

The reports that were sent are numbered from one without gaps, so a number
belongs to one report only, and the one in flight is the latest of them. That
is `ReportQueue.Orderly`. Polling is the only operation with several outcomes,
and `ReportQueue.Polls` lists them once; sending happens in one of them.

Which reports end the mission is read off a queue as a row of truth values,
`ReportQueue.stream`: the waiting reports and then the sent ones, the latest
first. Sending moves the boundary between the two and leaves the row as it is.
As long as the mission goes on the row is false throughout; its last report
puts a true value in front, and nothing comes after that.

## Main definitions

* `Numbered`: Messages numbered from one, the latest first.
* `ReportQueue.Orderly`: What was sent is numbered and the latest is in flight.
* `ReportQueue.Polls`: What polling can lead to.
* `ReportQueue.sendLimit`: How often a report is sent at most.
* `ReportQueue.Sends`: A change of a queue that sends what it has.
* `ReportQueue.SameSent`: Two queues that differ in the waiting reports only.
* `ReportQueue.stream`: Which reports end the mission, the latest first.
* `ReportQueue.Open`, `ReportQueue.Closing`: None does; only the last does.

## Theorems

* `Numbered.eq_of_seq`: A number belongs to one message.
* `ReportQueue.polls`: Polling leads to one of the listed outcomes.
* `ReportQueue.confirm?_eq_some`: Only the report in flight is confirmed.
* `ReportQueue.sends_poll`, `ReportQueue.sends_confirm`: Polling and confirming
  send what the queue has.
* `ReportQueue.Open.enqueue_progress`, `ReportQueue.Open.enqueue_terminal`: One
  more report.
* `ReportQueue.Closing.eq_head`: Only the latest report ends the mission.
-/

namespace RoverDispatch

/-- Messages numbered from one without gaps, the latest first. -/
inductive Numbered : List Message → Prop where
  | nil : Numbered []
  | cons {m : Message} {sent : List Message} (seq : m.seq = sent.length + 1)
      (rest : Numbered sent) : Numbered (m :: sent)

namespace Numbered

theorem seq_le {sent : List Message} (h : Numbered sent) {m : Message} (hm : m ∈ sent) :
    m.seq ≤ sent.length := by
  induction h with
  | nil => cases hm
  | cons seq rest ih =>
      rw [List.length_cons]
      rcases List.mem_cons.1 hm with rfl | hm
      · omega
      · have := ih hm
        omega

/-- A number belongs to one message. -/
theorem eq_of_seq {sent : List Message} (h : Numbered sent) {m m' : Message} (hm : m ∈ sent)
    (hm' : m' ∈ sent) (he : m.seq = m'.seq) : m = m' := by
  induction h with
  | nil => cases hm
  | cons seq rest ih =>
      -- The latest number is greater than all before it.
      rcases List.mem_cons.1 hm with rfl | hrest
      · rcases List.mem_cons.1 hm' with rfl | hrest'
        · rfl
        · have := rest.seq_le hrest'
          omega
      · rcases List.mem_cons.1 hm' with rfl | hrest'
        · have := rest.seq_le hrest
          omega
        · exact ih hrest hrest'

end Numbered

theorem Report.isTerminal_kind (r : Report) : r.kind.isTerminal = r.isTerminal := by
  cases r <;> rfl

theorem Report.isReport_kind (r : Report) : r.kind.isReport := by
  cases r <;> rfl

namespace ReportQueue

/-- What was sent is numbered, was made from reports, and the latest of it is
    what is in flight. -/
structure Orderly (q : ReportQueue) : Prop where
  numbered : Numbered q.sent
  next : q.nextSeq = q.sent.length + 1
  reports : ∀ m ∈ q.sent, ∃ report, m = q.message m.seq report
  flight : ∀ f, q.inFlight = some f →
    f.seq = f.message.seq ∧ f.terminal = f.message.kind.isTerminal ∧
      q.sent.head? = some f.message

theorem Orderly.start (agent coordinator mission : Int) (t : Timing) :
    (start agent coordinator mission t).Orderly where
  numbered := .nil
  next := rfl
  reports := fun _ hm => absurd hm List.not_mem_nil
  flight := by
    intro f hf
    cases hf

/-- The queue after the first of the waiting reports was sent. -/
def sending (q : ReportQueue) (report : Report) (waiting : List Report) (now : Nat) :
    ReportQueue :=
  { q with
    nextSeq := q.nextSeq + 1
    waiting
    inFlight := some {
      seq := q.nextSeq, message := q.message q.nextSeq report, attempts := 1, sentAt := now,
      terminal := report.isTerminal }
    sent := q.message q.nextSeq report :: q.sent }

/-- What polling can lead to. -/
inductive Polls (q : ReportQueue) (now : Nat) : Dispatched → Prop where
  /-- Nothing is there to be sent. -/
  | idle (flight : q.inFlight = none) (waiting : q.waiting = []) : Polls q now ⟨q, [], none⟩
  /-- The time of the report in flight has not come. -/
  | waits (f : InFlight) (flight : q.inFlight = some f) (early : now < after f.sentAt q.timeout) :
      Polls q now ⟨q, [], none⟩
  /-- The report in flight is sent once more. -/
  | repeats (f : InFlight) (flight : q.inFlight = some f) (due : after f.sentAt q.timeout ≤ now)
      (more : f.attempts < q.attemptLimit f.terminal) :
      Polls q now
        ⟨{ q with inFlight := some { f with attempts := f.attempts + 1, sentAt := now } },
          [f.message], none⟩
  /-- The report in flight is given up, and nothing takes its place. -/
  | givesUp (f : InFlight) (flight : q.inFlight = some f) (due : after f.sentAt q.timeout ≤ now)
      (spent : q.attemptLimit f.terminal ≤ f.attempts)
      (last : f.terminal = true ∨ q.waiting = []) :
      Polls q now ⟨{ q with inFlight := none }, [], some ⟨f.seq, f.terminal⟩⟩
  /-- The first waiting report is sent, nothing being in flight. -/
  | sends (report : Report) (waiting : List Report) (flight : q.inFlight = none)
      (first : q.waiting = report :: waiting) :
      Polls q now ⟨q.sending report waiting now, [q.message q.nextSeq report], none⟩
  /-- The report in flight is given up, and the first waiting one is sent. -/
  | replaces (f : InFlight) (report : Report) (waiting : List Report)
      (flight : q.inFlight = some f) (due : after f.sentAt q.timeout ≤ now)
      (spent : q.attemptLimit f.terminal ≤ f.attempts) (going : f.terminal = false)
      (first : q.waiting = report :: waiting) :
      Polls q now
        ⟨q.sending report waiting now, [q.message q.nextSeq report], some ⟨f.seq, f.terminal⟩⟩

/-- Polling leads to one of the listed outcomes. -/
theorem polls (q : ReportQueue) (now : Nat) : Polls q now (q.poll now) := by
  rw [poll]
  cases hf : q.inFlight with
  | none =>
      rw [sendNext]
      cases hw : q.waiting with
      | nil => exact .idle hf hw
      | cons report waiting => exact .sends report waiting hf hw
  | some f =>
      by_cases hearly : now < after f.sentAt q.timeout
      · simp only [hearly, if_true]
        exact .waits f hf hearly
      · have hdue := Nat.le_of_not_lt hearly
        by_cases hmore : f.attempts < q.attemptLimit f.terminal
        · simp only [hearly, hmore, if_true, if_false]
          exact .repeats f hf hdue hmore
        · have hspent := Nat.le_of_not_lt hmore
          simp only [hearly, hmore, if_false]
          -- Behind a terminal report nothing is sent, whatever waits.
          by_cases hterminal : f.terminal = true
          · rw [if_pos hterminal]
            exact .givesUp f hf hdue hspent (.inl hterminal)
          · rw [if_neg hterminal, sendNext]
            cases hw : q.waiting with
            | nil =>
                simp only [← hw]
                exact .givesUp f hf hdue hspent (.inr hw)
            | cons report waiting =>
                exact .replaces f report waiting hf hdue hspent (eq_false_of_ne_true hterminal) hw

/-- How often a report is sent at most. Attempts are counted after the first, so
    a report is sent once even when it is allowed none. -/
def sendLimit (q : ReportQueue) (terminal : Bool) : Nat := max 1 (q.attemptLimit terminal)

theorem sendLimit_pos (q : ReportQueue) (terminal : Bool) : 0 < q.sendLimit terminal :=
  Nat.le_max_left ..

theorem attemptLimit_le_sendLimit (q : ReportQueue) (terminal : Bool) :
    q.attemptLimit terminal ≤ q.sendLimit terminal :=
  Nat.le_max_right ..

/-- Only the report in flight is confirmed, and what is then sent again was
    sent before. -/
theorem confirm?_eq_some {q : ReportQueue} {seq : Int} {ack : Ack} {c : Confirmation}
    (h : q.confirm? seq ack = some c) :
    ∃ f, q.inFlight = some f ∧ f.seq = seq ∧ c.queue = { q with inFlight := none } ∧
      c.seq = seq ∧ c.terminal = f.terminal ∧ ∀ m ∈ c.replay, m ∈ q.sent := by
  rw [confirm?] at h
  split at h
  · cases h
  rename_i f hf
  split at h
  · rename_i hseq
    cases h
    refine ⟨f, hf, hseq, rfl, rfl, rfl, ?_⟩
    -- What is sent again is looked up in what was sent.
    intro m hm
    rcases List.mem_filterMap.1 hm with ⟨s, -, hs⟩
    exact List.mem_of_find?_eq_some hs
  · cases h

/-- Which reports end the mission, the latest first: those that wait and then
    those that were sent. -/
def stream (q : ReportQueue) : List Bool :=
  (q.waiting.map Report.isTerminal).reverse ++ q.sent.map (fun m => m.kind.isTerminal)

theorem stream_sending {q : ReportQueue} {report : Report} {waiting : List Report}
    (h : q.waiting = report :: waiting) (now : Nat) :
    (q.sending report waiting now).stream = q.stream := by
  simp only [stream, sending, h, List.map_cons, List.reverse_cons, List.append_assoc,
    List.singleton_append, message, Report.isTerminal_kind]

/-- A change of a queue that may send what waits in it, and with it whatever
    was sent before. -/
structure Sends (q q' : ReportQueue) (messages : List Message) : Prop where
  orderly : q'.Orderly
  stream : q'.stream = q.stream
  agent : q'.agent = q.agent
  mission : q'.mission = q.mission
  known : ∀ m ∈ messages, m ∈ q'.sent
  sent : q'.sent = q.sent ∨ ∃ m ∈ messages, q'.sent = m :: q.sent

theorem Sends.refl {q : ReportQueue} (h : q.Orderly) : Sends q q [] :=
  ⟨h, rfl, rfl, rfl, fun _ hm => absurd hm List.not_mem_nil, .inl rfl⟩

/-- What is in flight can be repeated. -/
theorem sends_repeating {q : ReportQueue} (h : q.Orderly) {f : InFlight} (hf : q.inFlight = some f)
    (attempts sentAt : Nat) :
    Sends q { q with inFlight := some { f with attempts, sentAt } } [f.message] where
  orderly := {
    numbered := h.numbered
    next := h.next
    reports := h.reports
    flight := by
      rintro g hg
      cases hg
      exact h.flight f hf }
  stream := rfl
  agent := rfl
  mission := rfl
  known := by
    intro m hm
    cases List.mem_singleton.1 hm
    exact List.mem_of_head? (h.flight f hf).2.2
  sent := .inl rfl

/-- What is in flight can be put aside. -/
theorem sends_landing {q : ReportQueue} (h : q.Orderly) {messages : List Message}
    (hm : ∀ m ∈ messages, m ∈ q.sent) : Sends q { q with inFlight := none } messages where
  orderly := {
    numbered := h.numbered
    next := h.next
    reports := h.reports
    flight := by
      rintro f hf
      cases hf }
  stream := rfl
  agent := rfl
  mission := rfl
  known := hm
  sent := .inl rfl

theorem sends_sending {q : ReportQueue} (h : q.Orderly) {report : Report}
    {waiting : List Report} (hw : q.waiting = report :: waiting) (now : Nat) :
    Sends q (q.sending report waiting now) [q.message q.nextSeq report] where
  orderly := {
    numbered := .cons h.next h.numbered
    next := by rw [sending, h.next, List.length_cons, Int.natCast_add]; rfl
    reports := by
      intro m hm
      rcases List.mem_cons.1 hm with rfl | hm
      · exact ⟨report, rfl⟩
      · exact h.reports m hm
    flight := by
      rintro f hf
      cases hf
      exact ⟨rfl, report.isTerminal_kind.symm, rfl⟩ }
  stream := stream_sending hw now
  agent := rfl
  mission := rfl
  known := fun m hm => List.mem_cons.2 (.inl (List.mem_singleton.1 hm))
  sent := .inr ⟨_, List.mem_singleton_self _, rfl⟩

/-- Polling sends what the queue has. -/
theorem sends_poll {q : ReportQueue} (h : q.Orderly) (now : Nat) :
    Sends q (q.poll now).queue (q.poll now).messages := by
  cases hp : q.poll now with
  | mk queue messages abandoned =>
      have hpolls := q.polls now
      rw [hp] at hpolls
      cases hpolls with
      | idle flight waiting => exact .refl h
      | waits f flight early => exact .refl h
      | repeats f flight due more => exact sends_repeating h flight _ now
      | givesUp f flight due spent last =>
          exact sends_landing h (fun m hm => absurd hm List.not_mem_nil)
      | sends report waiting flight first => exact sends_sending h first now
      | replaces f report waiting flight due spent going first => exact sends_sending h first now

/-- Nothing is sent when a terminal report is given up. -/
theorem messages_of_abandoned {q : ReportQueue} {now : Nat} {given : Abandoned}
    (h : (q.poll now).abandoned = some given) (hterminal : given.terminal = true) :
    (q.poll now).messages = [] := by
  cases hp : q.poll now with
  | mk queue messages abandoned =>
      have hpolls := q.polls now
      rw [hp] at hpolls h
      cases hpolls with
      | idle => rfl
      | waits => rfl
      | repeats => cases h
      | givesUp => rfl
      | sends => cases h
      | replaces f report waiting flight due spent going first =>
          -- Only a report that is not terminal makes room for the next.
          cases h
          exact absurd (going.symm.trans hterminal) nofun

/-- Sending after sending is sending. -/
theorem Sends.after {q q' q'' : ReportQueue} {before messages : List Message}
    (h : Sends q q' before) (hsent : q'.sent = q.sent) (h' : Sends q' q'' messages) :
    Sends q q'' (before ++ messages) where
  orderly := h'.orderly
  stream := h'.stream.trans h.stream
  agent := h'.agent.trans h.agent
  mission := h'.mission.trans h.mission
  known := by
    intro m hm
    -- Nothing that was sent is forgotten.
    rcases List.mem_append.1 hm with hm | hm
    · rcases h'.sent with he | ⟨m', -, he⟩
      · exact he ▸ h.known m hm
      · exact he ▸ List.mem_cons_of_mem _ (h.known m hm)
    · exact h'.known m hm
  sent := by
    rcases h'.sent with he | ⟨m, hm, he⟩
    · exact .inl (he.trans hsent)
    · exact .inr ⟨m, List.mem_append_right _ hm, by rw [he, hsent]⟩

/-- Confirming sends what was sent before. -/
theorem sends_confirm {q : ReportQueue} (h : q.Orderly) {seq : Int} {ack : Ack} {c : Confirmation}
    (hc : q.confirm? seq ack = some c) : Sends q c.queue c.replay := by
  rcases confirm?_eq_some hc with ⟨f, -, -, hqueue, -, -, hreplay⟩
  rw [hqueue]
  exact sends_landing h hreplay

/-- The mission goes on: no report ends it. -/
def Open (q : ReportQueue) : Prop := ∀ b ∈ q.stream, b = false

/-- The mission is over: its last report ends it, and no other does. -/
def Closing (q : ReportQueue) : Prop :=
  ∃ rest, q.stream = true :: rest ∧ ∀ b ∈ rest, b = false

/-- Two queues differ in the waiting reports only. -/
def SameSent (q q' : ReportQueue) : Prop := q' = { q with waiting := q'.waiting }

theorem SameSent.sent {q q' : ReportQueue} (h : SameSent q q') : q'.sent = q.sent := by rw [h]

theorem SameSent.agent {q q' : ReportQueue} (h : SameSent q q') : q'.agent = q.agent := by rw [h]

theorem SameSent.mission {q q' : ReportQueue} (h : SameSent q q') : q'.mission = q.mission := by
  rw [h]

theorem SameSent.trans {q q' q'' : ReportQueue} (h : SameSent q q') (h' : SameSent q' q'') :
    SameSent q q'' := by
  rw [SameSent] at h h' ⊢
  rw [h', h]

/-- One more report only waits at first. -/
theorem sameSent_enqueue (q : ReportQueue) (report : Report) : SameSent q (q.enqueue report) := by
  cases report with
  | progress p =>
      rw [enqueue]
      split <;> rfl
  | completed => rfl
  | error e => rfl

theorem Orderly.sameSent {q q' : ReportQueue} (h : q.Orderly) (hq : SameSent q q') : q'.Orderly := by
  rw [hq]
  exact ⟨h.numbered, h.next, h.reports, h.flight⟩

theorem Orderly.enqueue {q : ReportQueue} (h : q.Orderly) (report : Report) :
    (q.enqueue report).Orderly :=
  h.sameSent (q.sameSent_enqueue report)

theorem open_iff {q : ReportQueue} :
    q.Open ↔ (∀ r ∈ q.waiting, r.isTerminal = false) ∧ ∀ m ∈ q.sent, m.kind.isTerminal = false := by
  simp only [Open, stream, List.mem_append, List.mem_reverse, or_imp, forall_and,
    List.forall_mem_map]

/-- Progress takes the place of progress or comes after everything else. -/
theorem mem_replaceLast {waiting : List Report} {p : Progress} {r : Report}
    (h : r ∈ replaceLast waiting p) : r ∈ waiting ∨ r = .progress p := by
  rw [replaceLast] at h
  split at h
  · rcases List.mem_append.1 h with h | h
    · exact .inl (List.dropLast_subset _ h)
    · exact .inr (List.mem_singleton.1 h)
  · rcases List.mem_append.1 h with h | h
    · exact .inl h
    · exact .inr (List.mem_singleton.1 h)

theorem Open.enqueue_progress {q : ReportQueue} (h : q.Open) (p : Progress) :
    (q.enqueue (.progress p)).Open := by
  rw [enqueue]
  split
  · exact h
  · rw [open_iff] at h ⊢
    refine ⟨fun r hr => ?_, h.2⟩
    rcases mem_replaceLast hr with hr | rfl
    · exact h.1 r hr
    · rfl

theorem Open.enqueue_terminal {q : ReportQueue} (h : q.Open) {report : Report}
    (hr : report.isTerminal) : (q.enqueue report).Closing := by
  -- Progress that still waits is dropped, and there is nothing else.
  have hwaiting : (q.enqueue report).waiting = [report] := by
    have hnone : q.waiting.filter Report.isTerminal = [] := by
      refine List.filter_eq_nil_iff.2 (fun r hmem he => ?_)
      rw [(open_iff.1 h).1 r hmem] at he
      cases he
    cases report with
    | progress p => cases hr
    | completed => simp only [enqueue, hnone, List.nil_append]
    | error e => simp only [enqueue, hnone, List.nil_append]
  refine ⟨q.sent.map (fun m => m.kind.isTerminal), ?_, List.forall_mem_map.2 (open_iff.1 h).2⟩
  rw [q.sameSent_enqueue report]
  simp only [stream, hwaiting, List.map_singleton, List.reverse_singleton, List.singleton_append,
    hr]

/-- Only the latest report ends the mission. -/
theorem Closing.eq_head {q : ReportQueue} (h : q.Closing) {latest m : Message}
    (hhead : q.sent.head? = some latest) (hlatest : latest.kind.isTerminal) (hm : m ∈ q.sent)
    (hterminal : m.kind.isTerminal) : m = latest := by
  rcases h with ⟨rest, hstream, hrest⟩
  rcases List.head?_eq_some_iff.1 hhead with ⟨sent, hsent⟩
  rw [stream, hsent, List.map_cons, hlatest] at hstream
  cases hw : (q.waiting.map Report.isTerminal).reverse with
  | nil =>
      -- Nothing waits, so the true value in front is that of the latest report.
      rw [hw, List.nil_append, List.cons_inj_right] at hstream
      rw [hsent] at hm
      rcases List.mem_cons.1 hm with rfl | hm
      · rfl
      · have hfalse := hrest _ (hstream ▸ List.mem_map_of_mem hm)
        rw [hterminal] at hfalse
        cases hfalse
  | cons b bs =>
      -- The true value of the latest sent report would come after another.
      rw [hw, List.cons_append, List.cons.injEq] at hstream
      have hmem : true ∈ rest := hstream.2 ▸ List.mem_append_right _ (List.mem_cons_self ..)
      cases hrest true hmem

end ReportQueue

end RoverDispatch
