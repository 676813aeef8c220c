import RoverDispatch.Proofs.Session.ReportQueues
import RoverDispatch.Proofs.Session.Waits

/-!
# Report Ledgers

What a report queue does in the course of time, put down in order.

A queue knows how often the report in flight has been sent and when the last
time was, and nothing of this about any other report. So what it does for a
report from the first sending to the end cannot be read off one state. A ledger
keeps all of it: every sending with its time, every confirmation with what was
sent again, and every report given up.

The reports that were sent are kept under their numbers, and the numbers of
those that are confirmed or given up follow each other without a gap, because
only the report in flight can be either. This makes one equation of most that
is to be said: what has been settled and what is in flight, one after the
other, are the numbers that have been given.

Nothing that ends the mission is ever dropped from the queue, so counting tells
whether such a report is still waiting. While one is, progress is not even put
into the queue. Once all have been sent, the queue knows nothing of them any
more and takes progress like any other.

## Main definitions

* `firsts`: The messages whose number has not come before.
* `ReportQueue.Input`, `enqueuedIn`: What happens to a queue, and the reports
  among it.
* `ReportQueue.series`: Reports as messages numbered from one.
* `Deed`, `Ledger`: What a queue does, and all that it has done.
* `Ledger.Sound`: What the deeds say about the queue.

## Theorems

* `ReportQueue.sublist_enqueue`, `ReportQueue.countP_enqueue`: What is left of the
  reports when another is enqueued.
* `Ledger.Sound.lands`, `Ledger.Sound.repeats`, `Ledger.Sound.sends`: The three
  things that become of the report in flight.
* `Ledger.Sound.run`: The ledger is sound after any inputs.
* `Ledger.one_at_a_time`: The life of every report.
* `Ledger.progress_after_terminal`: What becomes of progress that is enqueued
  after a terminal report.
-/

namespace RoverDispatch

/-! ### First sendings -/

/-- One more message, if its number has not come before. -/
def noteFirst (known : List Message) (m : Message) : List Message :=
  if m.seq ∈ known.map Message.seq then known else known ++ [m]

/-- The messages whose number has not come before. -/
def firsts (messages : List Message) : List Message := messages.foldl noteFirst []

section Firsts

variable {known messages sent : List Message} {m : Message}

theorem firsts_append (messages more : List Message) :
    firsts (messages ++ more) = more.foldl noteFirst (firsts messages) :=
  List.foldl_append

theorem noteFirst_of_mem (h : m ∈ known) : noteFirst known m = known :=
  if_pos (List.mem_map_of_mem h)

/-- Messages that have come before add nothing. -/
theorem foldl_noteFirst_of_known (h : ∀ x ∈ messages, x ∈ known) :
    messages.foldl noteFirst known = known := by
  induction messages with
  | nil => rfl
  | cons x messages ih =>
      rw [List.foldl_cons, noteFirst_of_mem (h x (List.mem_cons_self ..))]
      exact ih (fun y hy => h y (List.mem_cons_of_mem _ hy))

/-- The latest number is new. -/
theorem Numbered.noteFirst (h : Numbered (m :: sent)) :
    noteFirst sent.reverse m = (m :: sent).reverse := by
  cases h with
  | cons seq rest =>
      rw [RoverDispatch.noteFirst, List.reverse_cons, if_neg]
      intro hmem
      rcases List.mem_map.1 hmem with ⟨x, hx, he⟩
      have hle := rest.seq_le (List.mem_reverse.1 hx)
      omega

/-- The latest message comes for the first time, among others that have come
    before. -/
theorem Numbered.foldl_noteFirst (h : Numbered (m :: sent)) (hm : m ∈ messages)
    (hknown : ∀ x ∈ messages, x ∈ m :: sent) :
    messages.foldl RoverDispatch.noteFirst sent.reverse = (m :: sent).reverse := by
  induction messages with
  | nil => cases hm
  | cons x messages ih =>
      have hrest : ∀ y ∈ messages, y ∈ m :: sent := fun y hy => hknown y (List.mem_cons_of_mem _ hy)
      rw [List.foldl_cons]
      -- Once the latest message has come, all that follows is known.
      by_cases hx : x = m
      · rw [hx, h.noteFirst]
        exact foldl_noteFirst_of_known (fun y hy => List.mem_reverse.2 (hrest y hy))
      · have hsent : x ∈ sent :=
          (List.mem_cons.1 (hknown x (List.mem_cons_self ..))).resolve_left hx
        rw [noteFirst_of_mem (List.mem_reverse.2 hsent)]
        exact ih ((List.mem_cons.1 hm).resolve_left (Ne.symm hx)) hrest

/-- The numbers in order. -/
theorem Numbered.seqs (h : Numbered sent) :
    sent.reverse.map Message.seq = (List.range sent.length).map (fun i : Nat => (i : Int) + 1) := by
  induction h with
  | nil => rfl
  | cons seq rest ih =>
      rw [List.reverse_cons, List.map_append, ih, List.length_cons, List.range_succ,
        List.map_append, List.map_singleton, List.map_singleton, seq]

end Firsts

namespace ReportQueue

/-! ### What happens to a queue -/

/-- What happens to a queue: a report is put into it, an acknowledgement
    arrives, or it is polled. -/
inductive Input where
  | enqueue (report : Report)
  | acknowledge (seq : Int) (ack : Ack)
  | poll (now : Nat)
  deriving DecidableEq

/-- The report that is put into the queue. -/
def Input.report? : Input → Option Report
  | enqueue report => some report
  | _ => none

/-- The reports that are put into the queue, in order. -/
def enqueuedIn (inputs : List Input) : List Report := inputs.filterMap Input.report?

/-- The queue before anything was put into it. -/
def blank (q : ReportQueue) : ReportQueue :=
  { q with nextSeq := 1, waiting := [], inFlight := none, sent := [] }

/-- Reports as messages numbered from one. -/
def series (q : ReportQueue) (reports : List Report) : List Message :=
  reports.mapIdx (fun i report => q.message (i + 1 : Nat) report)

variable {q q' : ReportQueue} {report : Report} {reports waiting : List Report} {f : InFlight}
  {now : Nat}

theorem series_concat (q : ReportQueue) (reports : List Report) (report : Report) :
    q.series (reports ++ [report]) =
      q.series reports ++ [q.message (reports.length + 1 : Nat) report] :=
  List.mapIdx_concat

theorem length_series (q : ReportQueue) (reports : List Report) :
    (q.series reports).length = reports.length :=
  List.length_mapIdx

/-- A report takes the place of progress or comes after everything else. -/
theorem sublist_enqueue (q : ReportQueue) (report : Report) :
    (q.enqueue report).waiting.Sublist (q.waiting ++ [report]) := by
  cases report with
  | progress p =>
      rw [enqueue]
      split
      · exact List.sublist_append_left ..
      · simp only [replaceLast]
        split
        · exact (List.dropLast_sublist _).append_right _
        · exact List.Sublist.refl _
  | completed => exact List.filter_sublist.append_right _
  | error e => exact List.filter_sublist.append_right _

/-- What waits: reports that end the mission, or else one of progress. -/
def Tidy (waiting : List Report) : Prop :=
  (∀ r ∈ waiting, r.isTerminal = true) ∨ ∃ p, waiting = [.progress p]

theorem Tidy.tail (h : Tidy (report :: waiting)) : Tidy waiting := by
  rcases h with hterminal | ⟨p, hp⟩
  · exact .inl (fun r hr => hterminal r (List.mem_cons_of_mem _ hr))
  · rw [(List.cons.inj hp).2]
    exact .inl (fun r hr => absurd hr List.not_mem_nil)

/-- Progress that is not dropped is all that waits. -/
theorem Tidy.enqueue_progress (h : Tidy q.waiting) (p : Progress) :
    (q.waiting.any Report.isTerminal = true ∧ q.enqueue (.progress p) = q) ∨
      (q.waiting.any Report.isTerminal = false ∧
        (q.enqueue (.progress p)).waiting = [.progress p]) := by
  rw [enqueue]
  cases hany : q.waiting.any Report.isTerminal with
  | true => exact .inl ⟨rfl, if_pos rfl⟩
  | false =>
      refine .inr ⟨rfl, ?_⟩
      rw [if_neg Bool.false_ne_true]
      rcases h with hterminal | ⟨p', hp⟩
      · -- All that waits ends the mission, and nothing does.
        cases hw : q.waiting with
        | nil => rfl
        | cons r rest =>
            rw [hw, List.any_cons, hterminal r (hw ▸ List.mem_cons_self ..)] at hany
            cases hany
      · simp only [replaceLast, hp, List.getLast?_singleton, List.dropLast_singleton,
          List.nil_append]

theorem tidy_enqueue (h : Tidy q.waiting) (report : Report) : Tidy (q.enqueue report).waiting := by
  have hfilter : ∀ r : Report, r.isTerminal = true →
      Tidy (q.waiting.filter Report.isTerminal ++ [r]) := by
    intro r hr
    refine .inl (fun r' hr' => ?_)
    rcases List.mem_append.1 hr' with hr' | hr'
    · exact (List.mem_filter.1 hr').2
    · exact List.mem_singleton.1 hr' ▸ hr
  cases report with
  | progress p =>
      rcases h.enqueue_progress p with ⟨-, he⟩ | ⟨-, he⟩
      · rw [he]
        exact h
      · exact .inr ⟨p, he⟩
  | completed => exact hfilter .completed rfl
  | error e => exact hfilter (.error e) rfl

/-- No report that ends the mission is dropped. -/
theorem countP_enqueue (h : Tidy q.waiting) (report : Report) :
    (q.enqueue report).waiting.countP Report.isTerminal =
      q.waiting.countP Report.isTerminal + [report].countP Report.isTerminal := by
  have hfilter : (q.waiting.filter Report.isTerminal).countP Report.isTerminal =
      q.waiting.countP Report.isTerminal := by
    rw [List.countP_filter]
    simp only [Bool.and_self]
  cases report with
  | progress p =>
      rcases h.enqueue_progress p with ⟨-, he⟩ | ⟨hnone, he⟩
      · rw [he]
        rfl
      · have hzero := List.countP_eq_zero.2 (List.any_eq_false.1 hnone)
        rw [he, hzero]
        rfl
  | completed => simp only [enqueue, List.countP_append, hfilter]
  | error e => simp only [enqueue, List.countP_append, hfilter]

end ReportQueue

/-! ### Deeds -/

/-- What a queue does. -/
inductive Deed where
  /-- A poll sends a report, for the first time or again. -/
  | sent (m : Message) (now : Nat)
  /-- A report is confirmed, and earlier ones are sent again. -/
  | confirmed (seq : Int) (replay : List Message)
  /-- A report is given up. -/
  | abandoned (seq : Int)
  deriving DecidableEq

namespace Deed

/-- The message that a poll sends. -/
def sent? : Deed → Option Message
  | sent m _ => some m
  | _ => none

/-- The time at which a poll sends the report of a number. -/
def time? (seq : Int) : Deed → Option Nat
  | sent m now => if m.seq = seq then some now else none
  | _ => none

/-- The number of a report that nothing is sent for any more. -/
def settled? : Deed → Option Int
  | sent _ _ => none
  | confirmed seq _ => some seq
  | abandoned seq => some seq

/-- The messages that come with it. -/
def messages : Deed → List Message
  | sent m _ => [m]
  | confirmed _ replay => replay
  | abandoned _ => []

end Deed

/-- The messages that polls have sent. -/
def polledIn (deeds : List Deed) : List Message := deeds.filterMap Deed.sent?

/-- The times at which polls have sent the report of a number. -/
def timesIn (deeds : List Deed) (seq : Int) : List Nat := deeds.filterMap (Deed.time? seq)

/-- The numbers of the reports that were confirmed or given up. -/
def settledIn (deeds : List Deed) : List Int := deeds.filterMap Deed.settled?

/-- All messages that have been sent, also on an acknowledgement. -/
def messagesIn (deeds : List Deed) : List Message := deeds.flatMap Deed.messages

/-- A queue with all that it has done, in order. -/
structure Ledger where
  queue : ReportQueue
  deeds : List Deed
  deriving DecidableEq

namespace Ledger

/-- A queue that has done nothing yet. -/
def start (queue : ReportQueue) : Ledger := { queue, deeds := [] }

/-- Something happens to the queue. -/
def input (l : Ledger) : ReportQueue.Input → Ledger
  | .enqueue report => { l with queue := l.queue.enqueue report }
  | .acknowledge seq ack =>
    match l.queue.confirm? seq ack with
    | none => l
    | some c => { queue := c.queue, deeds := l.deeds ++ [.confirmed c.seq c.replay] }
  | .poll now =>
    let d := l.queue.poll now
    { queue := d.queue
      deeds := l.deeds ++ d.abandoned.toList.map (fun given => .abandoned given.seq) ++
        d.messages.map (.sent · now) }

/-- A number of things happen to the queue. -/
def run (l : Ledger) (inputs : List ReportQueue.Input) : Ledger := inputs.foldl input l

/-- The times of sending one report: each a wait after the one before, and no
    more than allowed. -/
structure Paced (wait limit : Nat) (times : List Nat) : Prop where
  apart : Spaced wait times
  within : times.length ≤ limit

/-- The report in flight was sent as often as its attempts say, the last time
    when it says. -/
structure Tracks (times : List Nat) (f : InFlight) : Prop where
  attempts : f.attempts = times.length
  last : times.getLast? = some f.sentAt

/-- What the deeds say about the queue, and what of the reports that were put
    into it is left. -/
structure Sound (q : ReportQueue) (enqueued : List Report) (l : Ledger) : Prop where
  made : l.queue.blank = q
  orderly : l.queue.Orderly
  tidy : ReportQueue.Tidy l.queue.waiting
  kept : ∃ reports, (reports ++ l.queue.waiting).Sublist enqueued ∧
    l.queue.sent.reverse = q.series reports
  terminals : l.queue.waiting.countP Report.isTerminal +
    l.queue.sent.countP (fun m => m.kind.isTerminal) = enqueued.countP Report.isTerminal
  firsts : firsts (polledIn l.deeds) = l.queue.sent.reverse
  known : ∀ m ∈ messagesIn l.deeds, m ∈ l.queue.sent
  settled : settledIn l.deeds ++ (l.queue.inFlight.map InFlight.seq).toList =
    l.queue.sent.reverse.map Message.seq
  paced : ∀ m ∈ l.queue.sent,
    Paced q.timeout (q.sendLimit m.kind.isTerminal) (timesIn l.deeds m.seq)
  tracks : ∀ f, l.queue.inFlight = some f → Tracks (timesIn l.deeds f.seq) f

section Steps

variable {q : ReportQueue} {enqueued : List Report} {l : Ledger} {f : InFlight} {m : Message}
  {deeds : List Deed} {d : Deed} {seq : Int} {wait limit now last : Nat} {times : List Nat}

theorem polledIn_concat (deeds : List Deed) (d : Deed) :
    polledIn (deeds ++ [d]) = polledIn deeds ++ d.sent?.toList := by
  simp only [polledIn, List.filterMap_append, List.filterMap_cons, List.filterMap_nil]
  cases d.sent? <;> rfl

theorem timesIn_concat (deeds : List Deed) (d : Deed) (seq : Int) :
    timesIn (deeds ++ [d]) seq = timesIn deeds seq ++ (d.time? seq).toList := by
  simp only [timesIn, List.filterMap_append, List.filterMap_cons, List.filterMap_nil]
  cases d.time? seq <;> rfl

/-- A report is sent by a poll, -/
theorem timesIn_sent (deeds : List Deed) (m : Message) (now : Nat) :
    timesIn (deeds ++ [.sent m now]) m.seq = timesIn deeds m.seq ++ [now] := by
  rw [timesIn_concat]
  simp only [Deed.time?, if_true, Option.toList_some]

/-- and no other is. -/
theorem timesIn_sent_of_ne (deeds : List Deed) (h : m.seq ≠ seq) (now : Nat) :
    timesIn (deeds ++ [.sent m now]) seq = timesIn deeds seq := by
  rw [timesIn_concat]
  simp only [Deed.time?, if_neg h, Option.toList_none, List.append_nil]

theorem settledIn_concat (deeds : List Deed) (d : Deed) :
    settledIn (deeds ++ [d]) = settledIn deeds ++ d.settled?.toList := by
  simp only [settledIn, List.filterMap_append, List.filterMap_cons, List.filterMap_nil]
  cases d.settled? <;> rfl

theorem messagesIn_concat (deeds : List Deed) (d : Deed) :
    messagesIn (deeds ++ [d]) = messagesIn deeds ++ d.messages := by
  simp only [messagesIn, List.flatMap_append, List.flatMap_singleton]

/-- One more deed, of messages that are known. -/
theorem known_concat {known : List Message} (h : ∀ m ∈ messagesIn deeds, m ∈ known)
    (hd : ∀ m ∈ d.messages, m ∈ known) : ∀ m ∈ messagesIn (deeds ++ [d]), m ∈ known := by
  intro m hm
  rw [messagesIn_concat] at hm
  rcases List.mem_append.1 hm with hm | hm
  · exact h m hm
  · exact hd m hm

/-- A number that no message has was sent at no time. -/
theorem timesIn_eq_nil (h : ∀ m ∈ messagesIn deeds, m.seq ≠ seq) : timesIn deeds seq = [] := by
  refine List.filterMap_eq_nil_iff.2 (fun d hd => ?_)
  cases d with
  | sent x now => exact if_neg (h x (List.mem_flatMap.2 ⟨_, hd, List.mem_singleton_self x⟩))
  | confirmed seq replay => rfl
  | abandoned seq => rfl

/-- Once more, when the wait is over and not all attempts are spent. -/
theorem Paced.concat (h : Paced wait limit times) (hlast : times.getLast? = some last)
    (due : after last wait ≤ now) (more : times.length < limit) :
    Paced wait limit (times ++ [now]) := by
  refine ⟨h.apart.concat hlast due, ?_⟩
  rw [List.length_append, List.length_singleton]
  exact more

/-- A report that is given up has been sent as often as it can be: it was sent
    once in any case, and its attempts are its sendings. -/
theorem Tracks.length_eq {limit : Nat} (h : Tracks times f)
    (hpaced : Paced wait (max 1 limit) times) (spent : limit ≤ f.attempts) :
    times.length = max 1 limit := by
  have hpos : 0 < times.length := by
    refine List.length_pos_of_ne_nil (fun hnil => ?_)
    have hlast := h.last
    rw [hnil] at hlast
    cases hlast
  rw [h.attempts] at spent
  exact Nat.le_antisymm hpaced.within (Nat.max_le.2 ⟨hpos, spent⟩)

theorem sound_start (agent coordinator mission : Int) (t : Timing) :
    (start (.start agent coordinator mission t)).Sound (.start agent coordinator mission t) [] where
  made := rfl
  orderly := .start ..
  tidy := .inl (fun _ hr => absurd hr List.not_mem_nil)
  kept := ⟨[], List.Sublist.refl _, rfl⟩
  terminals := rfl
  firsts := rfl
  known := fun _ hm => absurd hm List.not_mem_nil
  settled := rfl
  paced := fun _ hm => absurd hm List.not_mem_nil
  tracks := fun _ hf => absurd hf nofun

/-- A report is put into the queue. -/
theorem Sound.enqueues (h : l.Sound q enqueued) (report : Report) :
    { l with queue := l.queue.enqueue report }.Sound q (enqueued ++ [report]) := by
  rcases h.kept with ⟨reports, hsublist, hseries⟩
  have hkept : (reports ++ (l.queue.enqueue report).waiting).Sublist (enqueued ++ [report]) := by
    refine ((l.queue.sublist_enqueue report).append_left reports).trans ?_
    rw [← List.append_assoc]
    exact hsublist.append_right _
  have htidy := ReportQueue.tidy_enqueue h.tidy report
  have hcount := ReportQueue.countP_enqueue h.tidy report
  have horderly := h.orderly.enqueue report
  have hsame := l.queue.sameSent_enqueue report
  generalize l.queue.enqueue report = q' at hkept htidy hcount horderly hsame
  have hsent : q'.sent = l.queue.sent := hsame.sent
  have hflight : q'.inFlight = l.queue.inFlight := by rw [hsame]
  exact {
    made := by
      rw [← h.made, hsame]
      rfl
    orderly := horderly
    tidy := htidy
    kept := ⟨reports, hkept, by rw [hsent, hseries]⟩
    terminals := by
      rw [hcount, hsent, List.countP_append, ← h.terminals]
      omega
    firsts := by rw [hsent, h.firsts]
    known := by
      rw [hsent]
      exact h.known
    settled := by rw [hsent, hflight, h.settled]
    paced := by
      rw [hsent]
      exact h.paced
    tracks := by
      rw [hflight]
      exact h.tracks }

/-- The report in flight is confirmed or given up. -/
theorem Sound.lands (h : l.Sound q enqueued) (hf : l.queue.inFlight = some f)
    (hd : d.settled? = some f.seq) (hknown : ∀ m ∈ d.messages, m ∈ l.queue.sent) :
    Sound q enqueued
      { queue := { l.queue with inFlight := none }, deeds := l.deeds ++ [d] } := by
  -- What settles a report is no sending by a poll.
  have hsent : d.sent? = none := by
    cases d with
    | sent m now => cases hd
    | confirmed seq replay => rfl
    | abandoned seq => rfl
  have htime : ∀ seq, d.time? seq = none := by
    intro seq
    cases d with
    | sent m now => cases hd
    | confirmed seq replay => rfl
    | abandoned seq => rfl
  exact {
    made := h.made
    orderly := (ReportQueue.sends_landing h.orderly hknown).orderly
    tidy := h.tidy
    kept := h.kept
    terminals := h.terminals
    firsts := by
      rw [polledIn_concat, hsent, Option.toList_none, List.append_nil]
      exact h.firsts
    known := known_concat h.known hknown
    settled := by
      have hsettled := h.settled
      rw [hf] at hsettled
      rw [settledIn_concat, hd]
      exact (List.append_nil _).trans hsettled
    paced := by
      intro m hm
      rw [timesIn_concat, htime, Option.toList_none, List.append_nil]
      exact h.paced m hm
    tracks := fun _ hg => absurd hg nofun }

/-- Sending the report in flight once more keeps its times apart, and does not
    touch those of any other report. -/
theorem Sound.paced_repeats (h : l.Sound q enqueued) (hf : l.queue.inFlight = some f)
    (due : after f.sentAt l.queue.timeout ≤ now)
    (more : f.attempts < l.queue.attemptLimit f.terminal) (hm : m ∈ l.queue.sent) :
    Paced q.timeout (q.sendLimit m.kind.isTerminal)
      (timesIn (l.deeds ++ [.sent f.message now]) m.seq) := by
  rcases h.orderly.flight f hf with ⟨hseq, hterminal, hhead⟩
  have htracks := h.tracks f hf
  by_cases hm' : m.seq = f.message.seq
  · -- The report in flight has its number for itself.
    have he : m = f.message := h.orderly.numbered.eq_of_seq hm (List.mem_of_head? hhead) hm'
    subst he
    rw [timesIn_sent]
    rw [hseq] at htracks
    refine (h.paced _ hm).concat htracks.last ?_ ?_
    · rw [← h.made]
      exact due
    · rw [← htracks.attempts, ← hterminal, ← h.made]
      exact Nat.lt_of_lt_of_le more (l.queue.attemptLimit_le_sendLimit f.terminal)
  · rw [timesIn_sent_of_ne _ (Ne.symm hm')]
    exact h.paced m hm

/-- The report in flight is sent once more. -/
theorem Sound.repeats (h : l.Sound q enqueued) (hf : l.queue.inFlight = some f)
    (due : after f.sentAt l.queue.timeout ≤ now)
    (more : f.attempts < l.queue.attemptLimit f.terminal) :
    Sound q enqueued
      { queue := { l.queue with
          inFlight := some { f with attempts := f.attempts + 1, sentAt := now } }
        deeds := l.deeds ++ [.sent f.message now] } := by
  rcases h.orderly.flight f hf with ⟨hseq, hterminal, hhead⟩
  have hmem : f.message ∈ l.queue.sent := List.mem_of_head? hhead
  have htracks := h.tracks f hf
  have htimes : timesIn (l.deeds ++ [.sent f.message now]) f.seq =
      timesIn l.deeds f.seq ++ [now] := by
    rw [hseq]
    exact timesIn_sent ..
  exact {
    made := h.made
    orderly := (ReportQueue.sends_repeating h.orderly hf _ now).orderly
    tidy := h.tidy
    kept := h.kept
    terminals := h.terminals
    firsts := by
      rw [polledIn_concat, firsts_append, h.firsts]
      exact noteFirst_of_mem (List.mem_reverse.2 hmem)
    known := known_concat h.known (fun m hm => List.mem_singleton.1 hm ▸ hmem)
    settled := by
      have hsettled := h.settled
      rw [hf] at hsettled
      rw [settledIn_concat]
      simp only [Deed.settled?, Option.toList_none, List.append_nil]
      exact hsettled
    paced := fun m hm => h.paced_repeats hf due more hm
    tracks := by
      rintro g hg
      cases hg
      refine ⟨?_, ?_⟩
      · rw [htimes, List.length_append, List.length_singleton, ← htracks.attempts]
      · rw [htimes]
        exact List.getLast?_concat }

/-- No message has the next number yet, -/
theorem Sound.seq_ne_next (h : l.Sound q enqueued) (hm : m ∈ l.queue.sent) :
    m.seq ≠ l.queue.nextSeq := by
  have hle := h.orderly.numbered.seq_le hm
  have hnext := h.orderly.next
  omega

/-- so the first time that it is sent is the only one. -/
theorem Sound.timesIn_next (h : l.Sound q enqueued) (report : Report) (now : Nat) :
    timesIn (l.deeds ++ [.sent (l.queue.message l.queue.nextSeq report) now]) l.queue.nextSeq =
      [now] := by
  have hnone : timesIn l.deeds l.queue.nextSeq = [] :=
    timesIn_eq_nil (fun m hm => h.seq_ne_next (h.known m hm))
  have hsent := timesIn_sent l.deeds (l.queue.message l.queue.nextSeq report) now
  change timesIn _ l.queue.nextSeq = timesIn l.deeds l.queue.nextSeq ++ [now] at hsent
  rw [hsent, hnone, List.nil_append]

/-- The report that is sent comes after those that were, and before those that
    still wait. -/
theorem Sound.kept_sends (h : l.Sound q enqueued) {report : Report} {waiting : List Report}
    (hw : l.queue.waiting = report :: waiting) (now : Nat) :
    ∃ reports, (reports ++ waiting).Sublist enqueued ∧
      (l.queue.sending report waiting now).sent.reverse = q.series reports := by
  rcases h.kept with ⟨reports, hsublist, hseries⟩
  have hlength : l.queue.sent.length = reports.length := by
    rw [← List.length_reverse, hseries, ReportQueue.length_series]
  refine ⟨reports ++ [report], ?_, ?_⟩
  · rw [hw] at hsublist
    rw [List.append_assoc]
    exact hsublist
  · rw [ReportQueue.series_concat, ← hseries, ← h.made, ReportQueue.sending, List.reverse_cons,
      h.orderly.next, hlength]
    rfl

/-- The first waiting report is sent, nothing being in flight. -/
theorem Sound.sends (h : l.Sound q enqueued) (hf : l.queue.inFlight = none) {report : Report}
    {waiting : List Report} (hw : l.queue.waiting = report :: waiting) (now : Nat) :
    Sound q enqueued
      { queue := l.queue.sending report waiting now
        deeds := l.deeds ++ [.sent (l.queue.message l.queue.nextSeq report) now] } := by
  have horderly := (ReportQueue.sends_sending h.orderly hw now).orderly
  have htimes := h.timesIn_next report now
  exact {
    made := h.made
    orderly := horderly
    tidy := by
      have htidy := h.tidy
      rw [hw] at htidy
      exact htidy.tail
    kept := h.kept_sends hw now
    terminals := by
      -- The report is counted among those sent instead of those that wait.
      have hterminals := h.terminals
      rw [hw, List.countP_cons] at hterminals
      simp only [ReportQueue.sending, ReportQueue.message, List.countP_cons, report.isTerminal_kind]
      omega
    firsts := by
      rw [polledIn_concat, firsts_append, h.firsts]
      exact horderly.numbered.noteFirst
    known := by
      refine known_concat (fun m hm => List.mem_cons_of_mem _ (h.known m hm)) (fun m hm => ?_)
      rw [List.mem_singleton.1 hm]
      exact List.mem_cons_self ..
    settled := by
      -- With nothing in flight, all numbers before are settled.
      have hsettled := h.settled
      rw [hf] at hsettled
      simp only [Option.map_none, Option.toList_none, List.append_nil] at hsettled
      rw [settledIn_concat]
      simp only [Deed.settled?, Option.toList_none, List.append_nil, hsettled, ReportQueue.sending,
        ReportQueue.message, Option.map_some, Option.toList_some, List.reverse_cons,
        List.map_append, List.map_cons, List.map_nil]
    paced := by
      intro m hm
      rcases List.mem_cons.1 hm with rfl | hm
      · change Paced _ _ (timesIn _ l.queue.nextSeq)
        rw [htimes]
        exact ⟨.singleton .., q.sendLimit_pos _⟩
      · have hne : (l.queue.message l.queue.nextSeq report).seq ≠ m.seq :=
          Ne.symm (h.seq_ne_next hm)
        rw [timesIn_sent_of_ne _ hne]
        exact h.paced m hm
    tracks := by
      rintro g hg
      cases hg
      exact ⟨congrArg List.length htimes.symm, congrArg List.getLast? htimes⟩ }

/-! ### Inputs -/

/-- Whatever happens to the queue, the ledger is sound. -/
theorem Sound.input (h : l.Sound q enqueued) (i : ReportQueue.Input) :
    (l.input i).Sound q (enqueued ++ i.report?.toList) := by
  cases i with
  | enqueue report => exact h.enqueues report
  | acknowledge seq ack =>
      simp only [Ledger.input, ReportQueue.Input.report?, Option.toList_none, List.append_nil]
      cases hc : l.queue.confirm? seq ack with
      | none => exact h
      | some c =>
          rcases ReportQueue.confirm?_eq_some hc with ⟨f, hf, hseq, hqueue, hcseq, -, hreplay⟩
          simp only [hqueue]
          refine h.lands hf ?_ hreplay
          rw [hcseq, hseq]
          rfl
  | poll now =>
      have hpolls := l.queue.polls now
      have hgiven : ∀ seq, ∀ m ∈ (Deed.abandoned seq).messages, m ∈ l.queue.sent :=
        fun _ _ hm => absurd hm List.not_mem_nil
      simp only [Ledger.input, ReportQueue.Input.report?, Option.toList_none, List.append_nil]
      generalize l.queue.poll now = d at hpolls ⊢
      cases hpolls with
      | idle flight waiting =>
          simp only [Option.toList_none, List.map_nil, List.append_nil]
          exact h
      | waits f flight early =>
          simp only [Option.toList_none, List.map_nil, List.append_nil]
          exact h
      | repeats f flight due more =>
          simp only [Option.toList_none, List.map_nil, List.map_cons, List.append_nil]
          exact h.repeats flight due more
      | givesUp f flight due spent last =>
          simp only [Option.toList_some, List.map_nil, List.map_cons, List.append_nil]
          exact h.lands flight rfl (hgiven f.seq)
      | sends report waiting flight first =>
          simp only [Option.toList_none, List.map_nil, List.map_cons, List.append_nil]
          exact h.sends flight first now
      | replaces f report waiting flight due spent going first =>
          -- The place is empty for a moment.
          simp only [Option.toList_some, List.map_nil, List.map_cons]
          exact (h.lands flight rfl (hgiven f.seq)).sends rfl first now

/-- The ledger is sound after any inputs. -/
theorem Sound.run (h : l.Sound q enqueued) (inputs : List ReportQueue.Input) :
    (l.run inputs).Sound q (enqueued ++ ReportQueue.enqueuedIn inputs) := by
  induction inputs generalizing l enqueued with
  | nil =>
      simp only [ReportQueue.enqueuedIn, List.filterMap_nil, List.append_nil]
      exact h
  | cons i inputs ih =>
      have hrest := ih (h.input i)
      rw [List.append_assoc] at hrest
      rw [ReportQueue.enqueuedIn, List.filterMap_cons]
      cases hi : i.report? with
      | none =>
          rw [hi] at hrest
          exact hrest
      | some report =>
          rw [hi] at hrest
          exact hrest

/-- With nothing in flight, a poll sends the first waiting report. -/
theorem input_poll (hf : l.queue.inFlight = none) {report : Report} {waiting : List Report}
    (hw : l.queue.waiting = report :: waiting) (now : Nat) :
    l.input (.poll now) =
      { queue := l.queue.sending report waiting now
        deeds := l.deeds ++ [.sent (l.queue.message l.queue.nextSeq report) now] } := by
  simp only [Ledger.input, ReportQueue.poll, hf, ReportQueue.sendNext, hw, Option.toList_none,
    List.map_nil, List.map_cons, List.append_nil]
  rfl

/-- The first waiting report is sent by the first poll after the report in flight is
    acknowledged. -/
theorem exists_sends_next {report : Report} {waiting : List Report}
    (hw : l.queue.waiting = report :: waiting) (now : Nat) :
    ∃ acks : List ReportQueue.Input, (∀ i ∈ acks, ∃ seq ack, i = .acknowledge seq ack) ∧
      (l.run (acks ++ [.poll now])).deeds.getLast? =
        some (.sent (l.queue.message l.queue.nextSeq report) now) := by
  cases hf : l.queue.inFlight with
  | none =>
      refine ⟨[], fun _ hi => absurd hi List.not_mem_nil, ?_⟩
      change (l.input (.poll now)).deeds.getLast? = _
      rw [input_poll hf hw]
      exact List.getLast?_concat
  | some f =>
      refine ⟨[.acknowledge f.seq .complete], ?_, ?_⟩
      · intro i hi
        exact ⟨f.seq, .complete, List.mem_singleton.1 hi⟩
      · -- The acknowledgement makes room and asks for nothing.
        let landed : Ledger :=
          { queue := { l.queue with inFlight := none }, deeds := l.deeds ++ [.confirmed f.seq []] }
        have hack : l.input (.acknowledge f.seq .complete) = landed := by
          simp only [Ledger.input, ReportQueue.confirm?, hf, if_true]
          rfl
        have hpoll := input_poll (l := landed) rfl hw now
        change ((l.input (.acknowledge f.seq .complete)).input (.poll now)).deeds.getLast? = _
        rw [hack, hpoll]
        exact List.getLast?_concat

end Steps

/-- What becomes of progress that is put into the queue, whatever happened before.
    As long as a terminal report that was put in has not been sent, nothing at all
    becomes of it: all that follows is as without it. When every terminal report
    has been sent, it is sent too, by the first poll after the report in flight is
    acknowledged. -/
theorem progress_after_terminal (agent coordinator mission : Int) (t : Timing)
    (inputs : List ReportQueue.Input) (p : Progress) :
    let l := (start (.start agent coordinator mission t)).run inputs
    let enqueued := (ReportQueue.enqueuedIn inputs).countP Report.isTerminal
    let sent := (firsts (polledIn l.deeds)).countP (fun m => m.kind.isTerminal)
    sent ≤ enqueued ∧
    (sent < enqueued → ∀ after, l.run (.enqueue (.progress p) :: after) = l.run after) ∧
    (sent = enqueued → ∀ now, ∃ acks : List ReportQueue.Input,
      (∀ i ∈ acks, ∃ seq ack, i = .acknowledge seq ack) ∧
      (l.run (.enqueue (.progress p) :: acks ++ [.poll now])).deeds.getLast? =
        some (.sent (l.queue.message l.queue.nextSeq (.progress p)) now)) := by
  intro l enqueued sent
  have h : l.Sound (.start agent coordinator mission t) ([] ++ ReportQueue.enqueuedIn inputs) :=
    (sound_start agent coordinator mission t).run inputs
  have hcount : l.queue.waiting.countP Report.isTerminal + sent = enqueued := by
    have hsent : sent = l.queue.sent.countP (fun m => m.kind.isTerminal) := by
      change (firsts (polledIn l.deeds)).countP _ = _
      rw [h.firsts, List.countP_reverse]
    rw [hsent]
    exact h.terminals
  have hany : l.queue.waiting.any Report.isTerminal = true ↔ sent < enqueued := by
    rw [List.any_eq_true, ← List.countP_pos_iff]
    omega
  refine ⟨by omega, fun hlt after => ?_, fun heq now => ?_⟩
  · rcases h.tidy.enqueue_progress p with ⟨-, he⟩ | ⟨hnone, -⟩
    · simp only [run, List.foldl_cons, input, he]
    · cases hnone.symm.trans (hany.2 hlt)
  · rcases h.tidy.enqueue_progress p with ⟨hsome, -⟩ | ⟨-, hw⟩
    · have := hany.1 hsome
      omega
    · have hsame := l.queue.sameSent_enqueue (.progress p)
      rcases exists_sends_next (l := { l with queue := l.queue.enqueue (.progress p) }) hw now with
        ⟨acks, hacks, hlast⟩
      refine ⟨acks, hacks, hlast.trans ?_⟩
      simp only
      rw [hsame]
      rfl

/-- The end of the mission waits behind progress, so what comes after it is not sent;
    once it is in flight, what comes then is. -/
theorem progress_after_terminal_waiting :
    let p : Progress := ⟨5, 1, .zero⟩
    let q := ReportQueue.start 1 0 5 {}
    let inputs : List ReportQueue.Input := [.enqueue (.progress p), .poll 0, .enqueue .completed]
    let next : List ReportQueue.Input := [.acknowledge 1 .complete, .poll 1]
    ((start q).run inputs).run (.enqueue (.progress p) :: next) = ((start q).run inputs).run next ∧
      ∃ acks : List ReportQueue.Input,
        (((start q).run (inputs ++ next)).run
          (.enqueue (.progress p) :: acks ++ [.poll 2])).deeds.getLast? =
            some (.sent (q.message 3 (.progress p)) 2) := by
  intro p q inputs next
  rcases progress_after_terminal 1 0 5 {} inputs p with ⟨-, hdropped, -⟩
  rcases progress_after_terminal 1 0 5 {} (inputs ++ next) p with ⟨-, -, htaken⟩
  refine ⟨hdropped (by decide) next, ?_⟩
  rcases htaken (by decide) 2 with ⟨acks, -, hlast⟩
  exact ⟨acks, hlast⟩

/-- The mission has been reported as completed, and while this report is in flight
    the queue takes progress. When the report is confirmed, the progress is sent
    after it. -/
theorem progress_sent_after_terminal :
    let p : Report := .progress ⟨5, 1, .zero⟩
    let q := ReportQueue.start 1 0 5 {}
    ((start q).run [.enqueue .completed, .poll 0, .enqueue p, .acknowledge 1 .complete,
        .poll 1]).deeds =
      [.sent (q.message 1 .completed) 0, .confirmed 1 [], .sent (q.message 2 p) 1] := by
  decide

end Ledger

end RoverDispatch
