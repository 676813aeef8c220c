import RoverDispatch.Proofs.Session.TransferAttempts

/-!
# Gaps in the Reports

What a session knows of the reports that it has not seen.

A log keeps the highest number and the numbers below it that are lost, and it
changes in two ways only. A report with a new highest number adds what lies
between the old one and its own, and any other report takes its number away,
if it was there. None of this looks at which reports have really arrived, so
whether the log is right is a statement about all that has been heard:
`ReportLog.Tracks` compares it with a list of numbers, and each of the two
changes adds one number to the list. Order does not matter and neither do
repetitions, since the list is only asked what it contains and how high it
goes.

A `Vigil` is a session with that list. Reports count from when the hello has
been answered, since nobody listens to them before, and every report counts,
whatever it carries. The vigil also remembers when there was news last; what
this means for the deadline of the session is not needed here.

An acknowledgement is written from the log as it is after the report, so it
tells exactly what is missing at that moment.

## Main definitions

* `ReportLog.Tracks`: A log tells the highest number received and the gaps
  below it.
* `Supervision.isPastGreeting`: The hello has been answered or given up.
* `Supervisor.counts`: A report that a session counts.
* `Vigil`: A session with the numbers of the reports that counted.
* `Vigil.input`, `Vigil.run`: What happens to it.
* `Vigil.Sound`: The log tracks the reports for as long as the session goes on.

## Theorems

* `ReportLog.Tracks.recover`, `ReportLog.Tracks.advance`: What a report does to
  a log.
* `Supervisor.tracks_react`: A session that has not ended keeps track.
* `Vigil.Sound.run`: A vigil is sound after any inputs.
* `Supervisor.Receives.acknowledges`: An acknowledgement tells what the log says.
* `Vigil.gaps_exact`: What any session knows of its reports.
-/

namespace RoverDispatch

/-! ### Logs and what they keep track of -/

/-- A log tells the highest of the numbers received, if it is above zero, and the
    numbers below it that have not been, in ascending order. -/
structure ReportLog.Tracks (l : ReportLog) (received : List Int) : Prop where
  last : IsGreatest {n | n = 0 ∨ n ∈ received} l.last
  lost : ∀ n, n ∈ l.lost ↔ 1 ≤ n ∧ n < l.last ∧ n ∉ received
  ascending : l.lost.Pairwise (· < ·)

namespace ReportLog

variable {l l' : ReportLog} {received : List Int} {seq n : Int}

theorem tracks_empty : empty.Tracks [] where
  last := ⟨.inl rfl, fun _ hn => hn.elim Int.le_of_eq (fun h => absurd h List.not_mem_nil)⟩
  lost := by
    intro n
    simp only [empty, List.not_mem_nil, false_iff, not_and]
    omega
  ascending := .nil

theorem Tracks.nonneg (h : l.Tracks received) : 0 ≤ l.last := h.last.2 (.inl rfl)

theorem Tracks.le_last (h : l.Tracks received) (hn : n ∈ received) : n ≤ l.last :=
  h.last.2 (.inr hn)

/-- Whether progress has been seen does not matter. -/
theorem Tracks.congr (h : l.Tracks received) (last : l'.last = l.last) (lost : l'.lost = l.lost) :
    l'.Tracks received where
  last := last ▸ h.last
  lost := by rw [last, lost]; exact h.lost
  ascending := lost ▸ h.ascending

/-- A report whose number is not new fills a gap, or there was none. -/
theorem Tracks.recover (h : l.Tracks received) (hknown : seq ≤ l.last) :
    (l.recover seq).Tracks (received ++ [seq]) where
  last := by
    -- It is not above the highest number, so that stays the highest.
    refine ⟨h.last.1.imp_right (List.mem_append_left _), ?_⟩
    rintro n (rfl | hn)
    · exact h.nonneg
    · rcases List.mem_append.1 hn with hn | hn
      · exact h.le_last hn
      · exact List.mem_singleton.1 hn ▸ hknown
  lost := by
    intro n
    simp only [ReportLog.recover, List.mem_filter, h.lost, decide_eq_true_eq, List.mem_append,
      List.mem_singleton, not_or, and_assoc]
  ascending := h.ascending.filter _

/-- A report with a new highest number leaves all numbers between lost. -/
theorem Tracks.advance (h : l.Tracks received) (hnew : l.last < seq) :
    (l.advance seq).Tracks (received ++ [seq]) where
  last := by
    refine ⟨.inr (List.mem_append_right _ (List.mem_singleton_self _)), ?_⟩
    rintro n (rfl | hn)
    · exact Int.le_trans h.nonneg (Int.le_of_lt hnew)
    · rcases List.mem_append.1 hn with hn | hn
      · exact Int.le_trans (h.le_last hn) (Int.le_of_lt hnew)
      · exact Int.le_of_eq (List.mem_singleton.1 hn)
  lost := by
    intro n
    simp only [ReportLog.advance, List.mem_append, h.lost, mem_intRange, List.mem_singleton]
    constructor
    · rintro (⟨hpos, hlt, hnot⟩ | ⟨hlt, hseq⟩)
      · exact ⟨hpos, Int.lt_trans hlt hnew, not_or.2 ⟨hnot, by omega⟩⟩
      · refine ⟨by have := h.nonneg; omega, hseq, not_or.2 ⟨fun hn => ?_, by omega⟩⟩
        have := h.le_last hn
        omega
    · rintro ⟨hpos, hseq, hnot⟩
      rcases not_or.1 hnot with ⟨hnot, -⟩
      -- The old highest number was received, unless it is zero.
      have hne : n ≠ l.last := by
        rintro rfl
        rcases h.last.1 with hzero | hn
        · omega
        · exact hnot hn
      by_cases hlt : n < l.last
      · exact .inl ⟨hpos, hlt, hnot⟩
      · exact .inr ⟨by omega, hseq⟩
  ascending := by
    refine List.pairwise_append.2 ⟨h.ascending, pairwise_intRange _ _, fun a ha b hb => ?_⟩
    have hlow := ((h.lost a).1 ha).2.1
    have hhigh := (mem_intRange.1 hb).1
    omega

end ReportLog

/-! ### Reports that count -/

/-- The hello has been answered or given up. -/
def Supervision.isPastGreeting : Supervision → Bool
  | idle => false
  | awaitingResponse _ _ => false
  | _ => true

theorem Supervision.InTransfer.isPastGreeting {phase : Supervision} {retries : Nat}
    (h : phase.InTransfer retries) : phase.isPastGreeting = true := by
  rcases h with rfl | ⟨deadline, rfl⟩ <;> rfl

namespace Supervisor

/-- The time of an input. -/
def Input.time : Input → Nat
  | greet now => now
  | hear _ now => now
  | wait now => now
  | sent now => now

/-- A report that a session counts: its rover reports on its mission, and the
    hello is no longer waiting for an answer. -/
def counts (s : Supervisor) (m : Message) : Bool :=
  m.kind.isReport && m.sender = s.rover && m.mission = s.mission.id && s.phase.isPastGreeting

/-- The number of the report that an input is, if it counts. -/
def counted (s : Supervisor) : Input → List Int
  | .hear m _ => if s.counts m then [m.seq] else []
  | _ => []

variable {s s' : Supervisor} {m : Message} {now : Nat} {r : SupervisorReaction}
  {received : List Int}

theorem counts_iff : s.counts m = true ↔ m.kind.isReport = true ∧
    (m.sender = s.rover ∧ m.mission = s.mission.id) ∧ s.phase.isPastGreeting = true := by
  simp only [counts, Bool.and_eq_true, decide_eq_true_eq, and_assoc]

theorem counted_of_counts (h : s.counts m = true) : s.counted (.hear m now) = [m.seq] := if_pos h

theorem counted_of_not (h : ¬ s.counts m = true) : s.counted (.hear m now) = [] := if_neg h

/-- A message from elsewhere changes nothing. -/
theorem receive_foreign (h : ¬ (m.sender = s.rover ∧ m.mission = s.mission.id)) (now : Nat) :
    s.receive m now = .quiet s := if_neg h

theorem Supervises.tracks (h : Supervises s m now r) (hlog : s.log.Tracks received) :
    r.state.log.Tracks (received ++ [m.seq]) := by
  cases h with
  | recovers known => exact hlog.recover known
  | progress new kind payload => exact (hlog.advance new).congr rfl rfl
  | ends new outcome => exact hlog.advance new
  | malformed new progress outcome => exact hlog.advance new

/-- As long as a session has not ended, what it hears is put down. -/
theorem tracks_receive (hgoing : s.isTerminal = false) (hlog : s.log.Tracks received)
    (m : Message) (now : Nat) :
    (s.receive m now).state.log.Tracks (received ++ s.counted (.hear m now)) := by
  by_cases hown : m.sender = s.rover ∧ m.mission = s.mission.id
  · have hreceives := s.receives m now
    generalize s.receive m now = r at hreceives ⊢
    -- What is no report counts as little as one that is premature.
    have hquiet : ¬ (m.kind.isReport = true ∧ s.phase.isPastGreeting = true) →
        s.log.Tracks (received ++ s.counted (.hear m now)) := by
      intro hnot
      rw [counted_of_not (fun hcounts => hnot ?_), List.append_nil]
      · exact hlog
      · exact ⟨(counts_iff.1 hcounts).1, (counts_iff.1 hcounts).2.2⟩
    cases hreceives with
    | foreign foreign => exact absurd hown foreign
    | useless report =>
        refine hquiet ?_
        rintro ⟨hreport, hpast⟩
        rcases report hreport with hphase | ⟨retries, deadline, hphase⟩
        · rw [hphase] at hpast
          cases hpast
        · rw [hphase] at hpast
          cases hpast
    | transfers phase kind available => exact hquiet (fun h => absurd (kind ▸ h.1) nofun)
    | declined phase kind unavailable => exact hquiet (fun h => absurd (kind ▸ h.1) nofun)
    | accepted phase kind complete => exact hquiet (fun h => absurd (kind ▸ h.1) nofun)
    | asked phase kind missing => exact hquiet (fun h => absurd (kind ▸ h.1) nofun)
    | acceptedReport phase report supervises =>
        rw [counted_of_counts (counts_iff.2 ⟨report, hown, phase.isPastGreeting⟩)]
        exact supervises.tracks hlog
    | reported phase report supervises =>
        rw [counted_of_counts (counts_iff.2 ⟨report, hown, by rw [phase]; rfl⟩)]
        exact supervises.tracks hlog
    | acknowledged phase report =>
        rw [isTerminal_eq phase] at hgoing
        cases hgoing
  · rw [receive_foreign hown, counted_of_not (fun h => hown (counts_iff.1 h).2.1),
      List.append_nil]
    exact hlog

/-- A session that has not ended keeps track of the reports that count. -/
theorem tracks_react (hgoing : s.isTerminal = false) (hlog : s.log.Tracks received) (i : Input) :
    (s.react i).state.log.Tracks (received ++ s.counted i) := by
  have hsame : ∀ {l : ReportLog}, l = s.log → l.Tracks (received ++ []) := by
    rintro l rfl
    rw [List.append_nil]
    exact hlog
  cases i with
  | greet now => exact hsame (s.greets now).log_eq
  | hear m now => exact tracks_receive hgoing hlog m now
  | wait now => exact hsame (s.polls now).log_eq
  | sent now => exact hsame (s.transmits now).log_eq

/-! ### The greeting is over for good -/

theorem Supervises.isPastGreeting (h : Supervises s m now r)
    (hs : s.phase.isPastGreeting = true) : r.state.phase.isPastGreeting = true := by
  cases h with
  | recovers known => exact hs
  | progress new kind payload => rfl
  | ends new outcome => rfl
  | malformed new progress outcome => exact hs

theorem Receives.isPastGreeting (h : Receives s m now r)
    (hs : s.phase.isPastGreeting = true) : r.state.phase.isPastGreeting = true := by
  cases h with
  | foreign foreign => exact hs
  | useless report => exact hs
  | transfers phase kind available => rfl
  | declined phase kind unavailable => rfl
  | accepted phase kind complete => rfl
  | asked phase kind missing => rfl
  | acceptedReport phase report supervises => exact supervises.isPastGreeting rfl
  | reported phase report supervises => exact supervises.isPastGreeting hs
  | acknowledged phase report => exact hs

theorem Polls.isPastGreeting (h : Polls s now r) (hs : s.phase.isPastGreeting = true) :
    r.state.phase.isPastGreeting = true := by
  cases h with
  | quiet early => exact hs
  | greets phase due more =>
      rw [phase] at hs
      cases hs
  | unresponsive phase due spent => rfl
  | resends phase due more => rfl
  | unconfirmed phase due spent => rfl
  | silent phase due => rfl
  | farewells phase left due => rfl

/-- No session goes back to its greeting. -/
theorem isPastGreeting_react (hs : s.phase.isPastGreeting = true) (i : Input) :
    (s.react i).state.phase.isPastGreeting = true := by
  cases i with
  | greet now =>
      have hgreets := s.greets now
      simp only [react]
      generalize s.greet now = r at hgreets ⊢
      cases hgreets with
      | quiet phase => exact hs
      -- A session greets only before it is past the greeting.
      | opens phase =>
          rw [phase] at hs
          cases hs
  | hear m now => exact (s.receives m now).isPastGreeting hs
  | wait now => exact (s.polls now).isPastGreeting hs
  | sent now =>
      have htransmits := s.transmits now
      simp only [react]
      generalize s.transmitted now = s' at htransmits ⊢
      cases htransmits with
      | quiet phase => exact hs
      | waits phase => rfl

/-- A session that is still greeting has counted nothing. -/
theorem counted_eq_nil (hs : s.phase.isPastGreeting = false) (i : Input) : s.counted i = [] := by
  cases i with
  | hear m now =>
      refine counted_of_not (fun hcounts => ?_)
      exact absurd ((counts_iff.1 hcounts).2.2.symm.trans hs) nofun
  | _ => rfl

/-- A session ends, or does not, as the events of its reaction say. -/
theorem concludes (s : Supervisor) (i : Input) : s.Concludes (s.react i) := by
  cases i with
  | greet now => exact (s.greets now).outcome
  | hear m now => exact (s.receives m now).outcome
  | wait now => exact (s.polls now).outcome
  | sent now => exact (s.transmits now).outcome

/-! ### Acknowledgements -/

/-- What a report on a watched mission is answered with. -/
theorem Supervises.acknowledges (h : Supervises s m now r) :
    (∃ final, r.messages = [r.state.ack m.seq final]) ∨ r.messages = [] ∧ ¬ m.IsWellFormed := by
  cases h with
  | recovers known => exact .inl ⟨false, rfl⟩
  | progress new kind payload => exact .inl ⟨false, rfl⟩
  | ends new outcome => exact .inl ⟨true, rfl⟩
  | malformed new progress outcome =>
      refine .inr ⟨rfl, ?_⟩
      rintro (⟨hkind, p, hp⟩ | ⟨o, ho⟩)
      · exact progress hkind p hp
      · rw [outcome] at ho
        cases ho

/-- A report is answered with one acknowledgement, which tells the log as it is
    then, or with nothing; but never with nothing when it counts and is well
    formed. -/
theorem Receives.acknowledges (h : Receives s m now r) (hreport : m.kind.isReport = true) :
    (∃ final, r.messages = [r.state.ack m.seq final]) ∨
      r.messages = [] ∧ (s.counts m = true → ¬ m.IsWellFormed) := by
  cases h with
  | foreign foreign => exact .inr ⟨rfl, fun h => absurd (counts_iff.1 h).2.1 foreign⟩
  -- A report that is of no use comes before the mission was sent, and does not count.
  | useless report =>
      refine .inr ⟨rfl, fun h => ?_⟩
      have hpast := (counts_iff.1 h).2.2
      rcases report hreport with hphase | ⟨retries, deadline, hphase⟩
      · rw [hphase] at hpast
        cases hpast
      · rw [hphase] at hpast
        cases hpast
  | transfers phase kind available => exact absurd (kind ▸ hreport) nofun
  | declined phase kind unavailable => exact absurd (kind ▸ hreport) nofun
  | accepted phase kind complete => exact absurd (kind ▸ hreport) nofun
  | asked phase kind missing => exact absurd (kind ▸ hreport) nofun
  | acceptedReport phase report supervises =>
      exact supervises.acknowledges.imp_right (fun h => ⟨h.1, fun _ => h.2⟩)
  | reported phase report supervises =>
      exact supervises.acknowledges.imp_right (fun h => ⟨h.1, fun _ => h.2⟩)
  | acknowledged phase report => exact .inl ⟨m.kind.isTerminal, rfl⟩

end Supervisor

/-- A report with a payload that its kind admits is well formed. -/
theorem Message.isWellFormed_of_accepts {m : Message} (hreport : m.kind.isReport = true)
    (h : m.kind.accepts m.payload.tag = true) : m.IsWellFormed := by
  cases hkind : m.kind with
  | progress =>
      cases hpayload : m.payload with
      | progress p => exact .inl ⟨hkind, p, hpayload⟩
      | _ => simp [hkind, hpayload, Payload.tag, Kind.accepts] at h
  | completed => exact .inr ⟨.completed, by rw [outcome?, hkind]⟩
  -- Only the payload of an error report tells what the error was.
  | error =>
      cases hpayload : m.payload with
      | error e => exact .inr ⟨.failed (.missionError e), by rw [outcome?, hkind, hpayload]⟩
      | _ => simp [hkind, hpayload, Payload.tag, Kind.accepts] at h
  | _ =>
      rw [hkind] at hreport
      cases hreport

/-! ### Vigils -/

/-- A session with what it has heard of the rover. -/
structure Vigil where
  supervisor : Supervisor
  /-- The numbers of the reports that counted, in order. -/
  received : List Int
  /-- When the mission was accepted, or there was progress last. -/
  since : Option Nat
  deriving DecidableEq

namespace Vigil

open Supervisor (Input)

/-- A session that has heard nothing. -/
def start (supervisor : Supervisor) : Vigil := ⟨supervisor, [], none⟩

/-- A report of progress that counts, with a number above zero and above those of
    all reports that have counted. -/
def isProgress (v : Vigil) (m : Message) : Bool :=
  v.supervisor.counts m && m.kind = .progress && m.payload.tag = .progress &&
    (0 :: v.received).all (· < m.seq)

/-- The mission is accepted, or there is progress. -/
def isNews (v : Vigil) (i : Input) : Bool :=
  .accepted ∈ (v.supervisor.react i).events || i.message?.any v.isProgress

/-- The session makes something of an input. -/
def input (v : Vigil) (i : Input) : Vigil where
  supervisor := (v.supervisor.react i).state
  received := v.received ++ v.supervisor.counted i
  since := if v.isNews i then some i.time else v.since

/-- A number of inputs. -/
def run (v : Vigil) (inputs : List Input) : Vigil := inputs.foldl input v

/-- As long as the session goes on, its log tracks the reports that counted, and
    none has during the greeting. -/
structure Sound (v : Vigil) : Prop where
  tracks : v.supervisor.isTerminal = false → v.supervisor.log.Tracks v.received
  fresh : v.supervisor.phase.isPastGreeting = false → v.received = []

variable {v : Vigil}

/-- The log is right after every input to a session that goes on, also if this is
    its end. -/
theorem Sound.tracks_input (h : v.Sound) (hgoing : v.supervisor.isTerminal = false) (i : Input) :
    (v.input i).supervisor.log.Tracks (v.input i).received :=
  Supervisor.tracks_react hgoing (h.tracks hgoing) i

theorem Sound.input (h : v.Sound) (i : Input) : (v.input i).Sound where
  tracks := by
    intro hgoing
    -- The session has not ended before either.
    refine h.tracks_input (eq_false_of_ne_true (fun hended => ?_)) i
    exact absurd (((v.supervisor.concludes i).isTerminal hended).symm.trans hgoing) nofun
  fresh := by
    intro hgreeting
    have hbefore : v.supervisor.phase.isPastGreeting = false := by
      refine eq_false_of_ne_true (fun hpast => ?_)
      exact absurd ((Supervisor.isPastGreeting_react hpast i).symm.trans hgreeting) nofun
    rw [Vigil.input, h.fresh hbefore, Supervisor.counted_eq_nil hbefore, List.append_nil]

theorem Sound.run (h : v.Sound) (inputs : List Input) : (v.run inputs).Sound := by
  induction inputs generalizing v with
  | nil => exact h
  | cons i inputs ih => exact ih (h.input i)

theorem Sound.start {timing : Timing} {rover : Int} {mission : Mission} {s : Supervisor}
    (hs : Supervisor.prepare timing rover mission = .ok s) : (start s).Sound := by
  rcases Supervisor.of_prepare hs with ⟨transfer, -, rfl⟩
  exact ⟨fun _ => ReportLog.tracks_empty, fun _ => rfl⟩

/-- A vigil disturbs nothing. -/
theorem supervisor_run (v : Vigil) (inputs : List Input) :
    (v.run inputs).supervisor = v.supervisor.run inputs := by
  induction inputs generalizing v with
  | nil => rfl
  | cons i inputs ih => exact ih (v.input i)

/-- Whatever happens to a session, in whatever order its reports arrive and however
    often, it knows as long as it has not ended, and still when an input ends it,
    which is the highest number received and which numbers below it have not
    been. A report is answered with an acknowledgement that lists exactly these
    in ascending order, and says whether there are none; if the report counts and
    its kind admits the payload, there is such an answer. A report whose number
    is not new tells nothing but, perhaps, that the mission is accepted. -/
theorem gaps_exact {timing : Timing} {rover : Int} {mission : Mission} {s : Supervisor}
    (hs : Supervisor.prepare timing rover mission = .ok s) (inputs : List Input) :
    let v := (start s).run inputs
    (v.supervisor.isTerminal = false →
      v.supervisor.log.Tracks v.received ∧
        ∀ i, (v.input i).supervisor.log.Tracks (v.input i).received) ∧
    ∀ m now, m.kind.isReport = true →
      let r := v.supervisor.receive m now
      let v' := v.input (.hear m now)
      (v.supervisor.isTerminal = false →
        (∀ x ∈ r.messages, ∃ missing final,
          x.kind = .ack ∧ x.seq = m.seq ∧ x.payload = .ack ⟨missing, final⟩ ∧
            missing.Pairwise (· < ·) ∧
            (∀ n, n ∈ missing ↔ 1 ≤ n ∧ n < v'.supervisor.log.last ∧ n ∉ v'.received) ∧
            (x.success = true ↔ missing = [])) ∧
        (v.supervisor.counts m = true → m.kind.accepts m.payload.tag = true →
          r.messages.length = 1)) ∧
      (m.seq ≤ v.supervisor.log.last → ∀ e ∈ r.events, e = .accepted) := by
  intro v
  have hv : v.Sound := (Sound.start hs).run inputs
  refine ⟨fun hgoing => ⟨hv.tracks hgoing, hv.tracks_input hgoing⟩, fun m now hreport => ?_⟩
  intro r v'
  have hreceives : Supervisor.Receives v.supervisor m now r := v.supervisor.receives m now
  refine ⟨fun hgoing => ⟨fun x hx => ?_, fun hcounts haccepts => ?_⟩, fun hknown e he => ?_⟩
  · have htracks : v'.supervisor.log.Tracks v'.received := hv.tracks_input hgoing _
    rcases hreceives.acknowledges hreport with ⟨final, hmessages⟩ | ⟨hnone, -⟩
    · rw [hmessages] at hx
      cases List.mem_singleton.1 hx
      exact ⟨v'.supervisor.log.lost, final, rfl, rfl, rfl, htracks.ascending, htracks.lost,
        List.isEmpty_iff⟩
    · rw [hnone] at hx
      cases hx
  · rcases hreceives.acknowledges hreport with ⟨final, hmessages⟩ | ⟨-, hmalformed⟩
    · rw [hmessages]
      rfl
    · exact absurd (Message.isWellFormed_of_accepts hreport haccepts) (hmalformed hcounts)
  · -- Whatever else is told is news, and news has a new number.
    by_contra hne
    have hnews : e ∈ newsIn r.events := List.mem_filter.2 ⟨he, decide_eq_true hne⟩
    cases hreceives.logs hreport with
    | idle news last cause =>
        rw [news] at hnews
        cases hnews
    | told going new news tells last => omega
    | counted going new news last malformed => omega

/-- The third report is the first to arrive, and shows that the rover has the
    mission; the seventh leaves another gap, which the fifth splits; the second
    arrives twice; and the ninth is the last. -/
theorem gaps_exact_nested :
    let m : Mission := ⟨1, .zero, .zero, .zero, .zero, "scan", 60, 2, 0, 1⟩
    let report (kind : Kind) (seq : Int) (payload : Payload) : Message :=
      { kind, sender := 7, receiver := coordinatorId, mission := 1, seq, success := true, payload }
    let p (seq : Int) : Message := report .progress seq (.progress ⟨1, 2, .zero⟩)
    let inputs : List Input := [.greet 0, .hear (report .response 1 .empty) 1, .hear (p 3) 2,
      .sent 3, .hear (p 7) 4, .hear (p 2) 5, .hear (p 5) 6, .hear (p 2) 7]
    let last : Input := .hear (report .completed 9 .empty) 8
    ∃ s, Supervisor.prepare {} 7 m = .ok s ∧
      let v := (start s).run inputs
      v.received = [3, 7, 2, 5, 2] ∧ v.supervisor.log.Tracks v.received ∧
        v.supervisor.log.lost = [1, 4, 6] ∧
        (v.input last).supervisor.isTerminal = true ∧
        (v.input last).supervisor.log.Tracks [3, 7, 2, 5, 2, 9] ∧
        (v.input last).supervisor.log.lost = [1, 4, 6, 8] := by
  intro m report p inputs last
  have hrun : ∃ s, Supervisor.prepare {} 7 m = .ok s ∧
      let v := (start s).run inputs
      v.supervisor.isTerminal = false ∧ v.received = [3, 7, 2, 5, 2] ∧
        v.supervisor.log.lost = [1, 4, 6] ∧ (v.input last).supervisor.isTerminal = true ∧
        (v.input last).received = [3, 7, 2, 5, 2, 9] ∧
        (v.input last).supervisor.log.lost = [1, 4, 6, 8] :=
    Supervisor.exists_prepare_of_check (by decide +kernel)
  rcases hrun with ⟨s, hs, hgoing, hreceived, hlost, hended, hall, hleft⟩
  rcases (gaps_exact hs inputs).1 hgoing with ⟨htracks, hnext⟩
  exact ⟨s, hs, hreceived, htracks, hlost, hended, hall ▸ hnext last, hleft⟩

end Vigil

end RoverDispatch
