import RoverDispatch.Proofs.Session.ReportGaps

/-!
# Silence

What makes a session give up on a rover that has the mission.

A watched mission has one deadline. It is set when the mission is accepted and
set anew by progress, and by nothing else: not by reports that are repeated or
come late, not by acknowledgements or answers, not by what other rovers say.
So it always lies one wait after the last news, and a session that gives up
has been without news for that long.

The code never says what news is. It compares the number of a report with the
highest number in its log, which is right because the log tracks the reports
received; `Vigil` says what news is in terms of these reports alone. The
number none stands for in the log is zero, and that shows: a report with a
number of zero or below is never news, not even if it is the first to arrive
or higher than all before it.

A wait that would end after the largest time ends there instead. A session
that is polled before the largest time is not deceived by this, since the
deadline has then not been cut.

## Main definitions

* `Vigil.Awaits`: The deadline lies one wait after the last news.

## Theorems

* `Vigil.isProgress_iff`: Progress is news when its number is above the highest
  in the log.
* `Vigil.resets_input`: The deadline after an input is new with news only.
* `Supervisor.accepted_not_mem_of_watching`: A mission is accepted once.
* `Vigil.Awaits.run`: The deadline lies where it should after any inputs.
* `Supervisor.silent_mem_poll_iff`: When a session gives up on a silent rover.
* `Vigil.deadline_since_news`: Only silence makes a session give up.
-/

namespace RoverDispatch

/-! ### Giving up -/

namespace Supervisor

variable {s : Supervisor} {now : Nat}

/-- How long the mission may be silent. -/
def silenceLimit (s : Supervisor) : Nat := s.timing.progressTimeout s.mission.updateInterval

/-- A mission that is watched has been accepted, and is not again. -/
theorem accepted_not_mem_of_watching {d : Nat} (h : s.phase = .watching d) (i : Input) :
    .accepted ∉ (s.react i).events := by
  have hunseen : s.Unseen :=
    fun hopening => absurd ((chapter_of_watching h).symm.trans hopening) nofun
  have hleads := (narrates hunseen i).leads
  rw [chapter_of_watching h] at hleads
  rcases hleads.of_underway with ⟨ps, ⟨-, hevents⟩ | ⟨-, hevents⟩ | ⟨reason, -, -, hevents⟩⟩
  · simp [hevents]
  · simp [hevents]
  · simp [hevents]

/-- A session gives up on a silent rover at its deadline, if it watches the
    mission. -/
theorem silent_mem_poll_iff : (∃ seen, .failed .silent seen ∈ (s.poll now).events) ↔
    ∃ d, s.phase = .watching d ∧ d ≤ now := by
  have hpolls := s.polls now
  constructor
  · rintro ⟨seen, hsilent⟩
    generalize s.poll now = r at hpolls hsilent
    -- The other failures have other reasons.
    cases hpolls with
    | silent phase due => exact ⟨_, phase, due⟩
    | unresponsive phase due spent => cases List.mem_singleton.1 hsilent
    | unconfirmed phase due spent => cases List.mem_singleton.1 hsilent
    | _ => cases hsilent
  · rintro ⟨d, hphase, hdue⟩
    refine ⟨s.log.progressSeen, ?_⟩
    simp only [poll, hphase, if_neg (Nat.not_lt.2 hdue), fail, List.mem_singleton]

end Supervisor

namespace Vigil

open Supervisor (Input Supervises Receives Polls)

variable {v : Vigil} {m : Message} {now d : Nat} {i : Input} {r : SupervisorReaction}

/-! ### News -/

/-- Progress is news when its number is above the highest in the log. -/
theorem isProgress_iff (h : v.supervisor.log.Tracks v.received) :
    v.isProgress m = true ↔ v.supervisor.counts m = true ∧ m.kind = .progress ∧
      m.payload.tag = .progress ∧ v.supervisor.log.last < m.seq := by
  have hhighest : (0 :: v.received).all (· < m.seq) = true ↔ v.supervisor.log.last < m.seq := by
    simp only [List.all_eq_true, List.mem_cons, decide_eq_true_eq]
    constructor
    · exact fun habove => habove _ h.last.1
    · exact fun hnew n hn => Int.lt_of_le_of_lt (h.last.2 hn) hnew
  simp only [isProgress, Bool.and_eq_true, decide_eq_true_eq, hhighest, and_assoc]

/-- An input that tells of no acceptance and is no progress is no news. -/
theorem isNews_eq_false (hevents : .accepted ∉ (v.supervisor.react i).events)
    (hprogress : ∀ m ∈ i.message?, v.isProgress m = false) : v.isNews i = false := by
  rw [isNews, Bool.or_eq_false_iff]
  exact ⟨decide_eq_false hevents, (Option.any_eq_false _ _).2 hprogress⟩

theorem isNews_of_accepted (hevents : .accepted ∈ (v.supervisor.react i).events) :
    v.isNews i = true := by
  rw [isNews, decide_eq_true hevents, Bool.true_or]

theorem isNews_of_isProgress (h : v.isProgress m = true) : v.isNews (.hear m now) = true := by
  rw [isNews, Bool.or_eq_true]
  exact .inr h

/-! ### The deadline and the last news -/

/-- A watched mission after an input: with news its deadline is one wait away,
    and without news it is what it was. -/
def Resets (v : Vigil) (i : Input) (d : Nat) : Prop :=
  v.isNews i = true ∧ d = later i.time v.supervisor.silenceLimit ∨
    v.isNews i = false ∧ v.supervisor.phase = .watching d

/-- A report on a watched mission. -/
theorem resets_supervises (h : v.supervisor.log.Tracks v.received)
    (hcounts : v.supervisor.counts m = true) (hr : v.supervisor.receive m now = r)
    (hsupervises : Supervises (v.supervisor.heard now) m now r)
    (hd : r.state.phase = .watching d) : v.Resets (.hear m now) d := by
  have hevents : (v.supervisor.react (.hear m now)).events = r.events := by rw [← hr]; rfl
  cases hsupervises with
  | recovers known =>
      -- The number is at most the highest received, so the report is no news.
      refine .inr ⟨isNews_eq_false (hevents ▸ List.not_mem_nil) ?_, hd⟩
      rintro x ⟨⟩
      refine eq_false_of_ne_true (fun hprogress => ?_)
      exact absurd ((isProgress_iff h).1 hprogress).2.2.2 (Int.not_lt.2 known)
  | @progress p new kind payload =>
      refine .inl ⟨isNews_of_isProgress ?_, ?_⟩
      · exact (isProgress_iff h).2 ⟨hcounts, kind, by rw [payload]; rfl, new⟩
      · cases hd
        rfl
  | ends new outcome => cases hd
  | malformed new progress outcome =>
      refine .inr ⟨isNews_eq_false (hevents ▸ List.not_mem_nil) ?_, hd⟩
      rintro x ⟨⟩
      refine eq_false_of_ne_true (fun hprogress => ?_)
      rcases ((isProgress_iff h).1 hprogress).2 with ⟨hkind, htag, -⟩
      cases hpayload : m.payload with
      | progress p => exact progress hkind p hpayload
      | _ => simp [hpayload, Payload.tag] at htag

/-- A message to any session. -/
theorem resets_receive (h : v.supervisor.log.Tracks v.received)
    (hd : (v.supervisor.receive m now).state.phase = .watching d) :
    v.Resets (.hear m now) d := by
  by_cases hown : m.sender = v.supervisor.rover ∧ m.mission = v.supervisor.mission.id
  · have hreceives := v.supervisor.receives m now
    generalize hr : v.supervisor.receive m now = r at hreceives hd
    have hevents : (v.supervisor.react (.hear m now)).events = r.events := by rw [← hr]; rfl
    cases hreceives with
    | foreign foreign => exact absurd hown foreign
    | useless report =>
        -- A mission that is watched has a use for every report.
        refine .inr ⟨isNews_eq_false (hevents ▸ List.not_mem_nil) ?_, hd⟩
        rintro x ⟨⟩
        refine eq_false_of_ne_true (fun hprogress => ?_)
        have hcounts := Supervisor.counts_iff.1 ((isProgress_iff h).1 hprogress).1
        rcases report hcounts.1 with hphase | ⟨retries, deadline, hphase⟩
        · exact absurd (hphase.symm.trans hd) nofun
        · exact absurd (hphase.symm.trans hd) nofun
    | transfers phase kind available => cases hd
    | declined phase kind unavailable => cases hd
    | accepted phase kind complete =>
        refine .inl ⟨isNews_of_accepted (hevents ▸ List.mem_singleton_self _), ?_⟩
        cases hd
        rfl
    | asked phase kind missing => cases hd
    | acceptedReport phase report supervises =>
        -- Acceptance is news, whether or not the report is.
        refine .inl ⟨isNews_of_accepted (hevents ▸ List.mem_cons_self), ?_⟩
        cases supervises with
        | ends new outcome => cases hd
        | _ =>
            cases hd
            rfl
    | reported phase report supervises =>
        refine resets_supervises h (Supervisor.counts_iff.2 ⟨report, hown, ?_⟩) hr supervises hd
        rw [phase]
        rfl
    | acknowledged phase report => exact absurd (phase.symm.trans hd) nofun
  · -- What others say is heard by nobody.
    rw [Supervisor.receive_foreign hown] at hd
    refine .inr ⟨isNews_eq_false ?_ ?_, hd⟩
    · rw [Supervisor.react, Supervisor.receive_foreign hown]
      exact List.not_mem_nil
    · rintro x ⟨⟩
      refine eq_false_of_ne_true (fun hprogress => hown ?_)
      exact (Supervisor.counts_iff.1 ((isProgress_iff h).1 hprogress).1).2.1

/-- The deadline of a watched mission is new with news only. -/
theorem resets_input (h : v.supervisor.log.Tracks v.received)
    (hd : (v.input i).supervisor.phase = .watching d) : v.Resets i d := by
  -- Only a message can be progress.
  have hnothing : ∀ m ∈ (none : Option Message), v.isProgress m = false :=
    fun _ hm => absurd hm (Option.not_mem_none _)
  cases i with
  -- All else leaves the deadline as it was, if the mission is still watched.
  | hear m now => exact resets_receive h hd
  | greet now =>
      have hgreets := v.supervisor.greets now
      have hevents : (v.supervisor.react (.greet now)).events = [] := hgreets.events
      refine .inr ⟨isNews_eq_false (hevents ▸ List.not_mem_nil) hnothing, ?_⟩
      simp only [input, Supervisor.react] at hd
      generalize v.supervisor.greet now = r at hgreets hd
      cases hgreets with
      | quiet phase => exact hd
      | opens phase => cases hd
  | wait now =>
      have hpolls := v.supervisor.polls now
      have hevents : .accepted ∉ (v.supervisor.poll now).events := fun he => (hpolls.local he).2 rfl
      refine .inr ⟨isNews_eq_false hevents hnothing, ?_⟩
      simp only [input, Supervisor.react] at hd
      generalize v.supervisor.poll now = r at hpolls hd
      cases hpolls with
      | quiet early => exact hd
      | _ => cases hd
  | sent now =>
      have htransmits := v.supervisor.transmits now
      refine .inr ⟨isNews_eq_false List.not_mem_nil hnothing, ?_⟩
      simp only [input, Supervisor.react] at hd
      generalize v.supervisor.transmitted now = s' at htransmits hd
      cases htransmits with
      | quiet phase => exact hd
      | waits phase => cases hd

/-! ### Whole runs -/

/-- The deadline of a watched mission lies one wait after the last news. -/
structure Awaits (timing : Timing) (mission : Mission) (v : Vigil) : Prop where
  sound : v.Sound
  regular : v.supervisor.Regular timing
  about : v.supervisor.mission = mission
  deadline : ∀ d, v.supervisor.phase = .watching d →
    ∃ t, v.since = some t ∧ d = later t (timing.progressTimeout mission.updateInterval)

variable {timing : Timing} {mission : Mission}

theorem Awaits.silenceLimit_eq (h : v.Awaits timing mission) :
    v.supervisor.silenceLimit = timing.progressTimeout mission.updateInterval := by
  rw [Supervisor.silenceLimit, h.regular.timing, h.about]

/-- A session that watches a mission keeps its log right. -/
theorem Awaits.tracks (h : v.Awaits timing mission) (hd : v.supervisor.phase = .watching d) :
    v.supervisor.log.Tracks v.received :=
  h.sound.tracks (Supervisor.isTerminal_eq hd)

/-- If a mission is watched after an input, the log was right before it. -/
theorem Awaits.tracks_of_input (h : v.Awaits timing mission)
    (hd : (v.input i).supervisor.phase = .watching d) : v.supervisor.log.Tracks v.received := by
  refine h.sound.tracks (eq_false_of_ne_true (fun hended => ?_))
  have hlater : (v.input i).supervisor.isTerminal = true :=
    (v.supervisor.concludes i).isTerminal hended
  rw [Supervisor.isTerminal_eq hd] at hlater
  cases hlater

theorem Awaits.input (h : v.Awaits timing mission) (i : Input) :
    (v.input i).Awaits timing mission where
  sound := h.sound.input i
  regular := h.regular.react i
  about := (v.supervisor.speaks i).mission.trans h.about
  deadline := by
    intro d hd
    rw [← h.silenceLimit_eq]
    -- News sets the deadline anew, and anything else leaves it as it was.
    rcases resets_input (h.tracks_of_input hd) hd with ⟨hnews, hreset⟩ | ⟨hnone, hbefore⟩
    · exact ⟨i.time, if_pos hnews, hreset⟩
    · rcases h.deadline d hbefore with ⟨t, hsince, hdeadline⟩
      refine ⟨t, ?_, h.silenceLimit_eq ▸ hdeadline⟩
      rw [Vigil.input, hnone]
      exact hsince

theorem Awaits.run (h : v.Awaits timing mission) (inputs : List Input) :
    (v.run inputs).Awaits timing mission := by
  induction inputs generalizing v with
  | nil => exact h
  | cons i inputs ih => exact ih (h.input i)

theorem Awaits.start {rover : Int} {s : Supervisor}
    (hs : Supervisor.prepare timing rover mission = .ok s) :
    (start s).Awaits timing mission where
  sound := .start hs
  regular := .prepare hs
  about := by
    rcases Supervisor.of_prepare hs with ⟨transfer, -, rfl⟩
    rfl
  deadline := by
    rcases Supervisor.of_prepare hs with ⟨transfer, -, rfl⟩
    exact nofun

/-- Whatever happens to a session, a mission that it watches has a deadline that
    lies one wait after the last news, or at the largest time if that comes
    first. News is that the mission is accepted, and a report of progress whose
    number is above zero and above those of all reports received before it. Once
    the mission is watched, nothing but such a report moves the deadline. A
    session that is polled before the largest time gives up on a silent rover
    exactly if it watches the mission and one wait has passed since the last
    news. -/
theorem deadline_since_news {rover : Int} {s : Supervisor}
    (hs : Supervisor.prepare timing rover mission = .ok s) (inputs : List Input) :
    let v := (start s).run inputs
    let wait := timing.progressTimeout mission.updateInterval
    (∀ d, v.supervisor.phase = .watching d →
      ∃ t, v.since = some t ∧ d = min maxTime (t + wait)) ∧
    (∀ d i, v.supervisor.phase = .watching d → (∀ m ∈ i.message?, v.isProgress m = false) →
      ∀ d', (v.input i).supervisor.phase = .watching d' → d' = d) ∧
    ∀ now < maxTime, (∃ seen, .failed .silent seen ∈ (v.supervisor.poll now).events) ↔
      (∃ d, v.supervisor.phase = .watching d) ∧ ∃ t, v.since = some t ∧ t + wait ≤ now := by
  intro v wait
  have hv : v.Awaits timing mission := (Awaits.start hs).run inputs
  refine ⟨hv.deadline, fun d i hd hnone d' hd' => ?_, fun now hnow => ?_⟩
  · have hquiet : v.isNews i = false :=
      isNews_eq_false (Supervisor.accepted_not_mem_of_watching hd i) hnone
    -- What is not news has not set the deadline anew.
    rcases resets_input (hv.tracks_of_input hd') hd' with ⟨hnews, -⟩ | ⟨-, hbefore⟩
    · rw [hquiet] at hnews
      cases hnews
    · rw [hd] at hbefore
      cases hbefore
      rfl
  · rw [Supervisor.silent_mem_poll_iff]
    constructor
    · rintro ⟨d, hd, hdue⟩
      rcases hv.deadline d hd with ⟨t, hsince, rfl⟩
      refine ⟨⟨_, hd⟩, t, hsince, ?_⟩
      -- The deadline is before the largest time, so it has not been cut.
      rw [later] at hdue
      omega
    · rintro ⟨⟨d, hd⟩, t, hsince, hdue⟩
      rcases hv.deadline d hd with ⟨t', hsince', rfl⟩
      cases hsince.symm.trans hsince'
      exact ⟨_, hd, Nat.le_trans (Nat.min_le_right _ _) hdue⟩

/-- The third report is the first to arrive, and the seventh is the last news. What
    follows is no news: the third report once more, the second one, an
    acknowledgement, an answer to the hello, and progress of another rover. -/
theorem deadline_since_news_replayed :
    let m : Mission := ⟨1, .zero, .zero, .zero, .zero, "scan", 60, 2, 0, 1⟩
    let heard (sender : Int) (kind : Kind) (seq : Int) (payload : Payload) : Message :=
      { kind, sender, receiver := coordinatorId, mission := 1, seq, success := true, payload }
    let p (sender seq : Int) : Message := heard sender .progress seq (.progress ⟨1, 2, .zero⟩)
    let inputs : List Input := [.greet 0, .hear (heard 7 .response 1 .empty) 1,
      .hear (p 7 3) 2, .hear (p 7 7) 5000, .hear (p 7 3) 6000, .hear (p 7 2) 7000,
      .hear (heard 7 .ack 2 (.ack ⟨[], false⟩)) 8000, .hear (heard 7 .response 1 .empty) 9000,
      .hear (p 8 9) 10000]
    ∃ s, Supervisor.prepare {} 7 m = .ok s ∧
      let v := (start s).run inputs
      v.since = some 5000 ∧ v.supervisor.phase = .watching 21000 ∧
        (¬ ∃ seen, .failed .silent seen ∈ (v.supervisor.poll 20999).events) ∧
        ∃ seen, .failed .silent seen ∈ (v.supervisor.poll 21000).events := by
  intro m heard p inputs
  have hrun : ∃ s, Supervisor.prepare {} 7 m = .ok s ∧
      ((start s).run inputs).since = some 5000 ∧
      ((start s).run inputs).supervisor.phase = .watching 21000 :=
    Supervisor.exists_prepare_of_check (by decide +kernel)
  rcases hrun with ⟨s, hs, hsince, hphase⟩
  rcases deadline_since_news hs inputs with ⟨-, -, hpoll⟩
  refine ⟨s, hs, hsince, hphase, ?_, ?_⟩
  · rintro hsilent
    rcases ((hpoll 20999 (by decide)).1 hsilent).2 with ⟨t, ht, hdue⟩
    cases hsince.symm.trans ht
    exact absurd hdue (by decide)
  · exact (hpoll 21000 (by decide)).2 ⟨⟨_, hphase⟩, 5000, hsince, by decide⟩

/-- Two reports of progress with numbers below zero arrive on a mission that was
    accepted before. The number of the second is higher than that of the first,
    and no other report was received; but the deadline stays where acceptance has
    put it, and the session gives up before the wait after the second is over. -/
theorem deadline_below_zero :
    let m : Mission := ⟨1, .zero, .zero, .zero, .zero, "scan", 60, 2, 0, 1⟩
    let heard (kind : Kind) (seq : Int) (payload : Payload) : Message :=
      { kind, sender := 7, receiver := coordinatorId, mission := 1, seq, success := true, payload }
    let p (seq : Int) : Message := heard .progress seq (.progress ⟨1, 2, .zero⟩)
    let inputs : List Input := [.greet 0, .hear (heard .response 1 .empty) 1, .sent 2,
      .hear (heard .ack 2 (.ack ⟨[], false⟩)) 30, .hear (p (-2)) 5000]
    let second : Input := .hear (p (-1)) 10000
    ∃ s, Supervisor.prepare {} 7 m = .ok s ∧
      let v := (start s).run inputs
      v.received = [-2] ∧ (∀ n ∈ v.received, n < (p (-1)).seq) ∧
        v.supervisor.counts (p (-1)) = true ∧
        (v.input second).supervisor.phase = .watching 16030 ∧
        ((v.input second).supervisor.poll 16030).events = [.failed .silent false] ∧
        16030 < 10000 + Timing.progressTimeout {} m.updateInterval := by
  intro m heard p inputs second
  exact Supervisor.exists_prepare_of_check (by decide +kernel)

end Vigil

end RoverDispatch
