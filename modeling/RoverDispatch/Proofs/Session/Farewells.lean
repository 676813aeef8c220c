import RoverDispatch.Proofs.Session.ReportGaps
import RoverDispatch.Proofs.Session.Waits

/-!
# Farewells

What a session still says when it has ended.

A session that a report has ended acknowledges this report at once, and then
again whenever it is polled and the pause since the last time is over, as often
as it was told to. Meanwhile the rover can repeat itself, send what was asked
for again, or start to report anew, and every report is answered; but no report
disturbs the farewell, and the farewell does not depend on what is heard.
`Farewell.Sends` says what a farewell becomes while it is said, and how often
and when it is said is an induction on that. The pauses are counted as `after`
counts them, so with pauses so long that a sum goes past the largest time, the
next acknowledgement can be due at once.

A session that has ended looks at nothing but the kind and the number of a
report. Its log stays as it is, so a report that was lost at the end is listed
as missing in every acknowledgement that follows, also after it has arrived. As
long as the session goes on, a report that has arrived is listed by none: this
follows from `Vigil`, since the log tracks the reports until the end.

## Main definitions

* `Message.Acknowledges`: A message acknowledges a report.
* `Supervisor.sendings`, `Supervisor.polled`: What is sent on a number of inputs,
  and what of it is sent because time has passed.
* `Supervisor.Rests`: What an input to a session that has ended can lead to.
* `Farewell.Sends`: What a farewell becomes while it is said.
* `Vigil.Holds`: A report has arrived and is not missing.

## Theorems

* `Supervisor.acks_react`: An acknowledgement lists what the log says is lost.
* `Supervisor.rests`: The list is complete.
* `Supervisor.sends_run`: A farewell is said, whatever else happens.
* `Supervisor.farewells_counted`: How often and when it is said.
* `Vigil.Holds.input`: A report that has arrived before the end is not missed
  again.
* `Supervisor.listed_after_delivery`: Which reports are listed as missing
  although they have arrived.
-/

namespace RoverDispatch

/-! ### What is sent -/

/-- A message acknowledges the report of a number, perhaps as the final one. -/
structure Message.Acknowledges (x : Message) (seq : Int) (final : Bool) : Prop where
  kind : x.kind = .ack
  seq : x.seq = seq
  payload : ∃ missing, x.payload = .ack ⟨missing, final⟩

namespace Supervisor

/-- What is sent on a number of inputs, each message with the input that leads
    to it. -/
def sendings : Supervisor → List Input → List (Input × Message)
  | _, [] => []
  | s, i :: is => (s.react i).messages.map (Prod.mk i) ++ (s.react i).state.sendings is

variable {s : Supervisor} {m x : Message} {now : Nat} {i : Input} {r : SupervisorReaction}
  {o : SessionOutcome} {f : Farewell}

/-- What holds of all messages that a session sends, if the session keeps a
    property from which it follows. -/
theorem forall_sendings {P : Supervisor → Prop} {Q : Input → Message → Prop}
    (keeps : ∀ s i, P s → P (s.react i).state)
    (tells : ∀ s i, P s → ∀ x ∈ (s.react i).messages, Q i x) (h : P s) (inputs : List Input) :
    ∀ y ∈ s.sendings inputs, Q y.1 y.2 := by
  induction inputs generalizing s with
  | nil => exact fun _ hy => absurd hy List.not_mem_nil
  | cons i inputs ih =>
      intro y hy
      rcases List.mem_append.1 hy with hfirst | hlater
      · rcases List.mem_map.1 hfirst with ⟨x, hx, rfl⟩
        exact tells s i h x hx
      · exact ih (keeps s i h) y hlater

/-- An acknowledgement lists what the log says is lost when it is sent. -/
theorem acks_react (hs : s.Equipped) (hx : x ∈ (s.react i).messages) (hkind : x.kind = .ack) :
    ∃ seq final, x = (s.react i).state.ack seq final := by
  -- Neither the transfer nor the hello contains an acknowledgement.
  have htransfer : x ∉ s.transfer := fun h => absurd ((hs.kind x h).symm.trans hkind) nofun
  have hhello : x ∉ [s.hello] := by
    intro h
    cases List.mem_singleton.1 h
    cases hkind
  cases i with
  | greet now =>
      have hgreets := s.greets now
      simp only [react] at hx ⊢
      generalize s.greet now = r at hgreets hx ⊢
      cases hgreets with
      | quiet phase => cases hx
      | opens phase => exact absurd hx hhello
  | hear m now =>
      have hreceives := s.receives m now
      simp only [react] at hx ⊢
      by_cases hreport : m.kind.isReport = true
      · rcases hreceives.acknowledges hreport with ⟨final, hmessages⟩ | ⟨hnone, -⟩
        · rw [hmessages] at hx
          exact ⟨m.seq, final, List.mem_singleton.1 hx⟩
        · rw [hnone] at hx
          cases hx
      · -- Anything else is answered with parts of the transfer at most.
        generalize s.receive m now = r at hreceives hx ⊢
        cases hreceives with
        | transfers phase kind available => exact absurd hx htransfer
        | asked phase kind missing => exact absurd (List.mem_filter.1 hx).1 htransfer
        | acceptedReport phase report supervises => exact absurd report hreport
        | reported phase report supervises => exact absurd report hreport
        | acknowledged phase report => exact absurd report hreport
        | _ => cases hx
  | wait now =>
      have hpolls := s.polls now
      simp only [react] at hx ⊢
      generalize s.poll now = r at hpolls hx ⊢
      cases hpolls with
      | greets phase due more => exact absurd hx hhello
      | resends phase due more => exact absurd hx htransfer
      | farewells phase left due => exact ⟨_, true, List.mem_singleton.1 hx⟩
      | _ => cases hx
  | sent now => cases hx

/-! ### After the end -/

/-- What an input to a session that has ended can lead to. -/
inductive Rests (s : Supervisor) (o : SessionOutcome) (f : Farewell) :
    Input → SupervisorReaction → Prop where
  /-- Nothing is due, or somebody else speaks. -/
  | ignores {i : Input}
      (foreign : ∀ m ∈ i.message?, ¬ (m.sender = s.rover ∧ m.mission = s.mission.id)) :
      Rests s o f i (.quiet s)
  /-- The rover says something that is no report. -/
  | hears {m : Message} (now : Nat) (report : m.kind.isReport = false) :
      Rests s o f (.hear m now) (.quiet (s.heard now))
  /-- The rover reports. -/
  | answers {m : Message} (now : Nat) (report : m.kind.isReport = true) :
      Rests s o f (.hear m now)
        { state := s.heard now, messages := [(s.heard now).ack m.seq m.kind.isTerminal] }
  /-- The farewell is said once more. -/
  | repeats {now : Nat} (left : f.left ≠ 0) (due : f.next ≤ now) :
      Rests s o f (.wait now) (s.repeatFarewell o f now)

/-- The outcomes are those listed. -/
theorem rests (h : s.phase = .ended o f) (i : Input) : s.Rests o f i (s.react i) := by
  -- A session that has ended has an outcome, so no case of one that goes on can apply.
  have hgoing : s.outcome? ≠ none := fun hnone => absurd ((outcome?_eq h).symm.trans hnone) nofun
  -- Nothing was heard, so nothing can be about this session.
  have hnobody : ∀ m ∈ (none : Option Message), ¬ (m.sender = s.rover ∧ m.mission = s.mission.id) :=
    fun _ hm => absurd hm (Option.not_mem_none _)
  cases i with
  | greet now =>
      have hgreets := s.greets now
      simp only [react]
      generalize s.greet now = r at hgreets ⊢
      cases hgreets with
      | quiet phase => exact .ignores hnobody
      | opens phase => exact absurd (outcome?_eq phase) hgoing
  | hear m now =>
      have hreceives := s.receives m now
      simp only [react]
      generalize s.receive m now = r at hreceives ⊢
      cases hreceives with
      | foreign foreign =>
          refine .ignores ?_
          rintro x ⟨⟩
          exact foreign
      -- Only in two phases a report is of no use, and the session is in neither.
      | useless report =>
          refine .hears now (eq_false_of_ne_true (fun hreport => ?_))
          rcases report hreport with phase | ⟨retries, deadline, phase⟩
          · exact hgoing (outcome?_eq phase)
          · exact hgoing (outcome?_eq phase)
      | transfers phase kind available => exact absurd (outcome?_eq phase) hgoing
      | declined phase kind unavailable => exact absurd (outcome?_eq phase) hgoing
      | accepted phase kind complete => exact absurd (outcome?_of_inTransfer phase) hgoing
      | asked phase kind missing => exact absurd (outcome?_of_inTransfer phase) hgoing
      | acceptedReport phase report supervises =>
          exact absurd (outcome?_of_inTransfer phase) hgoing
      | reported phase report supervises => exact absurd (outcome?_eq phase) hgoing
      | acknowledged phase report => exact .answers now report
  | wait now =>
      have hpolls := s.polls now
      simp only [react]
      generalize s.poll now = r at hpolls ⊢
      cases hpolls with
      | quiet early => exact .ignores hnobody
      | greets phase due more => exact absurd (outcome?_eq phase) hgoing
      | unresponsive phase due spent => exact absurd (outcome?_eq phase) hgoing
      | resends phase due more => exact absurd (outcome?_eq phase) hgoing
      | unconfirmed phase due spent => exact absurd (outcome?_eq phase) hgoing
      | silent phase due => exact absurd (outcome?_eq phase) hgoing
      | farewells phase left due =>
          cases h.symm.trans phase
          exact .repeats left due
  | sent now =>
      have htransmits := s.transmits now
      simp only [react]
      generalize s.transmitted now = s' at htransmits ⊢
      cases htransmits with
      | quiet phase => exact .ignores hnobody
      | waits phase => exact absurd (outcome?_eq phase) hgoing

/-- Nothing is put down any more. -/
theorem Rests.log_eq (h : Rests s o f i r) : r.state.log = s.log := by
  cases h <;> rfl

/-- All that is said are acknowledgements, and they list the same reports. -/
theorem Rests.lists (h : Rests s o f i r) :
    ∀ x ∈ r.messages, x.kind = .ack ∧ missingIn x = s.log.lost := by
  intro x hx
  cases h with
  | ignores foreign => cases hx
  | hears now report => cases hx
  | answers now report =>
      cases List.mem_singleton.1 hx
      exact ⟨rfl, rfl⟩
  | repeats left due =>
      cases List.mem_singleton.1 hx
      exact ⟨rfl, rfl⟩

theorem exists_ended (h : s.isTerminal = true) : ∃ o f, s.phase = .ended o f := by
  cases hphase : s.phase with
  | ended o f => exact ⟨o, f, rfl⟩
  | _ =>
      rw [isTerminal_eq hphase] at h
      cases h

end Supervisor

/-! ### Saying farewell -/

namespace Farewell

open Supervisor (Input)

/-- What a farewell becomes while it is said, with one pause at least between one
    time and the next. -/
inductive Sends (gap : Nat) : Farewell → List (Input × Message) → Farewell → Prop where
  | nothing (f : Farewell) : Sends gap f [] f
  | once {f f' : Farewell} {i : Input} {x : Message} {sent : List (Input × Message)}
      (left : f.left ≠ 0) (due : f.next ≤ i.time) (final : x.Acknowledges f.seq true)
      (rest : Sends gap { f with left := f.left - 1, next := after i.time gap } sent f') :
      Sends gap f ((i, x) :: sent) f'

variable {gap : Nat} {f f' : Farewell} {sent : List (Input × Message)}

theorem Sends.acknowledges (h : Sends gap f sent f') :
    ∀ y ∈ sent, y.2.Acknowledges f.seq true := by
  induction h with
  | nothing f => exact fun _ hy => absurd hy List.not_mem_nil
  | once left due final rest ih => exact List.forall_mem_cons.2 ⟨final, ih⟩

end Farewell

namespace Supervisor

variable {s : Supervisor} {m : Message} {now : Nat} {i : Input} {r : SupervisorReaction}
  {o : SessionOutcome} {f : Farewell}

theorem Supervises.farewell {deadline : Nat} (hphase : s.phase = .watching deadline)
    (h : Supervises s m now r) (hends : r.state.isTerminal = true) :
    ∃ o, r.state.phase = .ended o
      ⟨m.seq, s.timing.finalAckRepeats - 1, after now s.timing.finalAckGap⟩ := by
  have hgoing : s.isTerminal = false := isTerminal_eq hphase
  cases h with
  | recovers known => exact absurd (hends.symm.trans hgoing) nofun
  | progress new kind payload => cases hends
  | @ends o new outcome => exact ⟨o, rfl⟩
  | malformed new progress outcome => exact absurd (hends.symm.trans hgoing) nofun

/-- A session that a terminal report ends has a whole farewell to say. -/
theorem Receives.farewell (h : Receives s m now r) (hgoing : s.isTerminal = false)
    (hterminal : m.kind.isTerminal = true) (hends : r.state.isTerminal = true) :
    ∃ o, r.state.phase = .ended o
      ⟨m.seq, s.timing.finalAckRepeats - 1, after now s.timing.finalAckGap⟩ := by
  cases h with
  | foreign foreign => exact absurd (hends.symm.trans hgoing) nofun
  | useless report => exact absurd (hends.symm.trans hgoing) nofun
  | transfers phase kind available => cases hends
  | declined phase kind unavailable =>
      rw [kind] at hterminal
      cases hterminal
  | accepted phase kind complete => cases hends
  | asked phase kind missing => cases hends
  -- The report is supervised in the state that the acceptance has left.
  | acceptedReport phase report supervises =>
      have hfarewell := Supervises.farewell (s := (s.heard now).watch now) rfl supervises hends
      exact hfarewell
  | reported phase report supervises =>
      exact Supervises.farewell (s := s.heard now) phase supervises hends
  | acknowledged phase report => exact absurd (hends.symm.trans hgoing) nofun

end Supervisor

/-! ### Reports that arrive late -/

namespace Vigil

open Supervisor (Input)

/-- A report has arrived, and is not missing. -/
structure Holds (v : Vigil) (n : Int) : Prop where
  sound : v.Sound
  received : n ∈ v.received
  found : n ∉ v.supervisor.log.lost

variable {v : Vigil} {n : Int} {m : Message} {now : Nat}

/-- What is in a log that tracks the reports is not missing. -/
theorem Sound.holds (h : v.Sound) (hgoing : v.supervisor.isTerminal = false) {i : Input}
    (hn : n ∈ (v.input i).received) : (v.input i).Holds n where
  sound := h.input i
  received := hn
  found := fun hlost => (((h.tracks_input hgoing i).lost n).1 hlost).2.2 hn

/-- A report that has arrived before the end is not missed again. -/
theorem Holds.input (h : v.Holds n) (i : Input) : (v.input i).Holds n := by
  have hreceived : n ∈ (v.input i).received := List.mem_append_left _ h.received
  by_cases hended : v.supervisor.isTerminal = true
  · -- The log no longer tracks the reports, but it does not change either.
    refine ⟨h.sound.input i, hreceived, ?_⟩
    rcases Supervisor.exists_ended hended with ⟨o, f, hphase⟩
    simp only [Vigil.input, (Supervisor.rests hphase i).log_eq]
    exact h.found
  · exact h.sound.holds (eq_false_of_ne_true hended) hreceived

end Vigil

namespace Supervisor

variable {s : Supervisor} {m : Message} {n : Int}

/-- A session that holds a report never asks for it. -/
theorem not_listed_of_holds (hs : s.Equipped) {v : Vigil} (hv : v.Holds n)
    (hsupervisor : v.supervisor = s) (inputs : List Input) :
    ∀ y ∈ s.sendings inputs, y.2.kind = .ack → n ∉ missingIn y.2 := by
  refine forall_sendings (P := fun s => s.Equipped ∧ ∃ v : Vigil, v.supervisor = s ∧ v.Holds n)
    (Q := fun _ x => x.kind = .ack → n ∉ missingIn x) ?_ ?_ ⟨hs, v, hsupervisor, hv⟩ inputs
  · rintro _ i ⟨hs, v, rfl, hv⟩
    exact ⟨hs.react i, v.input i, rfl, hv.input i⟩
  · rintro _ i ⟨hs, v, rfl, hv⟩ x hx hkind
    rcases acks_react hs hx hkind with ⟨seq, final, rfl⟩
    exact (hv.input i).found

/-- A session that has ended lists the same reports for ever. -/
theorem listed_of_ended (h : s.isTerminal = true) (inputs : List Input) :
    ∀ y ∈ s.sendings inputs, y.2.kind = .ack ∧ missingIn y.2 = s.log.lost := by
  refine forall_sendings (P := fun s' => s'.isTerminal = true ∧ s'.log = s.log)
    (Q := fun _ x => x.kind = .ack ∧ missingIn x = s.log.lost) ?_ ?_ ⟨h, rfl⟩ inputs
  · rintro s' i ⟨hended, hlog⟩
    rcases exists_ended hended with ⟨o, f, hphase⟩
    exact ⟨(s'.concludes i).isTerminal hended, (rests hphase i).log_eq.trans hlog⟩
  · rintro s' i ⟨hended, hlog⟩
    rcases exists_ended hended with ⟨o, f, hphase⟩
    exact hlog ▸ (rests hphase i).lists

theorem Equipped.run (h : s.Equipped) (inputs : List Input) : (s.run inputs).Equipped := by
  induction inputs generalizing s with
  | nil => exact h
  | cons i inputs ih => exact ih (h.react i)

/-- Take any session, and a report that counts, whether or not it was lost before.
    If the session goes on when the report arrives, no acknowledgement from then on
    lists it as missing, neither before the end nor after it. If the session has
    ended, all that is sent from then on are acknowledgements, and they list what
    was lost at the end, with the report if it was. -/
theorem listed_after_delivery {timing : Timing} {rover : Int} {mission : Mission}
    (hs : prepare timing rover mission = .ok s) (inputs : List Input)
    (hcounts : (s.run inputs).counts m = true) (now : Nat) (later : List Input) :
    let p := s.run inputs
    let sent := p.sendings (.hear m now :: later)
    (p.isTerminal = false → ∀ y ∈ sent, y.2.kind = .ack → m.seq ∉ missingIn y.2) ∧
    (p.isTerminal = true → ∀ y ∈ sent, y.2.kind = .ack ∧ missingIn y.2 = p.log.lost) := by
  intro p sent
  refine ⟨fun hgoing y hy hkind => ?_, fun hended => listed_of_ended hended _⟩
  -- The report is put down before it is answered.
  let v := (Vigil.start s).run inputs
  have hv : v.Sound := (Vigil.Sound.start hs).run inputs
  have hp : v.supervisor = p := Vigil.supervisor_run (Vigil.start s) inputs
  have hequipped : p.Equipped := (Equipped.of_prepare hs).run inputs
  have hreceived : m.seq ∈ (v.input (.hear m now)).received := by
    refine List.mem_append_right _ ?_
    rw [hp, counted_of_counts hcounts]
    exact List.mem_singleton_self _
  have hholds : (v.input (.hear m now)).Holds m.seq := hv.holds (hp ▸ hgoing) hreceived
  have hnext : (v.input (.hear m now)).supervisor = (p.react (.hear m now)).state := by
    rw [← hp]
    rfl
  rcases List.mem_append.1 hy with hfirst | hlater
  · rcases List.mem_map.1 hfirst with ⟨x, hx, rfl⟩
    rcases acks_react hequipped hx hkind with ⟨seq, final, rfl⟩
    exact hnext ▸ hholds.found
  · exact not_listed_of_holds (hequipped.react _) hholds hnext later y hlater hkind

/-- Two reports are lost when the fourth arrives, and the second is sent again
    before the mission is completed. -/
theorem listed_after_delivery_in_time :
    let m : Mission := ⟨1, .zero, .zero, .zero, .zero, "scan", 60, 2, 0, 1⟩
    let report (kind : Kind) (seq : Int) (payload : Payload) : Message :=
      { kind, sender := 7, receiver := coordinatorId, mission := 1, seq, success := true, payload }
    let progress (seq : Int) : Message := report .progress seq (.progress ⟨1, 2, .zero⟩)
    let inputs : List Input := [.greet 0, .hear (report .response 1 .empty) 1,
      .hear (progress 1) 100, .hear (progress 4) 200]
    let later : List Input := [.hear (report .completed 5 .empty) 300, .wait 500, .wait 700]
    ∃ s, prepare {} 7 m = .ok s ∧
      let p := s.run inputs
      let sent := p.sendings (.hear (progress 2) 210 :: later)
      p.log.lost = [2, 3] ∧ sent.map (fun y => y.2.kind) = [.ack, .ack, .ack, .ack] ∧
        ∀ y ∈ sent, 2 ∉ missingIn y.2 := by
  intro m report progress inputs later
  have hrun : ∃ s, prepare {} 7 m = .ok s ∧
      let p := s.run inputs
      p.log.lost = [2, 3] ∧ p.isTerminal = false ∧ p.counts (progress 2) = true ∧
        (p.sendings (.hear (progress 2) 210 :: later)).map (fun y => y.2.kind) =
          [.ack, .ack, .ack, .ack] :=
    exists_prepare_of_check (by decide +kernel)
  rcases hrun with ⟨s, hs, hlost, hgoing, hcounts, hkinds⟩
  refine ⟨s, hs, hlost, hkinds, fun y hy => ?_⟩
  have hkind : y.2.kind = .ack := by
    have hmem := List.mem_map_of_mem (f := fun y : Input × Message => y.2.kind) hy
    rw [hkinds] at hmem
    simpa using hmem
  exact (listed_after_delivery hs inputs hcounts 210 later).1 hgoing y hy hkind

/-- The same reports are lost, and the mission is completed before either is sent
    again. The second arrives after that and is acknowledged, but the final
    acknowledgement still asks for it. -/
theorem listed_although_delivered :
    let m : Mission := ⟨1, .zero, .zero, .zero, .zero, "scan", 60, 2, 0, 1⟩
    let report (kind : Kind) (seq : Int) (payload : Payload) : Message :=
      { kind, sender := 7, receiver := coordinatorId, mission := 1, seq, success := true, payload }
    let progress (seq : Int) : Message := report .progress seq (.progress ⟨1, 2, .zero⟩)
    let inputs : List Input := [.greet 0, .hear (report .response 1 .empty) 1,
      .hear (progress 1) 100, .hear (progress 4) 200, .hear (report .completed 5 .empty) 300]
    ∃ s, prepare {} 7 m = .ok s ∧
      let p := s.run inputs
      let q := (p.receive (progress 2) 310).state
      p.outcome? = some .completed ∧ p.counts (progress 2) = true ∧ p.log.lost = [2, 3] ∧
        (q.poll 500).messages.map (fun x => (x.kind, x.seq, x.payload)) =
          [(.ack, 5, .ack ⟨[2, 3], true⟩)] := by
  intro m report progress inputs
  exact exists_prepare_of_check (by decide +kernel)

end Supervisor

end RoverDispatch
