import RoverDispatch.Proofs.Session.Acknowledgements
import RoverDispatch.Proofs.Session.Supervisors

/-!
# Answers

How many answers a message can still call forth.

Either end answers the other at once, and an answer can be answered again. What
keeps two ends from talking for ever is that an answer which is itself answered
uses something up. A hello is answered every time, but it is no answer itself.
The agent answers a fragment only when it has not had it before, or when it is
the last of the transfer, and an acknowledgement only when it confirms the
report in flight; all other answers of the agent say that nothing is missing,
and those are not answered. The supervisor sends just what is asked for, and an
agent that has had anything does not ask for the last fragment.

So both ends have a budget: the agent the fragments that it has not had and the
reports that are not confirmed, the supervisor the transfer it has not sent. A
message under way counts for what it may add to the budget of its receiver: a
hello for a whole transfer, the last fragment for one answer, a request that
includes the last fragment for the transfer that it may be answered with.

## Main definitions

* `lastTransferSeq`: The number of the last fragment.
* `Message.AsksNothing`: An acknowledgement that is not answered.
* `Message.grants`, `Message.claims`: What a message is good for at the agent, and
  at the supervisor.
* `Reception.Spends`: What a fragment costs.
* `Agent.budget`, `Supervisor.budget`: What the two ends can still answer.
* `Agent.Spends`, `Supervisor.Spends`: What an answer costs.

## Theorems

* `Reception.Arrived.spends_take`: A fragment is answered when it is new or the last.
* `Agent.spends_receive`: Every answer of an agent is paid for, or asks nothing.
* `Supervisor.spends_receive`, `Supervisor.messages_receive_eq_nil`: So is every
  answer of a supervisor, and what asks nothing is not answered.
* `Agent.claims_poll_le`, `Supervisor.grants_poll_le`: What the passing of time
  can add.
-/

namespace RoverDispatch

/-- The number of the last of so many fragments. -/
def lastTransferSeq (n : Nat) : Int := firstTransferSeq + n - 1

namespace Message

/-- An acknowledgement that misses nothing, which is not answered. -/
def AsksNothing (x : Message) : Prop := x.kind = .ack ∧ Supervisor.missingIn x = []

/-- The answers for which a message is good at an agent. A hello can open a session,
    which has had none of so many fragments. -/
def grants (n : Nat) (x : Message) : Nat :=
  match x.kind with
  | .hello => n + 1
  | .mission => if x.seq = lastTransferSeq n then 1 else 0
  | _ => 0

/-- The answers for which a message is good at a supervisor with a transfer of a given
    length. One that asks for the last fragment can bring it again. -/
def claims (n length : Nat) (x : Message) : Nat :=
  if x.kind = .ack ∧ lastTransferSeq n ∈ Supervisor.missingIn x then length else 0

variable {n length : Nat} {x : Message}

theorem grants_of_ack (h : x.kind = .ack) : x.grants n = 0 := by
  simp only [grants, h]

theorem grants_of_hello (h : x.kind = .hello) : x.grants n = n + 1 := by
  simp only [grants, h]

theorem grants_of_mission_le (h : x.kind = .mission) : x.grants n ≤ 1 := by
  simp only [grants, h]
  split <;> omega

theorem grants_of_last (h : x.kind = .mission) (hlast : x.seq = lastTransferSeq n) :
    x.grants n = 1 := by
  simp only [grants, h, hlast, if_true]

theorem claims_of_ne_ack (h : x.kind ≠ .ack) : x.claims n length = 0 :=
  if_neg (fun hack => h hack.1)

theorem claims_le (x : Message) : x.claims n length ≤ length := by
  rw [claims]
  split <;> omega

/-- What asks nothing is good for nothing. -/
theorem AsksNothing.claims_eq (h : x.AsksNothing) : x.claims n length = 0 := by
  refine if_neg (fun hlast => ?_)
  rw [h.2] at hlast
  exact absurd hlast.2 List.not_mem_nil

end Message

/-! ### Agents -/

namespace Reception

/-- How many of so many fragments have not been had. -/
def left (n : Nat) (r : Reception) : Nat := n - (r.window.map Window.count).getD 0

/-- What a fragment leads to for which some answers were granted: the mission, nothing,
    or a request without the last fragment, which costs an answer. -/
inductive Spends (m : Mission) (n granted : Nat) (r : Reception) : Reception × Verdict → Prop where
  | complete (r' : Reception) : Spends m n granted r (r', .complete m)
  | silent {r' : Reception} (left : r'.left n ≤ r.left n + granted) :
      Spends m n granted r (r', .silent)
  | ask {r' : Reception} {missing : List Int} (last : lastTransferSeq n ∉ missing)
      (left : r'.left n < r.left n + granted) : Spends m n granted r (r', .ask missing)

variable {m : Mission} {frags : List (List Field)} {r : Reception}
  {order : List (Fin frags.length)} {i : Fin frags.length}

/-- What has been recorded are the fragments that have arrived. -/
theorem Arrived.left_eq (h : r.Arrived frags order) :
    r.left frags.length = frags.length - order.length := by
  rw [left]
  cases h with
  | fresh window assembly =>
      rw [window]
      rfl
  | partly nodup short window assembly =>
      rw [window, Option.map_some, Option.getD_some, count_windowOf]

/-- A fragment that is not new is answered only when it is the last. -/
theorem Arrived.last_of_known (h : r.Arrived frags order) (hi : i ∈ order) {t : Timing}
    {fields : List Field} {now : Nat} {missing : List Int}
    (hask : (r.take t (firstTransferSeq + (i : Nat)) frags.length fields now).2 = .ask missing) :
    firstTransferSeq + (i : Nat) = lastTransferSeq frags.length := by
  rcases h.records (Nat.zero_lt_of_lt i.isLt) with ⟨-, -, hw, -⟩
  rw [Reception.take, hw, record?_windowOf, if_pos hi] at hask
  simp only [takeKnown] at hask
  split at hask
  · rename_i hlast
    exact hlast
  · cases hask

/-- A receiver that has had anything does not ask for the last fragment, since it is
    what makes it ask. -/
theorem Arrived.last_not_mem_asks (h : r.Arrived frags order) (hne : order ≠ []) {w : Window}
    (hw : r.window = some w) {missing : List Int} (hasks : Asks w missing) :
    lastTransferSeq frags.length ∉ missing := by
  intro hlast
  cases h with
  | fresh window assembly => exact hne rfl
  | partly nodup short window assembly =>
      cases hw.symm.trans window
      have hseen := hasks.last hlast
      rw [windowOf, List.reverse_eq_nil_iff, List.map_eq_nil_iff] at hseen
      exact hne hseen

theorem length_le_withArrival (order : List (Fin frags.length)) (i : Fin frags.length) :
    order.length ≤ (withArrival order i).length := by
  rw [withArrival]
  split
  · exact Nat.le_refl _
  · rw [List.length_append]
    exact Nat.le_add_right _ _

/-- A fragment is answered when it is new or the last. -/
theorem Arrived.spends_take (h : r.Arrived frags order) (hunfinished : r.Unfinished) (hm : m.Fits)
    (hcut : CutInto m.toFields frags.flatten) (t : Timing) {granted : Nat}
    (hgranted : firstTransferSeq + (i : Nat) = lastTransferSeq frags.length → 0 < granted)
    (now : Nat) :
    Spends m frags.length granted r
      (r.take t (firstTransferSeq + (i : Nat)) frags.length (frags.get i) now) := by
  have hshort := (h.records (Nat.zero_lt_of_lt i.isLt)).2.1
  have hlands := h.take hm hcut t i now
  have hyields := yields_take hunfinished t (firstTransferSeq + (i : Nat)) frags.length
    (frags.get i) now
  have hknown : i ∈ order → ∀ missing, (r.take t (firstTransferSeq + (i : Nat)) frags.length
      (frags.get i) now).2 = .ask missing → 0 < granted :=
    fun hi _ hask => hgranted (h.last_of_known hi hask)
  generalize r.take t _ _ _ now = taken at hlands hyields hknown ⊢
  cases hlands with
  | complete r' all => exact .complete r'
  | silent h' =>
      refine .silent ?_
      have hle := length_le_withArrival order i
      rw [h'.left_eq, h.left_eq]
      omega
  | ask h' hne =>
      cases hyields with
      | ask window unfinished asks =>
          refine .ask (h'.last_not_mem_asks ?_ window asks) ?_
          · exact List.ne_nil_of_mem (mem_withArrival.2 (.inl rfl))
          · rw [h'.left_eq, h.left_eq]
            by_cases hi : i ∈ order
            · -- It has been had before, so it is the last that is answered.
              have hpaid := hknown hi _ rfl
              rw [withArrival, if_pos hi]
              omega
            · rw [withArrival, if_neg hi, List.length_append, List.length_singleton]
              omega

end Reception

/-- How many reports are not confirmed. -/
def ReportQueue.unconfirmed (q : ReportQueue) : Nat :=
  q.waiting.length + if q.inFlight.isSome then 1 else 0

namespace ReportQueue

variable {q : ReportQueue} {t : Timing}

theorem Fresh.unconfirmed_eq (h : q.Fresh) : q.unconfirmed = 0 := by
  simp only [unconfirmed, h.waiting, h.inFlight, List.length_nil, Option.isSome_none,
    Bool.false_eq_true, if_false]

theorem Regular.unconfirmed_le (h : q.Regular t) : q.unconfirmed ≤ 2 := by
  have hshort := h.short
  rw [unconfirmed]
  split <;> omega

/-- Sending what waits confirms nothing. -/
theorem unconfirmed_poll (h : q.inFlight = none) (now : Nat) :
    (q.poll now).queue.unconfirmed = q.waiting.length := by
  have hpolls := q.polls now
  generalize q.poll now = d at hpolls ⊢
  cases hpolls with
  | idle flight waiting =>
      simp only [unconfirmed, flight, Option.isSome_none, Bool.false_eq_true, if_false]
      rfl
  -- What is sent is in flight instead of waiting, and counts as much as before.
  | sends report waiting flight first =>
      rw [first, List.length_cons]
      rfl
  | waits f flight early => cases h.symm.trans flight
  | repeats f flight due more => cases h.symm.trans flight
  | givesUp f flight due spent last => cases h.symm.trans flight
  | replaces f report waiting flight due spent going first => cases h.symm.trans flight

end ReportQueue

/-- The answers that a session can still give: one for every fragment that it has not
    had, or for every report that is not confirmed. -/
def AgentSession.budget (n : Nat) (s : AgentSession) : Nat :=
  match s.stage with
  | .receiving r => r.left n
  | _ => s.reports.unconfirmed

namespace AgentSession

variable {n : Nat} {s : AgentSession}

theorem budget_of_receiving {r : Reception} (h : s.stage = .receiving r) :
    s.budget n = r.left n := by
  simp only [budget, h]

theorem budget_of_busy (h : s.isBusy = true) : s.budget n = s.reports.unconfirmed := by
  rw [isBusy] at h
  rw [budget]
  cases hs : s.stage with
  | receiving r =>
      rw [hs] at h
      cases h
  | executing e => rfl
  | reporting => rfl

/-- To be heard of makes no difference. -/
theorem budget_heard (s : AgentSession) (now : Nat) : (s.heard now).budget n = s.budget n := by
  rw [heard]
  split
  · rename_i r hr
    rw [budget_of_receiving hr, budget_of_receiving rfl]
    rfl
  · rfl

end AgentSession

namespace Agent

/-- The answers that an agent can still give in its session. -/
def budget (n : Nat) (a : Agent) : Nat :=
  match a.session with
  | none => 0
  | some s => s.budget n

/-- What a reaction of an agent costs that was granted some answers: nothing, if its
    messages ask nothing; otherwise at least one of the answers that were left. -/
inductive Spends (n granted : Nat) (a : Agent) (r : AgentReaction) : Prop where
  | free (quiet : ∀ x ∈ r.messages, x.AsksNothing)
      (budget : r.state.budget n ≤ a.budget n + granted)
  | paid (claims : ∀ x ∈ r.messages, ∀ length, x.claims n length = 0)
      (budget : r.state.budget n < a.budget n + granted)

variable {n granted : Nat} {a : Agent} {s : AgentSession}

theorem budget_of_some (h : a.session = some s) : a.budget n = s.budget n := by
  simp only [budget, h]

theorem budget_of_none (h : a.session = none) : a.budget n = 0 := by
  simp only [budget, h]

/-- Nothing costs nothing. -/
theorem Spends.quiet : Spends n granted a (.quiet a) :=
  .free (fun _ hx => absurd hx List.not_mem_nil) (Nat.le_add_right _ _)

/-- Either way the supervisor is not asked for the last fragment. -/
theorem Spends.claims_eq {r : AgentReaction} (h : Spends n granted a r) (length : Nat) :
    (r.messages.map (Message.claims n length)).sum = 0 := by
  refine List.sum_eq_zero (fun c hc => ?_)
  rcases List.mem_map.1 hc with ⟨x, hx, rfl⟩
  cases h with
  | free quiet budget => exact (quiet x hx).claims_eq
  | paid claims budget => exact claims x hx length

/-- What is said about something else than the transfer is good for nothing. -/
theorem Spends.paid_of_ne_ack {r : AgentReaction} (h : ∀ x ∈ r.messages, x.kind ≠ .ack)
    (budget : r.state.budget n < a.budget n + granted) : Spends n granted a r :=
  .paid (fun x hx _ => Message.claims_of_ne_ack (h x hx)) budget

theorem asksNothing_missionAck (s : AgentSession) (id seq : Int) :
    ∀ x ∈ [s.missionAck id seq []], x.AsksNothing := by
  intro x hx
  cases List.mem_singleton.1 hx
  exact ⟨rfl, rfl⟩

/-- Every session of a regular agent has a small budget. -/
theorem Regular.budget_le (h : a.Regular) : a.budget n ≤ n + 2 := by
  cases hs : a.session with
  | none =>
      rw [budget_of_none hs]
      exact Nat.zero_le _
  | some s =>
      rw [budget_of_some hs]
      have hunconfirmed := (h s hs).reports.unconfirmed_le
      cases hr : s.stage with
      -- While it receives, the whole transfer can be left; once it is busy, two reports at most.
      | receiving r =>
          rw [AgentSession.budget_of_receiving hr, Reception.left]
          omega
      | executing e =>
          rw [AgentSession.budget_of_busy (AgentSession.isBusy_eq hr)]
          omega
      | reporting =>
          rw [AgentSession.budget_of_busy (AgentSession.isBusy_eq hr)]
          omega

section Receive

variable {m : Mission} {frags : List (List Field)} {x : Message}

/-- A hello is answered, and worth the whole budget that it brings. -/
theorem spends_onHello (hserves : a.Serves m frags) (hregular : a.Regular)
    (habout : x.mission = m.id) (hgranted : n < granted) (now : Nat) :
    Spends n granted a (a.onHello x now) := by
  cases hs : a.session with
  | none =>
      have hbudget := budget_of_none (n := n) hs
      simp only [onHello, hs, welcome]
      -- Even a session that opens has a smaller budget than the hello has granted.
      split
      · refine .paid_of_ne_ack (response_ne_ack { a with session := none } x false) ?_
        rw [hbudget, budget_of_none rfl]
        omega
      · refine .paid_of_ne_ack (a.response_ne_ack x true) ?_
        rw [hbudget, budget_of_some rfl, AgentSession.budget_of_receiving rfl, Reception.left]
        omega
  | some s =>
      simp only [onHello, hs, (hserves.session hs).mission, habout, if_true]
      refine .paid_of_ne_ack (hregular s hs).response_ne_ack ?_
      rw [budget_of_some hs, budget_of_some rfl, AgentSession.budget_heard]
      omega

/-- The mission that has arrived is acknowledged, and that is not answered. -/
theorem spends_execute {s : AgentSession} (hfresh : s.reports.Fresh) (seq : Int) (p : Mission)
    (now : Nat) : Spends n granted a (a.execute s seq p now) := by
  refine .free (asksNothing_missionAck s a.id seq) ?_
  rw [budget_of_some rfl, AgentSession.budget_of_busy rfl, hfresh.unconfirmed_eq]
  exact Nat.zero_le _

/-- So what a fragment costs the session, it costs the agent. -/
theorem spends_onFragment (hserves : a.Serves m frags) (hs : a.session = some s)
    {r₀ r : Reception} (hr₀ : s.stage = .receiving r₀) (hwindow : r.window = r₀.window)
    (hassembly : r.assembly = r₀.assembly) (hregular : a.Regular) (hm : m.Fits)
    (hcut : CutInto m.toFields frags.flatten) {i : Fin frags.length}
    (hseq : x.seq = firstTransferSeq + (i : Nat)) (htotal : x.total = frags.length)
    (hgranted : x.seq = lastTransferSeq frags.length → 0 < granted) (now : Nat) :
    Spends frags.length granted a (a.onFragment s r x (frags.get i) now) := by
  have hserved := hserves.session hs
  have hstage := hserved.stage
  rw [hr₀] at hstage
  rcases hstage.1.arrived with ⟨order, harrived⟩
  have hspends := (harrived.congr hwindow hassembly).spends_take
    (((hregular s hs).unfinished hr₀).congr hwindow) hm hcut a.timing (hseq ▸ hgranted) now
  -- The window is all that counts.
  have hbudget : a.budget frags.length = r.left frags.length := by
    rw [budget_of_some hs, AgentSession.budget_of_receiving hr₀, Reception.left, Reception.left,
      hwindow]
  rw [← hseq, ← htotal] at hspends
  simp only [onFragment]
  generalize r.take a.timing x.seq x.total (frags.get i) now = taken at hspends ⊢
  cases hspends with
  | complete r' =>
      exact spends_execute (s := { s with total := r'.total, stage := .receiving r' })
        (hserved.fresh (AgentSession.isBusy_eq hr₀)) _ m now
  | silent left =>
      exact .free (fun _ hy => absurd hy List.not_mem_nil) (hbudget ▸ left)
  | ask last left =>
      refine .paid (fun y hy length => ?_) (hbudget ▸ left)
      cases List.mem_singleton.1 hy
      exact if_neg (fun hlast => last hlast.2)

/-- A message of the transfer is answered when it brings something new, or is the
    last. -/
theorem spends_onMission (hserves : a.Serves m frags) (hregular : a.Regular) (hm : m.Fits)
    (hcut : frags ≠ [] → CutInto m.toFields frags.flatten) (habout : x.mission = m.id)
    (hx : m.Brings frags x) (hgranted : x.seq = lastTransferSeq frags.length → 0 < granted)
    (now : Nat) : Spends frags.length granted a (a.onMission x now) := by
  cases hs : a.session with
  | none =>
      simp only [onMission, hs]
      exact .quiet
  | some s =>
      have hserved := hserves.session hs
      simp only [onMission, hs, hserved.mission, habout, ne_eq, not_true_eq_false, if_false]
      -- A rover that has the mission says so, and that is not answered.
      have hagain : Spends frags.length granted a
          { state := a, messages := [s.missionAck a.id x.seq []] } :=
        .free (asksNothing_missionAck s a.id x.seq) (Nat.le_add_right _ _)
      cases hr : s.stage with
      | receiving r =>
          rcases hx with hpayload | ⟨i, hseq, htotal, hpayload⟩
          · simp only [onTransfer, hpayload]
            exact spends_execute (hserved.fresh (AgentSession.isBusy_eq hr)) _ m now
          · have hcut' := hcut (List.ne_nil_of_length_pos (Nat.zero_lt_of_lt i.isLt))
            simp only [onTransfer, hpayload, Mission.decodeFields_fragment hm hcut' i]
            exact spends_onFragment (r := { r with lastInbound := now, nudges := 0 }) hserves hs hr
              rfl rfl hregular hm hcut' hseq htotal hgranted now
      | executing e => exact hagain
      | reporting => exact hagain

/-- A report that is confirmed is not sent again, and the next one does not add to
    those that are not confirmed. -/
theorem spends_onAck (hregular : a.Regular) (x : Message) (now : Nat) :
    Spends n granted a (a.onAck x now) := by
  cases hs : a.session with
  | none =>
      simp only [onAck, hs]
      exact .quiet
  | some s =>
      have hs' := hregular s hs
      simp only [onAck, hs]
      split
      · exact .quiet
      · cases hc : s.reports.confirm? x.seq (ackIn x) with
        | none => exact .quiet
        | some c =>
            have hbusy := AgentSession.isBusy_of_confirm hs'.silent hc
            have hsends := ReportQueue.sends_confirm hs'.reports.orderly hc
            rcases ReportQueue.confirm?_eq_some hc with ⟨f, hflight, -, hqueue, -, -, hreplay⟩
            have hbudget : a.budget n = s.reports.waiting.length + 1 := by
              rw [budget_of_some hs, AgentSession.budget_of_busy hbusy, ReportQueue.unconfirmed,
                hflight]
              rfl
            simp only [onConfirmed]
            -- The session closes, or what waits next takes the place of what is confirmed.
            split
            · refine .paid_of_ne_ack (fun y hy => hs'.reports.orderly.kind_ne_ack (hreplay y hy)) ?_
              rw [hbudget, budget_of_none rfl]
              omega
            · have hnext := hsends.after (by rw [hqueue])
                (ReportQueue.sends_poll hsends.orderly now)
              refine .paid_of_ne_ack (fun y hy => hnext.orderly.kind_ne_ack (hnext.known y hy)) ?_
              have hunconfirmed : (c.queue.poll now).queue.unconfirmed = s.reports.waiting.length := by
                rw [ReportQueue.unconfirmed_poll (by rw [hqueue]), hqueue]
              rw [hbudget, budget_of_some rfl]
              refine Nat.lt_of_le_of_lt (AgentSession.budget_of_busy
                (s := { s with reports := (c.queue.poll now).queue }) hbusy).le ?_
              rw [hunconfirmed]
              omega

/-- Every answer of an agent is paid for, or asks nothing. -/
theorem spends_receive (hserves : a.Serves m frags) (hregular : a.Regular) (hm : m.Fits)
    (hcut : frags ≠ [] → CutInto m.toFields frags.flatten) (hx : m.Directs frags x) (now : Nat) :
    Spends frags.length (x.grants frags.length) a (a.receive x now) := by
  rw [receive]
  split
  · cases hx with
    | hello about kind =>
        simp only [kind]
        refine spends_onHello hserves hregular about ?_ now
        rw [Message.grants_of_hello kind]
        exact Nat.lt_succ_self _
    -- Of a transfer only the last message is good for an answer.
    | transfer about kind brings =>
        simp only [kind]
        refine spends_onMission hserves hregular hm hcut about brings (fun hlast => ?_) now
        rw [Message.grants_of_last kind hlast]
        exact Nat.one_pos
    | ack about kind =>
        simp only [kind]
        exact spends_onAck hregular x now
  · exact .quiet

end Receive

/-- An agent asks out of silence once. -/
theorem length_pollTransfer_le (a : Agent) (now : Nat) :
    (a.pollTransfer now).messages.length ≤ 1 := by
  rw [pollTransfer]
  split
  · exact Nat.zero_le _
  · split
    · split
      · exact Nat.zero_le _
      · split
        · exact Nat.zero_le _
        · rw [List.length_map]
          exact Option.length_toList_le
    · exact Nat.zero_le _

/-- What goes out of a queue are reports. -/
theorem kind_pollReports (h : a.Regular) {now : Nat} :
    ∀ x ∈ (a.pollReports now).messages, x.kind ≠ .ack := by
  cases hs : a.session with
  | none =>
      simp only [pollReports, hs]
      exact ne_ack_of_nil
  | some s =>
      have hsends := ReportQueue.sends_poll (h s hs).reports.orderly now
      rw [(pollReports_cases hs now).1]
      exact fun x hx => hsends.orderly.kind_ne_ack (hsends.known x hx)

/-- What the passing of time makes an agent ask for, in one message if in any. -/
theorem claims_poll_le (h : a.Regular) (length now : Nat) :
    ((a.poll now).messages.map (Message.claims n length)).sum ≤ length := by
  have hrecover := proceeds_recover h now
  cases hbusy : a.isBusy with
  -- A busy session sends reports, and they claim nothing.
  | true =>
      rw [poll_of_busy hbusy, List.sum_eq_zero]
      · exact Nat.zero_le _
      · intro c hc
        rcases List.mem_map.1 hc with ⟨x, hx, rfl⟩
        have hregular := (proceeds_pollExecution hrecover.regular now).regular
        exact Message.claims_of_ne_ack (kind_pollReports hregular x hx)
  -- One that receives sends at most one message, which claims the transfer at most.
  | false =>
      rw [poll_of_not_busy h.silent hbusy]
      have hsum := List.sum_le_card_nsmul
        (((a.recover now).pollTransfer now).messages.map (Message.claims n length)) length
        (fun c hc => by
          rcases List.mem_map.1 hc with ⟨x, -, rfl⟩
          exact x.claims_le)
      rw [List.length_map, smul_eq_mul] at hsum
      refine hsum.trans ((Nat.mul_le_mul_right length (length_pollTransfer_le _ now)).trans ?_)
      exact (Nat.one_mul length).le

end Agent

/-! ### Supervisors -/

namespace Supervisor

/-- The transfer that a supervisor has yet to send of its own accord. -/
def budget (s : Supervisor) : Nat :=
  match s.phase with
  | .awaitingResponse _ _ => s.transfer.length
  | _ => 0

variable {n : Nat} {s : Supervisor} {x : Message} {now : Nat} {r : SupervisorReaction}

/-- What the messages of a transfer are good for. -/
theorem grants_le_length {messages : List Message} (h : ∀ y ∈ messages, y.kind = .mission) :
    (messages.map (Message.grants n)).sum ≤ messages.length := by
  have hsum := List.sum_le_card_nsmul (messages.map (Message.grants n)) 1
    (fun g hg => by
      rcases List.mem_map.1 hg with ⟨y, hy, rfl⟩
      exact Message.grants_of_mission_le (h y hy))
  rw [List.length_map, smul_eq_mul, Nat.mul_one] at hsum
  exact hsum

/-- What is asked for without the last message is good for nothing. -/
theorem grants_requested_le (htransfer : ∀ y ∈ s.transfer, y.kind = .mission)
    (hkind : x.kind = .ack) :
    ((s.requested (missingIn x)).map (Message.grants n)).sum ≤ x.claims n s.transfer.length := by
  rw [Message.claims]
  split
  · have hlen : (s.requested (missingIn x)).length ≤ s.transfer.length := List.length_filter_le _ _
    exact (grants_le_length (fun y hy => htransfer y (List.mem_filter.1 hy).1)).trans hlen
  · -- The last message is not among those that are sent again, and the others grant nothing.
    rename_i hlast
    refine (List.sum_eq_zero ?_).le
    intro g hg
    rcases List.mem_map.1 hg with ⟨y, hy, rfl⟩
    rcases List.mem_filter.1 hy with ⟨hy, hrequested⟩
    simp only [Message.grants, htransfer y hy]
    refine if_neg (fun he => hlast ⟨hkind, ?_⟩)
    exact he ▸ of_decide_eq_true hrequested

/-- What a reaction of a supervisor costs to which some messages were claimed: what is
    sent of the transfer is not sent again. -/
def Spends (n claimed : Nat) (s : Supervisor) (r : SupervisorReaction) : Prop :=
  r.state.budget + (r.messages.map (Message.grants n)).sum ≤ s.budget + claimed

variable {claimed : Nat} {s' : Supervisor} {events : List SessionEvent}

theorem Spends.silent (h : s'.budget ≤ s.budget) : Spends n claimed s { state := s', events } :=
  h.trans (Nat.le_add_right _ _)

/-- An acknowledgement is good for nothing. -/
theorem Spends.one (h : s'.budget ≤ s.budget) (hx : x.kind = .ack) :
    Spends n claimed s { state := s', messages := [x], events } := by
  rw [Spends, List.map_singleton, List.sum_singleton, Message.grants_of_ack hx]
  exact h.trans (Nat.le_add_right _ _)

theorem Spends.sends {messages : List Message} (hs' : s'.budget = 0)
    (h : (messages.map (Message.grants n)).sum ≤ s.budget + claimed) :
    Spends n claimed s { state := s', messages, events } := by
  rw [Spends, hs', Nat.zero_add]
  exact h

theorem Supervises.spends (h : Supervises s x now r) : Spends n claimed s r := by
  cases h with
  | recovers known => exact .one (Nat.le_refl _) rfl
  | progress new kind payload => exact .one (Nat.zero_le _) rfl
  | ends new outcome => exact .one (Nat.zero_le _) rfl
  | malformed new progress outcome => exact .silent (Nat.le_refl _)

/-- Every answer of a supervisor is paid for. -/
theorem spends_receive (htransfer : ∀ y ∈ s.transfer, y.kind = .mission) (x : Message) (now : Nat) :
    Spends n (x.claims n s.transfer.length) s (s.receive x now) := by
  have hreceives := s.receives x now
  generalize s.receive x now = r at hreceives ⊢
  cases hreceives with
  | foreign foreign => exact .silent (Nat.le_refl _)
  | useless report => exact .silent (Nat.le_refl _)
  | transfers phase kind available =>
      refine .sends rfl ?_
      rw [budget, phase]
      exact (grants_le_length htransfer).trans (Nat.le_add_right _ _)
  | declined phase kind unavailable => exact .silent (Nat.zero_le _)
  | accepted phase kind complete => exact .silent (Nat.zero_le _)
  | asked phase kind missing =>
      exact .sends rfl ((grants_requested_le htransfer kind).trans (Nat.le_add_left _ _))
  | acceptedReport phase report supervises =>
      -- A supervisor that watches has sent the transfer.
      have hspends : Spends n 0 ((s.heard now).watch now) _ := supervises.spends
      exact Nat.le_trans hspends (Nat.zero_le _)
  | reported phase report supervises => exact supervises.spends
  | acknowledged phase report => exact .one (Nat.le_refl _) rfl

/-- What asks nothing is not answered. -/
theorem messages_receive_eq_nil (hx : x.AsksNothing) (s : Supervisor) (now : Nat) :
    (s.receive x now).messages = [] := by
  -- It is an acknowledgement, hence no report.
  have hreport : x.kind.isReport ≠ true := by
    rw [hx.1]
    exact nofun
  have hreceives := s.receives x now
  generalize s.receive x now = r at hreceives ⊢
  cases hreceives with
  | foreign foreign => rfl
  | useless report => rfl
  | transfers phase kind available => cases hx.1.symm.trans kind
  | declined phase kind unavailable => rfl
  | accepted phase kind complete => rfl
  | asked phase kind missing => exact absurd hx.2 missing
  | acceptedReport phase report supervises => exact absurd report hreport
  | reported phase report supervises => exact absurd report hreport
  | acknowledged phase report => exact absurd report hreport

/-- What the passing of time brings an agent: a hello, the transfer, or an
    acknowledgement. -/
theorem grants_poll_le (htransfer : ∀ y ∈ s.transfer, y.kind = .mission) (now : Nat) :
    ((s.poll now).messages.map (Message.grants n)).sum ≤ n + 1 + s.transfer.length := by
  have hpolls := s.polls now
  generalize s.poll now = r at hpolls ⊢
  cases hpolls with
  | quiet early => exact Nat.zero_le _
  | greets phase due more =>
      rw [List.map_singleton, List.sum_singleton, Message.grants_of_hello rfl]
      exact Nat.le_add_right _ _
  | unresponsive phase due spent => exact Nat.zero_le _
  -- The whole transfer is sent again.
  | resends phase due more => exact (grants_le_length htransfer).trans (Nat.le_add_left _ _)
  | unconfirmed phase due spent => exact Nat.zero_le _
  | silent phase due => exact Nat.zero_le _
  | farewells phase left due =>
      exact Nat.zero_le _

theorem budget_le (s : Supervisor) : s.budget ≤ s.transfer.length := by
  rw [budget]
  split
  · exact Nat.le_refl _
  · exact Nat.zero_le _

end Supervisor

end RoverDispatch
