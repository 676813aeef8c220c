import RoverDispatch.Proofs.Session.Answers
import RoverDispatch.Session.Exchange

/-!
# Exchanges

The messages of an instant come to an end.

Messages take no time, so at one instant an answer can be answered at once, and
this answer again. `Exchange.funds` bounds how long this can go on. It adds up
what both ends can still answer and what the messages under way are good for.
Whether a message is lost or delivered, what it was good for is gone, and no
reaction costs less than it brings. Only an acknowledgement that asks nothing
costs nothing, and it is not answered. So a round in which only the agent has
something to hear either uses up funds or is the last. The first round of an
instant is the only one that can be different.

At the end of an instant nothing is under way, so the next one begins with what
a poll of each end has sent. This and both budgets are bounded by the length of
the transfer, and the rounds that are allowed for are more.

What arrives of a message may have been read from its bytes. The messages of the
transfer come through as they are, and so do the lists of acknowledgements,
since an agent asks for fragments of the transfer only. Of any other message
only the kind and the mission matter here.

## Main definitions

* `Mission.Transfers`: A transfer that the words of the format can hold.
* `Exchange.Sound`: Both ends are on the mission, and so is what is under way.
* `Exchange.funds`: What can still be answered.
* `Exchange.Hears`: What deliveries to the agent cost.
* `Exchange.Reaches`: What can be reached instant after instant.

## Theorems

* `Exchange.Sound.agentHearsAll`, `Exchange.Sound.supervisorHearsAll`: The two
  halves of a round.
* `Exchange.Sound.round`: A round keeps an exchange sound and uses up funds.
* `Exchange.Sound.isQuiet_settle`: So many rounds as there are funds are enough.
* `Exchange.Sound.funds_wake_le`: What an instant begins with.
* `Exchange.Reaches.sound`: Whatever can be reached is sound, with small funds.
* `Exchange.instants_settle`: Every instant comes to an end.
-/

namespace RoverDispatch

/-! ### What is sent -/

/-- The words of the format can hold a request for numbers of a transfer. -/
theorem Window.Misses.fits {frags : List (List Field)} {order : List (Fin frags.length)}
    {missing : List Int} (h : (Reception.windowOf order).Misses missing)
    (hshort : frags.length ≤ 2 ^ 20) : (Payload.ack ⟨missing, false⟩).Fits := by
  have hlen := h.length_le
  simp only [Reception.windowOf, Int.toNat_natCast] at hlen
  refine ⟨?_, ?_, fun seq hseq => ?_⟩
  · exact Nat.lt_of_le_of_lt (hlen.trans hshort) (by decide)
  · simp only [Value.ints, List.length_append, Word.length_be, Value.length_flatMap_int]
    omega
  · rcases contains_iff.1 (h.unseen seq hseq).1 with ⟨hlow, hhigh⟩
    simp only [last, Reception.windowOf, firstTransferSeq] at hlow hhigh
    simp only [Word.InRange, Word.size_four]
    omega

/-- What an agent acknowledges can be sent. -/
theorem Agent.Proceeds.fits_ack {m : Mission} {frags : List (List Field)} {a : Agent}
    {r : AgentReaction} (h : a.Proceeds r) (hserves : r.state.Serves m frags)
    (hshort : frags.length ≤ 2 ^ 20) {x : Message} (hx : x ∈ r.messages) (hkind : x.kind = .ack) :
    x.payload.Fits := by
  rcases h.backed x hx hkind with ⟨s, hs, hbacks⟩
  cases hbacks with
  | complete mission busy payload =>
      rw [payload]
      exact (by decide : (Payload.ack ⟨[], false⟩).Fits)
  | missing mission stage window ne misses payload =>
      have hstage := (hserves.session hs).stage
      rw [stage] at hstage
      rw [payload]
      -- The window of the session is that of the transfer.
      cases hstage.1 with
      | fresh none assembly => cases window.symm.trans none
      | partly order nodup short some assembly =>
          cases window.symm.trans some
          exact misses.fits hshort

/-! ### What arrives -/

section Arrives

variable {μ : Type} [Lossy μ] {x y : Message}

/-- What arrives is of the kind that was sent, and as far as the words of the
    format can hold them, about the same mission and with the same payload. -/
theorem Lossy.of_arrives (h : Lossy.arrives μ y = some x) :
    x.kind = y.kind ∧ (Word.InRange 4 y.mission → x.mission = y.mission) ∧
      (y.payload.Fits → x.payload = y.payload) := by
  rcases Lossy.faithful h with rfl | hdecode
  · exact ⟨rfl, fun _ => rfl, fun _ => rfl⟩
  · exact Message.of_decode_encode hdecode

/-- A message that can be sent arrives as it is. -/
theorem Lossy.eq_of_arrives (h : Lossy.arrives μ y = some x) (hy : y.Fits)
    (haccepts : y.kind.accepts y.payload.tag = true) : x = y := by
  rcases Lossy.faithful h with rfl | hdecode
  · rfl
  · cases hdecode.symm.trans (Message.decode_encode_of_accepts hy haccepts)
    rfl

variable {n length : Nat}

/-- A request is as good when it arrives as when it was sent. -/
theorem Lossy.claims_of_arrives (h : Lossy.arrives μ y = some x)
    (hfits : y.kind = .ack → y.payload.Fits) : x.claims n length = y.claims n length := by
  rcases Lossy.of_arrives h with ⟨hkind, -, hpayload⟩
  by_cases hack : y.kind = .ack
  · have hmissing : Supervisor.missingIn x = Supervisor.missingIn y := by
      rw [Supervisor.missingIn, hpayload (hfits hack), Supervisor.missingIn]
    rw [Message.claims, Message.claims, hkind, hmissing]
  · rw [Message.claims_of_ne_ack hack, Message.claims_of_ne_ack (hkind ▸ hack)]

/-- What asks nothing still does when it arrives. -/
theorem Lossy.asksNothing_of_arrives (h : Lossy.arrives μ y = some x) (hfits : y.payload.Fits)
    (hy : y.AsksNothing) : x.AsksNothing := by
  rcases Lossy.of_arrives h with ⟨hkind, -, hpayload⟩
  refine ⟨hkind.trans hy.1, ?_⟩
  rw [Supervisor.missingIn, hpayload hfits]
  exact hy.2

end Arrives

/-- A transfer of a mission that the words of the format can hold. -/
structure Mission.Transfers (m : Mission) (rover : Int) (frags : List (List Field))
    (transfer : List Message) : Prop where
  fits : m.Fits
  inRange : Word.InRange 4 rover
  sends : m.Sends rover frags transfer
  short : frags.length ≤ m.toFields.length * maxParts

namespace Mission.Transfers

variable {m : Mission} {rover : Int} {frags : List (List Field)} {transfer : List Message}
  {x y : Message}

theorem length_le (h : m.Transfers rover frags transfer) : frags.length ≤ 2 ^ 20 := by
  have hshort := h.short
  have hfields : m.toFields.length = 10 := rfl
  simp only [hfields, maxParts] at hshort
  omega

/-- What a supervisor can say to the agent, and what of it arrives. -/
theorem directs {μ : Type} [Lossy μ] (h : m.Transfers rover frags transfer)
    (hy : y ∈ transfer ∨ y.mission = m.id ∧ (y.kind = .hello ∨ y.kind = .ack))
    (harrives : Lossy.arrives μ y = some x) :
    m.Directs frags x ∧ x.grants frags.length = y.grants frags.length := by
  rcases hy with hy | ⟨habout, hkind⟩
  · -- A message of the transfer arrives whole or not at all.
    rcases h.sends.fits h.fits h.inRange h.short hy with ⟨hfits, haccepts⟩
    rcases h.sends.about hy with ⟨hkind, -, habout⟩
    rw [Lossy.eq_of_arrives harrives hfits haccepts]
    exact ⟨.transfer habout hkind (h.sends.brings hy), rfl⟩
  · -- Of any other message the kind and the mission are all that matters.
    rcases Lossy.of_arrives harrives with ⟨hsame, hmission, -⟩
    have habout' : x.mission = m.id := (hmission (habout ▸ h.fits.1)).trans habout
    rcases hkind with hkind | hkind
    · refine ⟨.hello habout' (hsame.trans hkind), ?_⟩
      rw [Message.grants_of_hello (hsame.trans hkind), Message.grants_of_hello hkind]
    · refine ⟨.ack habout' (hsame.trans hkind), ?_⟩
      rw [Message.grants_of_ack (hsame.trans hkind), Message.grants_of_ack hkind]

end Mission.Transfers

/-! ### What both ends keep -/

namespace Agent

variable {m : Mission} {frags : List (List Field)} {a : Agent}

/-- What happens to the rover alone does not concern the mission. -/
theorem Serves.recover (h : a.Serves m frags) (now : Nat) : (a.recover now).Serves m frags := by
  rw [Serves, (a.recover_eq now).1, (a.recover_eq now).2]
  exact h

/-- A poll keeps an agent on its mission. -/
theorem Serves.poll (h : a.Serves m frags) (now : Nat) : (a.poll now).state.Serves m frags := by
  have htransfer := follows_pollTransfer (h.recover now) now
  have hexecution := follows_pollExecution htransfer.serves now
  exact (follows_pollReports hexecution.serves now).serves

theorem Serves.inject (h : a.Serves m frags) (faults : List Fault) :
    (faults.foldl Agent.inject a).Serves m frags := by
  induction faults generalizing a with
  | nil => exact h
  | cons fault faults ih => exact ih (a := a.inject fault) h

theorem Regular.inject (h : a.Regular) (faults : List Fault) :
    (faults.foldl Agent.inject a).Regular := by
  induction faults generalizing a with
  | nil => exact h
  | cons fault faults ih => exact ih (a := a.inject fault) h

end Agent

namespace Exchange

variable {μ : Type} {m : Mission} {rover : Int} {frags : List (List Field)}
  {transfer l : List Message} {x x' x'' : Exchange μ} {y : Message} {n now : Nat}

/-- Both ends are on the mission, and so is what is under way. -/
structure Sound (m : Mission) (frags : List (List Field)) (transfer : List Message)
    (x : Exchange μ) : Prop where
  serves : x.agent.Serves m frags
  regular : x.agent.Regular
  mission : x.supervisor.mission = m
  holds : x.supervisor.transfer = transfer
  toAgent : ∀ y ∈ x.toAgent, y ∈ transfer ∨ y.mission = m.id ∧ (y.kind = .hello ∨ y.kind = .ack)
  toCoordinator : ∀ y ∈ x.toCoordinator, y.kind = .ack → y.payload.Fits

/-- A reaction of the agent keeps both ends on the mission. -/
theorem Sound.agentReacts (h : x.Sound m frags transfer) (hshort : frags.length ≤ 2 ^ 20)
    {r : AgentReaction} (hserves : r.state.Serves m frags) (hr : x.agent.Proceeds r) :
    (x.agentReacts r).Sound m frags transfer :=
  { h with
    serves := hserves
    regular := hr.regular
    toCoordinator := by
      intro y hy hkind
      rcases List.mem_append.1 hy with hy | hy
      · exact h.toCoordinator y hy hkind
      · exact hr.fits_ack hserves hshort hy hkind }

/-- So does one of the supervisor. -/
theorem Sound.supervisorReacts (h : x.Sound m frags transfer) {r : SupervisorReaction}
    (hr : x.supervisor.Speaks r) : (x.supervisorReacts r).Sound m frags transfer :=
  { h with
    mission := hr.mission.trans h.mission
    holds := hr.transfer.trans h.holds
    toAgent := by
      intro y hy
      rcases List.mem_append.1 hy with hy | hy
      · exact h.toAgent y hy
      · have hsaid := hr.messages y hy
        rw [h.holds, h.mission] at hsaid
        exact hsaid }

theorem Sound.wake (h : x.Sound m frags transfer) (hm : m.Transfers rover frags transfer)
    (now : Nat) (faults : List Fault) : (x.wake now faults).Sound m frags transfer := by
  have hstruck : { x with agent := faults.foldl Agent.inject x.agent }.Sound m frags transfer :=
    { h with serves := h.serves.inject faults, regular := h.regular.inject faults }
  have hpolled := hstruck.supervisorReacts (x.supervisor.polls now).speaks
  exact hpolled.agentReacts hm.length_le (hpolled.serves.poll now)
    (Agent.proceeds_poll hpolled.regular now)

/-! ### Funds -/

theorem isQuiet_iff : x.isQuiet = true ↔ x.toAgent = [] ∧ x.toCoordinator = [] := by
  rw [isQuiet, Bool.and_eq_true, List.isEmpty_iff, List.isEmpty_iff]

/-- What both ends can still answer, and what the messages under way can add. -/
def funds (n : Nat) (x : Exchange μ) : Nat :=
  x.agent.budget n + x.supervisor.budget + (x.toAgent.map (Message.grants n)).sum +
    (x.toCoordinator.map (Message.claims n x.supervisor.transfer.length)).sum

/-- What both ends begin an instant with, if nothing is left of the one before. -/
theorem Sound.funds_wake_le (h : x.Sound m frags transfer) (hm : m.Transfers rover frags transfer)
    (hquiet : x.isQuiet = true) (now : Nat) (faults : List Fault) :
    (x.wake now faults).funds frags.length ≤ 3 * transfer.length + 2 * frags.length + 3 := by
  rcases isQuiet_iff.1 hquiet with ⟨hagent, hcoordinator⟩
  have hwoken := h.wake hm now faults
  -- What is under way has been sent just now.
  have htoAgent : (x.wake now faults).toAgent = (x.supervisor.poll now).messages := by
    change x.toAgent ++ _ = _
    rw [hagent, List.nil_append]
  have htoCoordinator : (x.wake now faults).toCoordinator =
      ((faults.foldl Agent.inject x.agent).poll now).messages := by
    change x.toCoordinator ++ _ = _
    rw [hcoordinator, List.nil_append]
    rfl
  have hbudget := hwoken.regular.budget_le (n := frags.length)
  have hbudget' := (x.wake now faults).supervisor.budget_le
  have hgrants := Supervisor.grants_poll_le (n := frags.length)
    (fun y hy => (hm.sends.about (h.holds ▸ hy)).1) now
  have hclaims := Agent.claims_poll_le (n := frags.length) (h.regular.inject faults)
    transfer.length now
  rw [hwoken.holds] at hbudget'
  rw [h.holds] at hgrants
  rw [funds, htoAgent, htoCoordinator, hwoken.holds]
  omega

variable {timing agentTiming : Timing} {body : Rover} {medium : μ}

/-- A supervisor has greeted an agent that has heard nothing yet. -/
theorem sound_start (m : Mission) (frags : List (List Field)) (transfer : List Message) :
    (Exchange.start ⟨timing, rover, m, transfer, .idle, .empty, 0⟩ (.start rover agentTiming body)
      medium).Sound m frags transfer where
  serves := fun _ hs => absurd hs nofun
  regular := .start rover agentTiming body
  mission := rfl
  holds := rfl
  toAgent := by
    intro y hy
    cases List.mem_singleton.1 hy
    exact .inr ⟨rfl, .inl rfl⟩
  toCoordinator := fun _ hy => absurd hy List.not_mem_nil

theorem funds_start (m : Mission) (transfer : List Message) :
    (Exchange.start ⟨timing, rover, m, transfer, .idle, .empty, 0⟩ (.start rover agentTiming body)
      medium).funds n = transfer.length + (n + 1) := by
  change 0 + transfer.length + (n + 1 + 0) + 0 = _
  omega

/-! ### Deliveries -/

/-- A message has gone through the medium. -/
def carried (x : Exchange μ) (medium : μ) (deliveries : List Delivery) : Exchange μ :=
  { x with medium, deliveries }

/-- Just these messages are under way to the agent. -/
def withToAgent (x : Exchange μ) (l : List Message) : Exchange μ := { x with toAgent := l }

/-- Just these messages are under way to the supervisor. -/
def withToCoordinator (x : Exchange μ) (l : List Message) : Exchange μ :=
  { x with toCoordinator := l }

/-- What deliveries to the agent cost: funds, unless all new answers ask nothing. -/
structure Hears (n : Nat) (x x' : Exchange μ) : Prop where
  funds : x'.funds n ≤ x.funds n
  answers : x'.funds n < x.funds n ∨ ∀ z ∈ x'.toCoordinator, z ∈ x.toCoordinator ∨ z.AsksNothing

theorem Hears.trans (h : Hears n x x') (h' : Hears n x' x'') : Hears n x x'' := by
  refine ⟨h'.funds.trans h.funds, ?_⟩
  rcases h'.answers with hless' | hquiet'
  · exact .inl (Nat.lt_of_lt_of_le hless' h.funds)
  · rcases h.answers with hless | hquiet
    · exact .inl (Nat.lt_of_le_of_lt h'.funds hless)
    · refine .inr (fun z hz => ?_)
      rcases hquiet' z hz with hz | hz
      · exact hquiet z hz
      · exact .inr hz

section Deliveries

variable [Lossy μ]

theorem carry_cases (x : Exchange μ) (side : Side) (now : Nat) (y : Message) :
    ∃ medium deliveries arrived, x.carry side now y = (arrived, x.carried medium deliveries) ∧
      ∀ z, arrived = some z → Lossy.arrives μ y = some z := by
  refine ⟨_, _, _, rfl, fun z hz => ?_⟩
  split at hz
  · cases hz
  · exact hz

/-- A message to the agent is lost, or the agent reacts to what arrives. -/
theorem deliverToAgent_cases (now : Nat) (x : Exchange μ) (y : Message) :
    ∃ medium deliveries, x.deliverToAgent now y = x.carried medium deliveries ∨
      ∃ z, Lossy.arrives μ y = some z ∧ x.deliverToAgent now y =
        (x.carried medium deliveries).agentReacts (x.agent.receive z now) := by
  rcases x.carry_cases .agent now y with ⟨medium, deliveries, arrived, hcarry, harrived⟩
  refine ⟨medium, deliveries, ?_⟩
  rw [deliverToAgent, hcarry]
  cases arrived with
  | none => exact .inl rfl
  | some z => exact .inr ⟨z, harrived z rfl, rfl⟩

/-- So it is with a message to the supervisor. -/
theorem deliverToSupervisor_cases (now : Nat) (x : Exchange μ) (y : Message) :
    ∃ medium deliveries, x.deliverToSupervisor now y = x.carried medium deliveries ∨
      ∃ z, Lossy.arrives μ y = some z ∧ x.deliverToSupervisor now y =
        (x.carried medium deliveries).supervisorReacts (x.supervisor.receive z now) := by
  rcases x.carry_cases .coordinator now y with ⟨medium, deliveries, arrived, hcarry, harrived⟩
  refine ⟨medium, deliveries, ?_⟩
  rw [deliverToSupervisor, hcarry]
  cases arrived with
  | none => exact .inl rfl
  | some z => exact .inr ⟨z, harrived z rfl, rfl⟩

/-- One message for the agent. -/
theorem Sound.agentHears (h : (x.withToAgent (y :: l)).Sound m frags transfer)
    (hm : m.Transfers rover frags transfer) (now : Nat) :
    ∃ x' : Exchange μ, (x.withToAgent []).deliverToAgent now y = x'.withToAgent [] ∧
      (x'.withToAgent l).Sound m frags transfer ∧
      Hears frags.length (x.withToAgent (y :: l)) (x'.withToAgent l) := by
  have hl : (x.withToAgent l).Sound m frags transfer :=
    { h with toAgent := fun z hz => h.toAgent z (List.mem_cons_of_mem _ hz) }
  rcases (x.withToAgent []).deliverToAgent_cases now y with
    ⟨medium, deliveries, hlost | ⟨z, hz, hheard⟩⟩
  · refine ⟨x.carried medium deliveries, hlost, { hl with }, ?_, .inr fun _ hz => .inl hz⟩
    simp only [funds, carried, withToAgent, List.map_cons, List.sum_cons]
    omega
  · rcases hm.directs (h.toAgent y (List.mem_cons_self ..)) hz with ⟨hdirects, hgrants⟩
    have hfollows := Agent.follows_receive h.serves hm.fits hm.sends.cutInto hdirects now
    have hreacts := hl.agentReacts hm.length_le hfollows.serves (Agent.proceeds_receive h.regular z now)
    have hspends : Agent.Spends frags.length (y.grants frags.length) x.agent (x.agent.receive z now) :=
      hgrants ▸ Agent.spends_receive h.serves h.regular hm.fits hm.sends.cutInto hdirects now
    refine ⟨(x.carried medium deliveries).agentReacts (x.agent.receive z now), hheard,
      { hreacts with }, ?_⟩
    -- The message is gone, and the budget of the agent is another.
    have hfunds : (((x.carried medium deliveries).agentReacts
          (x.agent.receive z now)).withToAgent l).funds frags.length +
          (x.agent.budget frags.length + y.grants frags.length) =
        (x.withToAgent (y :: l)).funds frags.length +
          (x.agent.receive z now).state.budget frags.length := by
      simp only [funds, carried, withToAgent, Exchange.agentReacts, List.map_cons, List.sum_cons,
        List.map_append, List.sum_append, hspends.claims_eq]
      omega
    cases hspends with
    | free quiet budget =>
        exact ⟨by omega, .inr fun w hw => (List.mem_append.1 hw).imp_right (quiet w)⟩
    | paid claims budget => exact ⟨by omega, .inl (by omega)⟩

/-- All messages for the agent. -/
theorem Sound.agentHearsAll (h : (x.withToAgent l).Sound m frags transfer)
    (hm : m.Transfers rover frags transfer) (now : Nat) :
    (l.foldl (deliverToAgent now) (x.withToAgent [])).Sound m frags transfer ∧
      (l.foldl (deliverToAgent now) (x.withToAgent [])).toAgent = [] ∧
      Hears frags.length (x.withToAgent l)
        (l.foldl (deliverToAgent now) (x.withToAgent [])) := by
  induction l generalizing x with
  | nil => exact ⟨h, rfl, Nat.le_refl _, .inr fun _ hz => .inl hz⟩
  | cons y l ih =>
      rcases h.agentHears hm now with ⟨x', hdeliver, hsound, hhears⟩
      rcases ih hsound with ⟨hsound', hnil, hhears'⟩
      rw [List.foldl_cons, hdeliver]
      exact ⟨hsound', hnil, hhears.trans hhears'⟩

/-- One message for the supervisor. -/
theorem Sound.supervisorHears (h : (x.withToCoordinator (y :: l)).Sound m frags transfer)
    (hm : m.Transfers rover frags transfer) (now : Nat) :
    ∃ x' : Exchange μ,
      (x.withToCoordinator []).deliverToSupervisor now y = x'.withToCoordinator [] ∧
      (x'.withToCoordinator l).Sound m frags transfer ∧
      (x'.withToCoordinator l).funds frags.length ≤
        (x.withToCoordinator (y :: l)).funds frags.length ∧
      (y.AsksNothing → x'.toAgent = x.toAgent) := by
  have hl : (x.withToCoordinator l).Sound m frags transfer :=
    { h with toCoordinator := fun z hz => h.toCoordinator z (List.mem_cons_of_mem _ hz) }
  rcases (x.withToCoordinator []).deliverToSupervisor_cases now y with
    ⟨medium, deliveries, hlost | ⟨z, hz, hheard⟩⟩
  · -- It is lost, and what it could claim goes with it.
    refine ⟨x.carried medium deliveries, hlost, { hl with }, ?_, fun _ => rfl⟩
    simp only [funds, carried, withToCoordinator, List.map_cons, List.sum_cons]
    omega
  · -- It arrives, and what the supervisor says to it is paid from what it claims.
    have hfits := h.toCoordinator y (List.mem_cons_self ..)
    have hspeaks := (x.supervisor.receives z now).speaks
    have hspends : Supervisor.Spends frags.length (y.claims frags.length x.supervisor.transfer.length)
        x.supervisor (x.supervisor.receive z now) := by
      rw [← Lossy.claims_of_arrives hz hfits]
      refine Supervisor.spends_receive (fun w hw => ?_) z now
      exact (hm.sends.about (h.holds ▸ hw)).1
    have hreacts := hl.supervisorReacts hspeaks
    refine ⟨(x.carried medium deliveries).supervisorReacts (x.supervisor.receive z now), hheard,
      { hreacts with }, ?_, fun hy => ?_⟩
    · rw [Supervisor.Spends] at hspends
      simp only [funds, carried, withToCoordinator, Exchange.supervisorReacts, List.map_cons,
        List.sum_cons, List.map_append, List.sum_append, hspeaks.transfer]
      omega
    · have hnil := Supervisor.messages_receive_eq_nil (Lossy.asksNothing_of_arrives hz (hfits hy.1) hy)
        x.supervisor now
      simp only [Exchange.supervisorReacts, carried, hnil, List.append_nil]

/-- All messages for the supervisor. -/
theorem Sound.supervisorHearsAll (h : (x.withToCoordinator l).Sound m frags transfer)
    (hm : m.Transfers rover frags transfer) (now : Nat) :
    (l.foldl (deliverToSupervisor now) (x.withToCoordinator [])).Sound m frags transfer ∧
      (l.foldl (deliverToSupervisor now) (x.withToCoordinator [])).toCoordinator = [] ∧
      (l.foldl (deliverToSupervisor now) (x.withToCoordinator [])).funds frags.length ≤
        (x.withToCoordinator l).funds frags.length ∧
      ((∀ y ∈ l, y.AsksNothing) →
        (l.foldl (deliverToSupervisor now) (x.withToCoordinator [])).toAgent = x.toAgent) := by
  induction l generalizing x with
  | nil => exact ⟨h, rfl, Nat.le_refl _, fun _ => rfl⟩
  | cons y l ih =>
      rcases h.supervisorHears hm now with ⟨x', hdeliver, hsound, hfunds, hquiet⟩
      rcases ih hsound with ⟨hsound', hnil, hfunds', hquiet'⟩
      rw [List.foldl_cons, hdeliver]
      -- Where no message asks for anything, none is answered.
      refine ⟨hsound', hnil, hfunds'.trans hfunds, fun hl => ?_⟩
      rcases List.forall_mem_cons.1 hl with ⟨hy, hl⟩
      exact (hquiet' hl).trans (hquiet hy)

/-! ### Rounds -/

/-- A round lets no funds arise. When nothing was under way to the supervisor, it
    uses some up or is the last. -/
theorem Sound.round (h : x.Sound m frags transfer) (hm : m.Transfers rover frags transfer)
    (now : Nat) :
    (x.round now).Sound m frags transfer ∧ (x.round now).toCoordinator = [] ∧
      (x.round now).funds frags.length ≤ x.funds frags.length ∧
      (x.toCoordinator = [] → (x.round now).toAgent = [] ∨
        (x.round now).funds frags.length < x.funds frags.length) := by
  rcases Sound.agentHearsAll (x := x) h hm now with ⟨hheard, hnil, hhears⟩
  have hround : x.round now =
      (x.toAgent.foldl (deliverToAgent now) (x.withToAgent [])).toCoordinator.foldl
        (deliverToSupervisor now)
        ((x.toAgent.foldl (deliverToAgent now) (x.withToAgent [])).withToCoordinator []) := rfl
  rw [hround]
  generalize x.toAgent.foldl (deliverToAgent now) (x.withToAgent []) = x' at hheard hnil hhears ⊢
  rcases Sound.supervisorHearsAll (x := x') hheard hm now with ⟨hheard', hnil', hfunds, hquiet⟩
  refine ⟨hheard', hnil', hfunds.trans hhears.funds, fun hempty => ?_⟩
  rcases hhears.answers with hless | hanswers
  · exact .inr (Nat.lt_of_le_of_lt hfunds hless)
  · -- All that the agent has said asks nothing, so it is not answered.
    refine .inl ((hquiet fun y hy => ?_).trans hnil)
    rcases hanswers y hy with hold | hnothing
    · exact absurd (hempty ▸ hold) List.not_mem_nil
    · exact hnothing

/-- When no message is under way, nothing happens any more. -/
theorem settle_of_isQuiet (h : x.isQuiet = true) (now n : Nat) : x.settle now n = x := by
  cases n with
  | zero => rfl
  | succ n => rw [settle, if_pos h]

/-- More rounds than are needed make no difference. -/
theorem settle_eq_of_le {r j : Nat} (h : (x.settle now r).isQuiet = true) (hle : r ≤ j) :
    x.settle now j = x.settle now r := by
  induction r generalizing x j with
  | zero => exact settle_of_isQuiet h now j
  | succ r ih =>
      cases j with
      | zero => cases hle
      | succ j =>
          rw [settle] at h ⊢
          rw [settle]
          split at h
          · rename_i hquiet
            rw [if_pos hquiet, if_pos hquiet]
          · -- Both begin with the same round.
            rename_i hbusy
            rw [if_neg hbusy, if_neg hbusy]
            exact ih h (Nat.le_of_succ_le_succ hle)

theorem Sound.settle (h : x.Sound m frags transfer) (hm : m.Transfers rover frags transfer)
    (now n : Nat) : (x.settle now n).Sound m frags transfer := by
  induction n generalizing x with
  | zero => exact h
  | succ n ih =>
      rw [Exchange.settle]
      split
      · exact h
      · exact ih (h.round hm now).1

/-- Rounds that begin with the agent are as many as there are funds, at most. -/
theorem Sound.isQuiet_settle_of_nil (h : x.Sound m frags transfer)
    (hm : m.Transfers rover frags transfer) (hnil : x.toCoordinator = []) {j : Nat}
    (hj : x.funds frags.length < j) : (x.settle now j).isQuiet = true := by
  induction j generalizing x with
  | zero => cases hj
  | succ j ih =>
      rw [Exchange.settle]
      split
      · rename_i hquiet
        exact hquiet
      · -- Unless it was the last, a round uses up some of the funds.
        rcases h.round hm now with ⟨hsound, hnil', -, hrest⟩
        rcases hrest hnil with hlast | hless
        · have hquiet := isQuiet_iff.2 ⟨hlast, hnil'⟩
          rw [settle_of_isQuiet hquiet]
          exact hquiet
        · exact ih hsound hnil' (by omega)

/-- Whatever is under way, one more round is enough. -/
theorem Sound.isQuiet_settle (h : x.Sound m frags transfer)
    (hm : m.Transfers rover frags transfer) {j : Nat} (hj : x.funds frags.length + 1 < j) :
    (x.settle now j).isQuiet = true := by
  cases j with
  | zero => cases hj
  | succ j =>
      rw [Exchange.settle]
      split
      · rename_i hquiet
        exact hquiet
      · rcases h.round hm now with ⟨hsound, hnil, hfunds, -⟩
        exact hsound.isQuiet_settle_of_nil hm hnil (by omega)

/-! ### Instants -/

/-- An exchange that can be reached from another, instant after instant at whatever
    times and with whatever faults. -/
inductive Reaches (x₀ : Exchange μ) : Exchange μ → Prop where
  | start : Reaches x₀ x₀
  | next {x : Exchange μ} (h : Reaches x₀ x) (now later : Nat) (faults : List Fault) :
      Reaches x₀ ((x.instant now).wake later faults)

/-- What happens at the end of an instant sends nothing. -/
theorem instant_eq (x : Exchange μ) (now : Nat) : ∃ events agentEvents instants,
    x.instant now = { x.settle now x.roundLimit with
      supervisor := (x.settle now x.roundLimit).supervisor.transmitted now
      supervisorEvents := events, agentEvents, instants } := by
  rw [instant, record]
  split
  · exact ⟨_, _, _, rfl⟩
  · exact ⟨_, _, _, rfl⟩

theorem isQuiet_instant (x : Exchange μ) (now : Nat) :
    (x.instant now).isQuiet = (x.settle now x.roundLimit).isQuiet := by
  rcases x.instant_eq now with ⟨events, agentEvents, instants, he⟩
  rw [he]
  rfl

theorem Sound.instant (h : x.Sound m frags transfer) (hm : m.Transfers rover frags transfer)
    (now : Nat) : (x.instant now).Sound m frags transfer := by
  rcases x.instant_eq now with ⟨events, agentEvents, instants, he⟩
  have hsettled := h.settle hm now x.roundLimit
  have hspeaks := ((x.settle now x.roundLimit).supervisor.transmits now).speaks
  rw [he]
  exact { hsettled with
    mission := hspeaks.mission.trans hsettled.mission
    holds := hspeaks.transfer.trans hsettled.holds }

/-- With small funds the rounds that are allowed for are enough. -/
theorem Sound.settles (h : x.Sound m frags transfer) (hm : m.Transfers rover frags transfer)
    (hfunds : x.funds frags.length ≤ 3 * transfer.length + 2 * frags.length + 3) (now : Nat) :
    (x.settle now x.roundLimit).isQuiet = true := by
  have hle := hm.sends.length_le
  refine h.isQuiet_settle hm ?_
  rw [roundLimit, h.holds]
  omega

/-- Every exchange that can be reached is sound and has small funds. -/
theorem Reaches.sound (hm : m.Transfers rover frags transfer)
    (hx : Reaches (Exchange.start ⟨timing, rover, m, transfer, .idle, .empty, 0⟩
      (.start rover agentTiming body) medium) x) :
    x.Sound m frags transfer ∧
      x.funds frags.length ≤ 3 * transfer.length + 2 * frags.length + 3 := by
  induction hx with
  | start =>
      refine ⟨sound_start m frags transfer, ?_⟩
      rw [funds_start]
      omega
  | next h now later faults ih =>
      -- An instant has settled before the next one comes, so the funds begin anew.
      have hquiet := ih.1.settles hm ih.2 now
      have hsound := ih.1.instant hm now
      rw [← isQuiet_instant] at hquiet
      exact ⟨hsound.wake hm later faults, hsound.funds_wake_le hm hquiet later faults⟩

/-- So they are at every instant that is reached. -/
theorem Reaches.settles {s : Supervisor} (hm : m.Fits) (hrover : Word.InRange 4 rover)
    (hs : Supervisor.prepare timing rover m = .ok s)
    (hx : Reaches (Exchange.start s (.start rover agentTiming body) medium) x) (now : Nat) :
    (x.settle now x.roundLimit).isQuiet = true := by
  rcases Supervisor.of_prepare hs with ⟨transfer, htransfer, rfl⟩
  rcases Mission.exists_sends htransfer with ⟨frags, hsends, hshort⟩
  have htransfers : m.Transfers rover frags transfer := ⟨hm, hrover, hsends, hshort⟩
  rcases hx.sound htransfers with ⟨hsound, hfunds⟩
  exact hsound.settles htransfers hfunds now

/-- There is no message storm. At any instant that is reached, at whatever times, with
    whatever faults and whatever is lost, messages are answered and answers answered until
    none is under way, after no more rounds than are allowed for. -/
theorem instants_settle {s : Supervisor} (hm : m.Fits) (hrover : Word.InRange 4 rover)
    (hs : Supervisor.prepare timing rover m = .ok s)
    (hx : Reaches (Exchange.start s (.start rover agentTiming body) medium) x) (now : Nat) :
    ∃ r ≤ x.roundLimit, (x.settle now r).toAgent = [] ∧ (x.settle now r).toCoordinator = [] ∧
      ∀ j, r ≤ j → x.settle now j = x.settle now r := by
  have hquiet := hx.settles hm hrover hs now
  rcases isQuiet_iff.1 hquiet with ⟨hagent, hcoordinator⟩
  exact ⟨x.roundLimit, Nat.le_refl _, hagent, hcoordinator, fun j hj => settle_eq_of_le hquiet hj⟩

end Deliveries

/-- Both fragments are lost at first. After the timeout the first is lost once more, the last
    makes the agent ask for it, and what is then sent again is acknowledged. -/
theorem instants_settle_lost :
    let m : Mission := ⟨1, .zero, .zero, .zero, .zero, "scan", 60, 2, 0, 1⟩
    let medium : Medium := ⟨0, [], [⟨.mission, 3, none, none⟩]⟩
    ∃ s, Supervisor.prepare { fragmentSize := 128 } 7 m = .ok s ∧
      let a : Agent := .start 7 {} (.start {} .zero .zero .hundred none)
      let x := ((Exchange.start s a medium).instant 0).wake 5000 []
      ∃ r ≤ x.roundLimit, (x.settle 5000 r).toAgent = [] ∧ (x.settle 5000 r).toCoordinator = [] ∧
        (x.settle 5000 r).deliveries.reverse.map (fun d => (d.message.kind, d.lost)) =
          [(.hello, false), (.response, false), (.mission, true), (.mission, true),
            (.mission, true), (.mission, false), (.ack, false), (.mission, false),
            (.ack, false)] := by
  intro m medium
  have hrun : ∃ s, Supervisor.prepare { fragmentSize := 128 } 7 m = .ok s ∧
      let a : Agent := .start 7 {} (.start {} .zero .zero .hundred none)
      let x := ((Exchange.start s a medium).instant 0).wake 5000 []
      (x.settle 5000 x.roundLimit).deliveries.reverse.map (fun d => (d.message.kind, d.lost)) =
        [(.hello, false), (.response, false), (.mission, true), (.mission, true),
          (.mission, true), (.mission, false), (.ack, false), (.mission, false), (.ack, false)] :=
    Supervisor.exists_prepare_of_check (by decide +kernel)
  rcases hrun with ⟨s, hs, hdeliveries⟩
  refine ⟨s, hs, ?_⟩
  intro a x
  have hx : Reaches (Exchange.start s a medium) x := .next .start 0 5000 []
  rcases instants_settle (by decide) (by decide) hs hx 5000 with
    ⟨r, hr, hagent, hcoordinator, hstays⟩
  exact ⟨r, hr, hagent, hcoordinator, hstays _ hr ▸ hdeliveries⟩

end Exchange

end RoverDispatch
