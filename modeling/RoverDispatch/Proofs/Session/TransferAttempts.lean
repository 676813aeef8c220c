import RoverDispatch.Proofs.Session.Deadlines
import RoverDispatch.Proofs.Transfer.Missions

/-!
# Attempts at a Transfer

How often the whole mission is sent before a session gives up on it.

One number counts the attempts at the greeting and then those at the transfer.
It is set back when the transfer has been sent, so that the transfer has all
its attempts however often the rover had to be greeted. But a rover can ask for
what it is missing before the transfer has been sent to the end, and then the
session waits for an acknowledgement at once, with the number as it is. The
hellos that were repeated are taken from the attempts at the transfer, and if
as many were repeated as possible, none is left after the first.

The invariant goes through the phases. Up to the transfer the number is that of
the hellos repeated, and while an acknowledgement is waited for it is that of
the transfers repeated, and of the hellos on top of it if the rover asked too
early. A session that gives up has as many attempts behind it as it may have,
so the number of its transfers can be read off.

## Main definitions

* `Attempts`: What a session has tried.
* `Attempts.Uses`: How many attempts at the transfer that comes to.
* `Supervisor.tries`, `Supervisor.triesAll`: What is tried on an input, and on
  all of them.
* `Supervisor.Accounts`: What the phase of a session says about its attempts.
* `Supervisor.Equipped`: The transfer consists of missions or their parts.

## Theorems

* `Supervisor.Receives.accounts`, `Supervisor.Polls.accounts`: Every input keeps
  the account.
* `Supervisor.Accounts.run`: So do all inputs together.
* `Supervisor.transfer_attempts`: What a session has tried when it gives up on
  the transfer.
-/

namespace RoverDispatch

/-! ### Attempts -/

/-- What a session has tried. -/
structure Attempts where
  /-- Hellos that were repeated. -/
  hellos : Nat := 0
  /-- Whole transfers sent on a response. -/
  offers : Nat := 0
  /-- Whole transfers that were repeated after a wait. -/
  repeats : Nat := 0
  /-- Whole transfers sent on anything else but an acknowledgement. -/
  others : Nat := 0
  /-- Requests for parts of a transfer that was still being sent. -/
  early : Nat := 0
  deriving DecidableEq, Inhabited

namespace Attempts

instance : Add Attempts := ⟨fun a b =>
  ⟨a.hellos + b.hellos, a.offers + b.offers, a.repeats + b.repeats, a.others + b.others,
    a.early + b.early⟩⟩

theorem add_eq (a b : Attempts) : a + b =
    ⟨a.hellos + b.hellos, a.offers + b.offers, a.repeats + b.repeats, a.others + b.others,
      a.early + b.early⟩ := rfl

theorem none_add (a : Attempts) : {} + a = a := by
  simp only [add_eq, Nat.zero_add]

theorem add_assoc (a b c : Attempts) : a + b + c = a + (b + c) := by
  simp only [add_eq, Nat.add_assoc]

/-- How many attempts at the transfer that comes to: the transfers sent, and
    also the hellos repeated if the rover asked for parts too early. -/
structure Uses (n : Attempts) (used : Nat) : Prop where
  offers : n.offers = 1
  others : n.others = 0
  early : n.early ≤ 1
  total : n.offers + n.repeats + n.early * n.hellos = used

end Attempts

/-- The transfer is being sent. -/
def Supervision.isTransmitting : Supervision → Bool
  | transmitting _ => true
  | _ => false

/-- The transfer has been sent and not been acknowledged. -/
def Supervision.isAwaitingAck : Supervision → Bool
  | awaitingAck _ _ => true
  | _ => false

namespace Supervisor

/-- What is tried on an input that leads to a reaction. -/
def triesOn (s : Supervisor) (i : Input) (r : SupervisorReaction) : Attempts :=
  let whole := (decide (r.messages = s.transfer)).toNat
  match i with
  | .wait _ => { hellos := (decide (r.messages = [s.hello])).toNat, repeats := whole }
  | .hear m _ =>
    match m.kind with
    | .response => { offers := whole }
    | .ack => { early := (s.phase.isTransmitting && r.state.phase.isAwaitingAck).toNat }
    | _ => { others := whole }
  | _ => { others := whole }

/-- What is tried on an input. -/
def tries (s : Supervisor) (i : Input) : Attempts := s.triesOn i (s.react i)

/-- What is tried on a number of inputs. -/
def triesAll : Supervisor → List Input → Attempts
  | _, [] => {}
  | s, i :: is => s.tries i + triesAll (s.react i).state is

variable {s s' : Supervisor} {m : Message} {now attempts : Nat} {r : SupervisorReaction}
  {n : Attempts}

/-! ### What the phase says about the attempts -/

/-- What the phase of a session says about what it has tried. -/
inductive Accounts (attempts : Nat) (n : Attempts) : Supervision → Prop where
  | idle (none : n = {}) : Accounts attempts n .idle
  /-- The hello was repeated so many times. -/
  | awaitingResponse {retries deadline : Nat} (hellos : n = { hellos := retries })
      (bound : retries + 1 ≤ attempts) : Accounts attempts n (.awaitingResponse retries deadline)
  /-- The number is not set back before the transfer has been sent. -/
  | transmitting {retries : Nat} (hellos : n = { hellos := retries, offers := 1 })
      (bound : retries + 1 ≤ attempts) : Accounts attempts n (.transmitting retries)
  | awaitingAck {retries deadline : Nat} (uses : n.Uses (retries + 1))
      (bound : retries + 1 ≤ attempts) : Accounts attempts n (.awaitingAck retries deadline)
  | watching {deadline : Nat} : Accounts attempts n (.watching deadline)
  /-- Whoever gives up on the transfer has used all attempts. -/
  | ended {outcome : SessionOutcome} {farewell : Farewell}
      (uses : outcome = .failed .transferUnconfirmed → n.Uses attempts) :
      Accounts attempts n (.ended outcome farewell)

/-- The messages of the transfer bring the mission or parts of it. -/
structure Equipped (s : Supervisor) : Prop where
  ne_nil : s.transfer ≠ []
  kind : ∀ x ∈ s.transfer, x.kind = .mission

theorem Equipped.of_prepare {timing : Timing} {rover : Int} {mission : Mission}
    (h : prepare timing rover mission = .ok s) : s.Equipped := by
  rcases Supervisor.of_prepare h with ⟨transfer, htransfer, rfl⟩
  rcases Mission.sends_of_transferMessages htransfer with ⟨frags, hsends⟩
  refine ⟨hsends.ne_nil, fun x hx => ?_⟩
  cases hsends with
  | whole =>
      cases List.mem_singleton.1 hx
      rfl
  | cut ne cut mem =>
      rcases (mem x).1 hx with ⟨i, rfl⟩
      rfl

/-- Nothing is no transfer. -/
theorem Equipped.nil_ne (h : s.Equipped) : ([] : List Message) ≠ s.transfer := h.ne_nil.symm

theorem Equipped.single_ne (h : s.Equipped) {x : Message} (hx : x.kind ≠ .mission) :
    [x] ≠ s.transfer := by
  intro heq
  exact hx (h.kind x (heq ▸ List.mem_singleton_self x))

theorem Equipped.hello_ne (h : s.Equipped) : [s.hello] ≠ s.transfer :=
  h.single_ne (by simp [hello])

theorem Equipped.ack_ne (h : s.Equipped) (s' : Supervisor) (seq : Int) (final : Bool) :
    [s'.ack seq final] ≠ s.transfer :=
  h.single_ne (by simp [ack])

theorem ack_ne_hello (s s' : Supervisor) (seq : Int) (final : Bool) :
    [s'.ack seq final] ≠ [s.hello] :=
  fun heq => absurd (congrArg Message.kind (List.singleton_inj.1 heq)) nofun

/-! ### Every input keeps the account -/

/-- A report on a mission that is watched leads to phases in which everything
    has been tried that could be. -/
theorem Supervises.accounts {deadline : Nat} (h : Supervises s m now r)
    (hphase : s.phase = .watching deadline) (n : Attempts) :
    Accounts attempts n r.state.phase := by
  cases h with
  | recovers known =>
      simp only [hphase]
      exact .watching
  | progress new kind payload => exact .watching
  | ends new outcome =>
      refine .ended ?_
      -- A rover cannot report that it has not confirmed the transfer.
      rintro rfl
      rw [Message.outcome?] at outcome
      split at outcome <;> cases outcome
  | malformed new progress outcome =>
      simp only [Reaction.quiet, hphase]
      exact .watching

/-- Nothing is tried when neither the hello nor the transfer is sent and no
    parts are asked for. -/
theorem triesOn_eq_none (whole : r.messages ≠ s.transfer) (hello : r.messages ≠ [s.hello])
    (early : (s.phase.isTransmitting && r.state.phase.isAwaitingAck) = false) (i : Input) :
    s.triesOn i r = {} := by
  cases i with
  | hear m now => cases hkind : m.kind <;> simp [triesOn, hkind, whole, early]
  | _ => simp [triesOn, whole, hello]

theorem Accounts.unchanged (h : Accounts attempts n s.phase) (whole : r.messages ≠ s.transfer)
    (hello : r.messages ≠ [s.hello]) (phase : r.state.phase = s.phase) (i : Input) :
    Accounts attempts (n + s.triesOn i r) r.state.phase := by
  have hearly : (s.phase.isTransmitting && r.state.phase.isAwaitingAck) = false := by
    rw [phase]
    cases s.phase <;> rfl
  rw [triesOn_eq_none whole hello hearly, phase]
  exact h

theorem Receives.accounts (hr : Receives s m now r) (hs : s.Equipped)
    (h : Accounts attempts n s.phase) :
    Accounts attempts (n + s.triesOn (.hear m now) r) r.state.phase := by
  cases hr with
  | foreign foreign => exact h.unchanged hs.nil_ne (List.cons_ne_nil _ _).symm rfl _
  | useless report => exact h.unchanged hs.nil_ne (List.cons_ne_nil _ _).symm rfl _
  | transfers phase kind available =>
      rw [phase] at h
      cases h with
      | awaitingResponse hellos bound =>
          refine .transmitting ?_ bound
          simp [triesOn, kind, hellos, Attempts.add_eq]
  | declined phase kind unavailable => exact .ended nofun
  | accepted phase kind complete => exact .watching
  | @asked retries phase kind missing =>
      rcases phase with phase | ⟨deadline, phase⟩
      · -- From here on the hellos repeated count as transfers.
        rw [phase] at h
        cases h with
        | transmitting hellos bound =>
            refine .awaitingAck ⟨?_, ?_, ?_, ?_⟩ bound <;>
              simp [triesOn, kind, phase, hellos, Attempts.add_eq, Supervision.isTransmitting,
                Supervision.isAwaitingAck, Nat.add_comm]
      · -- What is sent now is an answer, even if it is all of the transfer.
        have hnone (r : SupervisorReaction) : s.triesOn (.hear m now) r = {} := by
          simp [triesOn, kind, phase, Supervision.isTransmitting]
        rw [phase] at h
        rw [hnone]
        cases h with
        | awaitingAck uses bound => exact .awaitingAck uses bound
  | acceptedReport phase report supervises => exact supervises.accounts rfl _
  | reported phase report supervises => exact supervises.accounts phase _
  | acknowledged phase report =>
      exact h.unchanged (hs.ack_ne _ _ _) (ack_ne_hello _ _ _ _) rfl _

theorem Polls.accounts (hr : Polls s now r) (hs : s.Equipped)
    (h : Accounts (max 1 s.timing.maxAttempts) n s.phase) :
    Accounts (max 1 s.timing.maxAttempts) (n + s.triesOn (.wait now) r) r.state.phase := by
  cases hr with
  | quiet early => exact h.unchanged hs.nil_ne (List.cons_ne_nil _ _).symm rfl _
  | greets phase due more =>
      rw [phase] at h
      cases h with
      | awaitingResponse hellos bound =>
          refine .awaitingResponse ?_ (by omega)
          simp [triesOn, hs.hello_ne, hellos, Attempts.add_eq]
  | unresponsive phase due spent => exact .ended nofun
  | resends phase due more =>
      have hrepeat {r : SupervisorReaction} (hr : r.messages = s.transfer) :
          s.triesOn (.wait now) r = { repeats := 1 } := by
        simp [triesOn, hr, hs.hello_ne.symm]
      rw [phase] at h
      rw [hrepeat rfl]
      cases h with
      | awaitingAck uses bound =>
          have htotal := uses.total
          refine .awaitingAck ⟨uses.offers, uses.others, uses.early, ?_⟩ (by omega)
          simp only [Attempts.add_eq, Nat.add_zero]
          omega
  | @unconfirmed retries deadline phase due spent =>
      rw [triesOn_eq_none hs.nil_ne (List.cons_ne_nil _ _).symm (by rw [phase]; rfl)]
      rw [phase] at h
      cases h with
      | awaitingAck uses bound =>
          -- The number has not gone beyond its bound, and it is no longer below it.
          have hspent : retries + 1 = max 1 s.timing.maxAttempts := by omega
          exact .ended (fun _ => hspent ▸ uses)
  | silent phase due => exact .ended nofun
  | farewells phase left due =>
      rw [triesOn_eq_none (hs.ack_ne _ _ _) (ack_ne_hello _ _ _ _) (by rw [phase]; rfl)]
      rw [phase] at h
      cases h with
      | ended uses => exact .ended uses

/-- What the phase says is kept by every input. -/
theorem Accounts.react (h : Accounts (max 1 s.timing.maxAttempts) n s.phase) (hs : s.Equipped)
    (i : Input) : Accounts (max 1 s.timing.maxAttempts) (n + s.tries i) (s.react i).state.phase := by
  cases i with
  | greet now =>
      have hgreets := s.greets now
      simp only [tries, Supervisor.react]
      generalize s.greet now = r at hgreets ⊢
      cases hgreets with
      | quiet phase => exact h.unchanged hs.nil_ne (List.cons_ne_nil _ _).symm rfl _
      | opens phase =>
          rw [phase] at h
          cases h with
          | idle none =>
              refine .awaitingResponse ?_ (by omega)
              simp [triesOn, none, hs.hello_ne, Attempts.add_eq]
  | hear m now => exact (s.receives m now).accounts hs h
  | wait now => exact (s.polls now).accounts hs h
  | sent now =>
      have htransmits := s.transmits now
      simp only [tries, Supervisor.react]
      generalize s.transmitted now = s' at htransmits ⊢
      cases htransmits with
      | quiet phase => exact h.unchanged hs.nil_ne (List.cons_ne_nil _ _).symm rfl _
      | waits phase =>
          rw [phase] at h
          cases h with
          | transmitting hellos bound =>
              -- The number is set back, so the hellos do not count any more.
              refine .awaitingAck ⟨?_, ?_, ?_, ?_⟩ (by omega) <;>
                simp [triesOn, hellos, Attempts.add_eq, hs.nil_ne]

/-- The transfer stays what it is. -/
theorem Equipped.react (hs : s.Equipped) (i : Input) : (s.react i).state.Equipped := by
  have htransfer : (s.react i).state.transfer = s.transfer := by
    cases i with
    | greet now => exact (s.greets now).speaks.transfer
    | hear m now => exact (s.receives m now).speaks.transfer
    | wait now => exact (s.polls now).speaks.transfer
    | sent now => exact (s.transmits now).speaks.transfer
  exact ⟨htransfer ▸ hs.ne_nil, htransfer ▸ hs.kind⟩

theorem Accounts.run {t : Timing} (ht : s.Regular t) (hs : s.Equipped)
    (h : Accounts (max 1 t.maxAttempts) n s.phase) (inputs : List Input) :
    Accounts (max 1 t.maxAttempts) (n + s.triesAll inputs) (s.run inputs).phase := by
  induction inputs generalizing s n with
  | nil => exact h
  | cons i inputs ih =>
      have hnext := ih (ht.react i) (hs.react i) (ht.timing ▸ (ht.timing ▸ h).react hs i)
      rwa [Attempts.add_assoc] at hnext

/-! ### Giving up on the transfer -/

/-- Take any session that gives up on the transfer, whatever happened to it
    before. It sent the whole transfer once on a response, and all other times
    because an acknowledgement was waited for in vain. Parts that the rover asked
    for apart, the transfer was sent as often as attempts are allowed, and at
    least once; but if the rover asked for parts before the transfer had been
    sent, which happens once at most, then every hello that was repeated counts as
    one of these attempts. -/
theorem transfer_attempts {timing : Timing} {rover : Int} {mission : Mission}
    (hs : prepare timing rover mission = .ok s) (inputs : List Input)
    (hgivesUp : (s.run inputs).outcome? = some (.failed .transferUnconfirmed)) :
    let n := s.triesAll inputs
    n.offers = 1 ∧ n.others = 0 ∧ n.early ≤ 1 ∧
      (n.early = 0 → n.offers + n.repeats = max 1 timing.maxAttempts) ∧
      (n.early = 1 → n.offers + n.repeats + n.hellos = max 1 timing.maxAttempts) := by
  intro n
  have hidle : s.phase = .idle := by
    rcases of_prepare hs with ⟨transfer, -, rfl⟩
    rfl
  have hrun : Accounts (max 1 timing.maxAttempts) ({} + n) (s.run inputs).phase :=
    Accounts.run (.prepare hs) (.of_prepare hs) (hidle ▸ .idle rfl) inputs
  rw [Attempts.none_add] at hrun
  -- Of all phases only the one that has ended has this outcome, and there the account is closed.
  have huses : n.Uses (max 1 timing.maxAttempts) := by
    rw [outcome?] at hgivesUp
    generalize (s.run inputs).phase = phase at hgivesUp hrun
    cases hrun with
    | ended uses => exact uses (Option.some.inj hgivesUp)
    | _ => cases hgivesUp
  have htotal := huses.total
  refine ⟨huses.offers, huses.others, huses.early, fun hnone => ?_, fun hone => ?_⟩
  · rw [hnone, Nat.zero_mul] at htotal
    omega
  · rw [hone, Nat.one_mul] at htotal
    omega

/-- One hello was not answered, and then the rover answers but never says what
    it has of the mission. -/
theorem transfer_attempts_default :
    let m : Mission := ⟨1, .zero, .zero, .zero, .zero, "scan", 60, 30, 0, 1⟩
    let response : Message := { kind := .response, sender := 7, receiver := coordinatorId
                                mission := 1, seq := 1, success := true, payload := .empty }
    let inputs : List Input := [.greet 0, .wait 5000, .hear response 5001, .sent 5001, .wait 10001,
      .wait 15001, .wait 20001]
    ∃ s, prepare {} 7 m = .ok s ∧ (s.triesAll inputs).hellos = 1 ∧
      (s.triesAll inputs).offers + (s.triesAll inputs).repeats = 3 := by
  intro m response inputs
  have hrun : ∃ s, prepare {} 7 m = .ok s ∧
      (s.run inputs).outcome? = some (.failed .transferUnconfirmed) ∧
      (s.triesAll inputs).early = 0 ∧ (s.triesAll inputs).hellos = 1 :=
    exists_prepare_of_check (by decide +kernel)
  rcases hrun with ⟨s, hs, hgivesUp, hearly, hhellos⟩
  exact ⟨s, hs, hhellos, (transfer_attempts hs inputs hgivesUp).2.2.2.1 hearly⟩

/-- Two hellos were not answered, and the rover asks for the second part of the
    mission while it is being sent. Then nothing is heard of it any more, and the
    session gives up without having sent the transfer once more. -/
theorem transfer_attempts_early :
    let m : Mission := ⟨1, .zero, .zero, .zero, .zero, "scan", 60, 30, 0, 1⟩
    let heard (kind : Kind) (payload : Payload) : Message :=
      { kind, sender := 7, receiver := coordinatorId, mission := 1, seq := 1, success := true
        payload }
    let inputs : List Input := [.greet 0, .wait 5000, .wait 10000,
      .hear (heard .response .empty) 10001, .hear (heard .ack (.ack ⟨[2], false⟩)) 10002,
      .sent 10003, .wait 15002]
    ∃ s, prepare { fragmentSize := 128 } 7 m = .ok s ∧ s.transfer.length = 2 ∧
      (s.run inputs).outcome? = some (.failed .transferUnconfirmed) ∧
      s.timing.maxAttempts = 3 ∧ s.triesAll inputs = { hellos := 2, offers := 1, early := 1 } := by
  intro m heard inputs
  exact exists_prepare_of_check (by decide +kernel)

end Supervisor

end RoverDispatch
