import RoverDispatch.Proofs.Session.ReportLogs

/-!
# Event Streams

What a session tells from beginning to end.

A session is told in order. Nothing is told while the mission is on its way.
Then either the session fails for a reason that belongs to that time, or the
mission is accepted; from then on there is progress, as often as the rover
reports any, until the session ends with one last event. Whatever order the
messages and the timers come in, no other stream of events is possible, and an
unfinished stream is always the beginning of a finished one.

How far a session has been told is its `Chapter`. The chapter can be read off
the phase, so the events of one reaction have to lead from the chapter before
it to the chapter after it. `Chapter.Next` lists the events that may come in
each chapter, and `Supervisor.Receives.narrates` and its companions say that
no reaction tells anything else. A stream is then a path through the chapters,
and everything about streams is an induction on that path.

Events wait until they are collected. `Narration` keeps both those that were
collected and those that wait, each with the message that led to it, since
the numbers of the reports that progress comes from increase along the stream.

## Main definitions

* `Supervisor.Input`, `Supervisor.react`: The inputs of a supervisor.
* `FailureReason.isEarly`: The reasons of the time before acceptance.
* `SessionEvent.IsWhole`: What a session tells from beginning to end.
* `Chapter`: How far a session has been told.
* `Chapter.Next`, `Chapter.Leads`: What can be told next, and so on.
* `Supervisor.chapter`: The chapter that a session is in.
* `Supervisor.Narrates`: The events of a reaction lead to its chapter.
* `Notice`: An event and the message that led to it.
* `Narration`: A session with the events that it has told.
* `Narration.Faithful`: What holds of them after every turn.

## Theorems

* `Chapter.Leads.isWhole`: A stream to the last chapter is whole.
* `Chapter.Leads.exists_isWhole`: Every stream is the beginning of a whole one.
* `Supervisor.narrates`: Every reaction tells what comes next.
* `Supervisor.react_of_ended`: A session that has ended tells nothing more.
* `Narration.Faithful.run`: It holds after any turns.
* `Narration.stream_grammatical`: What any session tells.
-/

namespace RoverDispatch

/-! ### Inputs -/

namespace Supervisor

/-- What a supervisor is given. -/
inductive Input where
  | greet (now : Nat)
  | hear (m : Message) (now : Nat)
  | wait (now : Nat)
  /-- The messages have been sent. -/
  | sent (now : Nat)
  deriving DecidableEq

/-- The message that an input is, if it is one. -/
def Input.message? : Input → Option Message
  | hear m _ => some m
  | _ => none

/-- What a supervisor makes of an input. -/
def react (s : Supervisor) : Input → SupervisorReaction
  | .greet now => s.greet now
  | .hear m now => s.receive m now
  | .wait now => s.poll now
  | .sent now => { state := s.transmitted now }

end Supervisor

/-! ### Whole streams -/

/-- The session fails before the mission is accepted. -/
def FailureReason.isEarly : FailureReason → Bool
  | unresponsive => true
  | declined => true
  | transferUnconfirmed => true
  | silent => false
  | missionError _ => false

/-- What a session tells from beginning to end. -/
inductive SessionEvent.IsWhole : List SessionEvent → Prop where
  | early {reason : FailureReason} (early : reason.isEarly = true) :
      IsWhole [.failed reason false]
  | completed (ps : List Progress) : IsWhole (.accepted :: ps.map .progress ++ [.completed])
  | failed (ps : List Progress) {reason : FailureReason} (late : reason.isEarly = false) :
      IsWhole (.accepted :: ps.map .progress ++ [.failed reason (!ps.isEmpty)])

/-! ### Chapters -/

/-- How far a session has been told: nothing yet; the mission is accepted, and
    progress has been reported since or not; or everything. -/
inductive Chapter where
  | opening
  | underway (progressSeen : Bool)
  | closed (outcome : SessionOutcome) (progressSeen : Bool)
  deriving DecidableEq

namespace Chapter

/-- How the session ended, if it has. -/
def outcome? : Chapter → Option SessionOutcome
  | closed outcome _ => some outcome
  | _ => none

/-- Progress has been reported. -/
def progressSeen : Chapter → Bool
  | opening => false
  | underway seen => seen
  | closed _ seen => seen

/-- The events that can be told in a chapter, and the chapters they lead to. -/
inductive Next : Chapter → SessionEvent → Chapter → Prop where
  | early {reason : FailureReason} (early : reason.isEarly = true) :
      Next .opening (.failed reason false) (.closed (.failed reason) false)
  | accepted : Next .opening .accepted (.underway false)
  | progress (seen : Bool) (p : Progress) : Next (.underway seen) (.progress p) (.underway true)
  | completed (seen : Bool) : Next (.underway seen) .completed (.closed .completed seen)
  | failed (seen : Bool) {reason : FailureReason} (late : reason.isEarly = false) :
      Next (.underway seen) (.failed reason seen) (.closed (.failed reason) seen)

/-- Events told one after the other lead from one chapter to another. -/
inductive Leads : Chapter → List SessionEvent → Chapter → Prop where
  | refl (c : Chapter) : Leads c [] c
  | cons {c c' c'' : Chapter} {e : SessionEvent} {events : List SessionEvent} (next : Next c e c')
      (leads : Leads c' events c'') : Leads c (e :: events) c''

variable {c c' c'' : Chapter} {e : SessionEvent} {events events' : List SessionEvent}
  {seen : Bool} {o : SessionOutcome}

theorem Leads.single (h : Next c e c') : Leads c [e] c' := .cons h (.refl c')

theorem Leads.append (h : Leads c events c') (h' : Leads c' events' c'') :
    Leads c (events ++ events') c'' := by
  induction h with
  | refl c => exact h'
  | cons next leads ih => exact .cons next (ih h')

/-- Nothing is told after the end. -/
theorem Leads.of_closed (h : Leads (.closed o seen) events c) :
    events = [] ∧ c = .closed o seen := by
  cases h with
  | refl => exact ⟨rfl, rfl⟩
  | cons next leads => cases next

/-- What an event says about the end of the session is what becomes of it. -/
theorem Next.outcome?_eq (h : Next c e c') : c'.outcome? = e.outcome? := by
  cases h <;> rfl

/-- Something can be told next only if the session has not ended. -/
theorem Next.outcome?_eq_none (h : Next c e c') : c.outcome? = none := by
  cases h <;> rfl

/-- The last event decides whether and how the session has ended. -/
theorem Leads.outcome?_eq (h : Leads c events c') :
    c'.outcome? = events.getLast?.elim c.outcome? SessionEvent.outcome? := by
  induction h with
  | refl c => rfl
  | @cons c c' c'' e events next leads ih =>
      rw [ih, next.outcome?_eq, List.getLast?_cons]
      cases events.getLast? <;> rfl

/-- Progress has been reported exactly when it has been told. -/
theorem Leads.progressSeen_iff (h : Leads c events c') :
    c'.progressSeen = true ↔ c.progressSeen = true ∨ ∃ p, .progress p ∈ events := by
  induction h with
  | refl c => simp only [List.not_mem_nil, exists_false, or_false]
  | @cons c c' c'' e events next leads ih =>
      rw [ih]
      simp only [List.mem_cons]
      -- Only an event of progress changes what has been seen.
      cases next with
      | progress seen p =>
          refine ⟨fun _ => .inr ⟨p, .inl rfl⟩, fun _ => .inl rfl⟩
      | _ => simp only [progressSeen, reduceCtorEq, false_or]

/-- A session fails early, or the mission is accepted before anything else. -/
theorem Leads.of_opening (h : Leads .opening events c) :
    c = .opening ∧ events = [] ∨
      (∃ reason, reason.isEarly = true ∧ c = .closed (.failed reason) false ∧
        events = [.failed reason false]) ∨
      ∃ rest, events = .accepted :: rest ∧ Leads (.underway false) rest c := by
  cases h with
  | refl => exact .inl ⟨rfl, rfl⟩
  | cons next leads =>
      cases next with
      | early early =>
          rcases leads.of_closed with ⟨rfl, rfl⟩
          exact .inr (.inl ⟨_, early, rfl, rfl⟩)
      | accepted => exact .inr (.inr ⟨_, rfl, leads⟩)

/-- From acceptance on there is progress, and at most one event that ends it. -/
theorem Leads.of_underway (h : Leads (.underway seen) events c) :
    ∃ ps : List Progress,
      c = .underway (seen || !ps.isEmpty) ∧ events = ps.map .progress ∨
      (c = .closed .completed (seen || !ps.isEmpty) ∧
        events = ps.map .progress ++ [.completed]) ∨
      ∃ reason : FailureReason, reason.isEarly = false ∧
        c = .closed (.failed reason) (seen || !ps.isEmpty) ∧
        events = ps.map .progress ++ [.failed reason (seen || !ps.isEmpty)] := by
  generalize hstart : Chapter.underway seen = start at h
  induction h generalizing seen with
  | refl c =>
      subst hstart
      exact ⟨[], .inl ⟨by rw [List.isEmpty_nil, Bool.not_true, Bool.or_false], rfl⟩⟩
  | cons next leads ih =>
      subst hstart
      cases next with
      | progress _ p =>
          -- One more report of progress comes before what follows it.
          rcases ih rfl with ⟨ps, hps⟩
          refine ⟨p :: ps, ?_⟩
          simp only [Bool.true_or, List.isEmpty_cons, Bool.not_false, Bool.or_true, List.map_cons,
            List.cons_append, List.cons.injEq, true_and] at hps ⊢
          exact hps
      | completed =>
          rcases leads.of_closed with ⟨rfl, rfl⟩
          refine ⟨[], .inr (.inl ?_)⟩
          simp only [List.isEmpty_nil, Bool.not_true, Bool.or_false, List.map_nil, List.nil_append,
            and_self]
      | failed _ late =>
          rcases leads.of_closed with ⟨rfl, rfl⟩
          refine ⟨[], .inr (.inr ⟨_, late, ?_⟩)⟩
          simp only [List.isEmpty_nil, Bool.not_true, Bool.or_false, List.map_nil, List.nil_append,
            and_self]

/-- As long as a session has not ended, it is underway exactly if acceptance has
    been told. -/
theorem Leads.accepted_of_outcome? (h : Leads .opening events c) (hopen : c.outcome? = none) :
    c = .opening ∧ .accepted ∉ events ∨ ∃ seen, c = .underway seen ∧ .accepted ∈ events := by
  rcases h.of_opening with ⟨rfl, rfl⟩ | ⟨reason, -, rfl, -⟩ | ⟨rest, rfl, hrest⟩
  · exact .inl ⟨rfl, List.not_mem_nil⟩
  · cases hopen
  · cases c with
    | opening =>
        rcases hrest.of_underway with ⟨ps, ⟨hc, -⟩ | ⟨hc, -⟩ | ⟨reason, -, hc, -⟩⟩ <;> cases hc
    | underway seen => exact .inr ⟨seen, rfl, List.mem_cons_self⟩
    | closed outcome seen => cases hopen

/-- A stream that leads to the last chapter is whole. -/
theorem Leads.isWhole (h : Leads .opening events (.closed o seen)) :
    SessionEvent.IsWhole events := by
  rcases h.of_opening with ⟨hc, -⟩ | ⟨reason, early, -, rfl⟩ | ⟨rest, rfl, hrest⟩
  · cases hc
  · exact .early early
  · rcases hrest.of_underway with ⟨ps, ⟨hc, -⟩ | ⟨-, rfl⟩ | ⟨reason, late, -, rfl⟩⟩
    · cases hc
    · exact .completed ps
    · exact .failed ps late

/-- Every stream is the beginning of a whole one. -/
theorem Leads.exists_isWhole (h : Leads .opening events c) :
    ∃ whole, SessionEvent.IsWhole whole ∧ events <+: whole := by
  cases c with
  | opening =>
      -- Nothing has been told, so whatever is told will do.
      rcases h.of_opening with ⟨-, rfl⟩ | ⟨reason, -, hc, -⟩ | ⟨rest, -, hrest⟩
      · exact ⟨_, .completed [], List.nil_prefix⟩
      · cases hc
      · rcases hrest.of_underway with ⟨ps, ⟨hc, -⟩ | ⟨hc, -⟩ | ⟨reason, -, hc, -⟩⟩ <;> cases hc
  | underway seen =>
      -- The rover can complete the mission at any time.
      rcases h.of_opening with ⟨hc, -⟩ | ⟨reason, -, hc, -⟩ | ⟨rest, rfl, hrest⟩
      · cases hc
      · cases hc
      · rcases hrest.of_underway with ⟨ps, ⟨-, rfl⟩ | ⟨hc, -⟩ | ⟨reason, -, hc, -⟩⟩
        · exact ⟨_, .completed ps, List.prefix_append _ _⟩
        · cases hc
        · cases hc
  | closed outcome seen => exact ⟨events, h.isWhole, List.prefix_refl _⟩

end Chapter

/-! ### What reactions tell -/

namespace Supervisor

/-- The chapter that a session is in. -/
def chapter (s : Supervisor) : Chapter :=
  match s.phase with
  | .watching _ => .underway s.log.progressSeen
  | .ended outcome _ => .closed outcome s.log.progressSeen
  | _ => .opening

variable {s s' : Supervisor} {m : Message} {now : Nat} {r : SupervisorReaction}
  {o : SessionOutcome} {retries deadline : Nat}

theorem chapter_of_watching (h : s.phase = .watching deadline) :
    s.chapter = .underway s.log.progressSeen := by
  rw [chapter, h]

theorem chapter_of_ended {farewell : Farewell} (h : s.phase = .ended o farewell) :
    s.chapter = .closed o s.log.progressSeen := by
  rw [chapter, h]

theorem chapter_of_awaitingResponse (h : s.phase = .awaitingResponse retries deadline) :
    s.chapter = .opening := by
  rw [chapter, h]

theorem chapter_of_inTransfer (h : s.phase.InTransfer retries) : s.chapter = .opening := by
  rcases h with h | ⟨deadline, h⟩ <;> rw [chapter, h]

/-- The end of a session is the end of what it tells. -/
theorem outcome?_chapter (s : Supervisor) : s.chapter.outcome? = s.outcome? := by
  rw [chapter, outcome?]
  cases s.phase <;> rfl

/-- No progress has been reported before the mission is accepted. -/
def Unseen (s : Supervisor) : Prop := s.chapter = .opening → s.log.progressSeen = false

/-- The log remembers whether progress has been told. -/
theorem Unseen.progressSeen_chapter (h : s.Unseen) :
    s.chapter.progressSeen = s.log.progressSeen := by
  rw [Unseen] at h
  rw [chapter] at h ⊢
  split at h
  · rfl
  · rfl
  · exact (h rfl).symm

/-- The events of a reaction lead from the chapter before it to the one after
    it. -/
structure Narrates (s : Supervisor) (r : SupervisorReaction) : Prop where
  leads : Chapter.Leads s.chapter r.events r.state.chapter
  unseen : r.state.Unseen

/-- A reaction that tells nothing stays in the chapter. -/
theorem Narrates.silent {messages : List Message} (hs : s.Unseen) (chapter : s'.chapter = s.chapter)
    (log : s'.log.progressSeen = s.log.progressSeen) : s.Narrates { state := s', messages } := by
  refine ⟨?_, fun hopening => log.trans (hs (chapter.symm.trans hopening))⟩
  rw [chapter]
  exact .refl _

/-- A reaction after which the mission is watched or the session is over. -/
theorem Narrates.told (leads : Chapter.Leads s.chapter r.events r.state.chapter)
    (chapter : r.state.chapter ≠ .opening) : s.Narrates r :=
  ⟨leads, fun hopening => absurd hopening chapter⟩

/-- A session that fails before the mission is accepted. -/
theorem narrates_fail_early (hs : s.Unseen) (hopening : s.chapter = .opening)
    (reason : FailureReason) (early : reason.isEarly = true) : s.Narrates (s.fail reason) := by
  refine .told ?_ nofun
  rw [hopening, chapter_of_ended (s := (s.fail reason).state) rfl, fail]
  simp only [hs hopening]
  exact .single (.early early)

/-- What a report ends is told as the end of a mission underway. -/
theorem next_event (h : m.outcome? = some o) (seen : Bool) :
    Chapter.Next (.underway seen) (o.event seen) (.closed o seen) := by
  rw [Message.outcome?] at h
  split at h
  · cases h
    exact .completed seen
  · cases h
    exact .failed seen rfl
  · cases h

theorem Supervises.narrates (hphase : s.phase = .watching deadline) (h : Supervises s m now r) :
    s.Narrates r := by
  have hchapter := chapter_of_watching hphase
  -- A session that watches its rover has been accepted, so it may have seen progress.
  have hs : s.Unseen := fun hopening => absurd (hchapter.symm.trans hopening) nofun
  cases h with
  | recovers known =>
      exact .silent hs ((chapter_of_watching hphase).trans hchapter.symm) rfl
  | @progress p new kind payload =>
      refine .told ?_ nofun
      rw [hchapter]
      exact .single (.progress _ p)
  | @ends o new outcome =>
      refine .told ?_ nofun
      rw [hchapter]
      exact .single (next_event outcome _)
  | malformed new progress outcome =>
      exact .silent hs ((chapter_of_watching hphase).trans hchapter.symm) rfl

/-- What a message is told as comes next. -/
theorem Receives.narrates (hs : s.Unseen) (h : Receives s m now r) : s.Narrates r := by
  cases h with
  | foreign foreign => exact .silent hs rfl rfl
  | useless report => exact .silent hs rfl rfl
  | transfers phase kind available =>
      exact .silent hs (chapter_of_awaitingResponse phase).symm rfl
  | declined phase kind unavailable =>
      have hfail := narrates_fail_early (s := s.heard now) hs (chapter_of_awaitingResponse phase)
        .declined rfl
      exact ⟨hfail.leads, hfail.unseen⟩
  | accepted phase kind complete =>
      have hopening := chapter_of_inTransfer phase
      refine .told ?_ nofun
      rw [hopening, chapter_of_watching (s := (s.heard now).watch now) rfl]
      exact hs hopening ▸ .single .accepted
  | asked phase kind missing => exact .silent hs (chapter_of_inTransfer phase).symm rfl
  | acceptedReport phase report supervises =>
      -- The report is told after the acceptance, from the chapter that it leads to.
      have hopening := chapter_of_inTransfer phase
      have hwatched := supervises.narrates rfl
      refine ⟨?_, hwatched.unseen⟩
      rw [hopening]
      refine .cons .accepted ?_
      rw [← hs hopening]
      exact hwatched.leads
  | reported phase report supervises =>
      have hwatched := Supervises.narrates (s := s.heard now) phase supervises
      exact ⟨hwatched.leads, hwatched.unseen⟩
  | acknowledged phase report => exact .silent hs rfl rfl

/-- What the passing of time is told as comes next. -/
theorem Polls.narrates (hs : s.Unseen) (h : Polls s now r) : s.Narrates r := by
  cases h with
  | quiet early => exact .silent hs rfl rfl
  | greets phase due more => exact .silent hs (chapter_of_awaitingResponse phase).symm rfl
  | unresponsive phase due spent =>
      exact narrates_fail_early hs (chapter_of_awaitingResponse phase) .unresponsive rfl
  | resends phase due more => exact .silent hs (chapter_of_inTransfer (.inr ⟨_, phase⟩)).symm rfl
  | unconfirmed phase due spent =>
      exact narrates_fail_early hs (chapter_of_inTransfer (.inr ⟨_, phase⟩)) .transferUnconfirmed rfl
  | silent phase due =>
      refine .told ?_ nofun
      rw [chapter_of_watching phase]
      exact .single (.failed _ rfl)
  | farewells phase left due => exact .silent hs (chapter_of_ended phase).symm rfl

theorem Greets.narrates (hs : s.Unseen) (h : Greets s now r) : s.Narrates r := by
  cases h with
  | quiet phase => exact .silent hs rfl rfl
  | opens phase => exact .silent hs (by rw [chapter, chapter, phase]) rfl

theorem Transmits.narrates (hs : s.Unseen) (h : Transmits s now s') :
    s.Narrates { state := s' } := by
  cases h with
  | quiet phase => exact .silent hs rfl rfl
  | waits phase => exact .silent hs (chapter_of_inTransfer (.inl phase)).symm rfl

/-- Every reaction tells what comes next. -/
theorem narrates (hs : s.Unseen) (i : Input) : s.Narrates (s.react i) := by
  cases i with
  | greet now => exact (s.greets now).narrates hs
  | hear m now => exact (s.receives m now).narrates hs
  | wait now => exact (s.polls now).narrates hs
  | sent now => exact (s.transmits now).narrates hs

/-- Whatever a supervisor is given, it stays about its mission and its rover. -/
theorem speaks (s : Supervisor) (i : Input) : s.Speaks (s.react i) := by
  cases i with
  | greet now => exact (s.greets now).speaks
  | hear m now => exact (s.receives m now).speaks
  | wait now => exact (s.polls now).speaks
  | sent now => exact (s.transmits now).speaks

/-- A session that has ended is in the last chapter. -/
theorem chapter_of_outcome? (h : s.outcome? = some o) :
    s.chapter = .closed o s.log.progressSeen := by
  rw [outcome?] at h
  cases hphase : s.phase with
  | ended outcome farewell =>
      rw [hphase] at h
      cases h
      exact chapter_of_ended hphase
  | _ =>
      rw [hphase] at h
      cases h

/-- A session that has ended stays as it ended and tells nothing more. -/
theorem react_of_ended (hs : s.Unseen) (h : s.outcome? = some o) (i : Input) :
    (s.react i).state.outcome? = some o ∧ (s.react i).events = [] := by
  have hleads := (narrates hs i).leads
  rw [chapter_of_outcome? h] at hleads
  rcases hleads.of_closed with ⟨hevents, hchapter⟩
  refine ⟨?_, hevents⟩
  rw [← outcome?_chapter, hchapter]
  rfl

end Supervisor

/-! ### The reports that progress comes from -/

/-- An event and the message that led to it, if one did. -/
structure Notice where
  event : SessionEvent
  cause : Option Message
  deriving DecidableEq

/-- The number of the report that progress comes from. -/
def Notice.reportSeq? (x : Notice) : Option Int :=
  match x.event, x.cause with
  | .progress _, some m => some m.seq
  | _, _ => none

/-- The notices of the events that a message has led to. -/
def noticesOf (cause : Option Message) (events : List SessionEvent) : List Notice :=
  events.map (fun e => ⟨e, cause⟩)

theorem map_event_noticesOf (cause : Option Message) (events : List SessionEvent) :
    (noticesOf cause events).map Notice.event = events := by
  rw [noticesOf, List.map_map]
  exact List.map_id _

/-- The numbers of the reports that progress comes from, in order. -/
def reportSeqs (notices : List Notice) : List Int := notices.filterMap Notice.reportSeq?

theorem reportSeqs_append (xs ys : List Notice) :
    reportSeqs (xs ++ ys) = reportSeqs xs ++ reportSeqs ys :=
  List.filterMap_append

/-- Where there is no progress, there are no numbers. -/
theorem reportSeqs_noticesOf_eq_nil {cause : Option Message} {events : List SessionEvent}
    (h : ∀ p, .progress p ∉ events) : reportSeqs (noticesOf cause events) = [] := by
  refine List.filterMap_eq_nil_iff.2 (fun x hx => ?_)
  rcases List.mem_map.1 hx with ⟨e, he, rfl⟩
  cases e with
  | progress p => exact absurd he (h p)
  | _ => rfl

/-- Acceptance has no number. -/
theorem reportSeqs_noticesOf_newsIn (cause : Option Message) (events : List SessionEvent) :
    reportSeqs (noticesOf cause (newsIn events)) = reportSeqs (noticesOf cause events) := by
  induction events with
  | nil => rfl
  | cons e events ih =>
      by_cases he : e = .accepted
      · subst he
        exact ih
      · have hnews : newsIn (e :: events) = e :: newsIn events :=
          List.filter_cons_of_pos (decide_eq_true he)
        rw [hnews, show noticesOf cause (e :: newsIn events) =
            [⟨e, cause⟩] ++ noticesOf cause (newsIn events) from rfl, reportSeqs_append, ih,
          ← reportSeqs_append]
        rfl

namespace Supervisor

/-- Progress that a reaction tells comes from the report that caused it, and
    the number of this report is higher than those of all earlier ones. -/
structure Credits (s : Supervisor) (cause : Option Message) (r : SupervisorReaction) : Prop where
  told : ∀ p, .progress p ∈ r.events → ∃ m ∈ cause, m.kind = .progress ∧ m.payload = .progress p
  last : s.log.last ≤ r.state.log.last
  seqs : reportSeqs (noticesOf cause r.events) = [] ∨
    ∃ seq, reportSeqs (noticesOf cause r.events) = [seq] ∧ s.log.last < seq ∧
      seq ≤ r.state.log.last

variable {s s' : Supervisor} {m : Message} {now : Nat} {r : SupervisorReaction}
  {cause : Option Message}

/-- A reaction that tells of no progress and leaves the log alone. -/
theorem Credits.of_quiet (events : ∀ p, .progress p ∉ r.events) (log : r.state.log = s.log) :
    s.Credits cause r where
  told := fun p hp => absurd hp (events p)
  last := Int.le_of_eq (congrArg ReportLog.last log.symm)
  seqs := .inl (reportSeqs_noticesOf_eq_nil events)

theorem Receives.credits (h : Receives s m now r) : s.Credits (some m) r := by
  have htold : ∀ p, .progress p ∈ r.events →
      ∃ x ∈ some m, x.kind = .progress ∧ x.payload = .progress p := by
    intro p hp
    rcases h.tells hp with hlocal | htells
    · cases hlocal
    · exact ⟨m, rfl, htells⟩
  by_cases hreport : m.kind.isReport = true
  · have hseqs := reportSeqs_noticesOf_newsIn (some m) r.events
    cases h.logs hreport with
    | idle news last cause =>
        rw [news] at hseqs
        exact ⟨htold, Int.le_of_eq last.symm, .inl hseqs.symm⟩
    | @told e going new news tells last =>
        rw [news] at hseqs
        refine ⟨htold, last ▸ Int.le_of_lt new, ?_⟩
        -- The one event is progress, with the number of the report, or the end.
        cases e with
        | progress p => exact .inr ⟨m.seq, hseqs.symm, new, Int.le_of_eq last.symm⟩
        | _ => exact .inl hseqs.symm
    | counted going new news last malformed =>
        rw [news] at hseqs
        exact ⟨htold, last ▸ Int.le_of_lt new, .inl hseqs.symm⟩
  · refine .of_quiet (fun p hp => ?_) (h.log_eq (eq_false_of_ne_true hreport))
    rcases htold p hp with ⟨x, hx, hkind, -⟩
    cases hx
    rw [hkind] at hreport
    exact hreport rfl

theorem Polls.credits (h : Polls s now r) : s.Credits cause r :=
  .of_quiet (fun _ hp => nomatch (h.local hp).1) h.log_eq

/-- Whatever is told of progress comes from a report with a new number. -/
theorem credits (s : Supervisor) (i : Input) : s.Credits i.message? (s.react i) := by
  cases i with
  | greet now =>
      have hgreets := s.greets now
      refine .of_quiet (fun p hp => ?_) hgreets.log_eq
      rw [react, hgreets.events] at hp
      cases hp
  | hear m now => exact (s.receives m now).credits
  | wait now => exact (s.polls now).credits
  | sent now => exact .of_quiet (fun _ hp => nomatch hp) (s.transmits now).log_eq

end Supervisor

/-! ### Narrations -/

/-- A session with the events that it has told, those that were collected and
    those that wait to be. -/
structure Narration where
  supervisor : Supervisor
  collected : List Notice
  waiting : List Notice
  deriving DecidableEq

namespace Narration

/-- A session that has told nothing. -/
def start (supervisor : Supervisor) : Narration := ⟨supervisor, [], []⟩

/-- What happens to a session. -/
inductive Turn where
  | input (i : Supervisor.Input)
  /-- The events that wait are collected. -/
  | collect
  deriving DecidableEq

/-- Everything that has been told, in order. -/
def stream (n : Narration) : List Notice := n.collected ++ n.waiting

/-- The events that have been told, in order. -/
def events (n : Narration) : List SessionEvent := n.stream.map Notice.event

/-- The session makes something of an input, and its events wait. -/
def input (n : Narration) (i : Supervisor.Input) : Narration :=
  let r := n.supervisor.react i
  { n with supervisor := r.state, waiting := n.waiting ++ noticesOf i.message? r.events }

/-- The events that wait are collected. -/
def collect (n : Narration) : Narration := { n with collected := n.stream, waiting := [] }

/-- One turn. -/
def turn (n : Narration) : Turn → Narration
  | .input i => n.input i
  | .collect => n.collect

/-- A number of turns. -/
def run (n : Narration) (turns : List Turn) : Narration := turns.foldl turn n

theorem stream_collect (n : Narration) : n.collect.stream = n.stream := List.append_nil _

theorem stream_input (n : Narration) (i : Supervisor.Input) :
    (n.input i).stream = n.stream ++ noticesOf i.message? (n.supervisor.react i).events :=
  (List.append_assoc _ _ _).symm

theorem events_input (n : Narration) (i : Supervisor.Input) :
    (n.input i).events = n.events ++ (n.supervisor.react i).events := by
  rw [events, stream_input, List.map_append, map_event_noticesOf, events]

/-- What has been told leads to the chapter of the session, and its progress
    comes from reports with increasing numbers, none of them higher than those
    in the log. -/
structure Faithful (n : Narration) : Prop where
  leads : Chapter.Leads .opening n.events n.supervisor.chapter
  unseen : n.supervisor.Unseen
  told : ∀ x ∈ n.stream, ∀ p, x.event = .progress p →
    ∃ m ∈ x.cause, m.kind = .progress ∧ m.payload = .progress p
  increasing : (reportSeqs n.stream).Pairwise (· < ·)
  logged : ∀ seq ∈ reportSeqs n.stream, seq ≤ n.supervisor.log.last

variable {n : Narration}

theorem Faithful.collect (h : n.Faithful) : n.collect.Faithful where
  leads := by
    rw [events, stream_collect]
    exact h.leads
  unseen := h.unseen
  told := by
    rw [stream_collect]
    exact h.told
  increasing := by
    rw [stream_collect]
    exact h.increasing
  logged := by
    rw [stream_collect]
    exact h.logged

theorem Faithful.input (h : n.Faithful) (i : Supervisor.Input) : (n.input i).Faithful := by
  have hnarrates := Supervisor.narrates h.unseen i
  have hcredits := n.supervisor.credits i
  refine ⟨?_, hnarrates.unseen, ?_, ?_, ?_⟩
  · rw [events_input]
    exact h.leads.append hnarrates.leads
  · intro x hx p hp
    rw [stream_input] at hx
    rcases List.mem_append.1 hx with hx | hx
    · exact h.told x hx p hp
    · rcases List.mem_map.1 hx with ⟨e, he, rfl⟩
      cases hp
      exact hcredits.told p he
  · -- A new number is higher than any in the log, and so than any before it.
    rw [stream_input, reportSeqs_append]
    rcases hcredits.seqs with hnil | ⟨seq, hseq, hnew, -⟩
    · rw [hnil, List.append_nil]
      exact h.increasing
    · rw [hseq]
      refine List.pairwise_append.2 ⟨h.increasing, List.pairwise_singleton _ _, ?_⟩
      intro earlier hearlier seq' hseq'
      cases List.mem_singleton.1 hseq'
      exact Int.lt_of_le_of_lt (h.logged earlier hearlier) hnew
  · intro seq hseq
    rw [stream_input, reportSeqs_append] at hseq
    rcases List.mem_append.1 hseq with hearlier | hnew
    · exact Int.le_trans (h.logged seq hearlier) hcredits.last
    · rcases hcredits.seqs with hnil | ⟨seq', hseq', -, hlogged⟩
      · rw [hnil] at hnew
        cases hnew
      · rw [hseq'] at hnew
        cases List.mem_singleton.1 hnew
        exact hlogged

theorem Faithful.run (h : n.Faithful) (turns : List Turn) : (n.run turns).Faithful := by
  induction turns generalizing n with
  | nil => exact h
  | cons next turns ih =>
      cases next with
      | input i => exact ih (h.input i)
      | collect => exact ih h.collect

/-- The session knows whether it has told of progress. -/
theorem Faithful.progressSeen_iff (h : n.Faithful) :
    n.supervisor.log.progressSeen = true ↔ ∃ p, .progress p ∈ n.events := by
  rw [← h.unseen.progressSeen_chapter, h.leads.progressSeen_iff]
  simp only [Chapter.progressSeen, Bool.false_eq_true, false_or]

theorem Faithful.start {timing : Timing} {rover : Int} {mission : Mission} {s : Supervisor}
    (hs : Supervisor.prepare timing rover mission = .ok s) : (start s).Faithful := by
  rcases Supervisor.of_prepare hs with ⟨transfer, -, rfl⟩
  exact ⟨.refl _, fun _ => rfl, fun x hx => absurd hx List.not_mem_nil, .nil,
    fun seq hseq => absurd hseq List.not_mem_nil⟩

/-- A session that has ended has been told, and nothing more happens to it. -/
theorem Faithful.run_of_ended {o : SessionOutcome} (h : n.Faithful)
    (ho : n.supervisor.outcome? = some o) (turns : List Turn) :
    (n.run turns).supervisor.outcome? = some o ∧ (n.run turns).stream = n.stream := by
  induction turns generalizing n with
  | nil => exact ⟨ho, rfl⟩
  | cons next turns ih =>
      cases next with
      -- Nothing that happens to a session that has ended makes it tell more.
      | input i =>
          rcases Supervisor.react_of_ended h.unseen ho i with ⟨houtcome, hevents⟩
          rcases ih (h.input i) houtcome with ⟨hlater, hstream⟩
          refine ⟨hlater, hstream.trans ?_⟩
          rw [stream_input, hevents]
          exact List.append_nil _
      -- Collecting takes events away from where they wait and adds none.
      | collect =>
          rcases ih h.collect ho with ⟨hlater, hstream⟩
          exact ⟨hlater, hstream.trans (stream_collect n)⟩

/-- Whatever happens to a session, what it tells is the beginning of a whole
    stream. The last event decides whether and how the session has ended; the
    session knows whether it has told of progress; progress comes from reports
    with increasing numbers, each with its own payload; and once the session
    has ended, its outcome stays and nothing more is told. -/
theorem stream_grammatical {timing : Timing} {rover : Int} {mission : Mission} {s : Supervisor}
    (hs : Supervisor.prepare timing rover mission = .ok s) (turns : List Turn) :
    let n := (start s).run turns
    (∃ whole, SessionEvent.IsWhole whole ∧ n.events <+: whole) ∧
    (n.supervisor.isTerminal = true ↔
      ∃ e o, n.events.getLast? = some e ∧ e.outcome? = some o) ∧
    n.supervisor.outcome? = n.events.getLast?.bind SessionEvent.outcome? ∧
    (n.supervisor.isTerminal = true → SessionEvent.IsWhole n.events) ∧
    (n.supervisor.log.progressSeen = true ↔ ∃ p, .progress p ∈ n.events) ∧
    (∀ x ∈ n.stream, ∀ p, x.event = .progress p →
      ∃ m ∈ x.cause, m.kind = .progress ∧ m.payload = .progress p) ∧
    (reportSeqs n.stream).Pairwise (· < ·) ∧
    (n.supervisor.isTerminal = true → ∀ more : List Turn,
      (n.run more).supervisor.outcome? = n.supervisor.outcome? ∧
        (n.run more).stream = n.stream) := by
  intro n
  have h : n.Faithful := (Faithful.start hs).run turns
  -- The chapter that the events lead to is the one that the session is in.
  have houtcome : n.supervisor.outcome? = n.events.getLast?.bind SessionEvent.outcome? := by
    rw [← Supervisor.outcome?_chapter, h.leads.outcome?_eq]
    cases n.events.getLast? <;> rfl
  refine ⟨h.leads.exists_isWhole, ?_, houtcome, ?_, h.progressSeen_iff, h.told, h.increasing,
    ?_⟩
  · rw [Supervisor.isTerminal, Option.isSome_iff_exists, houtcome]
    simp only [Option.bind_eq_some_iff]
    exact exists_comm
  · intro hterminal
    rcases Option.isSome_iff_exists.1 hterminal with ⟨o, ho⟩
    have hleads := h.leads
    rw [Supervisor.chapter_of_outcome? ho] at hleads
    exact hleads.isWhole
  · intro hterminal more
    rcases Option.isSome_iff_exists.1 hterminal with ⟨o, ho⟩
    rw [ho]
    exact h.run_of_ended ho more

/-- A report arrives before the transfer is known to have been sent, and an
    older one after it. The older one is not told, and neither is what comes
    after the end. -/
theorem stream_grammatical_overtaken :
    let m : Mission := ⟨1, .zero, .zero, .zero, .zero, "scan", 60, 2, 0, 1⟩
    let p : Progress := ⟨1, 4, .hundred⟩
    let news (kind : Kind) (seq : Int) (payload : Payload) : Message :=
      { kind, sender := 7, receiver := coordinatorId, mission := 1, seq, success := true, payload }
    let turns : List Turn := [.input (.greet 0), .input (.hear (news .response 1 .empty) 1),
      .input (.hear (news .progress 2 (.progress p)) 2), .collect, .input (.sent 3),
      .input (.hear (news .progress 1 (.progress ⟨1, 2, .zero⟩)) 4),
      .input (.hear (news .completed 3 .empty) 5)]
    let late : List Turn := [.input (.hear (news .progress 4 (.progress p)) 6), .input (.wait 1000)]
    ∃ s, Supervisor.prepare {} 7 m = .ok s ∧
      let n := (start s).run turns
      n.events = [.accepted, .progress p, .completed] ∧ reportSeqs n.stream = [2] ∧
        SessionEvent.IsWhole n.events ∧ (n.run late).stream = n.stream := by
  intro m p news turns late
  have hrun : ∃ s, Supervisor.prepare {} 7 m = .ok s ∧
      ((start s).run turns).events = [.accepted, .progress p, .completed] ∧
      reportSeqs ((start s).run turns).stream = [2] ∧
      ((start s).run turns).supervisor.isTerminal = true :=
    Supervisor.exists_prepare_of_check (by decide +kernel)
  rcases hrun with ⟨s, hs, hevents, hseqs, hterminal⟩
  rcases stream_grammatical hs turns with ⟨-, -, -, hwhole, -, -, -, hlate⟩
  exact ⟨s, hs, hevents, hseqs, hwhole hterminal, (hlate hterminal late).2⟩

end Narration

end RoverDispatch
