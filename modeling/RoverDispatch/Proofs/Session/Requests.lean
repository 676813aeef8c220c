import RoverDispatch.Proofs.Session.Transfers

/-!
# Requests for Lost Fragments

A fragment that is lost is asked for once.

While a transfer is under way the receiver asks after every few fragments for
the numbers that were skipped, and after the last one for everything that is
outstanding. Both kinds of request can come upon the same number, so the times
of asking are kept, and a number is left out as long as the answer can be on
its way.

The fragments that are not lost come in order. So below the latest of them the
numbers that have not been seen are just the lost ones, and whatever a request
lists is lost. After the last fragment nothing is below that has not been
looked at, so by then every lost number has been asked for. A number that was
asked for stays in the table, and if all of this takes less than the wait for
an answer, no request lists it again.

`AgentSession.Hunts` is the invariant: what has been seen, what has been asked
for, and since when. It does not say how often the receiver looks, so the
number of fragments between two looks makes no difference.

## Main definitions

* `requests`: What the acknowledgements among messages ask for.
* `Fragmented`: A transfer in fragments.
* `Reception.wants`, `Reception.fresh`: What a fragment makes the receiver look
  for, and what is then asked for.
* `kept`, `InTurn`: The fragments that are not lost, and how far they have come.
* `AgentSession.Hunts`: What a session has seen and asked for.
* `AsksFor`: What a fragment makes it ask for.
* `Requested`: What it asks for in the course of a transfer.

## Theorems

* `Supervisor.fragmented`: A mission in several messages is in fragments.
* `Reception.take_open`: A fragment that does not complete the transfer.
* `Reception.of_mem_wants`: Only what was skipped is looked for.
* `Reception.exists_requested`, `Reception.later_le_of_mem_fresh`: When
  something that is looked for is asked for.
* `inTurn_of_kept`: Below a fragment only lost ones have not been seen.
* `asksFor_fresh`: What the invariant says of a request.
* `Requested.cons`: What is asked for with one fragment and with the others.
* `Agent.hunts_receive`, `Agent.hunts_run`: What one fragment and all of them
  lead to.
* `Agent.lost_requested_once`: Every lost fragment is asked for once.
-/

namespace RoverDispatch

/-- What the acknowledgements among messages ask for. -/
def requests (messages : List Message) : List (List Int) :=
  (messages.filter (fun x => x.kind = .ack)).map Supervisor.missingIn

theorem requests_append (messages more : List Message) :
    requests (messages ++ more) = requests messages ++ requests more := by
  simp only [requests, List.filter_append, List.map_append]

/-- A transfer to a rover in fragments: they are numbered in order, each tells how
    many there are, and each can be read. -/
structure Fragmented (rover mission : Int) (transfer : List Message) : Prop where
  about : ∀ x ∈ transfer, x.kind = .mission ∧ x.receiver = rover ∧ x.mission = mission
  total : ∀ x ∈ transfer, x.total = transfer.length
  reads : ∀ x ∈ transfer, ∃ bytes fields,
    x.payload = .fragment bytes ∧ decodeFields bytes = .ok fields
  numbered : transfer.map Message.seq =
    intRange firstTransferSeq (firstTransferSeq + transfer.length)

/-- The last fragment has the last number. -/
theorem Fragmented.seq_of_getLast? {rover mission : Int} {transfer : List Message}
    (h : Fragmented rover mission transfer) {x : Message} (hx : transfer.getLast? = some x) :
    x.seq = firstTransferSeq + transfer.length - 1 := by
  have hpos : 0 < transfer.length := List.length_pos_iff.2 (List.ne_nil_of_mem
    (List.mem_of_getLast? hx))
  have hnumber := congrArg (fun l => l[transfer.length - 1]?) h.numbered
  rw [List.getLast?_eq_getElem?] at hx
  simp only [intRange, List.getElem?_map, hx, Option.map_some, add_sub_cancel_left] at hnumber
  rw [Int.toNat_natCast, List.getElem?_range (by omega), Option.map_some,
    Option.some.injEq] at hnumber
  omega

/-- A mission that is sent in several messages is sent in fragments. -/
theorem Supervisor.fragmented {timing : Timing} {rover : Int} {m : Mission} {s : Supervisor}
    (hm : m.Fits) (hs : prepare timing rover m = .ok s) (hmany : 1 < s.transfer.length) :
    Fragmented rover m.id s.transfer := by
  rcases of_prepare hs with ⟨transfer, htransfer, rfl⟩
  change 1 < transfer.length at hmany
  change Fragmented rover m.id transfer
  unfold Mission.transferMessages at htransfer
  split at htransfer
  · cases hfrags : fragments timing.fragmentSize m.toFields with
    | error e =>
        rw [hfrags] at htransfer
        cases htransfer
    | ok frags =>
        rw [hfrags] at htransfer
        cases htransfer
        -- A single message would be the whole mission, so there are fragments.
        have hcut := cutInto_of_fragments (fun f => Mission.isWhole_of_mem_toFields) hfrags
        refine ⟨fun x hx => ?_, fun x hx => ?_, fun x hx => ?_, ?_⟩
        · rcases List.mem_mapIdx.1 hx with ⟨i, hi, rfl⟩
          exact ⟨rfl, rfl, rfl⟩
        · rcases List.mem_mapIdx.1 hx with ⟨i, hi, rfl⟩
          simp only [List.length_mapIdx]
          rfl
        · rcases List.mem_mapIdx.1 hx with ⟨i, hi, rfl⟩
          exact ⟨_, _, rfl, Mission.decodeFields_fragment hm hcut ⟨i, hi⟩⟩
        · refine List.ext_getElem (by simp [intRange]) (fun i _ _ => ?_)
          simp [intRange, Mission.transferMessage]
  · cases htransfer
    exact absurd hmany (Nat.lt_irrefl 1)

namespace Reception

variable {r : Reception} {w w' : Window} {t : Timing} {seq n : Int} {now : Nat}

/-- What a new fragment makes the receiver look for when it does not complete the
    transfer: everything after the last one, and after every few the gaps. -/
def wants (r : Reception) (t : Timing) (w : Window) (seq : Int) : List Int :=
  if seq = w.last then w.missing else if t.ackBatch ≤ r.sinceCheck + 1 then w.gaps else []

theorem wants_of_last (r : Reception) (t : Timing) (h : seq = w.last) :
    r.wants t w seq = w.missing := if_pos h

/-- Numbers whose answer cannot be on its way. -/
def fresh (r : Reception) (seqs : List Int) (hold now : Nat) : List Int :=
  seqs.filter (fun seq => !r.isPending hold now seq)

/-- A fragment that does not complete the transfer is recorded, and what it makes
    the receiver look for is asked for unless the answer can be on its way. -/
theorem take_open {total : Int} (hw : r.window.getD (.start firstTransferSeq total) = w)
    (hnew : w.record? seq = some w') (hopen : w'.isComplete = false) (fields : List Field)
    (now : Nat) :
    let asked := r.fresh (r.wants t w' seq) t.timeout now
    ∃ r', r'.window = some w' ∧
      (∀ n, r'.requested.find? n = if n ∈ asked then some now else r.requested.find? n) ∧
      r.take t seq total fields now = (r', if asked = [] then .silent else .ask asked) := by
  intro asked
  unfold take
  rw [hw]
  simp only [hnew, takeNew, hopen, Bool.false_eq_true, if_false]
  -- The receiver looks in one place only: after the last number, after every few, or nowhere.
  by_cases hlast : seq = w'.last
  · have hasked : asked = w'.missing.filter (fun n => !r.isPending t.timeout now n) := by
      simp only [asked, fresh, wants, if_pos hlast]
    rw [if_pos hlast, hasked]
    exact ⟨_, rfl, fun n => Table.find?_foldl_insert .., rfl⟩
  · by_cases hlook : t.ackBatch ≤ r.sinceCheck + 1
    · have hasked : asked = w'.gaps.filter (fun n => !r.isPending t.timeout now n) := by
        simp only [asked, fresh, wants, if_neg hlast, if_pos hlook]
      rw [if_neg hlast, if_pos hlook, hasked]
      exact ⟨_, rfl, fun n => Table.find?_foldl_insert .., rfl⟩
    · have hasked : asked = [] := by
        simp only [asked, fresh, wants, if_neg hlast, if_neg hlook, List.filter_nil]
      rw [if_neg hlast, if_neg hlook, hasked]
      exact ⟨_, rfl, fun n => by simp, rfl⟩

/-- Only what was skipped is looked for, when the fragments come in order. -/
theorem of_mem_wants (hseen : ∀ n ∈ w.seen, n ≤ seq) (h : n ∈ r.wants t w seq) :
    w.first ≤ n ∧ n ≤ seq ∧ n ∉ w.seen := by
  unfold wants at h
  split at h
  · -- On the last fragment all that has not been seen is missing,
    rename_i hlast
    rcases List.mem_filter.1 h with ⟨hin, hunseen⟩
    rcases mem_intRange.1 hin with ⟨hlow, hhigh⟩
    refine ⟨hlow, ?_, of_decide_eq_true hunseen⟩
    rw [hlast, Window.last]
    omega
  · split at h
    · unfold Window.gaps at h
      split at h
      · cases h
      · -- and before that what is below the highest one that has been seen.
        rename_i highest hhighest
        rcases List.mem_filter.1 h with ⟨hin, hunseen⟩
        rcases mem_intRange.1 hin with ⟨hlow, hhigh⟩
        have hle := hseen highest (List.max?_mem hhighest)
        exact ⟨hlow, by omega, of_decide_eq_true hunseen⟩
    · cases h

/-- What is asked for comes in order. -/
theorem pairwise_fresh (r : Reception) (t : Timing) (w : Window) (seq : Int) (hold now : Nat) :
    (r.fresh (r.wants t w seq) hold now).Pairwise (· < ·) := by
  refine List.Pairwise.filter _ ?_
  unfold wants Window.missing Window.gaps
  split
  · exact (pairwise_intRange _ _).filter _
  · split
    · split
      · exact .nil
      · exact (pairwise_intRange _ _).filter _
    · exact .nil

/-- What is looked for and not asked for was asked for before. -/
theorem exists_requested {seqs : List Int} {hold : Nat} (hn : n ∈ seqs)
    (h : n ∉ r.fresh seqs hold now) : ∃ time, r.requested.find? n = some time := by
  by_contra hnever
  refine h (List.mem_filter.2 ⟨hn, ?_⟩)
  have hnone : r.requested.find? n = none := Option.eq_none_iff_forall_ne_some.2
    (fun time htime => hnever ⟨time, htime⟩)
  simp only [isPending, hnone, Bool.not_false]

/-- What is asked for was not asked for within the wait. -/
theorem later_le_of_mem_fresh {seqs : List Int} {hold time : Nat} (h : n ∈ r.fresh seqs hold now)
    (htime : r.requested.find? n = some time) : later time hold ≤ now := by
  have hpending := (List.mem_filter.1 h).2
  simp only [isPending, htime, Bool.not_eq_true', decide_eq_false_iff_not, Nat.not_lt] at hpending
  exact hpending

end Reception

/-- The numbers of a transfer that are not lost. -/
def kept (lost : Finset Int) (total : Nat) : List Int :=
  (intRange firstTransferSeq (firstTransferSeq + total)).filter (fun seq => seq ∉ lost)

theorem mem_kept {lost : Finset Int} {total : Nat} {n : Int} :
    n ∈ kept lost total ↔
      n ∈ intRange firstTransferSeq (firstTransferSeq + total) ∧ n ∉ lost := by
  rw [kept, List.mem_filter, decide_eq_true_eq]

/-- How far a transfer has come with a fragment that is not lost: those before it have
    been seen, and of those up to it only lost ones have not. -/
structure InTurn (lost : Finset Int) (total : Nat) (seen : List Int) (seq : Int) : Prop where
  below : ∀ n ∈ seen, n < seq
  nodup : (seq :: seen).Nodup
  kept : ∀ n ∈ seq :: seen, n ∈ kept lost total
  skipped : ∀ n ∈ intRange firstTransferSeq (firstTransferSeq + total),
    n ≤ seq → n ∉ seq :: seen → n ∈ lost

/-- A fragment is in turn when the ones that are not lost come in order. -/
theorem inTurn_of_kept {lost : Finset Int} {total : Nat} {seen rest : List Int} {seq : Int}
    (h : seen.reverse ++ seq :: rest = kept lost total) : InTurn lost total seen seq := by
  have hsorted : (seen.reverse ++ seq :: rest).Pairwise (· < ·) :=
    h ▸ (pairwise_intRange _ _).filter _
  rcases List.pairwise_append.1 hsorted with ⟨hseen, hrest, hbetween⟩
  have hbelow : ∀ n ∈ seen, n < seq := fun n hn =>
    hbetween n (List.mem_reverse.2 hn) seq (List.mem_cons_self ..)
  refine ⟨hbelow, ?_, fun n hn => ?_, fun n hin hle hunseen => ?_⟩
  · refine List.nodup_cons.2 ⟨fun hmem => absurd (hbelow seq hmem) (Int.lt_irrefl _), ?_⟩
    exact List.nodup_reverse.1 (hseen.imp Int.ne_of_lt)
  · rw [← h, List.mem_append, List.mem_reverse, List.mem_cons]
    rcases List.mem_cons.1 hn with rfl | hn
    · exact .inr (.inl rfl)
    · exact .inl hn
  · -- One that is not lost and has not been seen comes later.
    by_contra hkept
    have hmem : n ∈ seen.reverse ++ seq :: rest := h ▸ mem_kept.2 ⟨hin, hkept⟩
    rw [List.mem_append, List.mem_reverse, List.mem_cons] at hmem
    rw [List.mem_cons, not_or] at hunseen
    rcases hmem with hn | rfl | hn
    · exact hunseen.2 hn
    · exact hunseen.1 rfl
    · have hlater := List.rel_of_pairwise_cons hrest hn
      omega

/-- When none is left, the fragment is the last, which is not lost. -/
theorem InTurn.eq_last {lost : Finset Int} {total : Nat} {seen : List Int} {seq : Int}
    (h : InTurn lost total seen seq) (hall : seen.reverse ++ [seq] = RoverDispatch.kept lost total)
    (htotal : 0 < total) (hlast : firstTransferSeq + total - 1 ∉ lost) :
    seq = firstTransferSeq + total - 1 := by
  have hmem : firstTransferSeq + total - 1 ∈ seen.reverse ++ [seq] :=
    hall ▸ mem_kept.2 ⟨mem_intRange.2 ⟨by omega, by omega⟩, hlast⟩
  have hin := (mem_intRange.1 (mem_kept.1 (h.kept seq (List.mem_cons_self ..))).1).2
  rw [List.mem_append, List.mem_reverse, List.mem_singleton] at hmem
  rcases hmem with hn | hn
  · have hlt := h.below _ hn
    omega
  · exact hn.symm

/-- As long as a number is missing, the transfer does not complete. -/
theorem InTurn.isComplete_eq {lost : Finset Int} {total : Nat} {seen : List Int} {seq n : Int}
    (h : InTurn lost total seen seq) (hn : n ∈ lost)
    (hin : n ∈ intRange firstTransferSeq (firstTransferSeq + total)) :
    Window.isComplete ⟨firstTransferSeq, total, seq :: seen⟩ = false := by
  have hunseen : n ∉ seq :: seen := fun hmem => (mem_kept.1 (h.kept n hmem)).2 hn
  -- With the missing number there would be more different numbers than there are.
  have hsub : n :: seq :: seen ⊆ intRange firstTransferSeq (firstTransferSeq + total) := by
    intro k hk
    rcases List.mem_cons.1 hk with rfl | hk
    · exact hin
    · exact (mem_kept.1 (h.kept k hk)).1
  have hlen := (List.subperm_of_subset (List.nodup_cons.2 ⟨hunseen, h.nodup⟩) hsub).length_le
  rw [List.length_cons, length_intRange] at hlen
  refine decide_eq_false ?_
  simp only [Window.count]
  omega

/-- A session that is receiving a transfer some fragments of which are lost: what it
    has seen, and what it has asked for, at no time before the given one. -/
structure AgentSession.Hunts (mission : Int) (total since : Nat) (seen asked : List Int)
    (t : AgentSession) : Prop where
  mission : t.mission = mission
  reception : ∃ r, t.stage = .receiving r ∧
    r.window.getD (.start firstTransferSeq total) = ⟨firstTransferSeq, total, seen⟩ ∧
    (∀ n, n ∈ asked ↔ ∃ time, r.requested.find? n = some time) ∧
    ∀ n time, r.requested.find? n = some time → since ≤ time

/-- In a session that has just opened nothing was asked for. -/
theorem Agent.hunts_openSession (a : Agent) {hello : Message} {mission : Int}
    (habout : hello.mission = mission) {total : Nat} (htotal : 0 < total) (opening since : Nat) :
    (a.openSession hello opening).Hunts mission total since [] [] := by
  refine ⟨habout, .start opening, rfl, ?_, fun n => ?_, fun n time htime => ?_⟩
  · have hmax : max (total : Int) 1 = total := by omega
    simp only [Reception.start, Option.getD_none, Window.start, hmax]
  · simp only [List.not_mem_nil, Reception.start, Table.find?_empty, reduceCtorEq, exists_false]
  · cases htime

section Hunt

variable {mission : Int} {transfer : List Message} {lost : Finset Int} {seen asked : List Int}
  {since now : Nat} {a : Agent} {t : AgentSession} {x : Message}

/-- What a fragment makes a session ask for, that has seen the given numbers and has
    asked for some: only what was skipped, after the last fragment everything that
    was, and nothing again as long as the answer can be on its way. -/
structure AsksFor (total since timeout now : Nat) (seen asked : List Int) (seq : Int)
    (more : List Int) : Prop where
  increasing : more.Pairwise (· < ·)
  skipped : ∀ n ∈ more, firstTransferSeq ≤ n ∧ n ≤ seq ∧ n ∉ seq :: seen
  all : seq = firstTransferSeq + total - 1 →
    ∀ n ∈ intRange firstTransferSeq (firstTransferSeq + total), n ∉ seq :: seen →
      n ∈ asked ∨ n ∈ more
  once : now < later since timeout → ∀ n ∈ more, n ∉ asked

/-- The invariant of a hunt gives what is asked for. -/
theorem asksFor_fresh {total timeout : Nat} {seq : Int} {r : Reception} (timing : Timing)
    (hasked : ∀ n, n ∈ asked ↔ ∃ time, r.requested.find? n = some time)
    (hsince : ∀ n time, r.requested.find? n = some time → since ≤ time)
    (hbelow : ∀ n ∈ seen, n ≤ seq) :
    AsksFor total since timeout now seen asked seq
      (r.fresh (r.wants timing ⟨firstTransferSeq, total, seq :: seen⟩ seq) timeout now) where
  increasing := r.pairwise_fresh ..
  skipped := by
    intro n hn
    refine Reception.of_mem_wants (fun k hk => ?_) (List.mem_filter.1 hn).1
    rcases List.mem_cons.1 hk with rfl | hk
    · exact Int.le_refl _
    · exact hbelow k hk
  all := by
    intro hlast n hin hunseen
    rw [hasked]
    by_contra hnever
    rw [not_or] at hnever
    refine hnever.1 (Reception.exists_requested ?_ hnever.2)
    rw [r.wants_of_last timing hlast]
    exact List.mem_filter.2 ⟨hin, decide_eq_true hunseen⟩
  once := by
    intro hsoon n hn hagain
    -- Whatever was asked for was asked for at `since` or later, so the wait is not over.
    rcases (hasked n).1 hagain with ⟨time, htime⟩
    have hlate := Reception.later_le_of_mem_fresh hn htime
    have hafter := hsince n time htime
    unfold later at hlate hsoon
    omega

/-- What a session asks for in the course of a transfer, apart from what it has asked
    for before: lost numbers in order, in the end all of them, and none again if it
    all happens soon. -/
structure Requested (lost : Finset Int) (asked : List Int) (ended soon : Prop)
    (lists : List (List Int)) : Prop where
  sound : ∀ l ∈ lists, l.Pairwise (· < ·) ∧ ∀ n ∈ l, n ∈ lost
  covers : ended → ∀ n ∈ lost, n ∈ asked ∨ ∃ l ∈ lists, n ∈ l
  once : soon → lists.Pairwise List.Disjoint ∧ ∀ l ∈ lists, List.Disjoint asked l

/-- What is asked for with one fragment and with those behind it. -/
theorem Requested.cons {total timeout : Nat} {seq : Int} {rest more : List Int}
    {lists : List (List Int)} {soon : Prop}
    (hlost : ∀ n ∈ lost, n ∈ intRange firstTransferSeq (firstTransferSeq + total) ∧
      n ≠ firstTransferSeq + total - 1)
    (hkept : seen.reverse ++ seq :: rest = kept lost total)
    (hasks : AsksFor total since timeout now seen asked seq more)
    (h : Requested lost (asked ++ more) (rest ≠ []) soon lists) :
    Requested lost asked True (now < later since timeout ∧ soon)
      ((if more = [] then [] else [more]) ++ lists) := by
  -- The fragments come in their turn, so what was skipped before this one is lost.
  have hturn := inTurn_of_kept hkept
  rcases mem_intRange.1 (mem_kept.1 (hturn.kept seq (List.mem_cons_self ..))).1 with ⟨hfirst, hhigh⟩
  have hfrom : ∀ l ∈ (if more = [] then [] else [more]) ++ lists, l = more ∨ l ∈ lists := by
    intro l hl
    split at hl
    · exact .inr hl
    · exact List.mem_cons.1 hl
  -- A list that asks for something is one of the requests.
  have hmore : ∀ n ∈ more, more ∈ (if more = [] then [] else [more]) ++ lists := by
    intro n hn
    rw [if_neg (List.ne_nil_of_mem hn)]
    exact List.mem_cons_self ..
  refine ⟨fun l hl => ?_, fun _ n hn => ?_, ?_⟩
  · rcases hfrom l hl with rfl | hl
    · refine ⟨hasks.increasing, fun n hn => ?_⟩
      rcases hasks.skipped n hn with ⟨hlow, hle, hunseen⟩
      exact hturn.skipped n (mem_intRange.2 ⟨hlow, by omega⟩) hle hunseen
    · exact h.sound l hl
  · have hasked : n ∈ asked ++ more ∨ ∃ l ∈ lists, n ∈ l := by
      by_cases hend : rest = []
      · -- Whatever has not been asked for with the last fragment is asked for then.
        have hunseen : n ∉ seq :: seen := fun hmem => (mem_kept.1 (hturn.kept n hmem)).2 hn
        have hlast := hturn.eq_last (hend ▸ hkept) (by omega) (fun hmem => (hlost _ hmem).2 rfl)
        exact .inl (List.mem_append.2 (hasks.all hlast n (hlost n hn).1 hunseen))
      · exact h.covers hend n hn
    rcases hasked with hasked | ⟨l, hl, hasked⟩
    · exact (List.mem_append.1 hasked).imp_right (fun hn => ⟨more, hmore n hn, hn⟩)
    · exact .inr ⟨l, List.mem_append_right _ hl, hasked⟩
  · -- Within the wait no number that was asked for is asked for again.
    rintro ⟨hnow, hsoon⟩
    rcases h.once hsoon with ⟨hdisjoint, hothers⟩
    refine ⟨?_, fun l hl => ?_⟩
    · split
      · exact hdisjoint
      · exact .cons (fun l hl => (List.disjoint_append_left.1 (hothers l hl)).2) hdisjoint
    · rcases hfrom l hl with rfl | hl
      · exact fun n hn hmem => hasks.once hnow n hmem hn
      · exact (List.disjoint_append_left.1 (hothers l hl)).1

namespace Agent

/-- A fragment of the transfer that does not complete it. -/
theorem hunts_receive (htransfer : Fragmented a.id mission transfer) (hs : a.session = some t)
    (h : t.Hunts mission transfer.length since seen asked) (hx : x ∈ transfer)
    (hbelow : ∀ n ∈ seen, n < x.seq)
    (hopen : Window.isComplete ⟨firstTransferSeq, transfer.length, x.seq :: seen⟩ = false)
    (hsince : since ≤ now) :
    ∃ t' more, (a.receive x now).state = a.within t' ∧
      requests (a.receive x now).messages = (if more = [] then [] else [more]) ∧
      t'.Hunts mission transfer.length since (x.seq :: seen) (asked ++ more) ∧
      AsksFor transfer.length since a.timing.timeout now seen asked x.seq more := by
  rcases h.reception with ⟨r, hr, hw, hasked, htimes⟩
  rcases htransfer.about x hx with ⟨hkind, hreceiver, habout⟩
  rcases htransfer.reads x hx with ⟨bytes, fields, hpayload, hdecode⟩
  have hin : x.seq ∈ intRange firstTransferSeq (firstTransferSeq + transfer.length) :=
    htransfer.numbered ▸ List.mem_map_of_mem hx
  -- The number is above all that were seen, so it is recorded.
  have hrecord : Window.record? ⟨firstTransferSeq, transfer.length, seen⟩ x.seq =
      some ⟨firstTransferSeq, transfer.length, x.seq :: seen⟩ := by
    rcases mem_intRange.1 hin with ⟨hlow, hhigh⟩
    refine if_pos ⟨Window.contains_iff.2 ⟨hlow, ?_⟩, fun hmem => ?_⟩
    · simp only [Window.last]
      omega
    · exact absurd (hbelow x.seq hmem) (Int.lt_irrefl _)
  rcases Reception.take_open (r := { r with lastInbound := now, nudges := 0 }) (t := a.timing) hw
    hrecord hopen fields now with ⟨r', hw', hrequested, htake⟩
  -- What is asked for does not depend on when the coordinator was heard of.
  let more := r.fresh (r.wants a.timing ⟨firstTransferSeq, transfer.length, x.seq :: seen⟩ x.seq)
    a.timing.timeout now
  let t' : AgentSession := { t with total := r'.total, stage := .receiving r' }
  have htake' : Reception.take { r with lastInbound := now, nudges := 0 } a.timing x.seq
      transfer.length fields now = (r', if more = [] then .silent else .ask more) := htake
  -- The fragment goes through to the reception, and what it asks for comes back.
  have hreceive : a.receive x now =
      { state := a.within t'
        messages := if more = [] then [] else [t'.missionAck a.id x.seq more] } := by
    have hmission : ¬ t.mission ≠ x.mission := not_not_intro (h.mission.trans habout.symm)
    rw [receive, if_pos hreceiver, hkind]
    simp only [onMission, hs, if_neg hmission, hr, onTransfer, hpayload, hdecode, onFragment,
      htransfer.total x hx, htake']
    by_cases hmore : more = []
    · simp only [if_pos hmore, Reaction.quiet, t']
    · simp only [if_neg hmore, t']
  refine ⟨t', more, ?_, ?_, ?_, ?_⟩
  · rw [hreceive]
  · rw [hreceive]
    split <;> rfl
  · refine ⟨h.mission, r', rfl, ?_, fun n => ?_, fun n time htime => ?_⟩
    · rw [hw', Option.getD_some]
    · rw [List.mem_append, hasked, hrequested]
      change _ ∨ n ∈ more ↔ ∃ time, (if n ∈ more then some now else r.requested.find? n) = some time
      by_cases hmore : n ∈ more
      · simp only [hmore, or_true, if_true, Option.some.injEq, exists_eq']
      · simp only [hmore, or_false, if_false]
    · rw [hrequested] at htime
      split at htime
      · cases htime
        exact hsince
      · exact htimes n time htime
  · exact asksFor_fresh a.timing hasked htimes (fun n hn => Int.le_of_lt (hbelow n hn))

/-- One thing before others. -/
theorem messages_run_cons (a : Agent) (i : Input) (inputs : List Input) :
    (a.run (i :: inputs)).messages =
      (a.react i).messages ++ ((a.react i).state.run inputs).messages := by
  have happend := a.run_append [i] inputs
  rw [List.singleton_append] at happend
  rw [happend]
  rfl

/-- What the fragments that are left make a session ask for. -/
theorem hunts_run (hlost : ∀ n ∈ lost, n ∈ intRange firstTransferSeq
      (firstTransferSeq + transfer.length) ∧ n ≠ firstTransferSeq + transfer.length - 1)
    {d : Int} (hd : d ∈ lost) {rest : List Message} (hrest : ∀ x ∈ rest, x ∈ transfer)
    {times : List Nat} (hlen : times.length = rest.length) (hsince : ∀ now ∈ times, since ≤ now)
    (htransfer : Fragmented a.id mission transfer) (hs : a.session = some t)
    (h : t.Hunts mission transfer.length since seen asked)
    (hkept : seen.reverse ++ rest.map Message.seq = kept lost transfer.length) :
    Requested lost asked (rest ≠ []) (∀ now ∈ times, now < later since a.timing.timeout)
      (requests (a.run (List.zipWith .hear rest times)).messages) := by
  -- On the fragments that are left. Each adds its number to what has been seen, and the
  -- answer to it to what has been asked for.
  induction rest generalizing a t seen asked times with
  | nil =>
      exact ⟨fun l hl => absurd hl List.not_mem_nil, fun h => absurd rfl h,
        fun _ => ⟨.nil, fun l hl => absurd hl List.not_mem_nil⟩⟩
  | cons x rest ih =>
      cases times with
      | nil => cases hlen
      | cons now times =>
          have hturn : InTurn lost transfer.length seen x.seq := inTurn_of_kept hkept
          rcases hunts_receive htransfer hs h (hrest x (List.mem_cons_self ..)) hturn.below
            (hturn.isComplete_eq hd (hlost d hd).1) (hsince now (List.mem_cons_self ..)) with
            ⟨t', more, hstate, hrequests, hhunts, hasks⟩
          have hothers := ih (fun y hy => hrest y (List.mem_cons_of_mem _ hy))
            (Nat.succ.inj hlen) (fun time htime => hsince time (List.mem_cons_of_mem _ htime))
            (a := a.within t') htransfer rfl hhunts (by simpa using hkept)
          have hreact : a.react (.hear x now) = a.receive x now := rfl
          have hcons := a.messages_run_cons (.hear x now) (List.zipWith .hear rest times)
          rw [hreact, hstate] at hcons
          rw [List.zipWith_cons_cons, hcons, requests_append, hrequests]
          have hends : (rest ≠ []) = (rest.map Message.seq ≠ []) := by
            rw [ne_eq, ne_eq, List.map_eq_nil_iff]
          rw [hends] at hothers
          have hall := Requested.cons hlost hkept hasks hothers
          exact ⟨hall.sound, fun _ => hall.covers trivial,
            fun hsoon => hall.once (List.forall_mem_cons.1 hsoon)⟩

end Agent

end Hunt

namespace Agent

variable {a : Agent} {t : AgentSession} {mission : Int} {transfer : List Message}

/-- Every lost fragment is asked for exactly once. Some fragments of a transfer are
    lost, but not the last, and the others come in order to a session that has just
    opened. Then no request names a number twice, the requests name all lost numbers
    and no others, and if the fragments come one after the other within the wait for
    an answer, no two of them name the same number. -/
theorem lost_requested_once (htransfer : Fragmented a.id mission transfer) {hello : Message}
    (hkind : hello.kind = .hello) (hnew : ∀ s, a.session = some s → s.mission ≠ mission)
    {opening : Nat} (hopens : (a.receive hello opening).state.session = some t)
    (habout : t.mission = mission) {lost : Finset Int} (hne : lost.Nonempty)
    (hlost : ∀ seq ∈ lost, seq ∈ transfer.map Message.seq)
    (hlast : ∀ x ∈ transfer.getLast?, x.seq ∉ lost) {times : List Nat}
    (hlen : times.length = (transfer.filter (fun x => x.seq ∉ lost)).length) :
    let b := (a.receive hello opening).state
    let delivered := transfer.filter (fun x => x.seq ∉ lost)
    let lists := requests (b.run (List.zipWith .hear delivered times)).messages
    (∀ l ∈ lists, l.Nodup) ∧
    (∀ seq, (∃ l ∈ lists, seq ∈ l) ↔ seq ∈ lost) ∧
    (times.Pairwise (· ≤ ·) →
      (∀ first ∈ times.head?, ∀ last ∈ times.getLast?, last < later first b.timing.timeout) →
      lists.Pairwise List.Disjoint) := by
  intro b delivered lists
  rcases opened_of_receive (m := { (default : Mission) with id := mission }) hkind hnew hopens
    habout with ⟨hid, rfl⟩
  have hfragmented : Fragmented b.id mission transfer := hid ▸ htransfer
  rcases hne with ⟨d, hd⟩
  have hpos : transfer ≠ [] := fun hnil => by
    rw [hnil] at hlost
    exact absurd (hlost d hd) List.not_mem_nil
  -- The last fragment is not lost, so no lost number is the last.
  have hend : transfer.getLast? = some (transfer.getLast hpos) := List.getLast?_eq_some_getLast hpos
  have hbefore : ∀ n ∈ lost, n ∈ intRange firstTransferSeq (firstTransferSeq + transfer.length) ∧
      n ≠ firstTransferSeq + transfer.length - 1 := by
    refine fun n hn => ⟨htransfer.numbered ▸ hlost n hn, fun he => hlast _ hend ?_⟩
    rw [htransfer.seq_of_getLast? hend, ← he]
    exact hn
  -- The last fragment arrives, so something does.
  have hdelivered : delivered ≠ [] := List.ne_nil_of_mem
    (List.mem_filter.2 ⟨List.getLast_mem hpos, decide_eq_true (hlast _ hend)⟩)
  have hkept : [].reverse ++ delivered.map Message.seq = kept lost transfer.length := by
    rw [kept, ← htransfer.numbered, List.filter_map]
    rfl
  have hmem : ∀ x ∈ delivered, x ∈ transfer := fun x hx => (List.mem_filter.1 hx).1
  have hopened : ∀ since, (a.openSession hello opening).Hunts mission transfer.length since [] [] :=
    a.hunts_openSession habout (List.length_pos_iff.2 hpos) opening
  -- The requests are those of a hunt from an empty start, whichever time it counts from.
  have hrequested : ∀ since, (∀ now ∈ times, since ≤ now) → Requested lost [] (delivered ≠ [])
      (∀ now ∈ times, now < later since b.timing.timeout) lists := fun since hsince =>
    hunts_run hbefore hd hmem hlen hsince hfragmented hopens (hopened since) hkept
  have hall := hrequested 0 (fun _ _ => Nat.zero_le _)
  refine ⟨fun l hl => (hall.sound l hl).1.imp Int.ne_of_lt, fun seq => ⟨?_, fun hseq => ?_⟩,
    fun hordered hsoon => ?_⟩
  · rintro ⟨l, hl, hseq⟩
    exact (hall.sound l hl).2 seq hseq
  · exact (hall.covers hdelivered seq hseq).resolve_left List.not_mem_nil
  · have htimes : times ≠ [] := by
      rintro rfl
      exact hdelivered (List.eq_nil_of_length_eq_zero hlen.symm)
    have hsoon' := hsoon _ (List.head?_eq_some_head htimes) _
      (List.getLast?_eq_some_getLast htimes)
    have hfirst : ∀ now ∈ times, times.head htimes ≤ now := fun now hnow =>
      hordered.rel_head hnow
    refine ((hrequested _ hfirst).once fun now hnow => ?_).1
    exact Nat.lt_of_le_of_lt (hordered.rel_getLast hnow) hsoon'

/-- The first of three fragments is lost, and the rover looks for gaps after every one.
    It asks for it after the second, and not again after the last. -/
theorem lost_requested_once_first :
    let m : Mission := ⟨1, .zero, .zero, .zero, .zero, "scan", 60, 2, 0, 1⟩
    let a : Agent := .start 7 { ackBatch := 1 } (.start {} .zero .zero .hundred none)
    let hello : Message := { kind := .hello, sender := 0, receiver := 7, mission := 1, seq := 1 }
    ∃ s, Supervisor.prepare { fragmentSize := 96 } 7 m = .ok s ∧
      s.transfer.map Message.seq = [2, 3, 4] ∧
      let delivered := s.transfer.filter (fun x => x.seq ∉ ({2} : Finset Int))
      let lists := requests
        ((a.receive hello 0).state.run (List.zipWith .hear delivered [1, 4])).messages
      lists.Pairwise List.Disjoint ∧ ∃ l ∈ lists, 2 ∈ l := by
  intro m a hello
  have hprepared : ∃ s, Supervisor.prepare { fragmentSize := 96 } a.id m = .ok s ∧
      s.transfer.map Message.seq = [2, 3, 4] :=
    Supervisor.exists_prepare_of_check (by decide +kernel)
  have hopens : (a.receive hello 0).state.session = some (a.openSession hello 0) := by
    decide +kernel
  have htiming : (a.receive hello 0).state.timing.timeout = 5000 := by decide +kernel
  have hm : m.Fits := by decide
  have hnew : ∀ s, a.session = some s → s.mission ≠ m.id := fun _ => nofun
  have hkind : hello.kind = .hello := rfl
  have habout : (a.openSession hello 0).mission = m.id := rfl
  change ∃ s, Supervisor.prepare { fragmentSize := 96 } a.id m = .ok s ∧ _
  -- From here on only what has been shown of the values is used.
  clear_value a m hello
  rcases hprepared with ⟨s, hs, hseqs⟩
  have hlength : s.transfer.length = 3 := by
    have hlen := congrArg List.length hseqs
    rwa [List.length_map] at hlen
  have hfragmented := Supervisor.fragmented hm hs (by omega)
  have hdelivered : (s.transfer.filter (fun x => x.seq ∉ ({2} : Finset Int))).map Message.seq =
      [3, 4] := by
    have hfilter := congrArg (fun l => l.filter (fun n => n ∉ ({2} : Finset Int))) hseqs
    simp only [List.filter_map] at hfilter
    exact hfilter
  have htimes :
      [1, 4].length = (s.transfer.filter (fun x => x.seq ∉ ({2} : Finset Int))).length := by
    have hlen := congrArg List.length hdelivered
    rw [List.length_map] at hlen
    exact hlen.symm
  refine ⟨s, hs, hseqs, ?_⟩
  have honce := lost_requested_once hfragmented hkind hnew hopens habout
    (Finset.singleton_nonempty 2) (fun seq hseq => ?_) (fun x hx => ?_) htimes
  · refine ⟨honce.2.2 (by decide) ?_, (honce.2.1 2).2 (Finset.mem_singleton_self 2)⟩
    rintro first ⟨⟩ last ⟨⟩
    rw [htiming]
    decide
  · rw [hseqs, Finset.mem_singleton.1 hseq]
    exact List.mem_cons_self ..
  · rw [hfragmented.seq_of_getLast? hx, hlength]
    decide

end Agent

end RoverDispatch
