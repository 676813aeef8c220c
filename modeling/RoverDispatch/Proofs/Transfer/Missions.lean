import Mathlib
import RoverDispatch.Proofs.Transfer.Reassembly
import RoverDispatch.Proofs.Wire.Messages
import RoverDispatch.Transfer.Messages

/-!
# Missions in Transfer

The messages of a transfer bring the mission they were made from.

A transfer is a single message with the mission in it, or one message for each
of the fragments that the mission was cut into, numbered in their order. These
are the two cases of `Mission.Sends`. In both of them a receiver can tell from
a message alone what it brings, so `Mission.Brings` says this of one message,
without mentioning the others.

Once every fragment has been delivered, each field of the mission is whole and
its data is what it was. The table of the rebuilt fields then holds all of
them, which is all that reading a mission asks for.

## Main definitions

* `Mission.Sends`: What a transfer consists of.
* `Mission.Brings`: A message brings a mission or one of its fragments.

## Theorems

* `Assembly.rebuildTable_of_forall`: Fields that can all be rebuilt make a
  table that holds them.
* `Assembly.rebuildMission_deliver`: All fragments together make the mission.
* `Mission.exists_sends`: The transfers of a mission.
* `Mission.Sends.fits`: Their messages can be sent.
* `Mission.brings_of_mem_transfer`: What the messages of a transfer bring.
-/

namespace RoverDispatch

namespace Assembly

/-- Fields that can all be rebuilt make a table that holds them. -/
theorem rebuildTable_of_forall {a : Assembly} {fields : List Field}
    (hd : (fields.map Field.name).Nodup)
    (h : ∀ f ∈ fields, a.rebuildField f.name = .ok f.data) :
    ∃ t, a.rebuildTable (fields.map Field.name) = .ok t ∧ ∀ f ∈ fields, t.Holds f := by
  rw [rebuildTable, List.foldlM_map]
  refine FieldTable.holds_of_foldlM (fun f hf t => ?_) hd
  rw [h f hf]
  rfl

/-- All fragments together make the mission they were cut from. -/
theorem rebuildMission_deliver {m : Mission} {frags : List (List Field)} (hm : m.Fits)
    (hcut : CutInto m.toFields frags.flatten) {order : List (Fin frags.length)}
    (hall : ∀ i, i ∈ order) : (deliver frags order).rebuildMission = .ok m := by
  have hfields : ∀ f ∈ m.toFields, (deliver frags order).rebuildField f.name = .ok f.data := by
    intro f hf
    refine rebuildField_deliver hcut m.names_nodup hf order ?_
    exact (isFieldComplete_deliver_iff hcut m.names_nodup hf order).2 (fun i _ => hall i)
  rcases rebuildTable_of_forall m.names_nodup hfields with ⟨t, ht, hholds⟩
  rw [Mission.map_name_toFields] at ht
  simp only [rebuildMission, ht, bind, Except.bind, Mission.read_of_holds hm hholds]
  rfl

end Assembly

namespace Mission

/-- The message with a fragment of a mission. -/
def fragmentMessage (m : Mission) (rover : Int) (frags : List (List Field))
    (i : Fin frags.length) : Message :=
  m.transferMessage rover frags.length i (.fragment (encodeFields (frags.get i)))

/-- The messages of different fragments have different numbers. -/
theorem fragmentMessage_inj {m : Mission} {rover : Int} {frags : List (List Field)}
    {i j : Fin frags.length} :
    m.fragmentMessage rover frags i = m.fragmentMessage rover frags j ↔ i = j := by
  constructor
  · intro h
    have hseq : firstTransferSeq + ((i : Nat) : Int) = firstTransferSeq + ((j : Nat) : Int) :=
      congrArg Message.seq h
    exact Fin.ext (Int.ofNat_inj.1 (Int.add_left_cancel hseq))
  · exact fun h => h ▸ rfl

/-- What a transfer consists of: one message with the mission, or one for every
    fragment that the mission was cut into. -/
inductive Sends (m : Mission) (rover : Int) : List (List Field) → List Message → Prop where
  | whole : Sends m rover [] [m.transferMessage rover 1 0 (.mission m)]
  | cut {frags : List (List Field)} {transfer : List Message} (ne : frags ≠ [])
      (cut : CutInto m.toFields frags.flatten)
      (mem : ∀ x, x ∈ transfer ↔ ∃ i, x = m.fragmentMessage rover frags i) :
      Sends m rover frags transfer

section Sends

variable {m : Mission} {rover : Int} {frags : List (List Field)} {transfer : List Message}

/-- A mission is sent whole or cut, and not into more fragments than its fields can
    have parts. -/
theorem exists_sends {limit : Nat} (h : m.transferMessages rover limit = .ok transfer) :
    ∃ frags, m.Sends rover frags transfer ∧ frags.length ≤ m.toFields.length * maxParts := by
  rw [transferMessages] at h
  split at h
  · cases hfrags : fragments limit m.toFields with
    | error e =>
        rw [hfrags] at h
        cases h
    | ok frags =>
        rw [hfrags] at h
        cases h
        have hcut := cutInto_of_fragments (fun f => isWhole_of_mem_toFields) hfrags
        refine ⟨frags, .cut ?_ hcut (fun x => ?_),
          length_fragments_le (fun f => isWhole_of_mem_toFields) hfrags⟩
        · -- A mission has fields, and each of them is in some fragment.
          rintro rfl
          exact hcut.ne_nil (List.cons_ne_nil _ _) rfl
        · rw [List.mem_mapIdx]
          constructor
          · rintro ⟨i, hi, rfl⟩
            exact ⟨⟨i, hi⟩, rfl⟩
          · rintro ⟨i, rfl⟩
            exact ⟨i, i.isLt, rfl⟩
  · cases h
    exact ⟨[], .whole, Nat.zero_le _⟩

theorem sends_of_transferMessages {limit : Nat}
    (h : m.transferMessages rover limit = .ok transfer) :
    ∃ frags, m.Sends rover frags transfer :=
  (exists_sends h).imp (fun _ hsends => hsends.1)

/-- The message with a fragment is one of the transfer. -/
theorem Sends.fragmentMessage_mem (h : m.Sends rover frags transfer) (i : Fin frags.length) :
    m.fragmentMessage rover frags i ∈ transfer := by
  cases h with
  | whole => exact i.elim0
  | cut ne cut mem => exact (mem _).2 ⟨i, rfl⟩

theorem Sends.ne_nil (h : m.Sends rover frags transfer) : transfer ≠ [] := by
  cases h with
  | whole => exact List.cons_ne_nil _ _
  | cut ne cut mem =>
      exact List.ne_nil_of_mem ((mem _).2 ⟨⟨0, List.length_pos_iff.2 ne⟩, rfl⟩)

/-- Different fragments are sent in different messages. -/
theorem Sends.length_le (h : m.Sends rover frags transfer) : frags.length ≤ transfer.length := by
  have hsub : (List.finRange frags.length).map (m.fragmentMessage rover frags) ⊆ transfer := by
    intro x hx
    rcases List.mem_map.1 hx with ⟨i, -, rfl⟩
    exact h.fragmentMessage_mem i
  have hnodup : ((List.finRange frags.length).map (m.fragmentMessage rover frags)).Nodup :=
    (List.nodup_finRange _).map (fun _ _ => fragmentMessage_inj.1)
  have hlen := (List.subperm_of_subset hnodup hsub).length_le
  rw [List.length_map, List.length_finRange] at hlen
  exact hlen

/-- A message of a transfer is about the mission, and for the rover. -/
theorem Sends.about (h : m.Sends rover frags transfer) {x : Message} (hx : x ∈ transfer) :
    x.kind = .mission ∧ x.receiver = rover ∧ x.mission = m.id := by
  cases h with
  | whole =>
      cases List.mem_singleton.1 hx
      exact ⟨rfl, rfl, rfl⟩
  | cut ne cut mem =>
      rcases (mem x).1 hx with ⟨i, rfl⟩
      exact ⟨rfl, rfl, rfl⟩

/-- The words of the format can hold a message of a transfer, and its kind admits what
    it brings. -/
theorem Sends.fits (h : m.Sends rover frags transfer) (hm : m.Fits)
    (hrover : Word.InRange 4 rover) (hshort : frags.length ≤ m.toFields.length * maxParts)
    {x : Message} (hx : x ∈ transfer) : x.Fits ∧ x.kind.accepts x.payload.tag = true := by
  have hsender : Word.InRange 4 coordinatorId := by decide
  have hsentAt : Word.InRange 8 0 := by decide
  have hfits : ∀ (total : Int) (i : Nat) (p : Payload), Word.InRange 4 total →
      Word.InRange 4 (firstTransferSeq + i) → p.Fits →
      (m.transferMessage rover total i p).Fits :=
    fun total i p htotal hseq hp => ⟨hsender, hrover, hm.1, hseq, htotal, hsentAt, hp⟩
  cases h with
  | whole =>
      cases List.mem_singleton.1 hx
      exact ⟨hfits 1 0 _ (by decide) (by decide) hm, rfl⟩
  | cut ne cut mem =>
      rcases (mem x).1 hx with ⟨i, rfl⟩
      -- Ten fields have far fewer parts than there are numbers.
      have hi := i.isLt
      have hfields : m.toFields.length = 10 := rfl
      simp only [hfields, maxParts] at hshort
      refine ⟨hfits _ i _ ?_ ?_ trivial, rfl⟩
      · simp only [Word.InRange, Word.size_four]
        omega
      · simp only [Word.InRange, Word.size_four, firstTransferSeq]
        omega

end Sends

/-- A message brings a mission, or the fragment of it that its number says. -/
def Brings (m : Mission) (frags : List (List Field)) (x : Message) : Prop :=
  x.payload = .mission m ∨
    ∃ i : Fin frags.length, x.seq = firstTransferSeq + (i : Nat) ∧ x.total = frags.length ∧
      x.payload = .fragment (encodeFields (frags.get i))

section Brings

variable {m : Mission} {rover : Int} {frags : List (List Field)} {transfer : List Message}

theorem Sends.cutInto (h : m.Sends rover frags transfer) (hne : frags ≠ []) :
    CutInto m.toFields frags.flatten := by
  cases h with
  | whole => exact absurd rfl hne
  | cut ne cut mem => exact cut

/-- A message of a transfer brings the mission or one of its fragments. -/
theorem Sends.brings (h : m.Sends rover frags transfer) {x : Message} (hx : x ∈ transfer) :
    m.Brings frags x := by
  cases h with
  | whole =>
      cases List.mem_singleton.1 hx
      exact .inl rfl
  | cut ne cut mem =>
      rcases (mem x).1 hx with ⟨i, rfl⟩
      exact .inr ⟨i, rfl, rfl, rfl⟩

/-- The messages of a transfer are about the mission, and each brings it or one
    of its fragments. -/
theorem brings_of_mem_transfer {limit : Nat} (h : m.transferMessages rover limit = .ok transfer) :
    ∃ frags, (frags ≠ [] → CutInto m.toFields frags.flatten) ∧
      ∀ x ∈ transfer, x.kind = .mission ∧ x.receiver = rover ∧ x.mission = m.id ∧
        m.Brings frags x := by
  rcases sends_of_transferMessages h with ⟨frags, hsends⟩
  refine ⟨frags, hsends.cutInto, fun x hx => ?_⟩
  rcases hsends.about hx with ⟨hkind, hreceiver, habout⟩
  exact ⟨hkind, hreceiver, habout, hsends.brings hx⟩

end Brings

/-- The bytes of a fragment of a mission are read back. -/
theorem decodeFields_fragment {m : Mission} {frags : List (List Field)} (hm : m.Fits)
    (hcut : CutInto m.toFields frags.flatten) (i : Fin frags.length) :
    decodeFields (encodeFields (frags.get i)) = .ok (frags.get i) := by
  refine decodeFields_encodeFields (fun f hf => ?_)
  exact hcut.fits (fun g hg => fits_of_mem_toFields hm hg)
    (List.mem_flatten_of_mem (List.getElem_mem i.isLt) hf)

end Mission

end RoverDispatch
