import RoverDispatch.Transfer.Error

/-!
# Splitting

Cutting a payload into fragments of bounded size.

A fragment is a run of fields whose encoding stays within a limit. Only a
field that does not fit on its own is cut, into parts that repeat its name and
share its data out evenly except for the last. The fields and parts, in their
order, are then packed greedily: a fragment is closed as soon as the next item
would not fit. Nothing is ever moved past anything else, so the order of the
items is the order of the fields.

## Main definitions

* `chunks`: A list in pieces of a given length.
* `Field.split`: A field in parts that each fit the limit.
* `pack`: A run of items as fragments.
* `fragments`: The fragments of a run of fields.
-/

namespace RoverDispatch

/-- A list in consecutive pieces of `n`, the last one possibly shorter. -/
def chunks {α : Type} (n : Nat) (l : List α) : List (List α) :=
  if _h : n = 0 ∨ l = [] then []
  else l.take n :: chunks n (l.drop n)
termination_by l.length
decreasing_by
  have hl : 0 < l.length := List.length_pos_iff.2 (fun e => _h (Or.inr e))
  rw [List.length_drop]
  omega

/-- The most parts that a field can be cut into. -/
def maxParts : Nat := 65535

/-- The parts of a field whose data is shared out in pieces. -/
def Field.parts (f : Field) (pieces : List Bytes) : List Field :=
  let total := pieces.length
  pieces.mapIdx (fun i piece => ⟨f.name, piece, i, total⟩)

/-- A field in parts that each fit the limit; the field itself if it fits. -/
def Field.split (limit : Nat) (f : Field) : Except TransferError (List Field) :=
  if f.encodedLength ≤ limit then .ok [f]
  else
    let room := limit - f.overhead
    if room = 0 then .error (.fragmentTooSmall f.name limit f.overhead)
    else
      let pieces := chunks room f.data
      if maxParts < pieces.length then .error (.tooManyParts f.name pieces.length)
      else .ok (f.parts pieces)

/-- The fragments of a run of items, `current` being the one still open. -/
def packOnto (limit : Nat) (current : List Field) : List Field → List (List Field)
  | [] => if current = [] then [] else [current]
  | item :: rest =>
    -- An item that fits nowhere still gets a fragment of its own.
    if current ≠ [] ∧ limit < fieldsLength current + item.encodedLength then
      current :: packOnto limit [item] rest
    else packOnto limit (current ++ [item]) rest

/-- A run of items as fragments, each closed when the next item would not
    fit. -/
def pack (limit : Nat) (items : List Field) : List (List Field) := packOnto limit [] items

/-- The run of items that a run of fields becomes. -/
def splitFields (limit : Nat) (fields : List Field) : Except TransferError (List Field) := do
  let parts ← fields.mapM (Field.split limit)
  return parts.flatten

/-- The fragments of a run of fields. -/
def fragments (limit : Nat) (fields : List Field) : Except TransferError (List (List Field)) := do
  let items ← splitFields limit fields
  return pack limit items

/-- Whether a run of fields exceeds the limit as a whole. -/
def needsFragments (limit : Nat) (fields : List Field) : Bool := limit < fieldsLength fields

end RoverDispatch
