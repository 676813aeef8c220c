import Mathlib
import RoverDispatch.Proofs.Wire.Payloads

/-!
# Reading by Name

What a schema reads from a list of fields depends on the last field of each of
its names, and on nothing else.

A list of fields is read through a table, which answers for a name with the
data of the last field of that name, `lastData?`. The reader of a schema asks
the table for the names of the schema, one by one, and stops at the first that
is missing or malformed. Whatever it answers, value or error, is therefore the
same for lists that agree on the last data of these names.

Three changes to a list leave that alone: fields of different names may change
places, fields of other names may be put in anywhere, and a field that is
overwritten later may be taken out. `Schema.Edit` has a constructor for each of
them, and any number of them in any order makes no difference.

All of this is about whole fields. A part of a field does not get into a table,
and the first one in the list is what the answer complains about, before any
name is asked for.

## Main definitions

* `Asks`: A reader that asks a table for names, one after another.
* `Schema.readFields`: The payload in a list of fields.
* `Schema.Edit`: A change that a schema does not see.

## Theorems

* `Asks.congr`, `Asks.isSome_find?`: A reader sees what it asks for, and asks
  for all of it before it answers with a value.
* `Schema.read_congr`: A schema asks for its own names only.
* `Schema.isSome_find?_of_read`: A schema asks for all of its names.
* `Schema.readFields_congr`: The last data of the names decides.
* `Schema.readFields_of_split`: A part of a field is refused first.
* `Schema.Edit.readFields_eq`, `Schema.readFields_of_edits`: One change makes no
  difference, nor do any number of them.
* `Schema.reads_by_name`: The whole account of what a schema sees.
-/

namespace RoverDispatch

/-! ### Readers -/

/-- A reader that asks a table for names, one after another, and answers with
    what the data under them says. -/
inductive Asks {α : Type} : List String → (FieldTable → Except WireError α) → Prop where
  /-- All names have been asked for. -/
  | done (value : α) : Asks [] (fun _ => .ok value)
  /-- The data so far is refused, and the other names are not asked for. -/
  | refused (names : List String) (e : WireError) : Asks names (fun _ => .error e)
  /-- What is asked for next depends on the value under the first name. -/
  | ask {β : Type} (name : String) {names : List String} {reader : Bytes → Except Defect β}
      {next : β → FieldTable → Except WireError α} (h : ∀ value, Asks names (next value)) :
      Asks (name :: names) (fun t => t.read name reader >>= fun value => next value t)

namespace Asks

variable {α : Type} {names : List String} {read : FieldTable → Except WireError α}
  {t u : FieldTable}

/-- Tables that agree on the names are read alike, value or error. -/
theorem congr (h : Asks names read) (hagree : ∀ name ∈ names, t.find? name = u.find? name) :
    read t = read u := by
  induction h with
  | done value => rfl
  | refused names e => rfl
  | ask name hnext ih =>
      rcases List.forall_mem_cons.1 hagree with ⟨hname, hnames⟩
      have hread : ∀ {β : Type} (reader : Bytes → Except Defect β),
          t.read name reader = u.read name reader := by
        intro β reader
        rw [FieldTable.read, FieldTable.read, FieldTable.raw, FieldTable.raw, hname]
      simp only [hread]
      exact congrArg _ (funext fun value => ih value hnames)

/-- What is read from a table binds all of the names. -/
theorem isSome_find? (h : Asks names read) {value : α} (hread : read t = .ok value) :
    ∀ name ∈ names, (t.find? name).isSome := by
  induction h with
  | done value => exact List.forall_mem_nil _
  | refused names e => cases hread
  | ask name hnext ih =>
      rcases exists_of_bind_eq_ok hread with ⟨first, hfirst, hrest⟩
      rcases FieldTable.of_read hfirst with ⟨data, hfind, -⟩
      exact List.forall_mem_cons.2 ⟨by rw [hfind]; rfl, ih first hrest⟩

end Asks

theorem Mission.asks : Asks Schema.mission.fieldNames Mission.read :=
  .ask _ fun _ => .ask _ fun _ => .ask _ fun _ => .ask _ fun _ => .ask _ fun _ => .ask _ fun _ =>
    .ask _ fun _ => .ask _ fun _ => .ask _ fun _ => .ask _ fun _ => .done _

theorem Progress.asks : Asks Schema.progress.fieldNames Progress.read :=
  .ask _ fun _ => .ask _ fun _ => .ask _ fun _ => .done _

theorem Ack.asks : Asks Schema.ack.fieldNames Ack.read := by
  refine .ask _ fun count => .ask _ fun missing => ?_
  -- A count that is not the length of the list is refused before the last name.
  by_cases hcount : count ≠ missing.length
  · simp only [if_pos hcount]
    exact .refused _ _
  · simp only [if_neg hcount]
    exact .ask _ fun _ => .done _

theorem ErrorReport.asks : Asks Schema.error.fieldNames ErrorReport.read :=
  .ask _ fun _ => .ask _ fun _ => .ask _ fun _ => .ask _ fun _ => .ask _ fun _ => .ask _ fun _ =>
    .ask _ fun _ => .ask _ fun _ => .done _

/-! ### Schemas -/

namespace Schema

variable {s : Schema} {t u : FieldTable} {fields fields' : List Field}

/-- A schema asks for its own names only, so tables that agree on these are
    read alike, value or error. -/
theorem read_congr (h : ∀ name ∈ s.fieldNames, t.find? name = u.find? name) :
    s.read t = s.read u := by
  cases s with
  | mission => rw [read, read, Mission.asks.congr h]
  | progress => rw [read, read, Progress.asks.congr h]
  | ack => rw [read, read, Ack.asks.congr h]
  | error => rw [read, read, ErrorReport.asks.congr h]

/-- A schema asks for all of its names, so what is read from a table binds
    them. -/
theorem isSome_find?_of_read {p : Payload} (h : s.read t = .ok p) :
    ∀ name ∈ s.fieldNames, (t.find? name).isSome := by
  cases s with
  | mission =>
      rcases exists_of_map_eq_ok h with ⟨m, hm, -⟩
      exact Mission.asks.isSome_find? hm
  | progress =>
      rcases exists_of_map_eq_ok h with ⟨p, hp, -⟩
      exact Progress.asks.isSome_find? hp
  | ack =>
      rcases exists_of_map_eq_ok h with ⟨a, ha, -⟩
      exact Ack.asks.isSome_find? ha
  | error =>
      rcases exists_of_map_eq_ok h with ⟨e, he, -⟩
      exact ErrorReport.asks.isSome_find? he

/-- The payload of a schema in a list of fields. -/
def readFields (s : Schema) (fields : List Field) : Except WireError Payload :=
  FieldTable.ofFields fields >>= s.read

theorem decode_eq (s : Schema) (bs : Bytes) : s.decode bs = decodeFields bs >>= s.readFields := rfl

/-- Lists of whole fields that agree on the last data of the names of a schema
    are read alike, value or error. -/
theorem readFields_congr (hfields : ∀ f ∈ fields, f.isSplit = false)
    (hfields' : ∀ f ∈ fields', f.isSplit = false)
    (h : ∀ name ∈ s.fieldNames, lastData? fields' name = lastData? fields name) :
    s.readFields fields' = s.readFields fields := by
  rcases FieldTable.exists_ofFields hfields with ⟨t, ht⟩
  rcases FieldTable.exists_ofFields hfields' with ⟨u, hu⟩
  have hagree : ∀ name ∈ s.fieldNames, u.find? name = t.find? name := by
    intro name hname
    rw [FieldTable.find?_ofFields hu, FieldTable.find?_ofFields ht, h name hname]
  rw [readFields, readFields, ht, hu]
  exact read_congr hagree

/-- A part of a field is refused before any name is asked for. -/
theorem readFields_of_split {before : List Field} {f : Field}
    (hbefore : ∀ g ∈ before, g.isSplit = false) (hf : f.isSplit = true) (after : List Field) :
    s.readFields (before ++ f :: after) = .error (.incompleteField f.name 1 f.total) := by
  rw [readFields, FieldTable.ofFields_of_split hbefore hf after]
  rfl

/-! ### Changes that make no difference -/

/-- A change to a list of fields that a schema does not see. -/
inductive Edit (s : Schema) : List Field → List Field → Prop where
  /-- The fields of every name are the same and in the same order, so only
      fields of different names have changed places. -/
  | permute {fields fields' : List Field}
      (h : ∀ name, fields'.filter (fun f => f.name = name) =
        fields.filter (fun f => f.name = name)) : Edit s fields fields'
  /-- A whole field of another name is put in somewhere. -/
  | insert (before : List Field) {f : Field} (after : List Field) (hwhole : f.isSplit = false)
      (hname : f.name ∉ s.fieldNames) : Edit s (before ++ after) (before ++ f :: after)
  /-- A field that is followed by one of the same name is taken out. -/
  | drop (before : List Field) {f : Field} {after : List Field}
      (hlater : ∃ g ∈ after, g.name = f.name) : Edit s (before ++ f :: after) (before ++ after)

namespace Edit

/-- Fields of pairwise different names may be put into any order. -/
theorem of_perm (h : fields.Perm fields') (hnames : (fields.map Field.name).Nodup) :
    s.Edit fields fields' := by
  refine permute fun name => ?_
  have hperm := h.filter (fun f => decide (f.name = name))
  -- No name has more than one field, and a list of one or none has one order.
  have hone : (fields.filter (fun f => decide (f.name = name))).Pairwise (fun _ _ => False) := by
    rw [List.pairwise_filter]
    refine (List.pairwise_map.1 hnames).imp (fun {f g} hne hf hg => hne ?_)
    rw [of_decide_eq_true hf, of_decide_eq_true hg]
  cases hlist : fields.filter (fun f => decide (f.name = name)) with
  | nil =>
      rw [hlist] at hperm
      exact List.perm_nil.1 hperm.symm
  | cons f rest =>
      rw [hlist] at hperm hone
      cases rest with
      | nil => exact List.perm_singleton.1 hperm.symm
      | cons g rest => exact (List.rel_of_pairwise_cons hone (List.mem_cons_self ..)).elim

/-- Whole fields stay whole. -/
theorem whole (h : s.Edit fields fields') (hfields : ∀ f ∈ fields, f.isSplit = false) :
    ∀ f ∈ fields', f.isSplit = false := by
  cases h with
  | permute h =>
      intro f hf
      -- What a permutation keeps is the run of each name.
      have hmem : f ∈ fields'.filter (fun g => g.name = f.name) :=
        List.mem_filter.2 ⟨hf, decide_eq_true rfl⟩
      rw [h f.name] at hmem
      exact hfields f (List.mem_filter.1 hmem).1
  | insert before after hwhole hname =>
      simp only [List.forall_mem_append, List.forall_mem_cons] at hfields ⊢
      exact ⟨hfields.1, hwhole, hfields.2⟩
  | drop before hlater =>
      simp only [List.forall_mem_append, List.forall_mem_cons] at hfields ⊢
      exact ⟨hfields.1, hfields.2.2⟩

/-- The last data of the names of the schema stays as it is. -/
theorem lastData?_eq (h : s.Edit fields fields') :
    ∀ name ∈ s.fieldNames, lastData? fields' name = lastData? fields name := by
  intro name hmem
  cases h with
  | permute h => rw [lastData?, lastData?, h name]
  | @insert before f after hwhole hname =>
      have hne : f.name ≠ name := fun he => hname (he ▸ hmem)
      rw [lastData?_append, lastData?_cons, if_neg hne, Option.or_none, lastData?_append]
  | @drop before f after hlater =>
      rw [lastData?_append, lastData?_append, lastData?_cons]
      by_cases hname : f.name = name
      · -- The later field has the last word, whatever stands before it.
        rcases hlater with ⟨g, hg, hgf⟩
        have hsome : lastData? after name ≠ none := fun hnone =>
          lastData?_eq_none_iff.1 hnone g hg (hgf.trans hname)
        rcases Option.ne_none_iff_exists'.1 hsome with ⟨data, hdata⟩
        rw [hdata, Option.some_or, Option.some_or, Option.some_or]
      · rw [if_neg hname, Option.or_none]

/-- One change makes no difference. -/
theorem readFields_eq (h : s.Edit fields fields') (hfields : ∀ f ∈ fields, f.isSplit = false) :
    s.readFields fields' = s.readFields fields :=
  readFields_congr hfields (h.whole hfields) h.lastData?_eq

end Edit

/-- Nor do any number of changes, one after another. -/
theorem readFields_of_edits (h : Relation.ReflTransGen s.Edit fields fields')
    (hfields : ∀ f ∈ fields, f.isSplit = false) :
    (∀ f ∈ fields', f.isSplit = false) ∧ s.readFields fields' = s.readFields fields := by
  induction h with
  | refl => exact ⟨hfields, rfl⟩
  | tail hfirst hlast ih =>
      rcases ih with ⟨hwhole, hsame⟩
      exact ⟨hlast.whole hwhole, (hlast.readFields_eq hwhole).trans hsame⟩

/-- What a schema reads from a list of whole fields, value or error, stays the
    same when fields of different names change places, when fields of other
    names are put in, and when fields that are overwritten later are taken out,
    any number of times. When some field of the list is only a part, the first
    one is named as incomplete. -/
theorem reads_by_name (s : Schema) (fields : List Field) :
    ((∀ f ∈ fields, f.isSplit = false) →
      ∀ fields', Relation.ReflTransGen s.Edit fields fields' →
        s.readFields fields' = s.readFields fields) ∧
    (∀ f, fields.find? Field.isSplit = some f →
      s.readFields fields = .error (.incompleteField f.name 1 f.total)) := by
  refine ⟨fun hfields fields' hedits => (readFields_of_edits hedits hfields).2, fun f hfind => ?_⟩
  rcases List.find?_eq_some_iff_append.1 hfind with ⟨hf, before, after, rfl, hbefore⟩
  refine readFields_of_split (fun g hg => ?_) hf after
  simpa only [Bool.not_eq_true'] using hbefore g hg

/-- Progress whose mission is named twice, once wrongly. Without the first name,
    in the opposite order and with a note it reads the same. With two parts of
    fields behind it, the first of them is incomplete. -/
theorem reads_by_name_progress :
    let p : Progress := ⟨7, 30, .hundred⟩
    let wrong : Field := .int32 "idMissao" 1
    let note : Field := ⟨"nota", [0x21], 0, 1⟩
    let parts : List Field := [⟨"tarefa", [], 0, 2⟩, ⟨"x1", [], 1, 3⟩]
    (∀ f ∈ wrong :: p.toFields, f.isSplit = false) ∧
      Relation.ReflTransGen progress.Edit (wrong :: p.toFields) (note :: p.toFields.reverse) ∧
      progress.readFields (note :: p.toFields.reverse) = .ok (.progress p) ∧
      progress.readFields (p.toFields ++ parts) = .error (.incompleteField "tarefa" 1 2) := by
  intro p wrong note parts
  have hwhole : ∀ f ∈ wrong :: p.toFields, f.isSplit = false := by decide
  have hdrop : progress.Edit (wrong :: p.toFields) p.toFields :=
    .drop [] ⟨.int32 "idMissao" 7, List.mem_cons_self .., rfl⟩
  have hpermute : progress.Edit p.toFields p.toFields.reverse :=
    .of_perm (List.reverse_perm p.toFields).symm (by decide)
  have hinsert : progress.Edit p.toFields.reverse (note :: p.toFields.reverse) :=
    .insert [] p.toFields.reverse rfl (by decide)
  have hedits := ((Relation.ReflTransGen.single hdrop).tail hpermute).tail hinsert
  refine ⟨hwhole, hedits, ?_, ?_⟩
  · rw [(reads_by_name progress (wrong :: p.toFields)).1 hwhole _ hedits]
    decide +kernel
  · exact (reads_by_name progress (p.toFields ++ parts)).2 ⟨"tarefa", [], 0, 2⟩ (by decide)

end Schema

end RoverDispatch
