import RecordMapping.Proofs.PropertyOrder
import Mathlib.Data.List.Induction

/-!
# RecordMapping.Proofs.RecordCells — the properties of a record are cells of their own

A caller keeps a record and sets properties of it, again and again.  A set is accepted if the value
coerces to the kind of the property, whatever the record holds, so the record is what the accepted
sets make of it (`Property.putAll_eq`).  Each name then has the value of the last accepted set on it
(`Record.get?_setAll`), and the fields stand in the order of the first ones (`Record.names_setAll`).
-/

namespace RecordMapping

/-! ### Records after many assignments -/

namespace Record

theorem names_set (r : Record) (name : String) (v : Value) :
    (r.set name v).fields.map Prod.fst =
      if name ∈ r.fields.map Prod.fst then r.fields.map Prod.fst
      else r.fields.map Prod.fst ++ [name] := by
  obtain ⟨fields⟩ := r
  split
  · next hmem =>
    unfold set
    dsimp only at hmem ⊢
    induction fields with
    | nil => simp at hmem
    | cons f rest ih =>
      by_cases hname : f.1 = name
      · simp [setIn, hname]
      · have hrest : name ∈ rest.map Prod.fst := by simpa [Ne.symm hname] using hmem
        simp [setIn, hname, ih hrest]
  · next hmem => rw [set_of_not_mem hmem, List.map_append, List.map_singleton]

/-- The record after assignments, made one after the other. -/
def setAll (r : Record) (assigned : List (String × Value)) : Record :=
  assigned.foldl (fun r a => r.set a.1 a.2) r

theorem setAll_concat (r : Record) (assigned : List (String × Value)) (a : String × Value) :
    r.setAll (assigned ++ [a]) = (r.setAll assigned).set a.1 a.2 := by
  simp [setAll]

/-- The value of the last assignment to a name. -/
def last? (name : String) (assigned : List (String × Value)) : Option Value :=
  ((assigned.filter fun a => decide (a.1 = name)).getLast?).map Prod.snd

theorem get?_setAll (name : String) (assigned : List (String × Value)) :
    (empty.setAll assigned).get? name = last? name assigned := by
  induction assigned using List.reverseRecOn with
  | nil => rfl
  | append_singleton before a ih =>
    rw [setAll_concat, last?, List.filter_append]
    by_cases hname : a.1 = name
    · subst hname
      simp [get?_set_self]
    · rw [get?_set_of_ne _ (Ne.symm hname), ih]
      simp [last?, hname]

theorem names_setAll (assigned : List (String × Value)) :
    (empty.setAll assigned).fields.map Prod.fst = (assigned.map Prod.fst).eraseDups := by
  induction assigned using List.reverseRecOn with
  | nil => rfl
  | append_singleton before a ih =>
    rw [setAll_concat, names_set, ih, List.map_append, List.map_singleton, eraseDups_concat]
    simp only [List.mem_eraseDups]

end Record

/-! ### Sets on a target that the caller keeps -/

namespace Property

variable {σ : Type}

/-- What the caller of the sets is told, and the target as they leave it. -/
def putAll : List (Property σ × Value) → σ → List (Except ConversionError Unit) × σ
  | [], t => ([], t)
  | s :: rest, t =>
    let first := s.1.put t s.2
    let others := putAll rest first.2
    (first.1 :: others.1, others.2)

/-- What a set is told if it fails just when its value does not coerce. -/
def verdict (s : Property σ × Value) : Except ConversionError Unit :=
  (coerce s.1.kind s.2).map fun _ => ()

/-- The assignment that such a set makes unless it fails. -/
def assignment? (s : Property σ × Value) : Option (String × Value) :=
  (coerce s.1.kind s.2).toOption.map (s.1.name, ·)

/-- The property keeps its value, coerced to its kind, in the field of its name. -/
structure IsCell (p : Property Record) : Prop where
  get : ∀ r : Record, p.get r = (r.get? p.name).getD .null
  put : p.put = storing (coerce p.kind) fun r v => r.set p.name v

variable {p q : Property Record} {v : Value} {r : Record}

theorem IsCell.put_eq (h : p.IsCell) (v : Value) (r : Record) :
    p.put r v = (verdict (p, v), r.setAll (assignment? (p, v)).toList) := by
  rw [h.put, storing, verdict, assignment?]
  cases coerce p.kind v <;> rfl

theorem IsCell.put_of_error (h : p.IsCell) {e : ConversionError} (he : (p.put r v).1 = .error e) :
    (p.put r v).2 = r := by
  rw [h.put, storing] at he ⊢
  cases hv : coerce p.kind v with
  | error e' => rfl
  | ok w => simp [hv] at he

theorem IsCell.get_put_of_ne (hp : p.IsCell) (hq : q.IsCell) (hname : q.name ≠ p.name) (v : Value)
    (r : Record) : q.get (p.put r v).2 = q.get r := by
  rw [hp.put, storing]
  cases coerce p.kind v with
  | error e => rfl
  | ok w =>
    show q.get (r.set p.name w) = q.get r
    rw [hq.get, hq.get, Record.get?_set_of_ne r hname]

/-- What the sets are told does not depend on the record, and they leave the record of the accepted
ones. -/
theorem putAll_eq {sets : List (Property Record × Value)} (h : ∀ s ∈ sets, s.1.IsCell)
    (r : Record) :
    putAll sets r = (sets.map verdict, r.setAll (sets.filterMap assignment?)) := by
  induction sets generalizing r with
  | nil => rfl
  | cons s rest ih =>
    obtain ⟨hs, hrest⟩ := List.forall_mem_cons.mp h
    rw [putAll, hs.put_eq]
    dsimp only
    rw [ih hrest, List.map_cons, List.filterMap_cons]
    cases assignment? s <;> rfl

end Property

/-! ### Properties of a schema -/

open Property (putAll verdict assignment?)

theorem SchemaProperty.isCell (p : SchemaProperty) : p.toProperty.IsCell :=
  ⟨fun _ => rfl, rfl⟩

theorem Schema.isCell_of_describe {schema : Schema} {d : Descriptor Record}
    (hd : schema.describe = .ok d) {p : Property Record} (hp : p ∈ d.properties) : p.IsCell := by
  obtain ⟨_, rfl⟩ := describe_ok hd
  obtain ⟨q, -, rfl⟩ := List.mem_map.mp hp
  exact q.isCell

/-- Where each name is assigned for some property, and names are distinct, there is one property for
each name that was assigned. -/
theorem length_eraseDups_names {properties : List (Property Record)}
    (hnodup : (properties.map Property.name).Nodup) {names : List String}
    (h : ∀ name ∈ names, name ∈ properties.map Property.name) :
    names.eraseDups.length = (properties.filter fun p => decide (p.name ∈ names)).length := by
  have hnames : ((properties.filter fun p => decide (p.name ∈ names)).map Property.name).Nodup :=
    hnodup.sublist (List.filter_sublist.map _)
  have hperm : names.eraseDups.Perm
      ((properties.filter fun p => decide (p.name ∈ names)).map Property.name) := by
    refine (List.perm_ext_iff_of_nodup (nodup_eraseDups names) hnames).mpr fun name => ?_
    simp only [List.mem_eraseDups, List.mem_map, List.mem_filter, decide_eq_true_eq]
    constructor
    · intro hname
      obtain ⟨p, hp, rfl⟩ := List.mem_map.mp (h name hname)
      exact ⟨p, ⟨hp, hname⟩, rfl⟩
    · rintro ⟨p, ⟨-, hname⟩, rfl⟩
      exact hname
  rw [hperm.length_eq, List.length_map]

/-- After any sets on an empty record, each property has the coerced value of the last accepted set
on it, or null, and the fields are the properties with an accepted set, each once, in the order of
their first one.  On any record a set that fails changes nothing, and none changes what another
property gets. -/
theorem properties_are_cells {schema : Schema} {d : Descriptor Record}
    (hd : schema.describe = .ok d) {sets : List (Property Record × Value)}
    (hsets : ∀ s ∈ sets, s.1 ∈ d.properties) :
    let run := putAll sets Target.initial
    let accepted := sets.filterMap assignment?
    (run.1 = sets.map verdict ∧
      ∀ p ∈ d.properties, p.get run.2 = (Record.last? p.name accepted).getD .null) ∧
    (run.2.fields.map Prod.fst = (accepted.map Prod.fst).eraseDups ∧
      (run.2.fields.map Prod.fst).Nodup ∧
      run.2.size = (d.properties.filter fun p => p.name ∈ accepted.map Prod.fst).length) ∧
    ∀ p ∈ d.properties, ∀ (v : Value) (r : Record),
      (∀ e, (p.put r v).1 = .error e → (p.put r v).2 = r) ∧
        ∀ q ∈ d.properties, q ≠ p → q.get (p.put r v).2 = q.get r := by
  intro run accepted
  have hcell {p : Property Record} (hp : p ∈ d.properties) := Schema.isCell_of_describe hd hp
  have hrun : run = (sets.map verdict, Record.empty.setAll accepted) :=
    Property.putAll_eq (fun s hs => hcell (hsets s hs)) Record.empty
  have hnames : run.2.fields.map Prod.fst = (accepted.map Prod.fst).eraseDups := by
    rw [hrun, Record.names_setAll]
  refine ⟨⟨by rw [hrun], fun p hp => ?_⟩, ⟨hnames, ?_, ?_⟩, fun p hp v r => ⟨?_, ?_⟩⟩
  · rw [(hcell hp).get, hrun, Record.get?_setAll]
  · rw [hnames]
    exact nodup_eraseDups _
  · have hassigned : ∀ name ∈ accepted.map Prod.fst, name ∈ d.properties.map Property.name := by
      intro name hname
      obtain ⟨a, ha, rfl⟩ := List.mem_map.mp hname
      obtain ⟨s, hs, hsome⟩ := List.mem_filterMap.mp ha
      obtain ⟨w, -, rfl⟩ := Option.map_eq_some_iff.mp hsome
      exact List.mem_map_of_mem (hsets s hs)
    rw [Record.size, ← List.length_map (f := Prod.fst), hnames,
      length_eraseDups_names d.nodup hassigned]
  · intro e he
    exact (hcell hp).put_of_error he
  · intro q hq hne
    have hname : q.name ≠ p.name := fun heq => hne (List.inj_on_of_nodup_map d.nodup hq hp heq)
    exact (hcell hp).get_put_of_ne (hcell hq) hname v r

/-- An order whose customer is set before its number, with sets that fail in between. -/
theorem properties_are_cells_order :
    let id : SchemaProperty := ⟨"Id", .int, none, false⟩
    let customer : SchemaProperty := ⟨"Customer", .text, some "customer_name", false⟩
    let total : SchemaProperty := ⟨"Total", .float, none, true⟩
    let schema : Schema := ⟨"Order", [id, customer, total]⟩
    let sets : List (Property Record × Value) := [(id.toProperty, .text "x"),
      (customer.toProperty, .text "Ada"), (id.toProperty, .text " 42 "),
      (total.toProperty, .bool true), (customer.toProperty, .int 5), (id.toProperty, .bytes [])]
    let run := putAll sets Target.initial
    ∃ d, schema.describe = .ok d ∧ (∀ s ∈ sets, s.1 ∈ d.properties) ∧
      run.2.fields.map Prod.fst = ["Customer", "Id"] ∧ run.2.size = 2 ∧
      id.toProperty.get run.2 = .int 42 ∧ customer.toProperty.get run.2 = .text "5" ∧
      total.toProperty.get run.2 = .null := by
  intro id customer total schema sets run
  let d : Descriptor Record :=
    ⟨"Order", [id.toProperty, customer.toProperty, total.toProperty], by decide⟩
  have hd : schema.describe = .ok d := @Schema.describe_eq_ok schema (by decide) (by decide)
  have hsets : ∀ s ∈ sets, s.1 ∈ d.properties := by simp [sets, d]
  have haccepted : sets.filterMap assignment? =
      [("Customer", .text "Ada"), ("Id", .int 42), ("Customer", .text "5")] := by decide +kernel
  obtain ⟨⟨-, hget⟩, ⟨hnames, -, hsize⟩, -⟩ := properties_are_cells hd hsets
  rw [haccepted] at hget hnames hsize
  refine ⟨d, hd, hsets, hnames, hsize, ?_, ?_, ?_⟩
  · exact hget id.toProperty (by simp [d])
  · exact hget customer.toProperty (by simp [d])
  · exact hget total.toProperty (by simp [d])

end RecordMapping
