import RecordMapping.Command.Inspection
import RecordMapping.Command.Mapping
import RecordMapping.Proofs.TextFailures

/-!
# RecordMapping.Proofs.TableCommands — what inspecting and mapping a table say about each other

Both commands begin with the same session: the rules of the file, compiled, and a cursor before the
records of the table (`Session.Opened`).  Inspecting looks the columns up in the header; mapping looks
them up again for each row.  So what an inspection says of a property holds of every record that a
mapping makes (`Binding.Describes`).  A strict mapping finds a missing column only when it meets a
row, so it accepts any header of a table without rows.
-/

namespace RecordMapping.Command

/-! ### Sessions -/

/-- A command whose next step ends it with a failure succeeds if that step and the rest do. -/
theorem bind_eq_ok_iff {ε ε' α β : Type} {x : Logged (Except ε α)}
    {rest : Except ε α → Logged (Except ε' β)}
    (hfails : ∀ e, ∃ e', (rest (.error e)).value = .error e') {b : β} :
    (x >>= rest).value = .ok b ↔ ∃ a, x.value = .ok a ∧ (rest (.ok a)).value = .ok b := by
  rw [Logged.value_bind]
  constructor
  · intro h
    cases hx : x.value with
    | error e =>
      obtain ⟨e', he⟩ := hfails e
      rw [hx, he] at h
      cases h
    | ok a =>
      rw [hx] at h
      exact ⟨a, rfl, h⟩
  · rintro ⟨a, hx, hrest⟩
    rw [hx, hrest]

section Sessions

variable {files : Files} {i : Input} {strict : Bool}

theorem loadRules_eq_ok_iff {path : String} {f : RulesFile} :
    (loadRules files path).value = .ok f ↔ readRules files path = .ok f := by
  unfold loadRules
  cases readRules files path with
  | error e => exact iff_of_false nofun nofun
  | ok g =>
    show Except.ok g = Except.ok f ↔ Except.ok g = Except.ok f
    rw [Except.ok.injEq, Except.ok.injEq]

/-- An empty cache has the rules compiled. -/
theorem projectorOf_eq_ok_iff {rules : RuleSet Record} {command : String} {p : RecordProjector} :
    (projectorOf rules command).value = .ok p ↔
      (Projector.compile 0 .record rules (.ofRuleSet .record rules command)).value = .ok p := by
  have hempty : Cache.get? (Cache.empty : RecordCache) (.ofRuleSet .record rules command) = none :=
    rfl
  obtain ⟨q, hcompile, hanswer, -⟩ := Cache.fetch_of_none hempty
  have hcompile : (Projector.compile 0 .record rules
    (.ofRuleSet RecordTarget.record rules command)).value = .ok q := hcompile
  rw [projectorOf, Logged.value_bind, hanswer, hcompile]
  show Except.ok q = Except.ok p ↔ Except.ok q = Except.ok p
  rw [Except.ok.injEq, Except.ok.injEq]

theorem openTable_eq_ok_iff {c : CsvCursor} :
    (openTable files i).value = .ok c ↔
      ∃ o, csvOptions? i = some o ∧ readTable files o i.table = .ok c := by
  unfold openTable
  cases csvOptions? i with
  | none => simp
  | some o =>
    dsimp only
    cases hread : readTable files o i.table with
    | error e => simp [hread]
    | ok d => simp [hread]

/-- Where the parts of a session come from. -/
structure Session.Opened (files : Files) (i : Input) (strict : Bool) (f : RulesFile)
    (o : CsvOptions) (s : Session) : Prop where
  loaded : readRules files i.rules = .ok f
  rules : (f.ruleSet strict).value = .ok s.rules
  command : s.command = f.commandId
  projector : (Projector.compile 0 .record s.rules (.ofRuleSet .record s.rules s.command)).value =
    .ok s.projector
  options : csvOptions? i = some o
  cursor : readTable files o i.table = .ok s.cursor

theorem Session.start_eq_ok_iff {s : Session} :
    (start files i strict).value = .ok s ↔ ∃ f o, Opened files i strict f o s := by
  unfold start
  constructor
  · intro h
    obtain ⟨f, hfile, h⟩ := (bind_eq_ok_iff fun e => ⟨_, rfl⟩).mp h
    obtain ⟨rules, hrules, h⟩ := (bind_eq_ok_iff fun e => ⟨_, rfl⟩).mp h
    obtain ⟨projector, hprojector, h⟩ := (bind_eq_ok_iff fun e => ⟨_, rfl⟩).mp h
    obtain ⟨cursor, hcursor, h⟩ := (bind_eq_ok_iff fun e => ⟨_, rfl⟩).mp h
    obtain rfl := Except.ok.inj h
    obtain ⟨o, hoptions, hread⟩ := openTable_eq_ok_iff.mp hcursor
    exact ⟨f, o, loadRules_eq_ok_iff.mp hfile, hrules, rfl, projectorOf_eq_ok_iff.mp hprojector,
      hoptions, hread⟩
  · rintro ⟨f, o, h⟩
    refine (bind_eq_ok_iff fun e => ⟨_, rfl⟩).mpr ⟨f, loadRules_eq_ok_iff.mpr h.loaded, ?_⟩
    refine (bind_eq_ok_iff fun e => ⟨_, rfl⟩).mpr ⟨s.rules, h.rules, ?_⟩
    refine (bind_eq_ok_iff fun e => ⟨_, rfl⟩).mpr
      ⟨s.projector, projectorOf_eq_ok_iff.mpr (h.command ▸ h.projector), ?_⟩
    refine (bind_eq_ok_iff fun e => ⟨_, rfl⟩).mpr
      ⟨s.cursor, openTable_eq_ok_iff.mpr ⟨o, h.options, h.cursor⟩, ?_⟩
    show Except.ok (Session.mk s.rules f.commandId s.projector s.cursor) = Except.ok s
    rw [← h.command]

theorem inspectTable_eq_ok_iff {inspection : Inspection} :
    (inspectTable files i).value = .ok inspection ↔
      ∃ s, (Session.start files i false).value = .ok s ∧ Inspection.ofSession s = inspection := by
  unfold inspectTable
  rw [bind_eq_ok_iff fun e => ⟨_, rfl⟩]
  refine exists_congr ?_
  intro s
  refine and_congr_right ?_
  intro _
  show Except.ok (Inspection.ofSession s) = Except.ok inspection ↔ _
  rw [Except.ok.injEq]

/-- The mapping of a session that makes these records. -/
def Mapping.ofSession (s : Session) (records : List Record) : Mapping where
  target := s.projector.targetType
  fingerprint := s.projector.fingerprint.hex
  properties := s.rules.rules.map Rule.name
  records := records

/-- A session that starts leaves nothing but its rows to fail. -/
theorem mapTable_of_start {s : Session} (h : (Session.start files i strict).value = .ok s) :
    (mapTable files i strict).value =
      match (Stream.collect false s.cursor s.projector).value with
      | .error e => .error (.mapRows i.table e)
      | .ok records => .ok (.ofSession s records) := by
  rw [mapTable, Logged.value_bind, h]
  dsimp only
  rw [Logged.value_bind]
  cases (Stream.collect false s.cursor s.projector).value <;> rfl

theorem mapTable_eq_ok_iff {mapping : Mapping} :
    (mapTable files i strict).value = .ok mapping ↔
      ∃ s records, (Session.start files i strict).value = .ok s ∧
        Stream.Traverses s.projector s.cursor records ∧ Mapping.ofSession s records = mapping := by
  constructor
  · intro h
    unfold mapTable at h
    obtain ⟨s, hstart, h⟩ := (bind_eq_ok_iff fun e => ⟨_, rfl⟩).mp h
    obtain ⟨records, hcollect, h⟩ := (bind_eq_ok_iff fun e => ⟨_, rfl⟩).mp h
    exact ⟨s, records, hstart, Stream.collect_eq_ok_iff.mp hcollect, Except.ok.inj h⟩
  · rintro ⟨s, records, hstart, htraverses, rfl⟩
    rw [mapTable_of_start hstart, Stream.collect_eq_ok_iff.mpr htraverses]

namespace Session.Opened

variable {f : RulesFile} {o : CsvOptions} {s : Session}

theorem ofSchema (h : Opened files i strict f o s) :
    s.rules.OfSchema f.schema (f.strict || strict) := by
  obtain ⟨os, -, hbuild⟩ := RulesFile.ruleSet_ok h.rules
  exact RuleSet.ofSchema_build hbuild

/-- The cursor stands before the records of some input. -/
theorem input (h : Opened files i strict f o s) :
    ∃ header records ending, s.cursor = Csv.inputCursor o header records ending := by
  have hread := h.cursor
  unfold readTable at hread
  split at hread
  · cases hread
  · obtain ⟨header, records, ending, hcursor, -⟩ := CsvCursor.openInput_ok hread
    exact ⟨header, records, ending, hcursor⟩

end Session.Opened

end Sessions

/-! ### All records of a table -/

/-- Records taken from an input to its end are those of the rows of its table. -/
theorem forall₂_of_traverses {τ σ : Type} [Target σ] {p : Projector τ σ} {options : CsvOptions}
    {header : List String} {records : List (List String)} {ending : Csv.Ending} {rs : List σ}
    (h : Stream.Traverses p (Csv.inputCursor options header records ending) rs) :
    ending = .ofInput ∧
      List.Forall₂ (fun r cells => (p.projectOne
          (MemoryCursor.standing ⟨header.map Csv.normalizeHeader⟩ cells).row).value = .ok r)
        rs (Csv.tableRows options header.length records) := by
  have hending := Csv.ending_inputCursor options header records ending
  have hrow {k : Nat} (hk : k < (Csv.tableRows options header.length records).length) :=
    Csv.row_inputCursor ending (List.getElem?_eq_getElem hk)
  have hmaps {j : Nat} (hj : j < rs.length) := h.begins j rs[j] (List.getElem?_eq_getElem hj)
  -- neither side can be longer: one would end where the other goes on
  have hle : rs.length ≤ (Csv.tableRows options header.length records).length := by
    refine Nat.le_of_not_lt ?_
    intro hlt
    have hmoves := (hmaps hlt).moves.symm.trans hending
    cases ending <;> cases hmoves
  have hge : (Csv.tableRows options header.length records).length ≤ rs.length := by
    refine Nat.le_of_not_lt ?_
    intro hlt
    cases h.ends.symm.trans (hrow hlt).1
  have hlength := Nat.le_antisymm hle hge
  refine ⟨?_, List.forall₂_iff_get.mpr ⟨hlength, ?_⟩⟩
  · have hends := h.ends
    rw [hlength, hending] at hends
    cases ending with
    | ofInput => rfl
    | failure e later => cases hends
  · intro k hk hk'
    have hgives := (hmaps hk).gives
    rw [(hrow hk').2] at hgives
    exact hgives

/-! ### Bindings -/

namespace Binding

/-- The value of the binding's property for a cell: the cell after the named processors, coerced to
the binding's kind. -/
def value? (b : Binding) (cell : Value) : Option Value := do
  let processors ← b.processors.mapM Processor.builtin?
  let processed ← (Rule.pipe b.kind processors cell).toOption
  (coerce b.kind processed).toOption

/-- The record of a row has the binding's property as the binding says. -/
structure Describes (b : Binding) (cells : List Value) (record : Record) : Prop where
  absent : b.ordinal = none → record.get? b.property = none
  present (n : Nat) : b.ordinal = some n → ∃ cell, cells[n]? = some cell ∧
    (cell = .null → record.get? b.property = none) ∧
    (cell ≠ .null → ∃ v, b.value? cell = some v ∧ record.get? b.property = some v)

end Binding

theorem mapM_builtin? {ps : List Processor} (h : ∀ p ∈ ps, p ∈ Processor.builtins) :
    (ps.map Processor.key).mapM Processor.builtin? = some ps := by
  have hkey : ∀ p ∈ Processor.builtins, Processor.builtin? p.key = some p := by
    intro p hp
    simp only [Processor.builtins, List.mem_cons, List.not_mem_nil, or_false] at hp
    rcases hp with rfl | rfl | rfl | rfl <;> rfl
  induction ps with
  | nil => rfl
  | cons p rest ih =>
    obtain ⟨hp, hrest⟩ := List.forall_mem_cons.mp h
    rw [List.map_cons, List.mapM_cons, hkey p hp, ih hrest]
    rfl

section Rules

variable {shape : Shape} {cells : List Value} {rules : List (Rule Record)} {record : Record}
  {r : Rule Record}

/-- A rule without a condition takes the cell of its column just when that is not null. -/
theorem takes_standing_iff (hplain : r.Plain) {n : Nat} {cell : Value}
    (hpresent : shape.ordinal? r.column = some n) (hcell : cells[n]? = some cell) :
    r.Takes (MemoryCursor.standing shape cells).row ↔ cell ≠ .null := by
  have hisNull : cell ≠ .null ↔ cell.isNull = false := by cases cell <;> simp [Value.isNull]
  rw [hisNull, ← MemoryCursor.isNull_standing hcell]
  constructor
  · rintro ⟨j, hj, hfalse, -⟩
    obtain rfl : j = n := Option.some.inj (hj.symm.trans hpresent)
    exact hfalse
  · intro hfalse
    exact ⟨n, hpresent, hfalse, hplain.willing _⟩

theorem value?_of_gives (hplain : r.Plain) {n : Nat} {cell v : Value}
    (hpresent : shape.ordinal? r.column = some n) (hcell : cells[n]? = some cell)
    (h : r.Gives (MemoryCursor.standing shape cells).row v) :
    (Binding.ofRule shape r).value? cell = some v := by
  obtain ⟨j, raw, w, htakes, hread, hpipe, hcoerce⟩ := h
  obtain rfl : j = n := Option.some.inj (htakes.present.symm.trans hpresent)
  obtain rfl : cell = raw := Except.ok.inj ((MemoryCursor.read_standing hcell).symm.trans hread)
  have hprocessors : (Binding.ofRule shape r).processors.mapM Processor.builtin? =
      some r.processors := mapM_builtin? hplain.processors
  have hkind : (Binding.ofRule shape r).kind = r.kind := rfl
  rw [Binding.value?, hprocessors, hkind]
  simp only [Option.bind_eq_bind, Option.bind_some, hpipe, hcoerce, Except.toOption]

/-- The given values are what the bindings of the rules say. -/
theorem describes_of_given
    (hgiven : Projector.Given (MemoryCursor.standing shape cells).row rules record.fields)
    (hnodup : (rules.map Rule.name).Nodup) (hwidth : cells.length = shape.width) (hr : r ∈ rules)
    (hplain : r.Plain) : (Binding.ofRule shape r).Describes cells record where
  absent := by
    intro habsent
    refine hgiven.get?_of_not_takes hnodup hr ?_
    rintro ⟨j, hj, -⟩
    cases habsent.symm.trans hj
  present := by
    intro n hpresent
    have hn : n < cells.length := hwidth ▸ Shape.ordinal?_lt_width hpresent
    have hcell : cells[n]? = some cells[n] := List.getElem?_eq_getElem hn
    have htakes := takes_standing_iff hplain hpresent hcell
    refine ⟨cells[n], hcell, ?_, ?_⟩
    · intro hnull
      exact hgiven.get?_of_not_takes hnodup hr fun h => htakes.mp h hnull
    · intro hvalue
      obtain ⟨v, hgives, hfield⟩ := hgiven.get?_of_takes hnodup hr (htakes.mpr hvalue)
      exact ⟨v, value?_of_gives hplain hpresent hcell hgives, hfield⟩

end Rules

/-! ### Inspecting and mapping -/

/-- An inspection and a mapping of one table agree on the target, the fingerprint and the properties.
The table has been read to its end, its rows are those of its records that are not blank, and each
became a record.  Every binding describes every record: without a column no record has the property,
and otherwise the record has it just when the cell is not null, with the value that the named
processors and the kind make of the cell. -/
theorem inspection_describes_mapping {files : Files} {i : Input} {inspection : Inspection}
    {mapping : Mapping} (hinspect : (inspectTable files i).value = .ok inspection)
    (hmap : (mapTable files i false).value = .ok mapping) :
    inspection.target = mapping.target ∧ inspection.fingerprint = mapping.fingerprint ∧
      inspection.bindings.map Binding.property = mapping.properties ∧
      ∃ (options : CsvOptions) (header : List String) (records : List (List String)),
        csvOptions? i = some options ∧
        readTable files options i.table = .ok (.ofDeliveries options header (records.map .ok)) ∧
        inspection.columns = header.map Csv.normalizeHeader ∧
        List.Forall₂ (fun record cells => ∀ b ∈ inspection.bindings, b.Describes cells record)
          mapping.records (Csv.tableRows options header.length records) := by
  obtain ⟨s, hstart, rfl⟩ := inspectTable_eq_ok_iff.mp hinspect
  obtain ⟨s', rs, hstart', htraverses, rfl⟩ := mapTable_eq_ok_iff.mp hmap
  obtain rfl : s = s' := Except.ok.inj (hstart.symm.trans hstart')
  obtain ⟨f, options, hopened⟩ := Session.start_eq_ok_iff.mp hstart
  obtain ⟨header, records, ending, hcursor⟩ := hopened.input
  rw [hcursor] at htraverses
  obtain ⟨rfl, hrows⟩ := forall₂_of_traverses htraverses
  have hproperties : (Inspection.ofSession s).bindings.map Binding.property =
      (Mapping.ofSession s rs).properties := List.map_map
  have hdeliveries : Csv.inputCursor options header records .ofInput =
      .ofDeliveries options header (records.map .ok) := by
    rw [Csv.inputCursor, Csv.Ending.deliveries, List.append_nil]
  have hshape : s.cursor.shape = ⟨header.map Csv.normalizeHeader⟩ :=
    congrArg CsvCursor.shape hcursor
  refine ⟨rfl, rfl, hproperties, options, header, records, hopened.options, ?_, ?_, ?_⟩
  · rw [hopened.cursor, hcursor, hdeliveries]
  · exact congrArg Shape.columns hshape
  · refine (List.forall₂_iff_get.mpr ⟨hrows.length_eq, ?_⟩)
    intro k hk hk' b hb
    obtain ⟨r, hr, rfl⟩ := List.mem_map.mp hb
    have hprojects := (List.forall₂_iff_get.mp hrows).2 k hk hk'
    rcases Projector.projectOne_cases hopened.ofSchema hopened.projector _ with
      ⟨q, cause, -, herror⟩ | ⟨record, hgiven, -, hok⟩
    · cases herror.symm.trans hprojects
    · obtain rfl : record = rs.get ⟨k, hk⟩ := Except.ok.inj (hok.symm.trans hprojects)
      rw [hshape]
      refine describes_of_given hgiven hopened.ofSchema.nodup ?_ hr
        (RulesFile.plain_ruleSet hopened.rules r hr)
      exact (Csv.length_of_mem_tableRows (List.get_mem _ _)).trans (List.length_map _).symm

/-- Two columns whose names differ in case, a column that is not there, and a row that is cut short. -/
theorem inspection_describes_mapping_orders :
    ∃ (files : Files) (i : Input) (inspection : Inspection) (mapping : Mapping),
      (inspectTable files i).value = .ok inspection ∧
      (mapTable files i false).value = .ok mapping ∧
      inspection.bindings.map Binding.ordinal = [some 1, some 2, none] ∧
      mapping.records = [⟨[("Id", .int 7), ("Customer", .text "ANN")]⟩, ⟨[("Id", .int 8)]⟩] ∧
      ∀ b ∈ inspection.bindings,
        b.Describes [.text "6", .text "7", .text "ann"] ⟨[("Id", .int 7), ("Customer", .text "ANN")]⟩ ∧
        b.Describes [.null, .text "8", .null] ⟨[("Id", .int 8)]⟩ := by
  let text :=
    "[\"Order\",null,false,[[\"Id\",\"int\"],[\"Customer\",\"any\",\"buyer\",[\"uppercase\"]],[\"Note\"]]]"
  let f : RulesFile := ⟨"Order", none, false,
    [⟨"Id", .int, none, [], false⟩, ⟨"Customer", .any, some "buyer", ["uppercase"], false⟩,
      ⟨"Note", .any, none, [], false⟩]⟩
  let table := "id,Id,BUYER\n6, 7 ,ann,x\n\n,8\n"
  let header := ["id", "Id", "BUYER"]
  let records := [["6", " 7 ", "ann", "x"], ["", "8"]]
  let files : Files :=
    ⟨fun path => .ok (Text.encode (if path = "rules" then text else table)), fun _ => .ok ()⟩
  let i : Input := ⟨"rules", "orders", ',', false, false⟩
  let rules : RuleSet Record := ⟨"Order", f.properties.map PropertyEntry.rule, false⟩
  let p : RecordProjector := ⟨.ofRuleSet .record rules "Order", "Order", ⟨0, ["Id", "buyer", "Note"]⟩,
    rules.rules, false⟩
  let c : CsvCursor := .ofDeliveries {} header (records.map .ok)
  let s : Session := ⟨rules, "Order", p, c⟩
  have hread : readRules files "rules" = .ok f := by decide +kernel
  have hrules : (f.ruleSet false).value = .ok rules := by
    dsimp only [f, rules]
    rfl
  have htable : readTable files {} "orders" = .ok c := by
    dsimp only [files, c]
    rfl
  have hstart : (Session.start files i false).value = .ok s :=
    Session.start_eq_ok_iff.mpr ⟨f, {}, hread, hrules, rfl, rfl, rfl, htable⟩
  have hcollect : (Stream.collect false c p).value = .ok
      [⟨[("Id", .int 7), ("Customer", .text "ANN")]⟩, ⟨[("Id", .int 8)]⟩] := by
    decide +kernel
  have hinspect := inspectTable_eq_ok_iff.mpr ⟨s, hstart, rfl⟩
  have hmap := mapTable_eq_ok_iff.mpr ⟨s, _, hstart, Stream.collect_eq_ok_iff.mp hcollect, rfl⟩
  obtain ⟨-, -, -, options, header', records', hoptions, htable', -, hrows⟩ :=
    inspection_describes_mapping hinspect hmap
  obtain rfl : {} = options := Option.some.inj hoptions
  have hcursor : c = .ofDeliveries {} header' (records'.map .ok) :=
    Except.ok.inj (htable.symm.trans htable')
  have hwidth : 3 = header'.length := by
    have hshape := congrArg (fun c => c.shape.columns.length) hcursor
    simpa [c, header, CsvCursor.ofDeliveries] using hshape
  obtain rfl : records = records' :=
    List.map_injective_iff.mpr (fun _ _ => Except.ok.inj) (congrArg CsvCursor.pending hcursor)
  have hcells : Csv.tableRows {} 3 records =
      [[.text "6", .text "7", .text "ann"], [.null, .text "8", .null]] := by
    decide +kernel
  rw [← hwidth, hcells] at hrows
  obtain ⟨hfirst, hrest⟩ := List.forall₂_cons.mp hrows
  obtain ⟨hsecond, -⟩ := List.forall₂_cons.mp hrest
  exact ⟨files, i, _, _, hinspect, hmap, by decide +kernel, rfl,
    fun b hb => ⟨hfirst b hb, hsecond b hb⟩⟩

/-! ### Strict mappings -/

section Strict

variable {files : Files} {i : Input} {f : RulesFile} {o : CsvOptions} {s : Session}

/-- A row without one of the columns fails, though some other rule may fail before. -/
theorem firstFailure_of_missing (h : Session.Opened files i true f o s) {r : Rule Record}
    (hr : r ∈ s.rules.rules) (hmissing : s.cursor.shape.ordinal? r.column = none)
    (cells : List Value) :
    ∃ q cause, Projector.FirstFailure true (MemoryCursor.standing s.cursor.shape cells).row
        s.rules.rules q cause ∧
      (s.projector.projectOne (MemoryCursor.standing s.cursor.shape cells).row).value =
        .error (Projector.failure s.rules.typeName q cause) := by
  have hstrict : s.rules.strict = true := h.ofSchema.strict.trans (Bool.or_true f.strict)
  have hmisses : r.Misses (MemoryCursor.standing s.cursor.shape cells).row s.rules.strict :=
    ⟨hmissing, hstrict, (RulesFile.plain_ruleSet h.rules r hr).willing _⟩
  rcases Projector.projectOne_cases h.ofSchema h.projector
      (MemoryCursor.standing s.cursor.shape cells).row with ⟨q, cause, hfirst, hvalue⟩ | ⟨_, _, hnone, _⟩
  · exact ⟨q, cause, hstrict ▸ hfirst, hvalue⟩
  · exact absurd (.missing hmisses) (hnone r hr .missingColumn)

/-- The first record is that of some row. -/
theorem Session.Opened.first_row {strict : Bool} (h : Opened files i strict f o s) {record : Record}
    {rest : List Record} (htraverses : Stream.Traverses s.projector s.cursor (record :: rest)) :
    ∃ cells, (s.projector.projectOne
      (MemoryCursor.standing s.cursor.shape cells).row).value = .ok record := by
  obtain ⟨header, records, ending, hcursor⟩ := h.input
  have hshape : s.cursor.shape = ⟨header.map Csv.normalizeHeader⟩ :=
    congrArg CsvCursor.shape hcursor
  rw [hcursor] at htraverses
  obtain ⟨-, hrows⟩ := forall₂_of_traverses htraverses
  obtain ⟨cells, -, hprojects, -, -⟩ := List.forall₂_cons_left_iff.mp hrows
  exact ⟨cells, hshape ▸ hprojects⟩

/-- A mapping whose first call fails. -/
theorem mapTable_of_stops (h : (Session.start files i true).value = .ok s) {e : MappingError}
    {m : Nat} (hstops : Stream.Stops s.projector s.cursor (fun _ => false) 0 (.failed e) m) :
    (mapTable files i true).value = .error (.mapRows i.table e) := by
  have hbegins : Stream.Begins s.projector s.cursor [] := nofun
  have hcollect : (Stream.collect false s.cursor s.projector).value = .error e :=
    hbegins.collect_of_stops hstops
  rw [mapTable_of_start h, hcollect]

end Strict

/-- A strict mapping without one of the columns: a table with a row fails for the first rule that its
first row fails, and an input that breaks off before any row fails for that.  But a table without rows
is mapped to no records, whichever columns its header has.  So the columns are known to be there only
of a mapping that has records. -/
theorem strict_mapping_meets_missing_columns (files : Files) (i : Input) :
    (∀ mapping, (mapTable files i true).value = .ok mapping →
      ∃ s, (Session.start files i true).value = .ok s ∧ (mapping.records = [] ∨
        ∀ r ∈ s.rules.rules, ∃ n, s.cursor.shape.ordinal? r.column = some n)) ∧
    ∀ s, (Session.start files i true).value = .ok s →
      ∀ r ∈ s.rules.rules, s.cursor.shape.ordinal? r.column = none →
        ∃ options header records ending,
          s.cursor = Csv.inputCursor options header records ending ∧
          (∀ cells rest, Csv.tableRows options header.length records = cells :: rest → ∃ q cause,
            Projector.FirstFailure true (MemoryCursor.standing s.cursor.shape cells).row
              s.rules.rules q cause ∧
            (mapTable files i true).value = .error (.mapRows i.table (.binding
              ((Projector.failure s.rules.typeName q cause).atRow 0)))) ∧
          (∀ e later, Csv.tableRows options header.length records = [] →
            ending = .failure e later →
            (mapTable files i true).value = .error (.mapRows i.table (.cursor (some 0) e))) ∧
          (Csv.tableRows options header.length records = [] → ending = .ofInput →
            (mapTable files i true).value = .ok (.ofSession s [])) := by
  constructor
  · intro mapping hmap
    obtain ⟨s, rs, hstart, htraverses, rfl⟩ := mapTable_eq_ok_iff.mp hmap
    refine ⟨s, hstart, ?_⟩
    cases rs with
    | nil => exact Or.inl rfl
    | cons record rest =>
      refine Or.inr ?_
      intro r hr
      obtain ⟨f, o, hopened⟩ := Session.start_eq_ok_iff.mp hstart
      cases hordinal : s.cursor.shape.ordinal? r.column with
      | some n => exact ⟨n, rfl⟩
      | none =>
        obtain ⟨cells, hprojects⟩ := hopened.first_row htraverses
        obtain ⟨q, cause, -, hfails⟩ := firstFailure_of_missing hopened hr hordinal cells
        cases hfails.symm.trans hprojects
  · intro s hstart r hr hordinal
    obtain ⟨f, o, hopened⟩ := Session.start_eq_ok_iff.mp hstart
    obtain ⟨header, records, ending, hcursor⟩ := hopened.input
    have hshape : s.cursor.shape = ⟨header.map Csv.normalizeHeader⟩ :=
      congrArg CsvCursor.shape hcursor
    refine ⟨o, header, records, ending, hcursor, ?_, ?_, ?_⟩
    · intro cells rest hrows
      have hcells : (Csv.tableRows o header.length records)[0]? = some cells := by
        rw [hrows]
        rfl
      obtain ⟨hmoves, hrow⟩ := Csv.row_inputCursor ending hcells
      obtain ⟨q, cause, hfirst, hfails⟩ := firstFailure_of_missing hopened hr hordinal cells
      refine ⟨q, cause, hfirst, mapTable_of_stops hstart (.binding rfl (hcursor ▸ hmoves) ?_)⟩
      rw [hcursor, hrow, ← hshape]
      exact hfails
    · rintro e later hrows rfl
      have hends := Csv.ending_inputCursor o header records (.failure e later)
      rw [hrows] at hends
      exact mapTable_of_stops hstart (.cursor rfl (hcursor ▸ hends))
    · rintro hrows rfl
      have hends := Csv.ending_inputCursor o header records .ofInput
      rw [hrows] at hends
      have htraverses : Stream.Traverses s.projector s.cursor [] := ⟨nofun, hcursor ▸ hends⟩
      rw [mapTable_of_start hstart, Stream.collect_eq_ok_iff.mpr htraverses]

/-- A header without the one column of the rules, and nothing after it. -/
theorem strict_mapping_without_rows :
    let rules := "\x7b\"target\": \"T\", \"properties\": [\x7b\"name\": \"A\"\x7d]\x7d"
    let files : Files :=
      ⟨fun path => .ok (Text.encode (if path = "rules.json" then rules else "B\n")), fun _ => .ok ()⟩
    let i : Input := ⟨"rules.json", "input.csv", ',', false, false⟩
    ∃ s mapping, (Session.start files i true).value = .ok s ∧
      (mapTable files i true).value = .ok mapping ∧ mapping.records = [] ∧
      ∃ r ∈ s.rules.rules, s.cursor.shape.ordinal? r.column = none := by
  intro text files i
  let f : RulesFile := ⟨"T", none, false, [⟨"A", .any, none, [], false⟩]⟩
  let rules : RuleSet Record := ⟨"T", f.properties.map PropertyEntry.rule, true⟩
  let p : RecordProjector := ⟨.ofRuleSet .record rules "T", "T", ⟨0, ["A"]⟩, rules.rules, true⟩
  let c : CsvCursor := .ofDeliveries {} ["B"] []
  let s : Session := ⟨rules, "T", p, c⟩
  have hread : readRules files "rules.json" = .ok f := by decide +kernel
  have hrules : (f.ruleSet true).value = .ok rules := by
    dsimp only [f, rules]
    rfl
  have htable : readTable files {} "input.csv" = .ok c := by
    dsimp only [files, c]
    rfl
  have hstart : (Session.start files i true).value = .ok s :=
    Session.start_eq_ok_iff.mpr ⟨f, {}, hread, hrules, rfl, rfl, rfl, htable⟩
  have htraverses : Stream.Traverses p c [] := ⟨nofun, rfl⟩
  exact ⟨s, .ofSession s [], hstart, mapTable_eq_ok_iff.mpr ⟨s, [], hstart, htraverses, rfl⟩, rfl,
    _, List.mem_cons_self, by decide +kernel⟩

end RecordMapping.Command
