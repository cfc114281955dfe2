import RecordMapping.Proofs.ConversionErrors
import RecordMapping.Proofs.CsvTables
import RecordMapping.Proofs.FileRules

/-!
# RecordMapping.Proofs.TextFailures — how the rules of a file can fail on a CSV input

A row of a CSV cursor has text in each of its cells that is not null (`Row.OfText`), and the
processors that a rules file can name make text or null of text.  So the rules of a file read and
process such a row without fail.  What is left are the columns that a strict file misses, and texts
that are no truth value or number (`Rule.FailsOnText`); a stream fails for one of these, for a failure
of the cursor, or because it is cancelled (`RulesFile.StreamFails`).
-/

namespace RecordMapping

open RowSource (moved)

/-! ### Text and null -/

/-- Text, or null. -/
inductive Value.Textual : Value → Prop
  | null : Textual .null
  | text (s : String) : Textual (.text s)

namespace Processor

theorem textual_onText {f : String → Value} (hf : ∀ s, (f s).Textual) {v : Value} (hv : v.Textual)
    (kind : Kind) (prior : Value) : ∃ w, onText f kind v prior = .ok w ∧ w.Textual := by
  cases hv with
  | null => exact ⟨.null, rfl, .null⟩
  | text s => exact ⟨f s, rfl, hf s⟩

/-- The processors that a file can name do not fail on text. -/
theorem textual_apply {p : Processor} (hp : p ∈ builtins) {v : Value} (hv : v.Textual) (kind : Kind)
    (prior : Value) : ∃ w, p.apply kind v prior = .ok w ∧ w.Textual := by
  have hnull (s : String) :
      (if Text.isBlankText s then Value.null else Value.text s).Textual := by
    split
    · exact .null
    · exact .text s
  simp only [builtins, List.mem_cons, List.not_mem_nil, or_false] at hp
  rcases hp with rfl | rfl | rfl | rfl
  · exact textual_onText (fun s => .text _) hv kind prior
  · exact textual_onText (fun s => .text _) hv kind prior
  · exact textual_onText (fun s => .text _) hv kind prior
  · exact textual_onText hnull hv kind prior

end Processor

theorem Rule.textual_pipe {ps : List Processor} (hps : ∀ p ∈ ps, p ∈ Processor.builtins) {v : Value}
    (hv : v.Textual) (kind : Kind) : ∃ w, pipe kind ps v = .ok w ∧ w.Textual := by
  induction ps generalizing v with
  | nil => exact ⟨v, rfl, hv⟩
  | cons p rest ih =>
    obtain ⟨hp, hrest⟩ := List.forall_mem_cons.mp hps
    obtain ⟨w, hw, hwtext⟩ := Processor.textual_apply hp hv kind .null
    rw [pipe_cons, hw]
    exact ih hrest hwtext

/-- The kinds that text is parsed for. -/
def Kind.parsed : List Kind := [.bool, .int, .float]

open Conversion in
/-- Text that does not become a value of a kind is not parsed. -/
theorem coerce_textual {kind : Kind} {v : Value} {e : ConversionError} (hv : v.Textual)
    (h : coerce kind v = .error e) :
    ∃ expected text, e = .parse expected text ∧ expected.kind = kind ∧ kind ∈ Kind.parsed := by
  cases hv with
  | null => cases h
  | text s =>
    simp only [coerce, Value.isNull, Bool.false_eq_true, if_false] at h
    cases kind with
    | bool => exact ⟨.bool, s, toBool_text (error_of_map h), rfl, by decide⟩
    | int => exact ⟨.int64, s, parseInt64_error (error_of_map h), rfl, by decide⟩
    | float => exact ⟨.float, s, toFloat_text (error_of_map h), rfl, by decide⟩
    | text => cases error_of_map h
    | bytes => cases error_of_map h
    | any => cases h

/-! ### Rows of text -/

/-- Every cell of the row that is not null reads as text. -/
def Row.OfText (row : Row) : Prop :=
  ∀ i < row.shape.width, row.isNull i = false → ∃ s, row.read i = .ok (.text s)

namespace CsvCursor

theorem positioned_of_advance {c : CsvCursor} (h : (advance c).1 = .ok true) :
    (advance c).2.positioned = true := by
  unfold advance at h ⊢
  split
  · rename_i hnext
    rw [hnext] at h
    cases h
  · rename_i hnext
    rw [hnext] at h
    cases h
  · rfl

theorem ofText_of_positioned {c : CsvCursor} (h : c.positioned = true) : c.row.OfText := by
  intro i hi hnull
  have hread : c.row.read i = c.read i := rfl
  have hisNull : c.row.isNull i = c.isNull i := rfl
  rw [hisNull, isNull, cell_of_lt h hi] at hnull
  rw [hread, read, cell_of_lt h hi]
  cases htext : cellText c.options ((c.record[i]?).getD "") with
  | none =>
    rw [htext] at hnull
    cases hnull
  | some text => exact ⟨text, rfl⟩

/-- Every row that a CSV cursor delivers is one of text. -/
theorem ofText_moved {c : CsvCursor} {k : Nat} (h : (RowSource.advance (moved c k)).1 = .ok true) :
    (RowSource.row (moved c (k + 1))).OfText :=
  ofText_of_positioned (positioned_of_advance h)

end CsvCursor

/-! ### One rule -/

namespace Rule

/-- Why a rule of a file fails on a row of text. -/
inductive FailsOnText (strict : Bool) (kind : Kind) : BindingCause → Prop
  | missingColumn (isStrict : strict = true) : FailsOnText strict kind .missingColumn
  | parse {expected : Scalar} {text : String} (kind_eq : expected.kind = kind)
    (parsed : kind ∈ Kind.parsed) : FailsOnText strict kind (.conversion (.parse expected text))

/-- A rule without condition and with built-in processors alone. -/
theorem Fails.onText {strict : Bool} {row : Row} {r : Rule Record} {cause : BindingCause}
    (h : r.Fails strict row cause) (hr : r.Plain) (hrow : row.OfText) :
    FailsOnText strict r.kind cause := by
  have hcell {i : Nat} (takes : r.TakesAt row i) : ∃ s, row.read i = .ok (.text s) :=
    hrow i (Shape.ordinal?_lt_width takes.present) takes.notNull
  have hraw {i : Nat} {raw : Value} (takes : r.TakesAt row i) (cell : row.read i = .ok raw) :
      raw.Textual := by
    obtain ⟨s, hs⟩ := hcell takes
    obtain rfl := Except.ok.inj (hs.symm.trans cell)
    exact .text s
  cases h with
  | missing misses => exact .missingColumn misses.isStrict
  | read takes cell =>
    obtain ⟨s, hs⟩ := hcell takes
    cases hs.symm.trans cell
  | @processor i raw v before after p cause takes cell split reached fails =>
    have hbuiltin : ∀ q ∈ before ++ p :: after, q ∈ Processor.builtins := split ▸ hr.processors
    obtain ⟨hbefore, hrest⟩ := List.forall_mem_append.mp hbuiltin
    obtain ⟨w, hw, hwtext⟩ := textual_pipe hbefore (hraw takes cell) r.kind
    obtain rfl := Except.ok.inj (hw.symm.trans reached)
    obtain ⟨next, hnext, -⟩ :=
      Processor.textual_apply (hrest p List.mem_cons_self) hwtext r.kind .null
    cases hnext.symm.trans fails
  | conversion takes cell processed fails =>
    obtain ⟨w, hw, hwtext⟩ := textual_pipe hr.processors (hraw takes cell) r.kind
    obtain rfl := Except.ok.inj (hw.symm.trans processed)
    obtain ⟨expected, text, rfl, hkind, hparsed⟩ := coerce_textual hwtext fails
    exact .parse hkind hparsed

end Rule

/-! ### The rules of a file -/

namespace RulesFile

variable {f : RulesFile} {strict : Bool} {s : RuleSet Record}

/-- How the call of number `n` can fail that a stream by the rules of the file makes on a cursor,
given the flag that the call finds. -/
inductive StreamFails (f : RulesFile) (strict : Bool) (c : CsvCursor) (flag : Bool) (n : Nat) :
    MappingError → Prop
  | cancelled (isSet : flag = true) : StreamFails f strict c flag n (.cancelled n)
  | cursor {e : CursorError} (fails : (CsvCursor.advance (moved c n)).1 = .error e) :
    StreamFails f strict c flag n (.cursor (some n) e)
  | binding {entry : PropertyEntry} {cause : BindingCause} (mem : entry ∈ f.settable)
    (fails : Rule.FailsOnText (f.strict || strict) entry.kind cause) :
    StreamFails f strict c flag n
      (.binding ⟨entry.name, entry.columnName, f.target, entry.kind, some n, cause⟩)

section Compiled

variable {τ : Type} [DecidableEq τ] {serial : Nat} {target : τ} {key : Fingerprint τ}
  {p : Projector τ Record}

theorem fails_of_projectOne (hs : (f.ruleSet strict).value = .ok s)
    (hcompile : (Projector.compile serial target s key).value = .ok p) {row : Row}
    (hrow : row.OfText) {b : BindingFailure} (h : (p.projectOne row).value = .error b) :
    ∃ entry ∈ f.settable, ∃ cause, Rule.FailsOnText (f.strict || strict) entry.kind cause ∧
      b = ⟨entry.name, entry.columnName, f.target, entry.kind, none, cause⟩ := by
  have hmakes := makes_of_ruleSet hs
  obtain ⟨os, -, hbuild⟩ := ruleSet_ok hs
  obtain ⟨r, hr, cause, hfails, rfl⟩ :=
    Projector.fails_of_projectOne (RuleSet.ofSchema_build hbuild) hcompile h
  have honText := hfails.onText (plain_ruleSet hs r hr) hrow
  rw [hmakes.rules] at hr
  obtain ⟨entry, hentry, rfl⟩ := List.mem_map.mp hr
  rw [hmakes.strict] at honText
  refine ⟨entry, hentry, cause, honText, ?_⟩
  rw [hmakes.typeName]
  rfl

theorem streamFails_of_stops (hs : (f.ruleSet strict).value = .ok s)
    (hcompile : (Projector.compile serial target s key).value = .ok p) {c : CsvCursor}
    {flags : Nat → Bool} {n m : Nat} {e : MappingError}
    (h : Stream.Stops p c flags n (.failed e) m) : f.StreamFails strict c (flags n) n e := by
  cases h with
  | cancelled isSet => exact .cancelled isSet
  | cursor going fails => exact .cursor fails
  | binding going moves fails =>
    obtain ⟨entry, hentry, cause, honText, rfl⟩ :=
      fails_of_projectOne hs hcompile (CsvCursor.ofText_moved moves) fails
    exact .binding hentry honText

end Compiled

/-- Without strictness and without kinds that text is parsed for, the cursor alone can fail. -/
theorem StreamFails.cursor_fails {c : CsvCursor} {n : Nat} {e : MappingError}
    (h : f.StreamFails strict c false n e) (hlenient : (f.strict || strict) = false)
    (hkinds : ∀ entry ∈ f.settable, entry.kind ∈ [.text, .bytes, .any]) :
    ∃ failure, (CsvCursor.advance (moved c n)).1 = .error failure := by
  have hdisjoint : ∀ kind ∈ Kind.parsed, kind ∉ [Kind.text, .bytes, .any] := by decide
  cases h with
  | cancelled isSet => cases isSet
  | @cursor failure fails => exact ⟨failure, fails⟩
  | @binding entry cause mem fails =>
    cases fails with
    | missingColumn isStrict => cases hlenient.symm.trans isStrict
    | parse kind_eq parsed => exact absurd (hkinds entry mem) (hdisjoint entry.kind parsed)

/-- The rules of a file are compiled by way of a fresh cache without fail.  A stream over a CSV
cursor can then fail in a call for four reasons: the call was cancelled, the cursor failed, a strict
file misses a column, or the text of a cell is not one of the truth values or numbers that its property
is for.  Taking all records fails for these reasons alone, and for none of them where the file is not
strict, none of its properties is for truth values or numbers, and the input can be read. -/
theorem failures_on_csv (hs : (f.ruleSet strict).value = .ok s) (command : String) :
    ∃ (serial : Nat) (p : Command.RecordProjector),
      (Cache.fetch (Cache.empty : Command.RecordCache) .record s command).value.answer =
        .ok ⟨serial, p⟩ ∧
      (∀ (c : CsvCursor) (flags : Nat → Bool) (n : Nat) (e : MappingError),
        (Stream.start c p).item flags n = .failed e → f.StreamFails strict c (flags n) n e) ∧
      (∀ (c : CsvCursor) (flag : Bool) (e : MappingError),
        (Stream.collect flag c p).value = .error e → ∃ n, f.StreamFails strict c flag n e) ∧
      ∀ (options : CsvOptions) (input : Csv.Input) (c : CsvCursor),
        CsvCursor.openInput options input = .ok c →
        (∀ d ∈ Csv.deliveries options.delimiter input, ∃ record, d = .ok record) →
        (f.strict || strict) = false →
        (∀ entry ∈ f.settable, entry.kind ∈ [.text, .bytes, .any]) →
        ∃ rs, (Stream.collect false c p).value = .ok rs := by
  have hempty : Cache.get? (Cache.empty : Command.RecordCache)
    (.ofRuleSet .record s command) = none := rfl
  obtain ⟨p, hcompile, hanswer, -⟩ := Cache.fetch_of_none hempty
  have hstream {c : CsvCursor} {flags : Nat → Bool} {n m : Nat} {e : MappingError}
      (h : Stream.Stops p c flags n (.failed e) m) : f.StreamFails strict c (flags n) n e :=
    streamFails_of_stops hs hcompile h
  have hcollect {c : CsvCursor} {flag : Bool} {e : MappingError}
      (h : (Stream.collect flag c p).value = .error e) : ∃ n, f.StreamFails strict c flag n e := by
    obtain ⟨n, m, hstops⟩ := Stream.stops_of_collect_error h
    exact ⟨n, hstream hstops⟩
  refine ⟨_, p, hanswer, ?_, fun c flag e => hcollect, ?_⟩
  · intro c flags n e hitem
    obtain ⟨m, hstops⟩ := Stream.stops_of_failed hitem
    exact hstream hstops
  · intro options input c hopen hreads hlenient hkinds
    cases hvalue : (Stream.collect false c p).value with
    | ok rs => exact ⟨rs, rfl⟩
    | error e =>
      obtain ⟨n, hfails⟩ := hcollect hvalue
      obtain ⟨failure, hcursor⟩ := hfails.cursor_fails hlenient hkinds
      obtain ⟨header, records, ending, rfl, hmem⟩ := CsvCursor.openInput_ok hopen
      have hinput : ending = .ofInput := Csv.Ending.eq_ofInput fun d hd => hreads d (hmem d hd)
      obtain ⟨⟨more, hmore⟩, -⟩ :=
        (Csv.beside_tableCursor options header records ending).answerAt_eq hinput n
      cases hmore.symm.trans hcursor

/-- A text that is no number fails a file that reads it as one, and no file that takes it as text. -/
theorem failures_on_csv_order :
    let file (kind : Kind) : RulesFile :=
      ⟨"Order", none, false, [⟨"Id", kind, none, ["trim"], false⟩]⟩
    let c := CsvCursor.ofDeliveries {} ["Id"] [.ok ["7"], .ok ["x"]]
    let e : MappingError :=
      .binding ⟨"Id", "Id", "Order", .int, some 1, .conversion (.parse .int64 "x")⟩
    CsvCursor.openInput {} ⟨Text.encode "Id\n7\nx\n", none⟩ = .ok c ∧
      (∃ (s : RuleSet Record) (p : Command.RecordProjector),
        ((file .int).ruleSet false).value = .ok s ∧
        (Cache.fetch (Cache.empty : Command.RecordCache) .record s "orders").value.answer =
          .ok ⟨0, p⟩ ∧
        (Stream.collect false c p).value = .error e ∧
        ∃ n, (file .int).StreamFails false c false n e) ∧
      ∃ (s : RuleSet Record) (p : Command.RecordProjector) (rs : List Record),
        ((file .text).ruleSet false).value = .ok s ∧
        (Cache.fetch (Cache.empty : Command.RecordCache) .record s "orders").value.answer =
          .ok ⟨0, p⟩ ∧
        (Stream.collect false c p).value = .ok rs := by
  intro file c e
  have hopen : CsvCursor.openInput {} ⟨Text.encode "Id\n7\nx\n", none⟩ = .ok c := rfl
  let rule (kind : Kind) : Rule Record :=
    ⟨SchemaProperty.toProperty ⟨"Id", kind, none, false⟩, "Id", none, [.trim]⟩
  let s (kind : Kind) : RuleSet Record := ⟨"Order", [rule kind], false⟩
  let p (kind : Kind) : Command.RecordProjector :=
    ⟨.ofRuleSet .record (s kind) "orders", "Order", ⟨0, ["Id"]⟩, (s kind).rules, false⟩
  have hnumeric : ((file .int).ruleSet false).value = .ok (s .int) := by
    dsimp only [file, s, rule]
    rfl
  have htextual : ((file .text).ruleSet false).value = .ok (s .text) := by
    dsimp only [file, s, rule]
    rfl
  have hfetch (kind : Kind) :
      (Cache.fetch (Cache.empty : Command.RecordCache) .record (s kind) "orders").value.answer =
        .ok ⟨0, p kind⟩ := by
    have hempty : Cache.get? (Cache.empty : Command.RecordCache)
      (.ofRuleSet .record (s kind) "orders") = none := rfl
    obtain ⟨q, hcompile, hanswer, -⟩ := Cache.fetch_of_none hempty
    obtain rfl : q = p kind := Projector.compile_ok hcompile
    exact hanswer
  refine ⟨hopen, ⟨s .int, p .int, hnumeric, hfetch .int, ?_⟩, s .text, p .text, ?_⟩
  · obtain ⟨serial, q, hanswer, -, hcollect, -⟩ := failures_on_csv hnumeric "orders"
    obtain ⟨rfl, rfl⟩ := Shared.mk.inj (Except.ok.inj ((hfetch .int).symm.trans hanswer))
    have hfails : (Stream.collect false c (p .int)).value = .error e := by decide +kernel
    exact ⟨hfails, hcollect c false e hfails⟩
  · obtain ⟨serial, q, hanswer, -, -, hcollect⟩ := failures_on_csv htextual "orders"
    obtain ⟨rfl, rfl⟩ := Shared.mk.inj (Except.ok.inj ((hfetch .text).symm.trans hanswer))
    have hdeliveries : Csv.deliveries 0x2C ⟨Text.encode "Id\n7\nx\n", none⟩ =
        [["Id"], ["7"], ["x"]].map .ok := rfl
    have hreads : ∀ d ∈ Csv.deliveries 0x2C ⟨Text.encode "Id\n7\nx\n", none⟩,
        ∃ record, d = .ok record := by
      intro d hd
      rw [hdeliveries] at hd
      obtain ⟨record, -, rfl⟩ := List.mem_map.mp hd
      exact ⟨record, rfl⟩
    obtain ⟨rs, hrs⟩ := hcollect {} _ c hopen hreads rfl (by decide)
    exact ⟨rs, htextual, hfetch .text, hrs⟩

end RulesFile

end RecordMapping
