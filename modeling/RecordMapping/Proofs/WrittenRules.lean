import RecordMapping.Proofs.JsonSpelling
import RecordMapping.Proofs.RuleSets
import RecordMapping.RulesFile
import Mathlib.Data.List.Forall2
import Mathlib.Data.List.Perm.Subperm

/-!
# RecordMapping.Proofs.WrittenRules — rules files survive being written and read

A rules file can be written with the members of its objects in any order and without those that hold
their defaults (`RulesFile.Written`).  The reader finds a member by its name, and takes the default
where there is none, so it gives the file back from every text of every such document.

A member that is one too many spoils its object (`Json.Spoils`), and with it the file.
-/

namespace RecordMapping

/-! ### Members in any order -/

namespace Json

/-- The members given are among all of them, in any order, and those left out hold their defaults. -/
structure Abridges (defaults full given : List (String × Json)) : Prop where
  members : given.Subperm full
  leftOut : ∀ m ∈ full, m ∉ given → m ∈ defaults

/-- The members with one more, whose name is no field's or is there already. -/
inductive Spoils (names : List String) (given : List (String × Json)) :
    List (String × Json) → Prop
  | member {name : String} {value : Json} {members : List (String × Json)}
    (perm : members.Perm ((name, value) :: given))
    (extra : name ∉ names ∨ name ∈ given.map Prod.fst) : Spoils names given members

def lookup (members : List (String × Json)) (name : String) : Option Json :=
  (members.find? fun m => decide (m.1 = name)).map Prod.snd

theorem lookup_of_mem {members : List (String × Json)} (hnodup : (members.map Prod.fst).Nodup)
    {m : String × Json} (hm : m ∈ members) : lookup members m.1 = some m.2 := by
  have hfound : (members.find? fun q => decide (q.1 = m.1)) = some m := find?_of_nodup hnodup hm
  rw [lookup, hfound]
  rfl

theorem mem_of_lookup {members : List (String × Json)} {name : String} {value : Json}
    (h : lookup members name = some value) : (name, value) ∈ members := by
  obtain ⟨m, hfind, rfl⟩ := Option.map_eq_some_iff.mp h
  have hname : m.1 = name := by simpa using List.find?_some hfind
  rw [← hname]
  exact List.mem_of_find?_eq_some hfind

section Abridged

variable {defaults full given : List (String × Json)}

theorem Abridges.nodup (h : Abridges defaults full given) (hnodup : (full.map Prod.fst).Nodup) :
    (given.map Prod.fst).Nodup := by
  obtain ⟨kept, hperm, hkept⟩ := h.members
  exact (hperm.map Prod.fst).nodup_iff.mp (hnodup.sublist (hkept.map Prod.fst))

theorem fieldValues?_of_abridges (hnodup : (full.map Prod.fst).Nodup)
    (h : Abridges defaults full given) :
    fieldValues? (full.map Prod.fst) given = some ((full.map Prod.fst).map (lookup given)) := by
  have hknown : given.all (fun m => decide (m.1 ∈ full.map Prod.fst)) = true := by
    rw [List.all_eq_true]
    intro m hm
    exact decide_eq_true (List.mem_map_of_mem (h.members.subset hm))
  unfold fieldValues?
  dsimp only
  rw [List.all_map]
  exact if_pos ⟨hknown, h.nodup hnodup⟩

/-- A member is found unless it is left out. -/
theorem Abridges.lookup_cases (h : Abridges defaults full given)
    (hnodup : (full.map Prod.fst).Nodup) {m : String × Json} (hm : m ∈ full) :
    lookup given m.1 = some m.2 ∨ lookup given m.1 = none ∧ m ∈ defaults := by
  by_cases hgiven : m ∈ given
  · exact Or.inl (lookup_of_mem (h.nodup hnodup) hgiven)
  · refine Or.inr ⟨?_, h.leftOut m hm hgiven⟩
    cases hfound : lookup given m.1 with
    | none => rfl
    | some value =>
      have hother := mem_of_lookup hfound
      have hsame : (m.1, value) = m :=
        List.inj_on_of_nodup_map hnodup (h.members.subset hother) hm rfl
      exact absurd (hsame ▸ hother) hgiven

/-- A field without a default is always there. -/
theorem Abridges.required (h : Abridges defaults full given) (hnodup : (full.map Prod.fst).Nodup)
    {m : String × Json} (hm : m ∈ full) (hrequired : m ∉ defaults) :
    lookup given m.1 = some m.2 := by
  rcases h.lookup_cases hnodup hm with hfound | ⟨-, hdefault⟩
  · exact hfound
  · exact absurd hdefault hrequired

/-- A field with a default is read as what is written there, or left out. -/
theorem Abridges.orDefault (h : Abridges defaults full given) (hnodup : (full.map Prod.fst).Nodup)
    {m : String × Json} (hm : m ∈ full) {α : Type} {default a : α} {read : Json → Option α}
    (hread : read m.2 = some a) (hdefault : m ∈ defaults → a = default) :
    orDefault default read (lookup given m.1) = some a := by
  rcases h.lookup_cases hnodup hm with hfound | ⟨hnone, hleftOut⟩
  · rw [hfound]
    exact hread
  · rw [hnone, hdefault hleftOut]
    rfl

theorem Abridges.orNull (h : Abridges defaults full given) (hnodup : (full.map Prod.fst).Nodup)
    {name : String} {text : Option String} (hm : (name, PropertyEntry.optionalText text) ∈ full)
    (hdefault : (name, PropertyEntry.optionalText text) ∈ defaults → text = none) :
    orNull string? (lookup given name) = some text := by
  rcases h.lookup_cases hnodup hm with hfound | ⟨hnone, hleftOut⟩
  · rw [hfound]
    cases text <;> rfl
  · rw [hnone, hdefault hleftOut]
    rfl

theorem fieldValues?_of_spoils {names : List String} {members : List (String × Json)}
    (h : Spoils names given members) : fieldValues? names members = none := by
  cases h with
  | @member name value members perm extra =>
    have hnames := perm.map Prod.fst
    unfold fieldValues?
    refine if_neg ?_
    rintro ⟨hknown, hnodup⟩
    rcases extra with hunknown | hagain
    · have hmem : name ∈ members.map Prod.fst := hnames.mem_iff.mpr List.mem_cons_self
      exact hunknown (of_decide_eq_true (List.all_eq_true.mp hknown name hmem))
    · exact (List.nodup_cons.mp (hnames.nodup_iff.mp hnodup)).1 hagain

end Abridged

/-- Reading every item in turn. -/
theorem mapM_of_forall₂ {α : Type} {read : Json → Option α} {xs : List α} {items : List Json}
    (h : List.Forall₂ (fun x item => read item = some x) xs items) : items.mapM read = some xs := by
  induction h with
  | nil => rfl
  | cons hitem _ ih =>
    rw [List.mapM_cons, hitem, ih]
    rfl

theorem mapM_of_none {α : Type} {read : Json → Option α} {item : Json} (h : read item = none)
    (before after : List Json) : (before ++ item :: after).mapM read = none := by
  induction before with
  | nil =>
    rw [List.nil_append, List.mapM_cons, h]
    rfl
  | cons first rest ih =>
    rw [List.cons_append, List.mapM_cons, ih]
    cases read first <;> rfl

theorem mapM_string (texts : List String) : (texts.map Json.string).mapM string? = some texts := by
  refine mapM_of_forall₂ ?_
  rw [List.forall₂_map_right_iff]
  exact List.forall₂_same.mpr fun _ _ => rfl

end Json

/-! ### Entries -/

theorem Kind.ofName?_name (k : Kind) : ofName? k.name = some k := by
  cases k <;> rfl

theorem Kind.name_injective : Function.Injective name := by
  intro a b h
  have ha := ofName?_name a
  rw [h, ofName?_name] at ha
  exact (Option.some.inj ha).symm

namespace PropertyEntry

def members (e : PropertyEntry) : List (String × Json) :=
  [("name", .string e.name), ("kind", .string e.kind.name), ("alias", optionalText e.column),
    ("processors", .array (e.processors.map .string)), ("read_only", .bool e.readOnly)]

/-- The members that hold their defaults. -/
def defaults : List (String × Json) :=
  [("kind", .string Kind.any.name), ("alias", .null), ("processors", .array []),
    ("read_only", .bool false)]

/-- The documents of an entry. -/
inductive Written (e : PropertyEntry) : Json → Prop
  | object {given : List (String × Json)} (abridges : Json.Abridges defaults e.members given) :
    Written e (.object given)

theorem nodup_members (e : PropertyEntry) : (e.members.map Prod.fst).Nodup := by
  show fieldNames.Nodup
  decide

theorem ofJson?_of_written {e : PropertyEntry} {j : Json} (h : e.Written j) : ofJson? j = some e := by
  cases h with
  | @object given abridges =>
    have hnodup := e.nodup_members
    have hname : Json.lookup given "name" = some (.string e.name) :=
      abridges.required hnodup List.mem_cons_self (by simp [defaults])
    have hkind : Json.orDefault .any kind? (Json.lookup given "kind") = some e.kind := by
      refine abridges.orDefault (m := ("kind", .string e.kind.name)) hnodup (by simp [members])
        (Kind.ofName?_name e.kind) ?_
      intro hdefault
      have hany : e.kind.name = Kind.any.name := by simpa [defaults] using hdefault
      exact Kind.name_injective hany
    have hcolumn : Json.orNull Json.string? (Json.lookup given "alias") = some e.column := by
      refine abridges.orNull hnodup (by simp [members]) ?_
      intro hdefault
      cases hcolumn : e.column with
      | none => rfl
      | some column => simp [defaults, hcolumn, optionalText] at hdefault
    have hprocessors : Json.orDefault [] (fun j => j.array?.bind (List.mapM Json.string?))
        (Json.lookup given "processors") = some e.processors := by
      refine abridges.orDefault (m := ("processors", .array (e.processors.map .string))) hnodup
        (by simp [members]) (Json.mapM_string e.processors) ?_
      intro hdefault
      simpa [defaults] using hdefault
    have hreadOnly : Json.orDefault false Json.bool? (Json.lookup given "read_only") =
        some e.readOnly := by
      refine abridges.orDefault (m := ("read_only", .bool e.readOnly)) hnodup (by simp [members])
        rfl ?_
      intro hdefault
      simpa [defaults] using hdefault
    have hfields : (Json.object given).structure? fieldNames =
        some (fieldNames.map (Json.lookup given)) :=
      Json.fieldValues?_of_abridges hnodup abridges
    have hlist : fieldNames.map (Json.lookup given) = [some (.string e.name),
        Json.lookup given "kind", Json.lookup given "alias", Json.lookup given "processors",
        Json.lookup given "read_only"] := by
      rw [← hname]
      rfl
    unfold ofJson?
    rw [hfields, hlist]
    simp only [Option.bind_eq_bind, Option.bind_some, hkind, hcolumn, hprocessors, hreadOnly]
    rfl

theorem ofJson?_of_spoils {given members : List (String × Json)}
    (h : Json.Spoils fieldNames given members) : ofJson? (.object members) = none := by
  have hfields : (Json.object members).structure? fieldNames = none := Json.fieldValues?_of_spoils h
  unfold ofJson?
  rw [hfields]
  rfl

theorem number_not_mem_optionalText (text : Option String) (n : JsonNumber) :
    .number n ∉ (optionalText text).tokens := by
  cases text <;> simp [optionalText, Json.tokens]

theorem number_not_mem_toJson (e : PropertyEntry) (n : JsonNumber) :
    .number n ∉ e.toJson.tokens := by
  intro h
  obtain ⟨m, hm, hn⟩ := Json.number_mem_object.mp h
  simp only [List.mem_cons, List.not_mem_nil, or_false] at hm
  rcases hm with rfl | rfl | rfl | rfl | rfl
  · simp [Json.tokens] at hn
  · simp [Json.tokens] at hn
  · exact number_not_mem_optionalText e.column n hn
  · obtain ⟨item, hitem, hn⟩ := Json.number_mem_array.mp hn
    obtain ⟨name, -, rfl⟩ := List.mem_map.mp hitem
    simp [Json.tokens] at hn
  · simp [Json.tokens] at hn

/-- An entry as it is written has all its members. -/
theorem written_toJson (e : PropertyEntry) : e.Written e.toJson :=
  .object ⟨.refl e.members, fun _ hm hleftOut => absurd hm hleftOut⟩

end PropertyEntry

/-! ### Files -/

namespace RulesFile

/-- The members of a file whose entries have the given documents. -/
def members (f : RulesFile) (items : List Json) : List (String × Json) :=
  [("target", .string f.target), ("command", PropertyEntry.optionalText f.command),
    ("strict_columns", .bool f.strict), ("properties", .array items)]

def defaults : List (String × Json) := [("command", .null), ("strict_columns", .bool false)]

/-- The documents of a file. -/
inductive Written (f : RulesFile) : Json → Prop
  | object {items : List Json} {given : List (String × Json)}
    (entries : List.Forall₂ PropertyEntry.Written f.properties items)
    (abridges : Json.Abridges defaults (f.members items) given) : Written f (.object given)

/-- The documents of a file with one member too many, in the file's own object or in an entry's. -/
inductive Spoiled (f : RulesFile) : Json → Prop
  | root {items : List Json} {given members : List (String × Json)}
    (entries : List.Forall₂ PropertyEntry.Written f.properties items)
    (abridges : Json.Abridges defaults (f.members items) given)
    (extra : Json.Spoils fieldNames given members) : Spoiled f (.object members)
  | entry {before after : List Json} {given members root : List (String × Json)}
    (entries : List.Forall₂ PropertyEntry.Written f.properties (before ++ .object given :: after))
    (extra : Json.Spoils PropertyEntry.fieldNames given members)
    (abridges : Json.Abridges defaults (f.members (before ++ .object members :: after)) root) :
    Spoiled f (.object root)

/-- A file is read as its own members say and as its entries are read. -/
theorem ofJson?_of_abridges {f : RulesFile} {items : List Json} {given : List (String × Json)}
    (abridges : Json.Abridges defaults (f.members items) given) :
    ofJson? (.object given) = (items.mapM PropertyEntry.ofJson?).map
      fun properties => { f with properties } := by
  have hnodup : ((f.members items).map Prod.fst).Nodup := by
    show fieldNames.Nodup
    decide
  have htarget : Json.lookup given "target" = some (.string f.target) :=
    abridges.required hnodup List.mem_cons_self (by simp [defaults])
  have hcommand : Json.orNull Json.string? (Json.lookup given "command") = some f.command := by
    refine abridges.orNull hnodup (by simp [members]) ?_
    intro hdefault
    cases hcommand : f.command with
    | none => rfl
    | some command => simp [defaults, hcommand, PropertyEntry.optionalText] at hdefault
  have hstrict : Json.orDefault false Json.bool? (Json.lookup given "strict_columns") =
      some f.strict := by
    refine abridges.orDefault (m := ("strict_columns", .bool f.strict)) hnodup (by simp [members])
      rfl ?_
    intro hdefault
    simpa [defaults] using hdefault
  have hproperties : Json.lookup given "properties" = some (.array items) :=
    abridges.required (m := ("properties", .array items)) hnodup (by simp [members])
      (by simp [defaults])
  have hfields : (Json.object given).structure? fieldNames =
      some (fieldNames.map (Json.lookup given)) :=
    Json.fieldValues?_of_abridges hnodup abridges
  have hlist : fieldNames.map (Json.lookup given) = [some (.string f.target),
      Json.lookup given "command", Json.lookup given "strict_columns", some (.array items)] := by
    rw [← htarget, ← hproperties]
    rfl
  unfold ofJson?
  rw [hfields, hlist]
  simp only [Option.bind_eq_bind, Option.bind_some, hcommand, hstrict, Json.string?, Json.array?]
  cases items.mapM PropertyEntry.ofJson? <;> rfl

theorem ofJson?_of_written {f : RulesFile} {j : Json} (h : f.Written j) : ofJson? j = some f := by
  cases h with
  | object entries abridges =>
    have hentries := Json.mapM_of_forall₂ (entries.imp fun _ _ => PropertyEntry.ofJson?_of_written)
    rw [ofJson?_of_abridges abridges, hentries]
    rfl

theorem ofJson?_of_spoiled {f : RulesFile} {j : Json} (h : f.Spoiled j) : ofJson? j = none := by
  cases h with
  | @root items given members entries abridges extra =>
    have hfields : (Json.object members).structure? fieldNames = none :=
      Json.fieldValues?_of_spoils extra
    unfold ofJson?
    rw [hfields]
    rfl
  | entry entries extra abridges =>
    rw [ofJson?_of_abridges abridges, Json.mapM_of_none (PropertyEntry.ofJson?_of_spoils extra)]
    rfl

theorem written_toJson (f : RulesFile) : f.Written f.toJson := by
  refine @Written.object f (f.properties.map PropertyEntry.toJson) _ ?_ ⟨.refl _, ?_⟩
  · rw [List.forall₂_map_right_iff]
    exact List.forall₂_same.mpr fun e _ => e.written_toJson
  · intro m hm hleftOut
    exact absurd hm hleftOut

/-- No number is written into a file. -/
theorem number_not_mem_toJson (f : RulesFile) (n : JsonNumber) : .number n ∉ f.toJson.tokens := by
  intro h
  obtain ⟨m, hm, hn⟩ := Json.number_mem_object.mp h
  simp only [List.mem_cons, List.not_mem_nil, or_false] at hm
  rcases hm with rfl | rfl | rfl | rfl
  · simp [Json.tokens] at hn
  · exact PropertyEntry.number_not_mem_optionalText f.command n hn
  · simp [Json.tokens] at hn
  · obtain ⟨item, hitem, hn⟩ := Json.number_mem_array.mp hn
    obtain ⟨e, -, rfl⟩ := List.mem_map.mp hitem
    exact e.number_not_mem_toJson n hn

/-- A file is read back from the text that is written of it, and from every text of it with its
members in another order, with spaces around its tokens, and without members that hold their defaults.
With a member too many, of the file or of an entry, it is refused. -/
theorem written_files_are_read (f : RulesFile) :
    read f.toJson.render = .ok f ∧
    (∀ j text, f.Written j → j.Spells text.toList → read text = .ok f) ∧
    ∀ j text, f.Spoiled j → j.Spells text.toList → read text = .error .invalidRules := by
  have hwritten : ∀ j text, f.Written j → j.Spells text.toList → read text = .ok f := by
    intro j text hj htext
    unfold read parse?
    rw [Json.parse?_of_spells htext, Option.bind_some, ofJson?_of_written hj]
  refine ⟨?_, hwritten, ?_⟩
  · refine hwritten f.toJson _ f.written_toJson ?_
    rw [Json.render, String.toList_ofList]
    exact Json.spells_renderChars fun n hn => absurd hn (f.number_not_mem_toJson n)
  · intro j text hj htext
    unfold read parse?
    rw [Json.parse?_of_spells htext, Option.bind_some, ofJson?_of_spoiled hj]

/-- A file with its members turned round, its defaults left out and its tokens on lines of their own.
A second name makes its entry unreadable. -/
theorem written_files_are_read_turned_round :
    ∃ (f : RulesFile) (document : List (String × Json) → Json) (text : Json → String),
      f = ⟨"Order", none, true, [⟨"Id\n", .int, none, [], false⟩]⟩ ∧
      document = (fun entry => .object [("properties", .array [.object entry]),
        ("strict_columns", .bool true), ("target", .string "Order")]) ∧
      text = (fun j => String.ofList (j.tokens.flatMap fun t => ['\n', ' '] ++ t.chars)) ∧
      read (text (document [("kind", .string "int"), ("name", .string "Id\n")])) = .ok f ∧
      read (text (document [("kind", .string "int"), ("name", .string "Id\n"),
        ("name", .string "Id")])) = .error .invalidRules := by
  let e : PropertyEntry := ⟨"Id\n", .int, none, [], false⟩
  let f : RulesFile := ⟨"Order", none, true, [e]⟩
  let given : List (String × Json) := [("kind", .string "int"), ("name", .string "Id\n")]
  let root (items : List Json) : List (String × Json) :=
    [("properties", .array items), ("strict_columns", .bool true), ("target", .string "Order")]
  let document (entry : List (String × Json)) : Json := .object (root [.object entry])
  let text (j : Json) : String :=
    String.ofList (j.tokens.flatMap fun t => ['\n', ' '] ++ t.chars)
  have hspells (entry : List (String × Json))
      (h : ∀ n, .number n ∈ (document entry).tokens → n.WellFormed) :
      (document entry).Spells (text (document entry)).toList := by
    rw [String.toList_ofList]
    exact Json.spells_flatMap h (by simp [Json.isSpace])
  have hgiven : Json.Abridges PropertyEntry.defaults e.members given := by
    refine ⟨⟨e.members.take 2, .swap _ _ [], List.take_sublist 2 _⟩, ?_⟩
    intro m hm hleftOut
    simp only [PropertyEntry.members, List.mem_cons, List.not_mem_nil, or_false] at hm
    rcases hm with rfl | rfl | rfl | rfl | rfl
    · simp [given, e] at hleftOut
    · simp [given, e, Kind.name] at hleftOut
    · simp [PropertyEntry.defaults, e, PropertyEntry.optionalText]
    · simp [PropertyEntry.defaults, e]
    · simp [PropertyEntry.defaults, e]
  have hroot (items : List Json) : Json.Abridges defaults (f.members items) (root items) := by
    refine ⟨⟨(root items).reverse, List.reverse_perm _, ?_⟩, ?_⟩
    · exact .cons_cons _ (.cons _ (.cons_cons _ (.cons_cons _ .slnil)))
    · intro m hm hleftOut
      simp only [members, List.mem_cons, List.not_mem_nil, or_false] at hm
      rcases hm with rfl | rfl | rfl | rfl
      · simp [f, root] at hleftOut
      · simp [defaults, f, PropertyEntry.optionalText]
      · simp [f, root] at hleftOut
      · simp [root] at hleftOut
  have hentries : List.Forall₂ PropertyEntry.Written f.properties [.object given] :=
    .cons (.object hgiven) .nil
  have hextra : Json.Spoils PropertyEntry.fieldNames given (given ++ [("name", .string "Id")]) :=
    .member (List.perm_append_singleton _ _) (Or.inr (by decide))
  obtain ⟨-, hreads, hrefuses⟩ := written_files_are_read f
  refine ⟨f, document, text, rfl, rfl, rfl, ?_, ?_⟩
  · refine hreads _ _ (.object hentries (hroot _)) (hspells _ ?_)
    simp [document, root, given, Json.tokens, Json.itemTokens, Json.memberTokens]
  · refine hrefuses _ _ (@Spoiled.entry f [] [] given _ _ hentries hextra (hroot _)) (hspells _ ?_)
    simp [document, root, given, Json.tokens, Json.itemTokens, Json.memberTokens]

end RulesFile

end RecordMapping
