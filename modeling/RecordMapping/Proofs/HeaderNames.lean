import RecordMapping.Proofs.Words
import RecordMapping.Row.Csv.Cursor

/-!
# RecordMapping.Proofs.HeaderNames — when a column name is in normal form

Whatever the header, a column name keeps its characters but for blanks and for byte order marks at
the ends, and every blank left is one space between two other characters.  Normalization gives a
name back just when it is like this and has no mark at an end (`normalizeHeader_eq_self_iff`).

A mark can be left at an end.  The marks go before the blanks behind them do, so a further mark
behind these blanks comes to stand at the end (`SheltersMark`).
-/

namespace RecordMapping.Csv

open Text (isBlank nonBlank SingleSpaced Trimmed trimChars)

variable {c : Char} {cs : List Char}

/-! ### Blanks and marks at the ends -/

/-- What is left when the blanks at the ends are gone, and then the marks. -/
def stripped (cs : List Char) : List Char := Text.trimMatches (· == byteOrderMark) (trimChars cs)

theorem toList_normalizeHeader (raw : String) :
    (normalizeHeader raw).toList = Text.unwords (Text.words (stripped raw.toList)) := by
  simp [normalizeHeader, Text.unwords, stripped]

theorem singleSpaced_normalizeHeader (raw : String) :
    SingleSpaced (normalizeHeader raw).toList := by
  rw [toList_normalizeHeader]
  exact Text.singleSpaced_unwords fun _ => Text.isWord_of_mem_words

theorem nonBlank_normalizeHeader (raw : String) :
    nonBlank (normalizeHeader raw).toList = nonBlank (stripped raw.toList) := by
  rw [toList_normalizeHeader, Text.nonBlank_unwords_words]

theorem isBlank_byteOrderMark : isBlank byteOrderMark = false := by decide

theorem nonBlank_marks (h : ∀ c ∈ cs, c = byteOrderMark) : nonBlank cs = cs := by
  refine Text.nonBlank_eq_self ?_
  intro c hc
  rw [h c hc, isBlank_byteOrderMark]

/-- Neither end is a mark. -/
theorem trimmed_marks_iff :
    Trimmed (· == byteOrderMark) cs ↔
      cs.head? ≠ some byteOrderMark ∧ cs.getLast? ≠ some byteOrderMark := by
  constructor
  · intro h
    exact ⟨fun hc => by simpa using h.head _ hc, fun hc => by simpa using h.last _ hc⟩
  · rintro ⟨hhead, hlast⟩
    exact ⟨fun c hc => beq_eq_false_iff_ne.mpr fun h => hhead (h ▸ hc),
      fun c hc => beq_eq_false_iff_ne.mpr fun h => hlast (h ▸ hc)⟩

theorem unmarked_stripped (cs : List Char) :
    (stripped cs).head? ≠ some byteOrderMark ∧ (stripped cs).getLast? ≠ some byteOrderMark :=
  trimmed_marks_iff.mp (Text.trimmed_trimMatches _ _)

/-- Only marks go, and they go from the ends. -/
theorem exists_stripped (cs : List Char) :
    ∃ front back, (∀ c ∈ front ++ back, c = byteOrderMark) ∧
      trimChars cs = front ++ (stripped cs ++ back) ∧
      nonBlank cs = front ++ (nonBlank (stripped cs) ++ back) := by
  obtain ⟨front, back, hfront, hback, htrim⟩ :=
    Text.exists_trimMatches (· == byteOrderMark) (trimChars cs)
  have hfront : ∀ c ∈ front, c = byteOrderMark := by simpa using hfront
  have hback : ∀ c ∈ back, c = byteOrderMark := by simpa using hback
  refine ⟨front, back, List.forall_mem_append.mpr ⟨hfront, hback⟩, htrim, ?_⟩
  rw [← Text.nonBlank_trimChars, htrim, Text.nonBlank_append, Text.nonBlank_append,
    nonBlank_marks hfront, nonBlank_marks hback]
  rfl

theorem stripped_reverse (cs : List Char) : stripped cs.reverse = (stripped cs).reverse := by
  unfold stripped trimChars
  rw [Text.trimMatches_reverse, Text.trimMatches_reverse]

/-! ### Marks that are left -/

/-- But for the blanks at its ends, the text is marks, blanks, a mark again, and then something else
than marks alone. -/
def SheltersMark (cs : List Char) : Prop :=
  ∃ marks gap body, trimChars cs = marks ++ (gap ++ byteOrderMark :: body) ∧
    (marks ≠ [] ∧ ∀ c ∈ marks, c = byteOrderMark) ∧ (gap ≠ [] ∧ ∀ c ∈ gap, isBlank c = true) ∧
    ∃ c ∈ body, c ≠ byteOrderMark

theorem sheltersMark_of_head? (h : (nonBlank (stripped cs)).head? = some byteOrderMark) :
    SheltersMark cs := by
  obtain ⟨front, back, hmarks, htrim, -⟩ := exists_stripped cs
  obtain ⟨hhead, hlast⟩ := unmarked_stripped cs
  obtain ⟨rest, hrest⟩ := List.head?_eq_some_iff.mp h
  obtain ⟨gap, body, hstripped, hgap, -⟩ := List.filter_eq_cons_iff.mp hrest
  have hgap : ∀ c ∈ gap, isBlank c = true := by simpa using hgap
  have hgapSome : gap ≠ [] := by
    rintro rfl
    exact hhead (by rw [hstripped]; rfl)
  have hfrontSome : front ≠ [] := by
    rintro rfl
    obtain ⟨c, more, rfl⟩ := List.exists_cons_of_ne_nil hgapSome
    have hfirst : c ∈ (trimChars cs).head? := by
      rw [htrim, hstripped]
      rfl
    have hnotBlank := (Text.trimmed_trimMatches isBlank cs).head c hfirst
    cases hnotBlank.symm.trans (hgap c List.mem_cons_self)
  have hother : ∃ c ∈ body, c ≠ byteOrderMark := by
    by_contra hnone
    push Not at hnone
    have hall : ∀ c ∈ byteOrderMark :: body, c = byteOrderMark :=
      List.forall_mem_cons.mpr ⟨rfl, hnone⟩
    refine hlast ?_
    rw [hstripped, List.getLast?_append, List.getLast?_eq_some_getLast (List.cons_ne_nil _ _),
      hall _ (List.getLast_mem _)]
    rfl
  obtain ⟨c, hc, hne⟩ := hother
  refine ⟨front, gap, body ++ back, ?_, ⟨hfrontSome, (List.forall_mem_append.mp hmarks).1⟩,
    ⟨hgapSome, hgap⟩, c, List.mem_append_left _ hc, hne⟩
  rw [htrim, hstripped]
  simp

/-- In a text of more than marks, the last character that is none has only marks behind it. -/
theorem exists_last_other (h : ∃ c ∈ cs, c ≠ byteOrderMark) :
    ∃ init last back, cs = init ++ last :: back ∧ last ≠ byteOrderMark ∧
      ∀ c ∈ back, c = byteOrderMark := by
  induction cs with
  | nil => simp at h
  | cons first rest ih =>
    by_cases hrest : ∃ c ∈ rest, c ≠ byteOrderMark
    · obtain ⟨init, last, back, rfl, hlast, hback⟩ := ih hrest
      exact ⟨first :: init, last, back, rfl, hlast, hback⟩
    · obtain ⟨c, hc, hne⟩ := h
      push Not at hrest
      rcases List.mem_cons.mp hc with rfl | hc
      · exact ⟨[], c, rest, rfl, hne, hrest⟩
      · exact absurd (hrest c hc) hne

theorem SheltersMark.head? (h : SheltersMark cs) :
    (nonBlank (stripped cs)).head? = some byteOrderMark := by
  obtain ⟨marks, gap, body, htrim, ⟨-, hmarks⟩, ⟨hgapSome, hgap⟩, hother⟩ := h
  -- The marks at the front of the text go, and at its end those behind `last`.
  obtain ⟨init, last, back, rfl, hlast, hback⟩ := exists_last_other hother
  have hunmarked : Trimmed (· == byteOrderMark) (gap ++ byteOrderMark :: (init ++ [last])) := by
    refine trimmed_marks_iff.mpr ⟨?_, ?_⟩
    · obtain ⟨first, more, rfl⟩ := List.exists_cons_of_ne_nil hgapSome
      intro hfirst
      obtain rfl : first = byteOrderMark := by simpa using hfirst
      cases isBlank_byteOrderMark.symm.trans (hgap byteOrderMark List.mem_cons_self)
    · rw [← List.cons_append, ← List.append_assoc, List.getLast?_concat]
      exact fun h => hlast (Option.some.inj h)
  have hstripped : stripped cs = gap ++ byteOrderMark :: (init ++ [last]) := by
    have hsplit : trimChars cs =
        marks ++ ((gap ++ byteOrderMark :: (init ++ [last])) ++ back) := by
      simpa using htrim
    unfold stripped
    rw [hsplit]
    exact Text.trimMatches_append (by simpa using hmarks) hunmarked (by simpa using hback)
  rw [hstripped, Text.nonBlank_append, Text.nonBlank_eq_nil hgap]
  rfl

/-- A name begins with a mark just when the header shelters one. -/
theorem head?_normalizeHeader (raw : String) :
    (normalizeHeader raw).toList.head? = some byteOrderMark ↔ SheltersMark raw.toList := by
  rw [← (singleSpaced_normalizeHeader raw).trimmed.head?_nonBlank, nonBlank_normalizeHeader]
  exact ⟨sheltersMark_of_head?, SheltersMark.head?⟩

/-- A name ends with a mark just when the header, read backwards, shelters one. -/
theorem getLast?_normalizeHeader (raw : String) :
    (normalizeHeader raw).toList.getLast? = some byteOrderMark ↔
      SheltersMark raw.toList.reverse := by
  rw [← (singleSpaced_normalizeHeader raw).trimmed.getLast?_nonBlank, nonBlank_normalizeHeader,
    ← List.head?_reverse, ← Text.nonBlank_reverse, ← stripped_reverse]
  exact ⟨sheltersMark_of_head?, SheltersMark.head?⟩

/-! ### Normal forms -/

/-- The names that normalization leaves as they are. -/
theorem normalizeHeader_eq_self_iff {name : String} :
    normalizeHeader name = name ↔
      SingleSpaced name.toList ∧ name.toList.head? ≠ some byteOrderMark ∧
        name.toList.getLast? ≠ some byteOrderMark := by
  constructor
  · intro h
    have hspaced : SingleSpaced name.toList := h ▸ singleSpaced_normalizeHeader name
    refine ⟨hspaced, ?_⟩
    obtain ⟨front, back, -, htrim, hnonBlank⟩ := exists_stripped name.toList
    -- No character is lost, so no mark went.
    have hkept : nonBlank name.toList = nonBlank (stripped name.toList) := by
      rw [← nonBlank_normalizeHeader, h]
    have hlength := congrArg List.length hnonBlank
    rw [hkept, List.length_append, List.length_append] at hlength
    obtain rfl : front = [] := List.eq_nil_of_length_eq_zero (by omega)
    obtain rfl : back = [] := List.eq_nil_of_length_eq_zero (by omega)
    rw [trimChars, hspaced.trimmed.trimMatches_eq, List.nil_append, List.append_nil] at htrim
    rw [htrim]
    exact unmarked_stripped _
  · rintro ⟨hspaced, hunmarked⟩
    refine String.toList_injective ?_
    rw [toList_normalizeHeader, stripped, trimChars, hspaced.trimmed.trimMatches_eq,
      (trimmed_marks_iff.mpr hunmarked).trimMatches_eq, hspaced.unwords_words]

/-- Every column name is spaced singly and has the characters of its header that are not blank, but
for marks at the ends.  It has a mark at its front or at its end just when the header shelters one
there, and otherwise it is in normal form: normalization gives it back. -/
theorem normal_unless_mark_sheltered (raw : String) :
    let name := normalizeHeader raw
    (SingleSpaced name.toList ∧ Trimmed isBlank name.toList) ∧
    (∃ front back, (∀ c ∈ front ++ back, c = byteOrderMark) ∧
      nonBlank raw.toList = front ++ (nonBlank name.toList ++ back)) ∧
    (name.toList.head? = some byteOrderMark ↔ SheltersMark raw.toList) ∧
    (name.toList.getLast? = some byteOrderMark ↔ SheltersMark raw.toList.reverse) ∧
    (normalizeHeader name = name ↔
      ¬SheltersMark raw.toList ∧ ¬SheltersMark raw.toList.reverse) := by
  intro name
  have hspaced : SingleSpaced name.toList := singleSpaced_normalizeHeader raw
  obtain ⟨front, back, hmarks, -, hnonBlank⟩ := exists_stripped raw.toList
  rw [← nonBlank_normalizeHeader] at hnonBlank
  refine ⟨⟨hspaced, hspaced.trimmed⟩, ⟨front, back, hmarks, hnonBlank⟩,
    head?_normalizeHeader raw, getLast?_normalizeHeader raw, ?_⟩
  rw [normalizeHeader_eq_self_iff, ne_eq, ne_eq, head?_normalizeHeader, getLast?_normalizeHeader]
  exact ⟨fun h => h.2, fun h => ⟨hspaced, h⟩⟩

/-- A column whose name begins with a mark, which a second normalization takes off. -/
theorem sheltered_mark_left_over :
    let raw := String.ofList [byteOrderMark, ' ', byteOrderMark, 'A']
    (normalizeHeader raw).toList.head? = some byteOrderMark ∧
      normalizeHeader (normalizeHeader raw) ≠ normalizeHeader raw ∧
      ∃ c, CsvCursor.openInput {} ⟨Text.encode ("Id," ++ raw ++ "\n1,2\n"), none⟩ = .ok c ∧
        c.shape.columns = ["Id", String.ofList [byteOrderMark, 'A']] := by
  exact ⟨rfl, by decide, _, rfl, rfl⟩

end RecordMapping.Csv
