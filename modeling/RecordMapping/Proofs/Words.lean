import RecordMapping.Text.Blank
import Mathlib.Data.List.DropRight
import Mathlib.Data.List.TakeWhile

/-!
# RecordMapping.Proofs.Words — trimmed texts and single spaces

Trimming takes characters off the two ends and nothing else (`exists_trimMatches`), until neither
end has the property (`trimmed_trimMatches`); these two say what it gives (`trimMatches_append`).

The words of a text joined by single spaces have its characters but for the blanks
(`nonBlank_unwords_words`), and every blank among them is one space between two of these
(`singleSpaced_unwords`).  A text that is like this already is its words joined (`unwords_words`).
-/

namespace RecordMapping.Text

variable {p : Char → Bool} {cs : List Char}

/-! ### Trimming -/

/-- Neither end has the property. -/
structure Trimmed (p : Char → Bool) (cs : List Char) : Prop where
  head : ∀ c ∈ cs.head?, p c = false
  last : ∀ c ∈ cs.getLast?, p c = false

theorem Trimmed.of_forall (h : ∀ c ∈ cs, p c = false) : Trimmed p cs where
  head c hc := h c (List.mem_of_mem_head? hc)
  last c hc := h c (List.mem_of_mem_getLast? hc)

theorem Trimmed.reverse (h : Trimmed p cs) : Trimmed p cs.reverse where
  head c hc := h.last c (by rwa [List.head?_reverse] at hc)
  last c hc := h.head c (by rwa [List.getLast?_reverse] at hc)

theorem Trimmed.dropWhile_eq (h : Trimmed p cs) : cs.dropWhile p = cs := by
  cases cs with
  | nil => rfl
  | cons c rest => rw [List.dropWhile_cons_of_neg (by simp [h.head c rfl])]

theorem trimMatches_eq (p : Char → Bool) (cs : List Char) :
    trimMatches p cs = (cs.dropWhile p).rdropWhile p := rfl

theorem trimMatches_append {before core after : List Char} (hbefore : ∀ c ∈ before, p c = true)
    (hcore : Trimmed p core) (hafter : ∀ c ∈ after, p c = true) :
    trimMatches p (before ++ (core ++ after)) = core := by
  unfold trimMatches
  rw [List.dropWhile_append_of_pos hbefore]
  cases core with
  | nil =>
    rw [List.nil_append, List.dropWhile_eq_nil_iff.mpr hafter]
    rfl
  | cons d rest =>
    have hd : ¬ p d = true := by simp [hcore.head d rfl]
    rw [List.cons_append, List.dropWhile_cons_of_neg hd, ← List.cons_append, List.reverse_append,
      List.dropWhile_append_of_pos fun c hc => hafter c (List.mem_reverse.mp hc),
      hcore.reverse.dropWhile_eq, List.reverse_reverse]

/-- Trimming takes nothing but the characters at the two ends. -/
theorem exists_trimMatches (p : Char → Bool) (cs : List Char) :
    ∃ before after, (∀ c ∈ before, p c = true) ∧ (∀ c ∈ after, p c = true) ∧
      cs = before ++ (trimMatches p cs ++ after) := by
  refine ⟨cs.takeWhile p, (cs.dropWhile p).rtakeWhile p, fun _ => List.mem_takeWhile_imp,
    fun _ => List.mem_rtakeWhile_imp, ?_⟩
  rw [trimMatches_eq, List.rdropWhile_append_rtakeWhile, List.takeWhile_append_dropWhile]

theorem trimmed_trimMatches (p : Char → Bool) (cs : List Char) : Trimmed p (trimMatches p cs) := by
  rw [trimMatches_eq]
  constructor
  · intro c hc
    -- The second pass takes nothing from the front.
    obtain ⟨dropped, hdropped⟩ := List.rdropWhile_prefix p (l := cs.dropWhile p)
    have hhead : (cs.dropWhile p).head? = some c := by
      rw [← hdropped, List.head?_append, Option.mem_def.mp hc]
      rfl
    have h := List.head?_dropWhile_not p cs
    rw [hhead] at h
    exact h
  · intro c hc
    obtain ⟨hne, hlast⟩ := List.mem_getLast?_eq_getLast hc
    rw [hlast]
    exact Bool.eq_false_iff.mpr (List.rdropWhile_last_not p _ hne)

theorem Trimmed.trimMatches_eq (h : Trimmed p cs) : trimMatches p cs = cs := by
  have hnone : ∀ c ∈ ([] : List Char), p c = true := nofun
  simpa using trimMatches_append hnone h hnone

theorem trimMatches_reverse (p : Char → Bool) (cs : List Char) :
    trimMatches p cs.reverse = (trimMatches p cs).reverse := by
  obtain ⟨before, after, hbefore, hafter, hcs⟩ := exists_trimMatches p cs
  have hreverse : cs.reverse =
      after.reverse ++ ((trimMatches p cs).reverse ++ before.reverse) := by
    conv_lhs => rw [hcs]
    simp
  rw [hreverse]
  exact trimMatches_append (fun c hc => hafter c (List.mem_reverse.mp hc))
    (trimmed_trimMatches p cs).reverse (fun c hc => hbefore c (List.mem_reverse.mp hc))

/-! ### Characters that are not blank -/

/-- The characters that are not blank, in their order. -/
def nonBlank (cs : List Char) : List Char := cs.filter fun c => !isBlank c

@[simp] theorem nonBlank_append (cs ds : List Char) :
    nonBlank (cs ++ ds) = nonBlank cs ++ nonBlank ds := List.filter_append ..

@[simp] theorem nonBlank_reverse (cs : List Char) : nonBlank cs.reverse = (nonBlank cs).reverse :=
  List.filter_reverse

theorem nonBlank_eq_nil (h : ∀ c ∈ cs, isBlank c = true) : nonBlank cs = [] := by
  refine List.filter_eq_nil_iff.mpr ?_
  intro c hc
  simp [h c hc]

theorem nonBlank_eq_self (h : ∀ c ∈ cs, isBlank c = false) : nonBlank cs = cs := by
  refine List.filter_eq_self.mpr ?_
  intro c hc
  simp [h c hc]

theorem nonBlank_trimChars (cs : List Char) : nonBlank (trimChars cs) = nonBlank cs := by
  obtain ⟨before, after, hbefore, hafter, hcs⟩ := exists_trimMatches isBlank cs
  conv_rhs => rw [hcs]
  simp [trimChars, nonBlank_eq_nil hbefore, nonBlank_eq_nil hafter]

theorem Trimmed.head?_nonBlank (h : Trimmed isBlank cs) : (nonBlank cs).head? = cs.head? := by
  cases cs with
  | nil => rfl
  | cons c rest => simp [nonBlank, h.head c rfl]

theorem Trimmed.getLast?_nonBlank (h : Trimmed isBlank cs) :
    (nonBlank cs).getLast? = cs.getLast? := by
  rw [← List.head?_reverse, ← nonBlank_reverse, h.reverse.head?_nonBlank, List.head?_reverse]

/-! ### Words -/

structure IsWord (w : List Char) : Prop where
  ne_nil : w ≠ []
  notBlank : ∀ c ∈ w, isBlank c = false

theorem isWord_of_mem_wordsFrom {word w : List Char} (hword : ∀ c ∈ word, isBlank c = false)
    (h : w ∈ wordsFrom word cs) : IsWord w := by
  fun_induction wordsFrom word cs with
  | case1 => simp at h
  | case2 word hne =>
    obtain rfl := List.mem_singleton.mp h
    exact ⟨by simpa using hne, hword⟩
  | case3 word c rest hc hnil ih => exact ih nofun h
  | case4 word c rest hc hne ih =>
    rcases List.mem_cons.mp h with rfl | hrest
    · exact ⟨by simpa using hne, hword⟩
    · exact ih nofun hrest
  | case5 word c rest hc ih =>
    refine ih ?_ h
    intro d hd
    rcases List.mem_append.mp hd with hd | hd
    · exact hword d hd
    · obtain rfl := List.mem_singleton.mp hd
      simpa using hc

theorem isWord_of_mem_words {w : List Char} (h : w ∈ words cs) : IsWord w :=
  isWord_of_mem_wordsFrom (List.forall_mem_nil _) h

theorem flatten_wordsFrom (word cs : List Char) :
    (wordsFrom word cs).flatten = word ++ nonBlank cs := by
  fun_induction wordsFrom word cs with
  | case1 word hnil => simp [nonBlank, List.isEmpty_iff.mp hnil]
  | case2 word hne => simp [nonBlank]
  | case3 word c rest hc hnil ih => simp [nonBlank, hc, ih, List.isEmpty_iff.mp hnil]
  | case4 word c rest hc hne ih => simp [nonBlank, hc, ih]
  | case5 word c rest hc ih => simp [nonBlank, hc, ih]

/-! ### Words joined by single spaces -/

def unwords (ws : List (List Char)) : List Char := [' '].intercalate ws

/-- Every blank is one space, between two characters that are not blank. -/
def SingleSpaced (cs : List Char) : Prop :=
  ∀ before c after, cs = before ++ c :: after → isBlank c = true →
    c = ' ' ∧ (∃ x ∈ before.getLast?, isBlank x = false) ∧ ∃ y ∈ after.head?, isBlank y = false

variable {w : List Char} {ws : List (List Char)}

theorem unwords_cons (hws : ws ≠ []) : unwords (w :: ws) = w ++ ' ' :: unwords ws := by
  unfold unwords
  rw [List.intercalate_cons_of_ne_nil hws, List.append_assoc]
  rfl

theorem unwords_ne_nil (hws : ws ≠ []) (h : ∀ w ∈ ws, IsWord w) : unwords ws ≠ [] := by
  obtain ⟨w, rest, rfl⟩ := List.exists_cons_of_ne_nil hws
  cases rest with
  | nil => simpa [unwords] using (h w List.mem_cons_self).ne_nil
  | cons next more => simp [unwords_cons]

theorem nonBlank_unwords (h : ∀ w ∈ ws, IsWord w) : nonBlank (unwords ws) = ws.flatten := by
  induction ws with
  | nil => rfl
  | cons w rest ih =>
    obtain ⟨hw, hrest⟩ := List.forall_mem_cons.mp h
    have hword := nonBlank_eq_self hw.notBlank
    cases rest with
    | nil => simpa [unwords] using hword
    | cons next more =>
      rw [unwords_cons (List.cons_ne_nil _ _), nonBlank_append, hword, List.flatten_cons,
        ← ih hrest]
      rfl

/-- Splitting at blanks and joining again moves no other character. -/
theorem nonBlank_unwords_words (cs : List Char) : nonBlank (unwords (words cs)) = nonBlank cs := by
  rw [nonBlank_unwords fun _ => isWord_of_mem_words]
  exact flatten_wordsFrom [] cs

theorem SingleSpaced.trimmed (h : SingleSpaced cs) : Trimmed isBlank cs := by
  constructor
  · intro c hc
    obtain ⟨rest, rfl⟩ := List.head?_eq_some_iff.mp hc
    by_contra hblank
    obtain ⟨-, ⟨x, hx, -⟩, -⟩ := h [] c rest rfl (by simpa using hblank)
    cases hx
  · intro c hc
    obtain ⟨init, rfl⟩ := List.getLast?_eq_some_iff.mp hc
    by_contra hblank
    obtain ⟨-, -, y, hy, -⟩ := h init c [] rfl (by simpa using hblank)
    cases hy

theorem singleSpaced_of_notBlank (h : ∀ c ∈ cs, isBlank c = false) : SingleSpaced cs := by
  rintro before c after rfl hc
  cases hc.symm.trans (h c (by simp))

/-- A word, a space and a text that is not empty. -/
theorem SingleSpaced.word_append (hw : IsWord w) (h : SingleSpaced cs) (hcs : cs ≠ []) :
    SingleSpaced (w ++ ' ' :: cs) := by
  have hbetween : (∃ x ∈ w.getLast?, isBlank x = false) ∧ ∃ y ∈ cs.head?, isBlank y = false := by
    obtain ⟨init, x, rfl⟩ := (List.eq_nil_or_concat' w).resolve_left hw.ne_nil
    obtain ⟨y, rest, rfl⟩ := List.exists_cons_of_ne_nil hcs
    exact ⟨⟨x, by simp, hw.notBlank x (by simp)⟩, y, rfl, h.trimmed.head y rfl⟩
  intro before c after hsplit hc
  rcases List.append_eq_append_iff.mp hsplit with ⟨gap, rfl, hgap⟩ | ⟨gap, rfl, hgap⟩
  · -- The blank is the space, or it stands behind it.
    cases gap with
    | nil =>
      obtain ⟨rfl, rfl⟩ := List.cons.inj hgap
      exact ⟨rfl, by simpa using hbetween.1, hbetween.2⟩
    | cons space gap =>
      obtain ⟨rfl, hrest⟩ := List.cons.inj hgap
      obtain ⟨hspace, ⟨x, hx, hbefore⟩, hafter⟩ := h gap c after hrest hc
      have hlast : (w ++ ' ' :: gap).getLast? = some x := by
        rw [List.getLast?_append, List.getLast?_cons, Option.mem_def.mp hx]
        rfl
      exact ⟨hspace, ⟨x, hlast, hbefore⟩, hafter⟩
  · -- A word has no blank.
    cases gap with
    | nil =>
      obtain ⟨rfl, rfl⟩ := List.cons.inj hgap
      exact ⟨rfl, by simpa using hbetween.1, hbetween.2⟩
    | cons d gap =>
      obtain ⟨rfl, -⟩ := List.cons.inj hgap
      cases hc.symm.trans (hw.notBlank c (by simp))

theorem singleSpaced_unwords (h : ∀ w ∈ ws, IsWord w) : SingleSpaced (unwords ws) := by
  induction ws with
  | nil => exact singleSpaced_of_notBlank nofun
  | cons w rest ih =>
    obtain ⟨hw, hrest⟩ := List.forall_mem_cons.mp h
    by_cases hnil : rest = []
    · subst hnil
      exact singleSpaced_of_notBlank (by simpa [unwords] using hw.notBlank)
    · rw [unwords_cons hnil]
      exact .word_append hw (ih hrest) (unwords_ne_nil hnil hrest)

theorem SingleSpaced.after_space {word : List Char} (h : SingleSpaced (word ++ ' ' :: cs)) :
    SingleSpaced cs := by
  rintro before c after rfl hc
  obtain ⟨hspace, ⟨x, hx, hbefore⟩, hafter⟩ :=
    h (word ++ ' ' :: before) c after (by simp) hc
  refine ⟨hspace, ⟨x, ?_, hbefore⟩, hafter⟩
  cases before using List.reverseRecOn with
  | nil =>
    obtain rfl : ' ' = x := by simpa using hx
    cases hbefore
  | append_singleton init last => simpa [List.getLast?_append, List.getLast?_cons] using hx

theorem unwords_wordsFrom {word : List Char} (h : SingleSpaced (word ++ cs)) :
    unwords (wordsFrom word cs) = word ++ cs := by
  fun_induction wordsFrom word cs with
  | case1 word hnil => simp [unwords, List.isEmpty_iff.mp hnil]
  | case2 word hne => simp [unwords]
  | case3 word c rest hc hnil ih =>
    obtain rfl := List.isEmpty_iff.mp hnil
    cases hc.symm.trans (h.trimmed.head c rfl)
  | case4 word c rest hc hne ih =>
    -- The blank is one space, so joining puts back just what splitting took out.
    obtain ⟨rfl, -, y, hy, -⟩ := h word c rest rfl hc
    have hrest : unwords (wordsFrom [] rest) = rest := ih h.after_space
    have hsome : wordsFrom [] rest ≠ [] := by
      intro hnone
      rw [hnone] at hrest
      subst hrest
      cases hy
    rw [unwords_cons hsome, hrest]
  | case5 word c rest hc ih =>
    rw [ih (by simpa using h)]
    simp

theorem SingleSpaced.unwords_words (h : SingleSpaced cs) : unwords (words cs) = cs :=
  unwords_wordsFrom h

end RecordMapping.Text
