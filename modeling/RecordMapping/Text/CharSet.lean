/-!
# RecordMapping.Text.CharSet — sets of characters

A set is a list of ranges of code points, in order and with a gap between every two, so that a set
has one list.  Union inserts range after range; the other operations go through the complement,
which is the list of the gaps.  The lemmas `contains_…` say of each operation which characters its
result has.
-/

namespace RecordMapping.Text

def inRanges (ranges : List (Nat × Nat)) (c : Char) : Bool :=
  ranges.any fun r => decide (r.1 ≤ c.toNat ∧ c.toNat ≤ r.2)

namespace CharSet

/-- Is the code point in one of the ranges? -/
def Covers (rs : List (Nat × Nat)) (n : Nat) : Prop := ∃ r ∈ rs, r.1 ≤ n ∧ n ≤ r.2

theorem covers_nil (n : Nat) : ¬ Covers [] n := fun ⟨_, h, _⟩ => List.not_mem_nil h

theorem covers_cons {r : Nat × Nat} {rs : List (Nat × Nat)} {n : Nat} :
    Covers (r :: rs) n ↔ (r.1 ≤ n ∧ n ≤ r.2) ∨ Covers rs n := by
  simp [Covers]

theorem inRanges_iff {rs : List (Nat × Nat)} {c : Char} :
    inRanges rs c = true ↔ Covers rs c.toNat := by
  simp [inRanges, Covers]

/-- No range is empty, and at least one code point lies between a range and those after it. -/
def Separated (rs : List (Nat × Nat)) : Prop :=
  (∀ r ∈ rs, r.1 ≤ r.2) ∧ rs.Pairwise fun r s => r.2 + 1 < s.1

theorem Separated.tail {r : Nat × Nat} {rs : List (Nat × Nat)} (h : Separated (r :: rs)) :
    Separated rs :=
  ⟨fun s hs => h.1 s (List.mem_cons_of_mem r hs), h.2.tail⟩

theorem Separated.cons {r : Nat × Nat} {rs : List (Nat × Nat)} (hr : r.1 ≤ r.2)
    (h : ∀ s ∈ rs, r.2 + 1 < s.1) (hs : Separated rs) : Separated (r :: rs) :=
  ⟨List.forall_mem_cons.2 ⟨hr, hs.1⟩, List.pairwise_cons.2 ⟨h, hs.2⟩⟩

theorem Separated.head_lt {r : Nat × Nat} {rs : List (Nat × Nat)} (h : Separated (r :: rs)) :
    ∀ s ∈ rs, r.2 + 1 < s.1 := (List.pairwise_cons.1 h.2).1

/-! ### Inserting a range -/

/-- Ranges that touch the new one become one with it. -/
def insertRange (low high : Nat) : List (Nat × Nat) → List (Nat × Nat)
  | [] => [(low, high)]
  | (a, b) :: rest =>
    if high + 1 < a then (low, high) :: (a, b) :: rest
    else if b + 1 < low then (a, b) :: insertRange low high rest
    else insertRange (min low a) (max high b) rest

theorem le_of_mem_insertRange {n low high : Nat} {rs : List (Nat × Nat)} (hl : n ≤ low)
    (h : ∀ r ∈ rs, n ≤ r.1) : ∀ s ∈ insertRange low high rs, n ≤ s.1 := by
  induction rs generalizing low high with
  | nil => simpa [insertRange] using hl
  | cons r rs ih =>
    have hr := h r List.mem_cons_self
    have hrs : ∀ s ∈ rs, n ≤ s.1 := fun s hs => h s (List.mem_cons_of_mem r hs)
    rw [insertRange]
    split
    · exact List.forall_mem_cons.2 ⟨hl, h⟩
    · split
      · exact List.forall_mem_cons.2 ⟨hr, ih hl hrs⟩
      · exact ih (Nat.le_min.2 ⟨hl, hr⟩) hrs

theorem separated_insertRange {low high : Nat} {rs : List (Nat × Nat)} (hlh : low ≤ high)
    (h : Separated rs) : Separated (insertRange low high rs) := by
  induction rs generalizing low high with
  | nil => exact Separated.cons hlh (by simp) h
  | cons r rs ih =>
    have hr := h.1 r List.mem_cons_self
    rw [insertRange]
    split
    case isTrue hlt =>
      refine Separated.cons hlh (List.forall_mem_cons.2 ⟨hlt, fun s hs => ?_⟩) h
      have := h.head_lt s hs
      dsimp only
      omega
    case isFalse =>
      split
      case isTrue hlt =>
        refine Separated.cons hr (le_of_mem_insertRange (n := r.2 + 2) hlt ?_) (ih hlh h.tail)
        exact h.head_lt
      case isFalse =>
        exact ih (Nat.le_trans (Nat.min_le_left low r.1)
          (Nat.le_trans hlh (Nat.le_max_left high r.2))) h.tail

theorem covers_insertRange {low high n : Nat} {rs : List (Nat × Nat)} (hlh : low ≤ high)
    (h : ∀ r ∈ rs, r.1 ≤ r.2) :
    Covers (insertRange low high rs) n ↔ (low ≤ n ∧ n ≤ high) ∨ Covers rs n := by
  induction rs generalizing low high with
  | nil => rw [insertRange, covers_cons]
  | cons r rs ih =>
    have hr := h r List.mem_cons_self
    have hrs : ∀ s ∈ rs, s.1 ≤ s.2 := fun s hs => h s (List.mem_cons_of_mem r hs)
    rw [insertRange]
    split
    case isTrue => exact covers_cons
    case isFalse =>
      split
      case isTrue =>
        rw [covers_cons, ih hlh hrs, covers_cons]
        exact or_left_comm
      case isFalse =>
        rw [ih (by omega) hrs, covers_cons, ← or_assoc]
        refine or_congr_left ?_
        omega

/-! ### Gaps -/

def lastCodePoint : Nat := 0x10FFFF

/-- The code points from `first` on that are in none of the ranges. -/
def gaps (first : Nat) : List (Nat × Nat) → List (Nat × Nat)
  | [] => if first ≤ lastCodePoint then [(first, lastCodePoint)] else []
  | (a, b) :: rest =>
    if first < a then (first, a - 1) :: gaps (b + 1) rest else gaps (b + 1) rest

theorem le_of_mem_gaps {n first : Nat} {rs : List (Nat × Nat)} (hn : n ≤ first)
    (h : ∀ r ∈ rs, n ≤ r.2 + 1) : ∀ s ∈ gaps first rs, n ≤ s.1 := by
  induction rs generalizing first with
  | nil =>
    intro s hs
    rw [gaps] at hs
    split at hs
    · simp at hs
      rw [hs]
      exact hn
    · simp at hs
  | cons r rs ih =>
    have hr := h r List.mem_cons_self
    have hrs : ∀ s ∈ rs, n ≤ s.2 + 1 := fun s hs => h s (List.mem_cons_of_mem r hs)
    rw [gaps]
    split
    · exact List.forall_mem_cons.2 ⟨hn, ih hr hrs⟩
    · exact ih hr hrs

theorem separated_gaps {first : Nat} {rs : List (Nat × Nat)} (h : Separated rs) :
    Separated (gaps first rs) := by
  induction rs generalizing first with
  | nil =>
    rw [gaps]
    split
    case isTrue hle => exact Separated.cons hle (by simp) h
    case isFalse => exact h
  | cons r rs ih =>
    have hr := h.1 r List.mem_cons_self
    rw [gaps]
    split
    case isTrue hlt =>
      refine Separated.cons (Nat.le_sub_one_of_lt hlt)
        (le_of_mem_gaps (n := r.1 - 1 + 2) (by omega) fun s hs => ?_) (ih h.tail)
      have := h.head_lt s hs
      have := h.1 s (List.mem_cons_of_mem r hs)
      omega
    case isFalse => exact ih h.tail

theorem covers_gaps {first n : Nat} {rs : List (Nat × Nat)} (hn : n ≤ lastCodePoint)
    (h : Separated rs) (hf : ∀ r ∈ rs, first ≤ r.1) :
    Covers (gaps first rs) n ↔ first ≤ n ∧ ¬ Covers rs n := by
  induction rs generalizing first with
  | nil =>
    rw [gaps, and_iff_left (covers_nil n)]
    split
    case isTrue => rw [covers_cons, or_iff_left (covers_nil n), and_iff_left hn]
    case isFalse hlt => exact iff_of_false (covers_nil n) (by omega)
  | cons r rs ih =>
    have hr := h.1 r List.mem_cons_self
    have hfr := hf r List.mem_cons_self
    have hrest := ih h.tail fun s hs => Nat.le_of_lt (h.head_lt s hs)
    have hlow : Covers rs n → r.2 + 1 < n := fun ⟨s, hs, hsn, _⟩ =>
      Nat.lt_of_lt_of_le (h.head_lt s hs) hsn
    rw [gaps, covers_cons]
    split
    case isTrue =>
      rw [covers_cons, hrest]
      dsimp only
      by_cases hc : Covers rs n
      · have := hlow hc
        simp only [hc, not_true_eq_false, and_false, or_false, or_true, iff_false]
        omega
      · simp only [hc, not_false_eq_true, and_true, or_false]
        omega
    case isFalse =>
      rw [hrest]
      by_cases hc : Covers rs n
      · simp only [hc, not_true_eq_false, and_false, or_true]
      · simp only [hc, not_false_eq_true, and_true, or_false]
        omega

end CharSet

structure CharSet where
  ranges : List (Nat × Nat)
  separated : CharSet.Separated ranges

instance : DecidableEq CharSet := fun a b =>
  if h : a.ranges = b.ranges then isTrue (by cases a; cases b; cases h; rfl)
  else isFalse fun e => h (e ▸ rfl)

namespace CharSet

def empty : CharSet := ⟨[], by simp [Separated]⟩

def insert (s : CharSet) (low high : Nat) : CharSet :=
  if h : low ≤ high then ⟨insertRange low high s.ranges, separated_insertRange h s.separated⟩
  else s

def range (low high : Char) : CharSet := empty.insert low.toNat high.toNat

def single (c : Char) : CharSet := range c c

def union (s t : CharSet) : CharSet := t.ranges.foldl (fun u r => u.insert r.1 r.2) s

def unionAll (sets : List CharSet) : CharSet := sets.foldl union empty

def complement (s : CharSet) : CharSet := ⟨gaps 0 s.ranges, separated_gaps s.separated⟩

def all : CharSet := empty.complement

def inter (s t : CharSet) : CharSet := (s.complement.union t.complement).complement

def diff (s t : CharSet) : CharSet := s.inter t.complement

/-- What is in one of the two sets only. -/
def symmDiff (s t : CharSet) : CharSet := (s.union t).diff (s.inter t)

def contains (s : CharSet) (c : Char) : Bool := inRanges s.ranges c

def isEmpty (s : CharSet) : Bool := s.ranges.isEmpty

/-- The character of a set that has only one. -/
def only? (s : CharSet) : Option Char :=
  match s.ranges with
  | [(a, b)] => if a = b then some (Char.ofNat a) else none
  | _ => none

/-- With each ASCII letter also the other case of it. -/
def foldAscii (s : CharSet) : CharSet :=
  let capitals := s.inter (range 'A' 'Z')
  let smalls := s.inter (range 'a' 'z')
  let folded := capitals.ranges.foldl (fun u r => u.insert (r.1 + 32) (r.2 + 32)) s
  smalls.ranges.foldl (fun u r => u.insert (r.1 - 32) (r.2 - 32)) folded

def isAscii (s : CharSet) : Bool := s.ranges.all fun r => decide (r.2 < 0x80)

/-! ### Membership -/

theorem toNat_le_lastCodePoint (c : Char) : c.toNat ≤ lastCodePoint := by
  have h := c.valid
  unfold lastCodePoint
  simp only [UInt32.isValidChar, Nat.isValidChar, Char.toNat] at h ⊢
  omega

theorem contains_iff {s : CharSet} {c : Char} : s.contains c = true ↔ Covers s.ranges c.toNat :=
  inRanges_iff

theorem contains_empty (c : Char) : empty.contains c = false := rfl

theorem contains_insert {s : CharSet} {low high : Nat} {c : Char} :
    (s.insert low high).contains c = true ↔
      (low ≤ c.toNat ∧ c.toNat ≤ high) ∨ s.contains c = true := by
  unfold insert
  split
  case isTrue h =>
    rw [contains_iff, contains_iff]
    exact covers_insertRange h s.separated.1
  case isFalse h => exact (or_iff_right fun hc => h (Nat.le_trans hc.1 hc.2)).symm

theorem contains_insertAll {s : CharSet} {rs : List (Nat × Nat)} {c : Char} :
    (rs.foldl (fun u r => u.insert r.1 r.2) s).contains c = true ↔
      s.contains c = true ∨ Covers rs c.toNat := by
  induction rs generalizing s with
  | nil => exact (or_iff_left (covers_nil c.toNat)).symm
  | cons r rs ih =>
    rw [List.foldl_cons, ih, contains_insert, covers_cons, or_assoc]
    exact or_left_comm

theorem contains_union {s t : CharSet} {c : Char} :
    (s.union t).contains c = (s.contains c || t.contains c) := by
  rw [Bool.eq_iff_iff, Bool.or_eq_true, contains_iff (s := t)]
  exact contains_insertAll

theorem contains_complement {s : CharSet} {c : Char} :
    s.complement.contains c = !s.contains c := by
  rw [Bool.eq_iff_iff, Bool.not_eq_true', ← Bool.not_eq_true, contains_iff, contains_iff]
  exact (covers_gaps (toNat_le_lastCodePoint c) s.separated fun r _ => Nat.zero_le r.1).trans
    (and_iff_right (Nat.zero_le c.toNat))

theorem contains_inter {s t : CharSet} {c : Char} :
    (s.inter t).contains c = (s.contains c && t.contains c) := by
  simp [inter, contains_complement, contains_union]

theorem contains_diff {s t : CharSet} {c : Char} :
    (s.diff t).contains c = (s.contains c && !t.contains c) := by
  simp [diff, contains_inter, contains_complement]

theorem contains_symmDiff {s t : CharSet} {c : Char} :
    (s.symmDiff t).contains c = (s.contains c ^^ t.contains c) := by
  rw [symmDiff, contains_diff, contains_union, contains_inter]
  cases s.contains c <;> cases t.contains c <;> rfl

end CharSet

end RecordMapping.Text
