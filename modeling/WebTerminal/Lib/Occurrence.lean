import Mathlib.Data.List.Infix

/-!
# Occurrences of a word in a text

A word occurs at a position if the text from there begins with it.  `firstAt` is
the leftmost occurrence.  A word without a *border*, that is, no proper
beginning of it is also its end, does not overlap itself, so a scan that steps
over one occurrence misses no other (`OccursAt.gap`).
-/

set_option autoImplicit false

universe u

namespace Occurrence

variable {α : Type u}

/-- `word` stands in `text` at position `i`. -/
def OccursAt (word text : List α) (i : ℕ) : Prop := word <+: text.drop i

/-- No proper beginning of the word is its end. -/
def Unbordered (word : List α) : Prop :=
  ∀ k < word.length, 0 < k → word.take (word.length - k) ≠ word.drop k

theorem OccursAt.le_length {word text : List α} {i : ℕ} (h : OccursAt word text i)
    (hword : word ≠ []) : i + word.length ≤ text.length := by
  have hlen := h.length_le
  have hpos := List.length_pos_iff.mpr hword
  rw [List.length_drop] at hlen
  omega

theorem occursAt_drop {word text : List α} {p i : ℕ} :
    OccursAt word (text.drop p) i ↔ OccursAt word text (p + i) := by
  unfold OccursAt
  rw [List.drop_drop]

theorem occursAt_append {word more text : List α} {i : ℕ} :
    OccursAt (word ++ more) text i ↔
      OccursAt word text i ∧ OccursAt more text (i + word.length) := by
  constructor
  · intro h
    refine ⟨(List.prefix_append word more).trans h, ?_⟩
    have hmore := h.drop word.length
    rwa [List.drop_left, List.drop_drop] at hmore
  · rintro ⟨⟨rest, hrest⟩, hmore⟩
    unfold OccursAt at hmore ⊢
    rw [← List.drop_drop, ← hrest, List.drop_left] at hmore
    rw [← hrest]
    exact (List.prefix_append_right_inj word).mpr hmore

theorem occursAt_singleton {c : α} {text : List α} {i : ℕ} :
    OccursAt [c] text i ↔ text[i]? = some c := by
  unfold OccursAt
  rw [List.singleton_prefix_iff_head?_eq_some, List.head?_drop]

/-- Two occurrences of a word without a border do not overlap. -/
theorem OccursAt.gap {word text : List α} {i j : ℕ} (hword : Unbordered word)
    (hi : OccursAt word text i) (hj : OccursAt word text j) (hlt : i < j) :
    i + word.length ≤ j := by
  by_contra hclose
  apply hword (j - i) (by omega) (by omega)
  -- both sides are the stretch of the text that the two occurrences share
  have htail : word.drop (j - i) <+: text.drop j := by
    have := hi.drop (j - i)
    rwa [List.drop_drop, show i + (j - i) = j by omega] at this
  have hhead : word.take (word.length - (j - i)) <+: text.drop j :=
    (List.take_prefix _ word).trans hj
  refine (List.prefix_of_prefix_length_le hhead htail ?_).eq_of_length ?_
  all_goals
    rw [List.length_take, List.length_drop]
    omega

section

variable [DecidableEq α]

instance (word text : List α) (i : ℕ) : Decidable (OccursAt word text i) :=
  inferInstanceAs (Decidable (word <+: text.drop i))

instance (word : List α) : Decidable (Unbordered word) :=
  inferInstanceAs (Decidable (∀ k < word.length, 0 < k → _))

/-- The leftmost occurrence. -/
def firstAt (word text : List α) : Option ℕ :=
  (List.range (text.length + 1)).find? fun i => decide (OccursAt word text i)

theorem firstAt_eq_some_iff {word text : List α} {i : ℕ} :
    firstAt word text = some i ↔ OccursAt word text i ∧ ∀ j < i, ¬OccursAt word text j := by
  unfold firstAt
  rw [List.find?_range_eq_some]
  simp only [decide_eq_true_eq, Bool.not_eq_true', decide_eq_false_iff_not, List.mem_range]
  refine ⟨fun h => ⟨h.1, h.2.2⟩, fun h => ⟨h.1, ?_, h.2⟩⟩
  by_contra hpast
  -- behind the end only the empty word occurs, and that one occurs at once
  have hempty : word = [] := by
    have := h.1
    unfold OccursAt at this
    rwa [List.drop_eq_nil_of_le (by omega), List.prefix_nil] at this
  exact h.2 0 (by omega) (hempty ▸ List.nil_prefix)

theorem firstAt_eq_none_iff {word text : List α} :
    firstAt word text = none ↔ ∀ i, ¬OccursAt word text i := by
  unfold firstAt
  rw [List.find?_range_eq_none]
  simp only [Bool.not_eq_true', decide_eq_false_iff_not]
  refine ⟨fun h i hi => ?_, fun h i _ => h i⟩
  by_cases hle : i < text.length + 1
  · exact h i hle hi
  · have hempty : word = [] := by
      unfold OccursAt at hi
      rwa [List.drop_eq_nil_of_le (by omega), List.prefix_nil] at hi
    exact h 0 (by omega) (hempty ▸ List.nil_prefix)

/-- A search from the second position on. -/
theorem firstAt_cons {word rest : List α} {c : α} (h : ¬word <+: c :: rest) :
    firstAt word (c :: rest) = (firstAt word rest).map (· + 1) := by
  have hshift : ∀ i, OccursAt word (c :: rest) (i + 1) ↔ OccursAt word rest i := by
    intro i
    unfold OccursAt
    rw [List.drop_succ_cons]
  have hfirst : ¬OccursAt word (c :: rest) 0 := h
  cases hrest : firstAt word rest with
  | none =>
      rw [firstAt_eq_none_iff] at hrest
      refine firstAt_eq_none_iff.mpr fun i => ?_
      cases i with
      | zero => exact hfirst
      | succ i => exact fun hi => hrest i ((hshift i).mp hi)
  | some i =>
      obtain ⟨hi, hbefore⟩ := firstAt_eq_some_iff.mp hrest
      refine firstAt_eq_some_iff.mpr ⟨(hshift i).mpr hi, fun j hj => ?_⟩
      cases j with
      | zero => exact hfirst
      | succ j => exact fun hj' => hbefore j (Nat.lt_of_succ_lt_succ hj) ((hshift j).mp hj')

end

end Occurrence
