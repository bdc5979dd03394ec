import Mathlib.Data.List.Basic
import Mathlib.Tactic.Common

/-!
# Lines of a stream

The texts in front of the separators of a stream. What comes after the last separator is
not a line yet.
-/

namespace Lines

variable {α : Type} [DecidableEq α] {sep : α} {l s : List α}

def lines (sep : α) (s : List α) : List (List α) := (s.splitOn sep).dropLast

lemma lines_of_notMem (h : sep ∉ s) : lines sep s = [] := by
  rw [lines, List.splitOn_eq_singleton h]
  rfl

lemma lines_line (h : sep ∉ l) (s : List α) : lines sep (l ++ sep :: s) = l :: lines sep s := by
  unfold lines
  rw [List.splitOn_append_cons_self_of_not_mem h]
  exact List.dropLast_cons_of_ne_nil (List.splitOn_ne_nil sep s)

/-- A stream either has no separator or begins with a line. -/
@[elab_as_elim]
lemma lines_induction {P : List α → Prop} (sep : α) (rest : ∀ s, sep ∉ s → P s)
    (line : ∀ l s, sep ∉ l → P s → P (l ++ sep :: s)) (s : List α) : P s := by
  induction hn : s.length using Nat.strongRecOn generalizing s with
  | _ n ih =>
    by_cases h : sep ∈ s
    · obtain ⟨l, t, rfl, hl⟩ := List.eq_append_cons_of_mem h
      apply line l t hl
      apply ih t.length _ t rfl
      rw [← hn, List.length_append, List.length_cons]
      omega
    · exact rest s h

/-- There are as many lines as separators. -/
lemma length_lines (sep : α) (s : List α) : (lines sep s).length = s.count sep := by
  induction s using lines_induction sep with
  | rest s h => rw [lines_of_notMem h, List.count_eq_zero.mpr h, List.length_nil]
  | line l s hl ih =>
    rw [lines_line hl, List.length_cons, ih, List.count_append, List.count_eq_zero.mpr hl,
      List.count_cons_self, Nat.zero_add]

/-- No part of a stream that is split has a separator. -/
lemma notMem_of_mem_splitOn (h : l ∈ s.splitOn sep) : sep ∉ l := by
  induction s using lines_induction sep with
  | rest s hs =>
    rw [List.splitOn_eq_singleton hs, List.mem_singleton] at h
    exact h ▸ hs
  | line k s hk ih =>
    rw [List.splitOn_append_cons_self_of_not_mem hk] at h
    rcases List.mem_cons.mp h with rfl | h
    · exact hk
    · exact ih h

/-- The text after the last separator. -/
def rest (sep : α) (s : List α) : List α := (s.splitOn sep).getLastD []

lemma rest_of_notMem (h : sep ∉ s) : rest sep s = s := by
  rw [rest, List.splitOn_eq_singleton h]
  rfl

lemma rest_line (h : sep ∉ l) (s : List α) : rest sep (l ++ sep :: s) = rest sep s := by
  unfold rest
  rw [List.splitOn_append_cons_self_of_not_mem h]
  obtain ⟨a, as, has⟩ := List.exists_cons_of_ne_nil (List.splitOn_ne_nil sep s)
  rw [has]
  rfl

/-- Lines with their separators. -/
def unlines (sep : α) (ls : List (List α)) : List α := ls.flatMap (· ++ [sep])

lemma unlines_lines (sep : α) (s : List α) : unlines sep (lines sep s) ++ rest sep s = s := by
  induction s using lines_induction sep with
  | rest s h =>
    rw [lines_of_notMem h, rest_of_notMem h]
    rfl
  | line l s hl ih =>
    rw [lines_line hl, rest_line hl, unlines, List.flatMap_cons, ← unlines, List.append_assoc, ih,
      List.append_assoc, List.singleton_append]

/-- The lines of a stream of whole lines and of what follows it. -/
lemma lines_append (h : rest sep s = []) (t : List α) :
    lines sep (s ++ t) = lines sep s ++ lines sep t := by
  induction s using lines_induction sep with
  | rest s hs =>
    rw [rest_of_notMem hs] at h
    rw [h, List.nil_append, lines_of_notMem List.not_mem_nil, List.nil_append]
  | line l s hl ih =>
    rw [rest_line hl] at h
    rw [List.append_assoc, List.cons_append, lines_line hl, lines_line hl, ih h, List.cons_append]

/-- No text without a separator is `n` long, wherever it stands in the stream. -/
def Short (sep : α) (n : ℕ) (s : List α) : Prop := ∀ l, l <:+: s → sep ∉ l → l.length < n

omit [DecidableEq α] in
lemma Short.of_infix {n : ℕ} (h : Short sep n s) {t : List α} (ht : t <:+: s) : Short sep n t :=
  fun k hk => h k (hk.trans ht)

omit [DecidableEq α] in
lemma eq_nil_of_prefix_cons {k : List α} (h : k <+: sep :: s) (hk : sep ∉ k) : k = [] := by
  cases k with
  | nil => rfl
  | cons a k =>
    rw [(List.cons_prefix_cons.mp h).1] at hk
    exact absurd List.mem_cons_self hk

lemma short_of_lines {n : ℕ} (h : ∀ l ∈ lines sep s, l.length < n) (hrest : rest sep s = [])
    (hn : 0 < n) : Short sep n s := by
  induction s using lines_induction sep with
  | rest s hs =>
    intro k hk _
    rw [rest_of_notMem hs] at hrest
    rw [hrest, List.infix_nil] at hk
    rw [hk]
    exact hn
  | line l s hl ih =>
    rw [rest_line hl] at hrest
    rw [lines_line hl] at h
    have hlen := h l List.mem_cons_self
    intro k hk hsep
    rcases List.infix_append_iff.mp hk with hk | hk | ⟨k₁, k₂, rfl, hk₁, hk₂⟩
    · exact Nat.lt_of_le_of_lt hk.length_le hlen
    · rcases List.infix_cons_iff.mp hk with hk | hk
      · rw [eq_nil_of_prefix_cons hk hsep]
        exact hn
      · exact ih (fun m hm => h m (List.mem_cons_of_mem l hm)) hrest k hk hsep
    · have hnil := eq_nil_of_prefix_cons hk₂ (fun hm => hsep (List.mem_append_right k₁ hm))
      rw [hnil, List.append_nil]
      exact Nat.lt_of_le_of_lt hk₁.length_le hlen

end Lines
