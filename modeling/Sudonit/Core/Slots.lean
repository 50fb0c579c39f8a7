import Mathlib.Data.List.Nodup
import Mathlib.Data.List.Range
import Mathlib.Data.Fintype.Card

/-!
# Numbered slots

A table in which everything that is held has a number, and what is added gets the lowest number from some
bound on that is free: file descriptors, handles, identifiers.

* `lowest` — that number; `lowest_notMem`, `lowest_le` — it is free and near the bound.
* `add`, `update`, `remove` — the operations.
* `remove_cons_self`, `remove_eq_eraseIdx` — removing something takes out that and nothing else.
-/

namespace Slots

variable {α : Type}

/-- The lowest number from `first` on that is not in use. -/
def lowest (first : ℕ) (used : List ℕ) : ℕ :=
  ((List.range' first (used.length + 1)).find? fun n => n ∉ used).getD first

/-- Among more numbers than are in use there is a free one. -/
lemma exists_free (first : ℕ) (used : List ℕ) : ∃ n ∈ List.range' first (used.length + 1), n ∉ used := by
  by_contra h
  have hsub : List.range' first (used.length + 1) ⊆ used := by
    intro n hn
    by_contra hfree
    exact h ⟨n, hn, hfree⟩
  have hle := (List.nodup_range' (s := first) (n := used.length + 1)).length_le_of_subset hsub
  rw [List.length_range'] at hle
  omega

lemma find_lowest (first : ℕ) (used : List ℕ) :
    (List.range' first (used.length + 1)).find? (fun n => n ∉ used) = some (lowest first used) := by
  obtain ⟨n, hn, hfree⟩ := exists_free first used
  cases hfind : (List.range' first (used.length + 1)).find? (fun n => n ∉ used) with
  | none =>
      rw [List.find?_eq_none] at hfind
      exact absurd (by simpa using hfree) (hfind n hn)
  | some m => rw [lowest, hfind, Option.getD_some]

/-- The number is free. -/
theorem lowest_notMem (first : ℕ) (used : List ℕ) : lowest first used ∉ used := by
  simpa using List.find?_some (find_lowest first used)

/-- The number is near the bound. -/
theorem lowest_le (first : ℕ) (used : List ℕ) : lowest first used ≤ first + used.length := by
  have hmem := List.mem_of_find?_eq_some (find_lowest first used)
  rw [List.mem_range'_1] at hmem
  omega

/-! ## Tables -/

/-- The numbers in use. -/
def taken (t : List (ℕ × α)) : List ℕ := t.map Prod.fst

/-- Add something under the lowest free number. -/
def add (first : ℕ) (a : α) (t : List (ℕ × α)) : List (ℕ × α) := (lowest first (taken t), a) :: t

/-- Change what has a number. -/
def update (n : ℕ) (f : α → α) (t : List (ℕ × α)) : List (ℕ × α) :=
  t.map fun e => if e.1 = n then (e.1, f e.2) else e

/-- Remove what has a number. -/
def remove (n : ℕ) (t : List (ℕ × α)) : List (ℕ × α) := t.filter fun e => e.1 ≠ n

section Laws

variable {n : ℕ} {a : α} {f : α → α} {t u : List (ℕ × α)}

@[simp] lemma taken_nil : taken ([] : List (ℕ × α)) = [] := rfl

@[simp] lemma taken_cons (n : ℕ) (a : α) (t : List (ℕ × α)) : taken ((n, a) :: t) = n :: taken t := rfl

@[simp] lemma taken_append (t u : List (ℕ × α)) : taken (t ++ u) = taken t ++ taken u :=
  List.map_append

lemma update_of_notMem (h : n ∉ taken t) : update n f t = t := by
  have hsame : ∀ e ∈ t, (if e.1 = n then (e.1, f e.2) else e) = id e := by
    intro e he
    rw [if_neg, id]
    rintro rfl
    exact h (List.mem_map_of_mem he)
  rw [update, List.map_congr_left hsame, List.map_id]

lemma update_cons_self (h : n ∉ taken t) : update n f ((n, a) :: t) = (n, f a) :: t := by
  have hrest := update_of_notMem (f := f) h
  rw [update] at hrest
  rw [update, List.map_cons, if_pos rfl, hrest]

lemma remove_of_notMem (h : n ∉ taken t) : remove n t = t := by
  rw [remove, List.filter_eq_self]
  intro e he
  simp only [ne_eq, decide_not, Bool.not_eq_eq_eq_not, Bool.not_true, decide_eq_false_iff_not]
  rintro rfl
  exact h (List.mem_map_of_mem he)

/-- Removing what was put in front restores the table. -/
theorem remove_cons_self (h : n ∉ taken t) : remove n ((n, a) :: t) = t := by
  rw [remove, List.filter_cons_of_neg (by simp)]
  exact remove_of_notMem h

/-- Removing what stands at a place. -/
theorem remove_eq_eraseIdx {i : ℕ} (hnodup : (taken t).Nodup) (h : t[i]? = some (n, a)) :
    remove n t = t.eraseIdx i := by
  induction t generalizing i with
  | nil => simp at h
  | cons e t ih =>
      obtain ⟨m, b⟩ := e
      rw [taken_cons, List.nodup_cons] at hnodup
      cases i with
      | zero =>
          rw [List.getElem?_cons_zero, Option.some.injEq, Prod.mk.injEq] at h
          obtain ⟨rfl, rfl⟩ := h
          rw [List.eraseIdx_cons_zero, remove_cons_self hnodup.1]
      | succ i =>
          rw [List.getElem?_cons_succ] at h
          have hmem : n ∈ taken t := List.mem_map_of_mem (List.mem_of_getElem? h)
          have hne : m ≠ n := by
            rintro rfl
            exact hnodup.1 hmem
          rw [List.eraseIdx_cons_succ, ← ih hnodup.2 h, remove, List.filter_cons_of_pos (by simpa using hne)]
          rfl

lemma taken_eraseIdx (t : List (ℕ × α)) (i : ℕ) : taken (t.eraseIdx i) = (taken t).eraseIdx i :=
  (List.eraseIdx_map ..).symm

end Laws

end Slots
