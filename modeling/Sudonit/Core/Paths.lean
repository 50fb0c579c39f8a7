import Mathlib.Data.List.Infix
import Mathlib.Data.Nat.Notation
import Mathlib.Tactic.Lemma

/-!
# Walking a tree of directories

A place is the list of names that leads to it from the root.  A walk goes down into a directory by its name,
or up; at the root, up leads nowhere.

* `walk` — where a sequence of steps leads to.
* `climb` — a sequence of steps with every step up cancelled against the step down before it: how many steps
  up are left, and the names behind them.
* `walk_eq_climb` — the walk goes by its climb; `under_walk_iff` says when it ends below its start.
-/

namespace Paths

/-- One component of a path. -/
inductive Step (α : Type) where
  | up
  | down (name : α)

variable {α : Type}

/-- The place a sequence of steps leads to. -/
def walk (place : List α) : List (Step α) → List α
  | [] => place
  | .up :: steps => walk place.dropLast steps
  | .down name :: steps => walk (place ++ [name]) steps

/-- One more step behind a climb. -/
def climbStep (c : ℕ × List α) : Step α → ℕ × List α
  | .up => if c.2 = [] then (c.1 + 1, []) else (c.1, c.2.dropLast)
  | .down name => (c.1, c.2 ++ [name])

/-- How far a sequence of steps climbs above its start, and the names it goes down from there. -/
def climb (steps : List (Step α)) : ℕ × List α := steps.foldl climbStep (0, [])

/-- The place is the directory, or in it at some depth. -/
def Under (dir place : List α) : Prop := dir <+: place

@[simp] lemma walk_nil (place : List α) : walk place [] = place := rfl

@[simp] lemma walk_down (place : List α) (name : α) (steps : List (Step α)) :
    walk place (.down name :: steps) = walk (place ++ [name]) steps := rfl

@[simp] lemma walk_up (place : List α) (steps : List (Step α)) :
    walk place (.up :: steps) = walk place.dropLast steps := rfl

lemma walk_append (place : List α) (a b : List (Step α)) : walk place (a ++ b) = walk (walk place a) b := by
  induction a generalizing place with
  | nil => rfl
  | cons step a ih => cases step <;> exact ih _

lemma climb_append_singleton (steps : List (Step α)) (step : Step α) :
    climb (steps ++ [step]) = climbStep (climb steps) step := by
  rw [climb, List.foldl_append]
  rfl

/-- Steps that only go down. -/
lemma climb_down (names : List α) : climb (names.map .down) = (0, names) := by
  induction names using List.reverseRecOn with
  | nil => rfl
  | append_singleton names name ih => rw [List.map_append, List.map_singleton, climb_append_singleton, ih, climbStep]

/-- **A walk goes by its climb**: up so many places, and down the names behind. -/
theorem walk_eq_climb (place : List α) (steps : List (Step α)) :
    walk place steps = place.take (place.length - (climb steps).1) ++ (climb steps).2 := by
  induction steps using List.reverseRecOn with
  | nil => simp [climb]
  | append_singleton steps step ih =>
      rw [walk_append, climb_append_singleton, ih]
      cases step with
      | down name => rw [walk_down, walk_nil, climbStep, List.append_assoc]
      | up =>
          rw [walk_up, walk_nil, climbStep]
          split_ifs with hnames
          · rw [hnames, List.append_nil, List.append_nil, List.dropLast_eq_take, List.take_take, List.length_take]
            congr 1
            omega
          · rw [List.dropLast_append_of_ne_nil hnames]

/-- **When a walk ends below its start**: the names of its climb come back down the places climbed. -/
theorem under_walk_iff (place : List α) (steps : List (Step α)) :
    Under place (walk place steps) ↔ place.drop (place.length - (climb steps).1) <+: (climb steps).2 := by
  rw [Under, walk_eq_climb]
  generalize place.length - (climb steps).1 = n
  have hsplit := List.take_append_drop n place
  nth_rewrite 1 [← hsplit]
  rw [List.prefix_append_right_inj]

/-- A name in a directory is strictly below another directory exactly if the first directory is below the
second. -/
lemma under_append_singleton {dir place : List α} {name : α} (hne : dir ≠ place ++ [name]) :
    Under dir (place ++ [name]) ↔ Under dir place := by
  rw [Under, Under, List.prefix_concat_iff]
  exact or_iff_right hne

end Paths
