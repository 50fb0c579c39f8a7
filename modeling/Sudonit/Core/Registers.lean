import Mathlib.Logic.Function.Basic

/-!
# Registers with a saved copy

Named values, and a copy of them that outlives a restart.

* `Op` — write one, go back to the initial values, save them all, restart from what was saved.
* `run_keeps` — a register that nothing writes keeps its value up to a restart.
* `run_survives` — a value that was saved is there after any number of restarts.
-/

namespace Registers

/-- The values, and the copy. -/
@[ext] structure File (K V : Type) where
  current : K → V
  saved : K → V

inductive Op (K V : Type)
  | write (k : K) (v : V)
  | clear
  | save
  | restart

variable {K V : Type}

/-- The operation does not write this register. -/
def Op.Spares (k : K) : Op K V → Prop
  | .write k' _ => k' ≠ k
  | .clear => False
  | .save => True
  | .restart => True

/-- The operation is no restart. -/
def Op.Stays : Op K V → Prop
  | .restart => False
  | _ => True

variable [DecidableEq K] (initial : K → V)

def File.step (f : File K V) : Op K V → File K V
  | .write k v => { f with current := Function.update f.current k v }
  | .clear => { f with current := initial }
  | .save => { f with saved := f.current }
  | .restart => { f with current := f.saved }

def File.run (f : File K V) (ops : List (Op K V)) : File K V := ops.foldl (File.step initial) f

@[simp] lemma run_nil (f : File K V) : f.run initial [] = f := rfl

@[simp] lemma run_cons (f : File K V) (op : Op K V) (ops : List (Op K V)) :
    f.run initial (op :: ops) = (f.step initial op).run initial ops := rfl

@[simp] lemma run_append (f : File K V) (ops ops' : List (Op K V)) :
    f.run initial (ops ++ ops') = (f.run initial ops).run initial ops' := List.foldl_append

variable {initial} {f : File K V} {k : K} {v : V}

/-- What is written is there. -/
lemma step_write (f : File K V) (k : K) (v : V) : (f.step initial (.write k v)).current k = v := by
  simp [File.step]

lemma step_keeps {op : Op K V} (h : op.Spares k) (hstays : op.Stays) :
    (f.step initial op).current k = f.current k := by
  cases op with
  | write k' w => simp [File.step, Function.update_of_ne (Ne.symm h)]
  | clear => exact absurd h id
  | save => rfl
  | restart => exact absurd hstays id

lemma step_survives {op : Op K V} (h : op.Spares k) (hcurrent : f.current k = v) (hsaved : f.saved k = v) :
    (f.step initial op).current k = v ∧ (f.step initial op).saved k = v := by
  cases op with
  | write k' w => simp [File.step, Function.update_of_ne (Ne.symm h), hcurrent, hsaved]
  | clear => exact absurd h id
  | save => exact ⟨hcurrent, hcurrent⟩
  | restart => exact ⟨hsaved, hsaved⟩

/-- **Up to a restart a register keeps its value** while nothing writes it. -/
theorem run_keeps {ops : List (Op K V)} (h : ∀ op ∈ ops, op.Spares k ∧ op.Stays) :
    (f.run initial ops).current k = f.current k := by
  induction ops generalizing f with
  | nil => rfl
  | cons op ops ih =>
      rw [List.forall_mem_cons] at h
      rw [run_cons, ih h.2, step_keeps h.1.1 h.1.2]

/-- **A value that is saved stays**, through restarts, while nothing writes its register. -/
theorem run_survives {ops : List (Op K V)} (h : ∀ op ∈ ops, op.Spares k) (hcurrent : f.current k = v)
    (hsaved : f.saved k = v) : (f.run initial ops).current k = v ∧ (f.run initial ops).saved k = v := by
  induction ops generalizing f with
  | nil => exact ⟨hcurrent, hsaved⟩
  | cons op ops ih =>
      rw [List.forall_mem_cons] at h
      obtain ⟨hcurrent', hsaved'⟩ := step_survives h.1 hcurrent hsaved
      exact ih h.2 hcurrent' hsaved'

/-- **Written, saved, there**: whatever else is written, before the save and after it, and however often there is
a restart after it. -/
theorem written_survives {before after : List (Op K V)} (hbefore : ∀ op ∈ before, op.Spares k ∧ op.Stays)
    (hafter : ∀ op ∈ after, op.Spares k) (f : File K V) :
    (f.run initial (.write k v :: before ++ .save :: after)).current k = v := by
  have hcurrent : ((f.step initial (.write k v)).run initial before).current k = v := by
    rw [run_keeps hbefore, step_write]
  simp only [run_cons, run_append, List.cons_append]
  exact (run_survives (f := File.step initial _ .save) hafter hcurrent hcurrent).1

end Registers
