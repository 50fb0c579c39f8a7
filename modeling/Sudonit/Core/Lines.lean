import Mathlib.Tactic.Lemma
import Mathlib.Data.List.TakeWhile

/-!
# Lines of a stream, and reading them with bounded room

* `splitLines` — a stream cut behind every newline; `split_cases` is its first line.
* `readLine` — what one bounded read takes; `pieces` — what read after read takes.
* `pieces_line` — no read crosses the end of a line, so the pieces of a stream are those of its lines.
-/

namespace Lines

variable {α : Type} [DecidableEq α] (nl : α)

/-! ## Lines -/

/-- The stream cut behind every newline. -/
def splitLines : List α → List (List α)
  | [] => []
  | a :: s =>
      if a = nl then [a] :: splitLines s
      else
        match splitLines s with
        | [] => [[a]]
        | line :: lines => (a :: line) :: lines

/-- What a line is: no newline but at its end, and not empty. -/
inductive IsLine : List α → Prop
  | ended {body : List α} (h : nl ∉ body) : IsLine (body ++ [nl])
  | last {body : List α} (h : nl ∉ body) (hne : body ≠ []) : IsLine body

variable {nl}

lemma splitLines_ended {body : List α} (h : nl ∉ body) (rest : List α) :
    splitLines nl (body ++ nl :: rest) = (body ++ [nl]) :: splitLines nl rest := by
  induction body with
  | nil => rw [List.nil_append, splitLines, if_pos rfl, List.nil_append]
  | cons a body ih =>
      rw [List.mem_cons, not_or] at h
      rw [List.cons_append, splitLines, if_neg (Ne.symm h.1), ih h.2]
      rfl

lemma splitLines_last {body : List α} (h : nl ∉ body) (hne : body ≠ []) : splitLines nl body = [body] := by
  induction body with
  | nil => exact absurd rfl hne
  | cons a body ih =>
      rw [List.mem_cons, not_or] at h
      rw [splitLines, if_neg (Ne.symm h.1)]
      cases body with
      | nil => rfl
      | cons b body => rw [ih h.2 (List.cons_ne_nil b body)]

/-- **The first line of a stream**: there is none, or it ends in a newline, or it is all there is. -/
theorem split_cases (nl : α) (s : List α) : s = [] ∨
    (∃ body rest, nl ∉ body ∧ s = body ++ nl :: rest) ∨ (nl ∉ s ∧ s ≠ []) := by
  by_cases hmem : nl ∈ s
  · obtain ⟨body, rest, hs, hbody⟩ := List.eq_append_cons_of_mem hmem
    exact Or.inr (Or.inl ⟨body, rest, hbody, hs⟩)
  · by_cases hnil : s = []
    · exact Or.inl hnil
    · exact Or.inr (Or.inr ⟨hmem, hnil⟩)

lemma IsLine.splitLines {line : List α} (h : IsLine nl line) : splitLines nl line = [line] := by
  cases h with
  | ended h => exact splitLines_ended h []
  | last h hne => exact splitLines_last h hne

/-- **The pieces of a cut stream are lines.** -/
lemma isLine_of_mem {s line : List α} (h : line ∈ splitLines nl s) : IsLine nl line := by
  induction hlen : s.length using Nat.strong_induction_on generalizing s with
  | _ k ih =>
      rcases split_cases nl s with rfl | ⟨body, rest, hbody, rfl⟩ | ⟨hbody, hne⟩
      · simp [splitLines] at h
      · rw [splitLines_ended hbody] at h
        rcases List.mem_cons.mp h with rfl | hrest
        · exact .ended hbody
        · have hlt : rest.length < k := by
            rw [← hlen, List.length_append, List.length_cons]
            omega
          exact ih _ hlt hrest rfl
      · rw [splitLines_last hbody hne, List.mem_singleton] at h
        exact h ▸ .last hbody hne

/-! ## Bounded reads -/

variable (nl)

/-- Through the first newline, but no more than `room`: what is read, and what is left. -/
def readLine : ℕ → List α → List α × List α
  | 0, s => ([], s)
  | _ + 1, [] => ([], [])
  | room + 1, a :: s =>
      if a = nl then ([a], s) else (a :: (readLine room s).1, (readLine room s).2)

variable {nl}

lemma readLine_ended {body : List α} (h : nl ∉ body) {room : ℕ} (hroom : body.length < room) (rest : List α) :
    readLine nl room (body ++ nl :: rest) = (body ++ [nl], rest) := by
  induction body generalizing room with
  | nil =>
      obtain ⟨room, rfl⟩ := Nat.exists_eq_succ_of_ne_zero (Nat.ne_of_gt hroom)
      rw [List.nil_append, readLine, if_pos rfl, List.nil_append]
  | cons a body ih =>
      rw [List.mem_cons, not_or] at h
      obtain ⟨room, rfl⟩ := Nat.exists_eq_succ_of_ne_zero (Nat.ne_zero_of_lt hroom)
      rw [List.cons_append, readLine, if_neg (Ne.symm h.1), ih h.2 (Nat.lt_of_succ_lt_succ hroom)]
      rfl

lemma readLine_full {body : List α} (h : nl ∉ body) {room : ℕ} (hroom : room ≤ body.length) (rest : List α) :
    readLine nl room (body ++ rest) = (body.take room, body.drop room ++ rest) := by
  induction body generalizing room with
  | nil =>
      obtain rfl : room = 0 := Nat.le_zero.mp hroom
      rfl
  | cons a body ih =>
      rw [List.mem_cons, not_or] at h
      cases room with
      | zero => rfl
      | succ room =>
          rw [List.cons_append, readLine, if_neg (Ne.symm h.1), ih h.2 (Nat.le_of_succ_le_succ hroom)]
          rfl

lemma readLine_last {body : List α} (h : nl ∉ body) {room : ℕ} (hroom : body.length ≤ room) :
    readLine nl room body = (body, []) := by
  induction body generalizing room with
  | nil => cases room <;> rfl
  | cons a body ih =>
      rw [List.mem_cons, not_or] at h
      obtain ⟨room, rfl⟩ := Nat.exists_eq_succ_of_ne_zero (Nat.ne_zero_of_lt hroom)
      rw [readLine, if_neg (Ne.symm h.1), ih h.2 (Nat.le_of_succ_le_succ hroom)]

lemma readLine_append (room : ℕ) (s : List α) : (readLine nl room s).1 ++ (readLine nl room s).2 = s := by
  induction room generalizing s with
  | zero => rfl
  | succ room ih =>
      cases s with
      | nil => rfl
      | cons a s =>
          rw [readLine]
          split_ifs
          · rfl
          · rw [List.cons_append, ih]

lemma readLine_lt {room : ℕ} (hroom : 0 < room) {s : List α} (hs : s ≠ []) :
    (readLine nl room s).2.length < s.length := by
  have hsplit := congrArg List.length (@readLine_append _ _ nl room s)
  have hne : 0 < (readLine nl room s).1.length := by
    obtain ⟨a, s, rfl⟩ := List.exists_cons_of_ne_nil hs
    obtain ⟨room, rfl⟩ := Nat.exists_eq_succ_of_ne_zero (Nat.ne_of_gt hroom)
    rw [readLine]
    split_ifs <;> exact Nat.succ_pos _
  rw [List.length_append] at hsplit
  omega

/-! ## Read after read -/

variable (nl)

/-- What one read after another takes. -/
def pieces (room : ℕ) (s : List α) : List (List α) :=
  if s = [] ∨ room = 0 then []
  else (readLine nl room s).1 :: pieces room (readLine nl room s).2
termination_by s.length
decreasing_by
  rename_i h
  rw [not_or] at h
  exact readLine_lt (Nat.pos_of_ne_zero h.2) h.1

variable {nl} {room : ℕ}

lemma pieces_nil : pieces nl room [] = [] := by
  rw [pieces, if_pos (Or.inl rfl)]

lemma pieces_cons (hroom : 0 < room) {s : List α} (hs : s ≠ []) :
    pieces nl room s = (readLine nl room s).1 :: pieces nl room (readLine nl room s).2 := by
  rw [pieces, if_neg (not_or.mpr ⟨hs, Nat.ne_of_gt hroom⟩)]

lemma pieces_flatten (hroom : 0 < room) (s : List α) : (pieces nl room s).flatten = s := by
  induction hlen : s.length using Nat.strong_induction_on generalizing s with
  | _ k ih =>
      by_cases hs : s = []
      · rw [hs, pieces_nil]
        rfl
      · have hlt : (readLine nl room s).2.length < k := hlen ▸ readLine_lt hroom hs
        rw [pieces_cons hroom hs, List.flatten_cons, ih _ hlt _ rfl, readLine_append]

/-- **No read crosses the end of a line.** -/
theorem pieces_line (hroom : 0 < room) {body : List α} (h : nl ∉ body) (rest : List α) :
    pieces nl room (body ++ nl :: rest) = pieces nl room (body ++ [nl]) ++ pieces nl room rest := by
  induction hlen : body.length using Nat.strong_induction_on generalizing body with
  | _ k ih =>
      rw [pieces_cons hroom (by simp), pieces_cons hroom (s := body ++ [nl]) (by simp)]
      by_cases hshort : body.length < room
      · rw [readLine_ended h hshort, readLine_ended h hshort, pieces_nil]
        rfl
      · have hdrop : nl ∉ body.drop room := fun hmem => h (List.mem_of_mem_drop hmem)
        have hlt : (body.drop room).length < k := by
          rw [List.length_drop]
          omega
        rw [readLine_full h (not_lt.mp hshort), readLine_full h (not_lt.mp hshort)]
        simp only
        rw [ih _ hlt hdrop rfl, List.cons_append]

/-- A line with room for its newline is read at once. -/
lemma pieces_ended {body : List α} (h : nl ∉ body) (hroom : body.length < room) :
    pieces nl room (body ++ [nl]) = [body ++ [nl]] := by
  rw [pieces_cons (Nat.zero_lt_of_lt hroom) (by simp), readLine_ended h hroom, pieces_nil]

/-- A piece that fills the room. -/
lemma pieces_full {body : List α} (h : nl ∉ body) (hroom : body.length = room) (hpos : 0 < room) (rest : List α) :
    pieces nl room (body ++ rest) = body :: pieces nl room rest := by
  have hne : body ++ rest ≠ [] := by
    intro hnil
    rw [List.append_eq_nil_iff] at hnil
    rw [← hroom, hnil.1] at hpos
    exact Nat.lt_irrefl _ hpos
  rw [pieces_cons hpos hne, readLine_full h (Nat.le_of_eq hroom.symm),
    List.take_of_length_le (Nat.le_of_eq hroom), List.drop_of_length_le (Nat.le_of_eq hroom), List.nil_append]

/-- A line that leaves no room for its newline. -/
lemma pieces_tight {body : List α} (h : nl ∉ body) (hroom : body.length = room) (hpos : 0 < room) :
    pieces nl room (body ++ [nl]) = [body, [nl]] := by
  have hrest : pieces nl room [nl] = [[nl]] := pieces_ended List.not_mem_nil hpos
  rw [pieces_full h hroom hpos, hrest]

/-- A last line without a newline. -/
lemma pieces_last {body : List α} (h : nl ∉ body) (hne : body ≠ []) (hroom : body.length ≤ room) :
    pieces nl room body = [body] := by
  have hpos : 0 < room := Nat.lt_of_lt_of_le (List.length_pos_iff.mpr hne) hroom
  rw [pieces_cons hpos hne, readLine_last h hroom, pieces_nil]

end Lines
