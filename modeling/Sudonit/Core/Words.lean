import Mathlib.Data.List.DropRight
import Mathlib.Data.List.TakeWhile

/-!
# Words in a text

A word is a longest run of what is not blank.

* `WordAt` — a text as blanks, a word, and what lies behind the word.
* `WordAt.dropWhile_eq`, `WordAt.takeWhile_eq`, `WordAt.rest_eq` — how a scanner finds the word;
  `exists_wordAt` — there is one unless the text is blank.
* `rdropWhile_append_of_pos`, `rdropWhile_append_of_ne_nil` — trimming the end of a text in two parts;
  `dropWhile_rdropWhile` — trimming both ends.
-/

namespace Words

variable {α : Type} {blank p : α → Bool}

/-- The text is blanks, this word, and this rest. -/
structure WordAt (blank : α → Bool) (text lead word rest : List α) : Prop where
  text_eq : text = lead ++ (word ++ rest)
  lead_blank : ∀ a ∈ lead, blank a
  word_ne : word ≠ []
  word_solid : ∀ a ∈ word, blank a = false
  rest_blank : ∀ a ∈ rest.head?, blank a

namespace WordAt

variable {text lead word rest : List α}

lemma dropWhile_eq (h : WordAt blank text lead word rest) : text.dropWhile blank = word ++ rest := by
  obtain ⟨c, cs, rfl⟩ := List.exists_cons_of_ne_nil h.word_ne
  have hc : blank c = false := h.word_solid c List.mem_cons_self
  rw [h.text_eq, List.dropWhile_append_of_pos h.lead_blank, List.cons_append,
    List.dropWhile_cons_of_neg (by simp [hc])]

lemma takeWhile_eq (h : WordAt blank text lead word rest) :
    (word ++ rest).takeWhile (fun a => !blank a) = word := by
  have hword : word.takeWhile (fun a => !blank a) = word :=
    List.takeWhile_eq_self_iff.mpr fun a ha => by simp [h.word_solid a ha]
  rw [List.takeWhile_append, if_pos (by rw [hword])]
  cases hrest : rest with
  | nil => exact List.append_nil word
  | cons a rest' =>
      have ha : blank a := h.rest_blank a (by rw [hrest]; rfl)
      rw [List.takeWhile_cons_of_neg (by simp [ha]), List.append_nil]

lemma rest_eq (h : WordAt blank text lead word rest) : (word ++ rest).dropWhile (fun a => !blank a) = rest := by
  have hsplit := List.takeWhile_append_dropWhile (p := fun a => !blank a) (l := word ++ rest)
  rw [h.takeWhile_eq] at hsplit
  exact List.append_cancel_left hsplit

lemma append (h : WordAt blank text lead word rest) (hrest : rest ≠ []) (more : List α) :
    WordAt blank (text ++ more) lead word (rest ++ more) where
  text_eq := by rw [h.text_eq, List.append_assoc, List.append_assoc]
  lead_blank := h.lead_blank
  word_ne := h.word_ne
  word_solid := h.word_solid
  rest_blank := by
    rw [List.head?_append_of_ne_nil rest hrest]
    exact h.rest_blank

lemma cons (h : WordAt blank text lead word rest) {a : α} (ha : blank a) :
    WordAt blank (a :: text) (a :: lead) word rest where
  text_eq := by rw [h.text_eq, List.cons_append]
  lead_blank := List.forall_mem_cons.mpr ⟨ha, h.lead_blank⟩
  word_ne := h.word_ne
  word_solid := h.word_solid
  rest_blank := h.rest_blank

/-- The text without its first blank. -/
lemma tail (h : WordAt blank text lead word rest) (hhead : ∀ a ∈ text.head?, blank a) :
    WordAt blank text.tail lead.tail word rest := by
  cases hlead : lead with
  | nil =>
      -- A text that begins with its word does not begin with a blank.
      obtain ⟨c, cs, rfl⟩ := List.exists_cons_of_ne_nil h.word_ne
      have hc : blank c = false := h.word_solid c List.mem_cons_self
      have hblank : blank c := hhead c (by rw [h.text_eq, hlead]; rfl)
      rw [hc] at hblank
      exact absurd hblank Bool.false_ne_true
  | cons a lead' =>
      refine ⟨by rw [h.text_eq, hlead]; rfl, fun b hb => h.lead_blank b ?_, h.word_ne, h.word_solid, h.rest_blank⟩
      rw [hlead]
      exact List.mem_cons_of_mem a hb

/-- The same word with less behind it. -/
lemma shorten (h : WordAt blank text lead word rest) {rest' : List α} (hpre : rest' <+: rest) :
    WordAt blank (lead ++ (word ++ rest')) lead word rest' where
  text_eq := rfl
  lead_blank := h.lead_blank
  word_ne := h.word_ne
  word_solid := h.word_solid
  rest_blank a ha := by
    obtain ⟨more, rfl⟩ := hpre
    apply h.rest_blank a
    cases rest' with
    | nil => simp at ha
    | cons b rest' => exact ha

end WordAt

/-- **A text that is not blank has a first word.** -/
theorem exists_wordAt {text : List α} {a : α} {s : List α} (h : text.dropWhile blank = a :: s) :
    WordAt blank text (text.takeWhile blank) ((a :: s).takeWhile fun b => !blank b)
      ((a :: s).dropWhile fun b => !blank b) where
  text_eq := by rw [List.takeWhile_append_dropWhile, ← h, List.takeWhile_append_dropWhile]
  lead_blank _ hb := List.mem_takeWhile_imp hb
  word_ne := by
    have ha : ¬ blank a := by
      have hhead := List.head_dropWhile_not blank (l := text) (by rw [h]; simp)
      simpa [h] using hhead
    rw [List.takeWhile_cons_of_pos (by simpa using ha)]
    exact List.cons_ne_nil _ _
  word_solid b hb := by simpa using List.mem_takeWhile_imp hb
  rest_blank b hb := by
    cases hrest : (a :: s).dropWhile fun b => !blank b with
    | nil => simp [hrest] at hb
    | cons c rest =>
        rw [hrest] at hb
        have hhead := List.head_dropWhile_not (fun b => !blank b) (l := a :: s) (by rw [hrest]; simp)
        obtain rfl : c = b := Option.some.inj hb
        simpa [hrest] using hhead

/-- An end that is trimmed altogether. -/
lemma rdropWhile_append_of_pos {l m : List α} (h : ∀ a ∈ m, p a) : (l ++ m).rdropWhile p = l.rdropWhile p := by
  rw [List.rdropWhile, List.reverse_append, List.dropWhile_append_of_pos (by simpa using h), List.rdropWhile]

/-- An end that is not trimmed altogether. -/
lemma rdropWhile_append_of_ne_nil {l m : List α} (h : m.rdropWhile p ≠ []) :
    (l ++ m).rdropWhile p = l ++ m.rdropWhile p := by
  have hne : m.reverse.dropWhile p ≠ [] := fun hnil => h (by rw [List.rdropWhile, hnil]; rfl)
  rw [List.rdropWhile, List.reverse_append, List.dropWhile_append, if_neg (by simpa using hne),
    List.reverse_append, List.reverse_reverse, List.rdropWhile]

/-- What both ends trim can be trimmed off either end first. -/
lemma dropWhile_rdropWhile (hsub : ∀ a, blank a → p a) (l : List α) :
    (l.rdropWhile p).dropWhile blank = (l.dropWhile blank).rdropWhile p := by
  have hsplit : l = l.takeWhile blank ++ l.dropWhile blank := List.takeWhile_append_dropWhile.symm
  have hlead : ∀ a ∈ l.takeWhile blank, blank a := fun a ha => List.mem_takeWhile_imp ha
  by_cases hnil : (l.dropWhile blank).rdropWhile p = []
  · have hall : ∀ a ∈ l.dropWhile blank, p a := List.rdropWhile_eq_nil_iff.mp hnil
    have hl : l.rdropWhile p = [] := by
      rw [hsplit, rdropWhile_append_of_pos hall, List.rdropWhile_eq_nil_iff]
      exact fun a ha => hsub a (hlead a ha)
    rw [hl, hnil, List.dropWhile_nil]
  · have hl : l.rdropWhile p = l.takeWhile blank ++ (l.dropWhile blank).rdropWhile p := by
      conv_lhs => rw [hsplit]
      exact rdropWhile_append_of_ne_nil hnil
    rw [hl, List.dropWhile_append_of_pos hlead]
    -- What is left begins as the text does behind its blanks.
    obtain ⟨more, hmore⟩ := List.rdropWhile_prefix p (l := l.dropWhile blank)
    obtain ⟨c, cs, hcs⟩ := List.exists_cons_of_ne_nil hnil
    have hdrop : l.dropWhile blank = c :: (cs ++ more) := by rw [← hmore, hcs, List.cons_append]
    have hc : ¬ blank c := by
      have hhead := List.head_dropWhile_not blank (l := l) (by rw [hdrop]; simp)
      simpa [hdrop] using hhead
    rw [hcs, List.dropWhile_cons_of_neg hc]

end Words
