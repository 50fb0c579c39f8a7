import Sudonit.Core.Paths
import Sudonit.Python.Value

/-!
# `pathlib` paths

A POSIX path as `pathlib` keeps it: a root and the components that say something.  Joining and resolving go
by the text: `..` is a component like any other until the path is resolved, and an absolute operand of a join
replaces what stands before it.

* `PurePath.ofStr`, `PurePath.joinpath`, `PurePath.withSuffix`, `PurePath.toStr` — the operations.
* `PurePath.resolve` — the place a path leads to, from a working directory.
* `resolve_joinpath` — where a directory joined with some text and a suffix leads to.
-/

namespace Python

open Octets Paths

/-! ## Paths -/

/-- `/`. -/
def sep : CodePoint := cp '/'

/-- A component that is kept. -/
structure IsPart (s : PyStr) : Prop where
  ne_nil : s ≠ []
  ne_dot : s ≠ str "."
  no_sep : sep ∉ s

/-- The root of a POSIX path; two slashes are one of their own. -/
inductive Root
  | none
  | slash
  | slashes
  deriving DecidableEq

/-- A `PurePosixPath`. -/
structure PurePath where
  root : Root
  parts : List PyStr
  parts_ok : ∀ p ∈ parts, IsPart p

/-- The root in front of a text. -/
def Root.ofStr : PyStr → Root
  | [] => .none
  | c :: rest =>
      if c ≠ sep then .none
      else if rest.head? = some sep ∧ rest.tail.head? ≠ some sep then .slashes
      else .slash

/-- The root as a text. -/
def Root.toStr : Root → PyStr
  | .none => []
  | .slash => [sep]
  | .slashes => [sep, sep]

/-- The pieces that are kept. -/
def kept (pieces : List PyStr) : List PyStr := pieces.filter fun p => p ≠ [] ∧ p ≠ str "."

lemma kept_append (a b : List PyStr) : kept (a ++ b) = kept a ++ kept b := List.filter_append a b

/-! ## Pieces of a text -/

/-- The pieces of a text with some text behind it that has no separator: the last one is longer. -/
lemma splitOn_append {α : Type} [DecidableEq α] {c : α} {tail : List α} (htail : c ∉ tail) (s : List α) :
    ∃ front last, s.splitOn c = front ++ [last] ∧ (s ++ tail).splitOn c = front ++ [last ++ tail] := by
  induction s with
  | nil => exact ⟨[], [], rfl, List.splitOn_eq_singleton htail⟩
  | cons x s ih =>
      obtain ⟨front, last, hs, hst⟩ := ih
      rw [List.cons_append, List.splitOn_cons_eq_if_modifyHead, List.splitOn_cons_eq_if_modifyHead, hs, hst]
      split_ifs
      · exact ⟨[] :: front, last, rfl, rfl⟩
      · cases front with
        | nil => exact ⟨[], x :: last, rfl, rfl⟩
        | cons piece front => exact ⟨(x :: piece) :: front, last, rfl, rfl⟩

/-- The pieces have no separator. -/
lemma notMem_of_mem_splitOn {α : Type} [DecidableEq α] {c : α} {s piece : List α} (h : piece ∈ s.splitOn c) :
    c ∉ piece := by
  induction s generalizing piece with
  | nil => simp_all
  | cons x s ih =>
      rw [List.splitOn_cons_eq_if_modifyHead] at h
      split_ifs at h with hx
      · rcases List.mem_cons.mp h with rfl | hmem
        · simp
        · exact ih hmem
      · cases hs : s.splitOn c with
        | nil => simp [hs] at h
        | cons first pieces =>
            rw [hs, List.modifyHead_cons] at h
            rcases List.mem_cons.mp h with rfl | hmem
            · have hfirst : c ∉ first := ih (by rw [hs]; exact List.mem_cons_self)
              have hne : c ≠ x := fun heq => hx (by simp [heq])
              simp [hne, hfirst]
            · exact ih (by rw [hs]; exact List.mem_cons_of_mem _ hmem)

lemma isPart_of_mem_kept {s p : PyStr} (h : p ∈ kept (s.splitOn sep)) : IsPart p := by
  obtain ⟨hmem, hkeep⟩ := List.mem_filter.mp h
  rw [decide_eq_true_eq] at hkeep
  exact ⟨hkeep.1, hkeep.2, notMem_of_mem_splitOn hmem⟩

/-! ## Operations -/

namespace PurePath

/-- `Path(s)`.  The slashes of the root leave empty pieces only. -/
def ofStr (s : PyStr) : PurePath := ⟨Root.ofStr s, kept (s.splitOn sep), fun _ => isPart_of_mem_kept⟩

/-- `str(path)`. -/
def toStr (p : PurePath) : PyStr :=
  if p.root = .none ∧ p.parts = [] then str "." else p.root.toStr ++ [sep].intercalate p.parts

/-- `path / s`. -/
def joinpath (p : PurePath) (s : PyStr) : PurePath :=
  if (ofStr s).root = .none then
    ⟨p.root, p.parts ++ (ofStr s).parts, List.forall_mem_append.mpr ⟨p.parts_ok, (ofStr s).parts_ok⟩⟩
  else ofStr s

/-- `path.parent`. -/
def parent (p : PurePath) : PurePath :=
  ⟨p.root, p.parts.dropLast, fun part h => p.parts_ok part (List.dropLast_subset _ h)⟩

/-- `path.name`. -/
def name (p : PurePath) : PyStr := p.parts.getLast?.getD []

end PurePath

/-- `s.rfind(c)`, where it is found. -/
def rfind (s : PyStr) (c : CodePoint) : Option ℕ := (s.reverse.findIdx? (· = c)).map (s.length - 1 - ·)

/-- The suffix of a name. -/
def nameSuffix (name : PyStr) : PyStr :=
  match rfind name (cp '.') with
  | some i => if 0 < i ∧ i < name.length - 1 then name.drop i else []
  | none => []

/-- A suffix to put on a name: a dot and what comes behind it. -/
structure Suffix where
  text : PyStr
  dotted : ∃ c rest, text = cp '.' :: c :: rest ∧ c ≠ cp '.'
  no_sep : sep ∉ text

lemma Suffix.two_le (s : Suffix) : 2 ≤ s.text.length := by
  obtain ⟨c, rest, htext, -⟩ := s.dotted
  simp [htext]

/-- A name with a suffix behind it is a component, and not `..`. -/
lemma Suffix.append (s : Suffix) {stem : PyStr} (hstem : sep ∉ stem) :
    IsPart (stem ++ s.text) ∧ stem ++ s.text ≠ str ".." := by
  have hlen := s.two_le
  have hlong : 2 ≤ (stem ++ s.text).length := by
    rw [List.length_append]
    omega
  refine ⟨⟨?_, ?_, ?_⟩, ?_⟩
  · intro h
    simp [h] at hlong
  · intro h
    rw [h] at hlong
    exact absurd hlong (by decide)
  · rw [List.mem_append, not_or]
    exact ⟨hstem, s.no_sep⟩
  · intro h
    obtain ⟨c, rest, htext, hc⟩ := s.dotted
    have hshort : (stem ++ s.text).length = 2 := by
      rw [h]
      rfl
    have hnil : stem = [] := List.length_eq_zero_iff.mp (by rw [List.length_append] at hshort; omega)
    rw [hnil, htext] at h
    exact hc (List.cons.inj (List.cons.inj h).2).1

namespace PurePath

/-- `path.suffix`. -/
def suffix (p : PurePath) : PyStr := nameSuffix p.name

/-- The name with another suffix. -/
def renamed (name : PyStr) (s : Suffix) : PyStr := name.take (name.length - (nameSuffix name).length) ++ s.text

lemma renamed_ok {name : PyStr} (h : IsPart name) (s : Suffix) :
    IsPart (renamed name s) ∧ renamed name s ≠ str ".." :=
  s.append fun hmem => h.no_sep (List.mem_of_mem_take hmem)

/-- `path.with_suffix(s)`; a path without a name has no suffix (`ValueError`). -/
def withSuffix (p : PurePath) (s : Suffix) : Option PurePath :=
  match h : p.parts.getLast? with
  | none => none
  | some name => some ⟨p.root, p.parts.dropLast ++ [renamed name s], List.forall_mem_append.mpr
      ⟨fun part hmem => p.parts_ok part (List.dropLast_subset _ hmem),
        List.forall_mem_singleton.mpr (renamed_ok (p.parts_ok name (List.mem_of_getLast? h)) s).1⟩⟩

/-! ## Resolving -/

/-- A component as a step in the tree. -/
def step (part : PyStr) : Step PyStr := if part = str ".." then .up else .down part

/-- The place a path leads to, from a working directory, in a tree without links. -/
def resolve (cwd : List PyStr) (p : PurePath) : List PyStr :=
  walk (if p.root = .none then cwd else []) (p.parts.map step)

/-- The directories a text names, in front of its last slash. -/
def directories (s : PyStr) : List (Step PyStr) := (kept (s.splitOn sep).dropLast).map step

/-- A file is in the place its directory is resolved to. -/
lemma resolve_file {p : PurePath} {name : PyStr} (hname : p.parts.getLast? = some name) (hup : name ≠ str "..")
    (cwd : List PyStr) : p.resolve cwd = p.parent.resolve cwd ++ [name] := by
  obtain ⟨front, hparts⟩ := List.getLast?_eq_some_iff.mp hname
  rw [resolve, resolve, parent]
  simp only [hparts, List.dropLast_concat, List.map_append, List.map_singleton, walk_append]
  rw [step, if_neg hup, walk_down, walk_nil]

/-- Another suffix leaves the directory as it is. -/
lemma withSuffix_file {p q : PurePath} {s : Suffix} (h : p.withSuffix s = some q) :
    q.parent = p.parent ∧ ∃ name, q.parts.getLast? = some name ∧ name ≠ str ".." := by
  unfold withSuffix at h
  split at h
  · simp at h
  · rename_i name hname
    rw [← Option.some.inj h]
    refine ⟨by simp [parent], renamed name s, List.getLast?_concat, ?_⟩
    exact (renamed_ok (p.parts_ok name (List.mem_of_getLast? hname)) s).2

/-- The text is absolute exactly if it begins with a slash. -/
lemma root_ofStr_append (s : PyStr) (ext : Suffix) :
    (ofStr (s ++ ext.text)).root = .none ↔ s.head? ≠ some sep := by
  obtain ⟨c, rest, htext, -⟩ := ext.dotted
  have hdot : cp '.' ≠ sep := by decide
  cases s with
  | nil => simp [ofStr, Root.ofStr, htext, hdot]
  | cons x s =>
      rw [List.head?_cons, Ne, Option.some.injEq]
      simp only [ofStr, List.cons_append, Root.ofStr]
      by_cases hx : x = sep
      · rw [if_neg (not_not.mpr hx)]
        refine iff_of_false ?_ (not_not.mpr hx)
        split_ifs <;> simp
      · exact iff_of_true (if_pos hx) hx

/-- The components of a text with a suffix: the directories in front of its last slash, and a file. -/
lemma parts_ofStr_append (s : PyStr) (ext : Suffix) :
    ∃ file, (ofStr (s ++ ext.text)).parts = kept (s.splitOn sep).dropLast ++ [file] ∧ file ≠ str ".." := by
  obtain ⟨front, last, hs, hst⟩ := splitOn_append ext.no_sep s
  have hlast : sep ∉ last := notMem_of_mem_splitOn (s := s) (by rw [hs]; simp)
  obtain ⟨hpart, hup⟩ := ext.append hlast
  have hkept : kept [last ++ ext.text] = [last ++ ext.text] :=
    List.filter_eq_self.mpr (by simp [hpart.ne_nil, hpart.ne_dot])
  refine ⟨last ++ ext.text, ?_, hup⟩
  change kept ((s ++ ext.text).splitOn sep) = _
  rw [hst, hs, List.dropLast_concat, kept_append, hkept]

lemma parts_joinpath (p : PurePath) (s : PyStr) : (p.joinpath s).parts
    = if (ofStr s).root = .none then p.parts ++ (ofStr s).parts else (ofStr s).parts := by
  rw [joinpath]
  split_ifs <;> rfl

lemma root_joinpath (p : PurePath) (s : PyStr) : (p.joinpath s).root
    = if (ofStr s).root = .none then p.root else (ofStr s).root := by
  rw [joinpath]
  split_ifs <;> rfl

lemma resolve_parent (p : PurePath) (cwd : List PyStr) : p.parent.resolve cwd
    = walk (if p.root = .none then cwd else []) (p.parts.dropLast.map step) := rfl

/-- **Where a directory joined with a text and a suffix leads to**: a file in the place the directories of the
text lead to, from the directory or, where the text is absolute, from the root. -/
theorem resolve_joinpath (dir : PurePath) (s : PyStr) (ext : Suffix) (cwd : List PyStr) :
    (∃ file, (dir.joinpath (s ++ ext.text)).parts.getLast? = some file ∧ file ≠ str "..") ∧
      (dir.joinpath (s ++ ext.text)).parent.resolve cwd
        = walk (if s.head? = some sep then [] else dir.resolve cwd) (directories s) := by
  obtain ⟨file, hparts, hup⟩ := parts_ofStr_append s ext
  have hroot := root_ofStr_append s ext
  rw [resolve_parent, parts_joinpath, root_joinpath, hparts]
  by_cases habsolute : s.head? = some sep
  · have hne : (ofStr (s ++ ext.text)).root ≠ .none := fun h => hroot.mp h habsolute
    rw [if_neg hne, if_neg hne, if_neg hne, if_pos habsolute, List.dropLast_concat]
    exact ⟨⟨file, List.getLast?_concat, hup⟩, rfl⟩
  · have hrelative := hroot.mpr habsolute
    rw [if_pos hrelative, if_pos hrelative, if_neg habsolute, ← List.append_assoc, List.dropLast_concat,
      List.map_append, walk_append]
    exact ⟨⟨file, List.getLast?_concat, hup⟩, rfl⟩

end PurePath

end Python
