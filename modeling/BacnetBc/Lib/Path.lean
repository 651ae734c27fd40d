import Mathlib.Data.List.Basic
import Mathlib.Tactic.SplitIfs

/-!
# Paths

A path is a text whose parts stand between separators; `List.splitOn` gives the parts and
`List.intercalate` puts them together again.

* `IsAncestor` is a folder that a path leads through.
* `split` gives the parts as a line reader does, which drops an empty last one.
* `follow` is where a path leads from a folder: "." stays, ".." goes up, and a path that begins with
  a separator begins at the root.

**Theorem (`follow_plain`).** A path of plain parts leads from any folder to that folder and its own
parts below it.
-/

namespace Path

variable {α : Type} {separator : α}

/-! ## Parts -/

theorem intercalate_append {parts parts' : List (List α)} (h : parts ≠ []) (h' : parts' ≠ []) :
    [separator].intercalate (parts ++ parts') =
      [separator].intercalate parts ++ separator :: [separator].intercalate parts' := by
  induction parts with
  | nil => exact absurd rfl h
  | cons part parts ih =>
    by_cases hparts : parts = []
    · subst hparts
      rw [List.singleton_append, List.intercalate_cons_of_ne_nil h', List.intercalate_singleton]
      simp only [List.append_assoc, List.singleton_append]
    · rw [List.cons_append, List.intercalate_cons_of_ne_nil
        (List.append_ne_nil_of_left_ne_nil hparts _),
        List.intercalate_cons_of_ne_nil hparts, ih hparts]
      simp only [List.append_assoc]

/-- The first parts of a path are its first one alone, or followed by first parts of the rest. -/
theorem exists_prefix_cons {part : List α} {parts : List (List α)} {P : List (List α) → Prop} :
    (∃ shown, shown ≠ [] ∧ shown <+: part :: parts ∧ P shown) ↔
      P [part] ∨ ∃ shown, shown ≠ [] ∧ shown <+: parts ∧ P (part :: shown) := by
  constructor
  · rintro ⟨shown, hne, hprefix, h⟩
    obtain ⟨part', shown, rfl⟩ := List.exists_cons_of_ne_nil hne
    obtain ⟨rfl, htail⟩ := List.cons_prefix_cons.1 hprefix
    by_cases hshown : shown = []
    · exact .inl (hshown ▸ h)
    · exact .inr ⟨shown, hshown, htail, h⟩
  · rintro (h | ⟨shown, -, hprefix, h⟩)
    · exact ⟨[part], List.cons_ne_nil _ _, List.prefix_append [part] parts, h⟩
    · exact ⟨part :: shown, List.cons_ne_nil _ _, (List.prefix_cons_inj part).2 hprefix, h⟩

variable [DecidableEq α]

/-- The characters of a path but for the separator are those of its parts. -/
theorem mem_iff_splitOn {c : α} (hc : c ≠ separator) {path : List α} :
    c ∈ path ↔ ∃ part ∈ path.splitOn separator, c ∈ part := by
  induction path with
  | nil => simp
  | cons d path ih =>
    rw [List.splitOn_cons_eq_if_modifyHead, List.mem_cons, ih]
    by_cases hd : d = separator
    · subst hd
      simp [hc]
    · obtain ⟨part, parts, hparts⟩ :=
        List.exists_cons_of_ne_nil (List.splitOn_ne_nil separator path)
      rw [if_neg (by simpa using hd), hparts]
      simp only [List.modifyHead_cons, List.mem_cons, exists_eq_or_imp, or_assoc]

/-! ## Folders above a path -/

/-- `folder` is a folder that `path` leads through. -/
def IsAncestor (separator : α) (folder path : List α) : Prop :=
  ∃ rest, path = folder ++ separator :: rest

omit [DecidableEq α] in
theorem IsAncestor.trans {folder folder' path : List α} (h : IsAncestor separator folder folder')
    (h' : IsAncestor separator folder' path) : IsAncestor separator folder path := by
  obtain ⟨rest, rfl⟩ := h
  obtain ⟨rest', rfl⟩ := h'
  exact ⟨rest ++ separator :: rest', by rw [List.append_assoc, List.cons_append]⟩

theorem isAncestor_iff_splitOn {folder path : List α} :
    IsAncestor separator folder path ↔
      ∃ rest, rest ≠ [] ∧ path.splitOn separator = folder.splitOn separator ++ rest := by
  constructor
  · rintro ⟨rest, rfl⟩
    exact ⟨rest.splitOn separator, List.splitOn_ne_nil _ _, List.splitOn_append_cons_self _ _⟩
  · rintro ⟨rest, hrest, hsplit⟩
    refine ⟨[separator].intercalate rest, ?_⟩
    calc path = [separator].intercalate (path.splitOn separator) :=
          (List.intercalate_splitOn separator).symm
      _ = folder ++ separator :: [separator].intercalate rest := by
          rw [hsplit, intercalate_append (List.splitOn_ne_nil _ _) hrest, List.intercalate_splitOn]

/-- A path is given by its parts. -/
theorem splitOn_injective {path path' : List α}
    (h : path.splitOn separator = path'.splitOn separator) : path = path' := by
  calc path = [separator].intercalate (path.splitOn separator) :=
        (List.intercalate_splitOn separator).symm
    _ = path' := by rw [h, List.intercalate_splitOn]

/-- A path and the folders above it are what its first parts give. -/
theorem eq_or_isAncestor_iff {folder path : List α} :
    folder = path ∨ IsAncestor separator folder path ↔
      ∃ shown, shown ≠ [] ∧ shown <+: path.splitOn separator ∧
        folder = [separator].intercalate shown := by
  constructor
  · intro h
    refine ⟨folder.splitOn separator, List.splitOn_ne_nil _ _, ?_,
      (List.intercalate_splitOn _).symm⟩
    rcases h with rfl | h
    · exact List.prefix_refl _
    · obtain ⟨rest, -, hsplit⟩ := isAncestor_iff_splitOn.1 h
      exact ⟨rest, hsplit.symm⟩
  · rintro ⟨shown, hshown, ⟨rest, hrest⟩, rfl⟩
    by_cases hempty : rest = []
    · rw [hempty, List.append_nil] at hrest
      rw [hrest, List.intercalate_splitOn]
      exact .inl rfl
    · refine .inr ⟨[separator].intercalate rest, ?_⟩
      rw [← intercalate_append hshown hempty, hrest, List.intercalate_splitOn]

/-- The folders above a path are the one before its last separator, and those above that. -/
theorem isAncestor_append {folder parent name : List α} (hname : separator ∉ name) :
    IsAncestor separator folder (parent ++ separator :: name) ↔
      folder = parent ∨ IsAncestor separator folder parent := by
  have hsplit : (parent ++ separator :: name).splitOn separator = parent.splitOn separator ++
      [name] := by
    rw [List.splitOn_append_cons_self, List.splitOn_eq_singleton hname]
  rw [isAncestor_iff_splitOn, hsplit]
  constructor
  · rintro ⟨rest, hrest, h⟩
    obtain ⟨rest, last, rfl⟩ := (List.eq_nil_or_concat rest).resolve_left hrest
    rw [List.concat_eq_append, ← List.append_assoc] at h
    obtain ⟨h, -⟩ := List.append_inj' h rfl
    by_cases hempty : rest = []
    · rw [hempty, List.append_nil] at h
      exact .inl (splitOn_injective h.symm)
    · exact .inr (isAncestor_iff_splitOn.2 ⟨rest, hempty, h⟩)
  · rintro (rfl | h)
    · exact ⟨[name], List.cons_ne_nil _ _, rfl⟩
    · obtain ⟨rest, -, h⟩ := isAncestor_iff_splitOn.1 h
      exact ⟨rest ++ [name], List.concat_ne_nil _ _, by rw [h, List.append_assoc]⟩

/-! ## The parts as a line reader gives them -/

/-- The parts between separators, without an empty last one. -/
def split (separator : α) : List α → List (List α)
  | [] => []
  | c :: path =>
    if c = separator then [] :: split separator path
    else
      match split separator path with
      | [] => [[c]]
      | part :: parts => (c :: part) :: parts

theorem split_ne_nil {path : List α} (h : path ≠ []) : split separator path ≠ [] := by
  cases path with
  | nil => exact absurd rfl h
  | cons c path =>
    rw [split]
    split_ifs
    · exact List.cons_ne_nil _ _
    · split <;> exact List.cons_ne_nil _ _

theorem split_eq_singleton {part : List α} (hne : part ≠ []) (h : separator ∉ part) :
    split separator part = [part] := by
  induction part with
  | nil => exact absurd rfl hne
  | cons c part ih =>
    rw [List.mem_cons, not_or] at h
    rw [split, if_neg (Ne.symm h.1)]
    by_cases hpart : part = []
    · rw [hpart, split]
    · rw [ih hpart h.2]

/-- The first part of a path. -/
theorem split_append_cons {part : List α} (h : separator ∉ part) (path : List α) :
    split separator (part ++ separator :: path) = part :: split separator path := by
  induction part with
  | nil => rw [List.nil_append, split, if_pos rfl]
  | cons c part ih =>
    rw [List.mem_cons, not_or] at h
    rw [List.cons_append, split, if_neg (Ne.symm h.1), ih h.2]

theorem separator_not_mem_split {path part : List α} (h : part ∈ split separator path) :
    separator ∉ part := by
  induction path generalizing part with
  | nil => cases h
  | cons c path ih =>
    rw [split] at h
    by_cases hc : c = separator
    · rw [if_pos hc] at h
      rcases List.mem_cons.1 h with rfl | hpart
      · exact List.not_mem_nil
      · exact ih hpart
    · rw [if_neg hc] at h
      have hfirst {first : List α} (hmem : separator ∉ first) : separator ∉ c :: first :=
        List.not_mem_cons_of_ne_of_not_mem (Ne.symm hc) hmem
      cases hparts : split separator path with
      | nil =>
        rw [hparts] at h
        obtain rfl := List.mem_singleton.1 h
        exact hfirst List.not_mem_nil
      | cons first parts =>
        rw [hparts] at h ih
        rcases List.mem_cons.1 h with rfl | hpart
        · exact hfirst (ih List.mem_cons_self)
        · exact ih (List.mem_cons_of_mem _ hpart)

theorem splitOn_eq_split {path : List α} (h : path ≠ []) :
    path.splitOn separator =
      split separator path ++ if path.getLast? = some separator then [[]] else [] := by
  induction path with
  | nil => exact absurd rfl h
  | cons c path ih =>
    rw [List.splitOn_cons_eq_if_modifyHead, split]
    by_cases hpath : path = []
    · subst hpath
      by_cases hc : c = separator
      · simp [hc, split]
      · simp [hc, split]
    · rw [ih hpath, List.getLast?_cons, Option.getD_of_ne_none (by simpa using hpath)]
      by_cases hc : c = separator
      · rw [if_pos (by simpa using hc), if_pos hc, List.cons_append]
      · obtain ⟨part, parts, hparts⟩ := List.exists_cons_of_ne_nil (split_ne_nil hpath)
        rw [if_neg (by simpa using hc), if_neg hc, hparts, List.cons_append, List.modifyHead_cons,
          List.cons_append]

/-- A path that does not end with a separator has the same parts for both. -/
theorem split_eq_splitOn {path : List α} (h : path ≠ []) (hlast : path.getLast? ≠ some separator) :
    split separator path = path.splitOn separator := by
  rw [splitOn_eq_split h, if_neg hlast, List.append_nil]

/-- A separator at the end changes nothing. -/
theorem split_append_separator (path : List α) :
    split separator (path ++ [separator]) = path.splitOn separator := by
  have h : (path ++ [separator]).splitOn separator = split separator (path ++ [separator]) ++
      if (path ++ [separator]).getLast? = some separator then [[]] else [] :=
    splitOn_eq_split (List.concat_ne_nil separator path)
  rw [List.splitOn_append_cons_self, List.splitOn_nil, List.getLast?_concat, if_pos rfl] at h
  exact (List.append_cancel_right h).symm

theorem mem_iff_split {c : α} (hc : c ≠ separator) {path : List α} :
    c ∈ path ↔ ∃ part ∈ split separator path, c ∈ part := by
  by_cases h : path = []
  · subst h
    simp [split]
  · rw [mem_iff_splitOn hc, splitOn_eq_split h]
    constructor
    · rintro ⟨part, hpart, hmem⟩
      rcases List.mem_append.1 hpart with hpart | hpart
      · exact ⟨part, hpart, hmem⟩
      · split_ifs at hpart
        · rw [List.mem_singleton.1 hpart] at hmem
          cases hmem
        · cases hpart
    · rintro ⟨part, hpart, hmem⟩
      exact ⟨part, List.mem_append_left _ hpart, hmem⟩

/-! ## Where a path leads -/

/-- The folder that `parts` lead to from `base`. -/
def resolve (dot dotdot : List α) (base : List (List α)) : List (List α) → List (List α)
  | [] => base
  | part :: parts =>
    if part = [] ∨ part = dot then resolve dot dotdot base parts
    else if part = dotdot then resolve dot dotdot base.dropLast parts
    else resolve dot dotdot (base ++ [part]) parts

theorem resolve_plain {dot dotdot : List α} {parts : List (List α)}
    (h : ∀ part ∈ parts, part ≠ [] ∧ part ≠ dot ∧ part ≠ dotdot) (base : List (List α)) :
    resolve dot dotdot base parts = base ++ parts := by
  induction parts generalizing base with
  | nil => rw [resolve, List.append_nil]
  | cons part parts ih =>
    obtain ⟨⟨hne, hdot, hdotdot⟩, hparts⟩ := List.forall_mem_cons.1 h
    rw [resolve, if_neg (not_or.2 ⟨hne, hdot⟩), if_neg hdotdot, ih hparts, List.append_assoc,
      List.singleton_append]

/-- Where `path` leads from `base`. -/
def follow (separator : α) (dot dotdot : List α) (base : List (List α)) (path : List α) :
    List (List α) :=
  resolve dot dotdot (if path.head? = some separator then [] else base) (path.splitOn separator)

/-- **A path of plain parts leads below the folder it starts from.** -/
theorem follow_plain {dot dotdot path : List α}
    (h : ∀ part ∈ path.splitOn separator, part ≠ [] ∧ part ≠ dot ∧ part ≠ dotdot)
    (base : List (List α)) :
    follow separator dot dotdot base path = base ++ path.splitOn separator := by
  have hrelative : path.head? ≠ some separator := by
    intro hhead
    obtain ⟨rest, rfl⟩ := List.head?_eq_some_iff.1 hhead
    have hempty : [] ∈ (separator :: rest).splitOn separator := by
      rw [List.splitOn_cons_eq_if_modifyHead, if_pos (beq_self_eq_true separator)]
      exact List.mem_cons_self
    exact (h [] hempty).1 rfl
  rw [follow, if_neg hrelative, resolve_plain h]

end Path
