import BacnetBc.Lib.Path
import BacnetBc.Lib.Memory
import Mathlib

/-!
# The tree of a CARI file

A CARI file holds files and folders under one root. `Tree` is that content in memory: file path to
contents, and the folders, which may be empty. `AddFile` and `AddFolder` add the folders above a
path with it.

**Safe paths.** `isSafeZipPath` is the reader's check of a name. `SafePath` says what it is for: all
parts of the path are plain names. A safe path leads below any folder it is joined to
(`SafePath.follow`).

**Theorem (`isSafeZipPath_iff_of_last`).** For a path that does not end with '/', the check accepts
exactly the safe paths. A '/' at the end is seen neither by it nor by `AddFolder`
(`exists_safePath`, `mem_addFolder`).
-/

namespace BacnetBc.Cari

open Memory Path

/-! ## Paths -/

/-- '/'. -/
def slash : UInt8 := 0x2F

def dot : Octets := [0x2E]

def dotdot : Octets := [0x2E, 0x2E]

/-- `Split`: `std::getline` up to each '/'. -/
def split (path : Octets) : List Octets := Path.split slash path

/-- What `IsSafeZipPath` asks of one part. -/
def isSafePart (part : Octets) : Bool :=
  !(part.isEmpty || part == dot || part == dotdot) && part.all fun c => !(c < 0x20 || c == 0x7F)

/-- `IsSafeZipPath`. -/
def isSafeZipPath (path : Octets) : Bool :=
  !(path.isEmpty || path.head? == some slash || path.contains 0x5C || path.contains 0x3A) &&
    (split path).all isSafePart

/-- A character of a plain name: no control character, backslash or colon. -/
structure SafeChar (c : UInt8) : Prop where
  not_control : ¬ c < 0x20
  not_delete : c ≠ 0x7F
  not_backslash : c ≠ 0x5C
  not_colon : c ≠ 0x3A

/-- A plain name. -/
structure SafePart (part : Octets) : Prop where
  ne_nil : part ≠ []
  ne_dot : part ≠ dot
  ne_dotdot : part ≠ dotdot
  chars : ∀ c ∈ part, SafeChar c

/-- All parts are plain names; none is empty, so no '/' stands at either end. -/
def SafePath (path : Octets) : Prop := ∀ part ∈ path.splitOn slash, SafePart part

/-- A safe path stays under the folder it is joined to. -/
theorem SafePath.follow {path : Octets} (h : SafePath path) (base : List Octets) :
    follow slash dot dotdot base path = base ++ path.splitOn slash :=
  follow_plain (fun part hpart => ⟨(h part hpart).ne_nil, (h part hpart).ne_dot,
    (h part hpart).ne_dotdot⟩) base

theorem SafePath.ne_nil {path : Octets} (h : SafePath path) : path ≠ [] := by
  rintro rfl
  exact (h [] (by rw [List.splitOn_nil]; exact List.mem_singleton_self [])).ne_nil rfl

theorem SafePath.getLast?_ne {path : Octets} (h : SafePath path) : path.getLast? ≠ some slash := by
  intro hlast
  obtain ⟨before, rfl⟩ := List.getLast?_eq_some_iff.1 hlast
  refine (h [] ?_).ne_nil rfl
  rw [List.splitOn_append_cons_self, List.splitOn_nil]
  exact List.mem_append_right _ (List.mem_singleton_self [])

theorem SafePath.split_eq {path : Octets} (h : SafePath path) :
    split path = path.splitOn slash := split_eq_splitOn h.ne_nil h.getLast?_ne

/-- The folders above a safe path are safe. -/
theorem SafePath.of_isAncestor {folder path : Octets} (h : SafePath path)
    (hfolder : IsAncestor slash folder path) : SafePath folder := by
  obtain ⟨rest, -, hsplit⟩ := isAncestor_iff_splitOn.1 hfolder
  intro part hpart
  exact h part (hsplit ▸ List.mem_append_left rest hpart)

theorem isSafePart_iff {part : Octets} :
    isSafePart part = true ↔ part ≠ [] ∧ part ≠ dot ∧ part ≠ dotdot ∧
      ∀ c ∈ part, ¬ c < 0x20 ∧ c ≠ 0x7F := by
  simp only [isSafePart, Bool.and_eq_true, Bool.not_eq_true', Bool.or_eq_false_iff,
    List.isEmpty_eq_false_iff, beq_eq_false_iff_ne, List.all_eq_true, decide_eq_false_iff_not,
    and_assoc]

theorem isSafeZipPath_iff {path : Octets} :
    isSafeZipPath path = true ↔ path ≠ [] ∧ ∀ part ∈ split path, SafePart part := by
  have hsafe : isSafeZipPath path = true ↔ path ≠ [] ∧ path.head? ≠ some slash ∧ 0x5C ∉ path ∧
      0x3A ∉ path ∧ ∀ part ∈ split path, isSafePart part = true := by
    simp only [isSafeZipPath, Bool.and_eq_true, Bool.not_eq_true', Bool.or_eq_false_iff,
      List.isEmpty_eq_false_iff, beq_eq_false_iff_ne, List.contains_eq_mem, decide_eq_false_iff_not,
      List.all_eq_true, and_assoc, ne_eq]
  rw [hsafe]
  constructor
  · rintro ⟨hne, -, hbackslash, hcolon, hparts⟩
    refine ⟨hne, fun part hpart => ?_⟩
    obtain ⟨hempty, hdot, hdotdot, hchars⟩ := isSafePart_iff.1 (hparts part hpart)
    refine ⟨hempty, hdot, hdotdot, fun c hc => ⟨(hchars c hc).1, (hchars c hc).2, ?_, ?_⟩⟩
    · rintro rfl
      exact hbackslash ((mem_iff_split (by decide)).2 ⟨part, hpart, hc⟩)
    · rintro rfl
      exact hcolon ((mem_iff_split (by decide)).2 ⟨part, hpart, hc⟩)
  · rintro ⟨hne, hparts⟩
    refine ⟨hne, ?_, ?_, ?_, fun part hpart => ?_⟩
    · intro hhead
      obtain ⟨rest, rfl⟩ := List.head?_eq_some_iff.1 hhead
      exact (hparts [] List.mem_cons_self).ne_nil rfl
    · intro hmem
      obtain ⟨part, hpart, hc⟩ := (mem_iff_split (by decide : (0x5C : UInt8) ≠ slash)).1 hmem
      exact ((hparts part hpart).chars _ hc).not_backslash rfl
    · intro hmem
      obtain ⟨part, hpart, hc⟩ := (mem_iff_split (by decide : (0x3A : UInt8) ≠ slash)).1 hmem
      exact ((hparts part hpart).chars _ hc).not_colon rfl
    · have h := hparts part hpart
      exact isSafePart_iff.2 ⟨h.ne_nil, h.ne_dot, h.ne_dotdot,
        fun c hc => ⟨(h.chars c hc).not_control, (h.chars c hc).not_delete⟩⟩

/-- **The check accepts the safe paths.** -/
theorem isSafeZipPath_iff_of_last {path : Octets} (hlast : path.getLast? ≠ some slash) :
    isSafeZipPath path = true ↔ SafePath path := by
  rw [isSafeZipPath_iff]
  constructor
  · rintro ⟨hne, hparts⟩
    rwa [split, split_eq_splitOn hne hlast] at hparts
  · intro h
    refine ⟨h.ne_nil, ?_⟩
    rw [split, split_eq_splitOn h.ne_nil hlast]
    exact h

/-- What the check accepts is a safe path, with or without a '/' at its end. -/
theorem exists_safePath {path : Octets} (h : isSafeZipPath path = true) :
    ∃ path', SafePath path' ∧ split path = path'.splitOn slash := by
  obtain ⟨hne, hparts⟩ := isSafeZipPath_iff.1 h
  by_cases hlast : path.getLast? = some slash
  · obtain ⟨before, rfl⟩ := List.getLast?_eq_some_iff.1 hlast
    have hsplit : split (before ++ [slash]) = before.splitOn slash := split_append_separator before
    rw [hsplit] at hparts
    exact ⟨before, hparts, hsplit⟩
  · exact ⟨path, (isSafeZipPath_iff_of_last hlast).1 h, split_eq_splitOn hne hlast⟩

/-! ## Tree -/

@[ext]
structure Tree where
  files : Std.ExtTreeMap Octets Octets
  folders : Std.ExtTreeSet Octets

namespace Tree

/-- `Tree()`. -/
def empty : Tree := ⟨∅, ∅⟩

/-- The loop of `AddFolder`: each part makes the path so far longer, and that is a folder. -/
def addParts (tree : Tree) (path : Octets) : List Octets → Tree
  | [] => tree
  | part :: parts =>
    let path := path ++ ((if path.isEmpty then [] else [slash]) ++ part)
    addParts { tree with folders := tree.folders.insert path } path parts

/-- `AddFolder`. -/
def addFolder (tree : Tree) (path : Octets) : Tree := tree.addParts [] (split path)

end Tree

/-- The part of a path before its last '/'. -/
def parentOf : Octets → Option Octets
  | [] => none
  | c :: path =>
    match parentOf path with
    | some parent => some (c :: parent)
    | none => if c = slash then some [] else none

namespace Tree

/-- `AddFile`. -/
def addFile (tree : Tree) (path bytes : Octets) : Tree :=
  let tree := match parentOf path with
    | some parent => tree.addFolder parent
    | none => tree
  { tree with files := tree.files.insert path bytes }

theorem mem_insert_files {files : Std.ExtTreeMap Octets Octets} {file added bytes : Octets} :
    file ∈ files.insert added bytes ↔ file = added ∨ file ∈ files := by
  rw [Std.ExtTreeMap.mem_insert, Std.LawfulEqCmp.compare_eq_iff_eq, eq_comm]

theorem mem_of_getElem? {files : Std.ExtTreeMap Octets Octets} {file bytes : Octets}
    (h : files[file]? = some bytes) : file ∈ files :=
  Std.ExtTreeMap.mem_iff_isSome_getElem?.2 (by rw [h]; rfl)

theorem nodup_toList (files : Std.ExtTreeMap Octets Octets) : files.toList.Nodup := by
  have hkeys : (files.toList.map Prod.fst).Nodup := by
    rw [Std.ExtTreeMap.map_fst_toList_eq_keys]
    exact Std.ExtTreeMap.nodup_keys
  exact List.Nodup.of_map Prod.fst hkeys

/-- A new file is one more in the list of files. -/
theorem toList_insert {files : Std.ExtTreeMap Octets Octets} {path : Octets} (h : path ∉ files)
    (bytes : Octets) : (files.insert path bytes).toList.Perm ((path, bytes) :: files.toList) := by
  have hnew : (path, bytes) ∉ files.toList := by
    intro hmem
    rw [Std.ExtTreeMap.mem_toList_iff_getElem?_eq_some] at hmem
    exact h (mem_of_getElem? hmem)
  refine (List.perm_ext_iff_of_nodup (nodup_toList _)
    (List.nodup_cons.2 ⟨hnew, nodup_toList files⟩)).2 ?_
  rintro ⟨path', bytes'⟩
  rw [List.mem_cons, Std.ExtTreeMap.mem_toList_iff_getElem?_eq_some,
    Std.ExtTreeMap.mem_toList_iff_getElem?_eq_some, Std.ExtTreeMap.getElem?_insert]
  by_cases heq : path = path'
  · subst heq
    rw [if_pos Std.ReflCmp.compare_self, Std.ExtTreeMap.getElem?_eq_none h]
    simp [eq_comm]
  · rw [if_neg fun hcmp => heq (Std.LawfulEqCmp.compare_eq_iff_eq.1 hcmp)]
    simp [Ne.symm heq]

/-! ### What they add -/

@[simp] theorem addParts_files (tree : Tree) (path : Octets) (parts : List Octets) :
    (tree.addParts path parts).files = tree.files := by
  induction parts generalizing tree path with
  | nil => rfl
  | cons part parts ih => rw [addParts, ih]

@[simp] theorem addFolder_files (tree : Tree) (path : Octets) :
    (tree.addFolder path).files = tree.files := addParts_files tree [] _

@[simp] theorem addFile_files (tree : Tree) (path bytes : Octets) :
    (tree.addFile path bytes).files = tree.files.insert path bytes := by
  rw [addFile]
  cases parentOf path with
  | none => rfl
  | some parent => exact congrArg (·.insert path bytes) (addFolder_files tree parent)

theorem mem_insert {folders : Std.ExtTreeSet Octets} {folder added : Octets} :
    folder ∈ folders.insert added ↔ folder = added ∨ folder ∈ folders := by
  rw [Std.ExtTreeSet.mem_insert, Std.LawfulEqCmp.compare_eq_iff_eq, eq_comm]

theorem mem_addParts (tree : Tree) {path : Octets} (hpath : path ≠ []) {parts : List Octets}
    {folder : Octets} :
    folder ∈ (tree.addParts path parts).folders ↔ folder ∈ tree.folders ∨
      ∃ shown, shown ≠ [] ∧ shown <+: parts ∧ folder = [slash].intercalate (path :: shown) := by
  induction parts generalizing tree path with
  | nil =>
    rw [addParts]
    refine ⟨.inl, ?_⟩
    rintro (h | ⟨shown, hne, hprefix, -⟩)
    · exact h
    · exact absurd (List.prefix_nil.1 hprefix) hne
  | cons part parts ih =>
    have hnext : path ++ ((if path.isEmpty then [] else [slash]) ++ part) =
        path ++ slash :: part := by
      rw [if_neg (by simpa using hpath), List.singleton_append]
    have hjoin (shown : List Octets) : [slash].intercalate (path :: part :: shown) =
        [slash].intercalate ((path ++ slash :: part) :: shown) := by
      cases shown with
      | nil => simp [List.intercalate_cons_cons]
      | cons part' shown => simp [List.intercalate_cons_cons]
    have hone : [slash].intercalate [path, part] = path ++ slash :: part := by
      rw [hjoin [], List.intercalate_singleton]
    rw [addParts, hnext, ih _ (by simp), exists_prefix_cons, hone, mem_insert]
    simp only [hjoin]
    rw [or_assoc, or_left_comm]

/-- **`AddFolder` adds the folder and those above it.** -/
theorem mem_addFolder (tree : Tree) {path path' : Octets} (h : SafePath path')
    (hsplit : split path = path'.splitOn slash) {folder : Octets} :
    folder ∈ (tree.addFolder path).folders ↔
      folder ∈ tree.folders ∨ folder = path' ∨ IsAncestor slash folder path' := by
  obtain ⟨part, parts, hparts⟩ := List.exists_cons_of_ne_nil (List.splitOn_ne_nil slash path')
  have hpart : part ≠ [] := (h part (hparts ▸ List.mem_cons_self)).ne_nil
  rw [addFolder, hsplit, hparts, addParts, eq_or_isAncestor_iff, hparts]
  simp only [List.isEmpty_nil, if_true, List.nil_append]
  rw [mem_addParts _ hpart, exists_prefix_cons, List.intercalate_singleton, mem_insert, or_assoc,
    or_left_comm]

/-! ### Files -/

theorem parentOf_eq_none {path : Octets} (h : parentOf path = none) : slash ∉ path := by
  induction path with
  | nil => exact List.not_mem_nil
  | cons c path ih =>
    rw [parentOf] at h
    cases hparent : parentOf path with
    | some parent => rw [hparent] at h; cases h
    | none =>
      rw [hparent] at h
      simp only [ite_eq_right_iff, reduceCtorEq, imp_false] at h
      exact List.not_mem_cons_of_ne_of_not_mem (Ne.symm h) (ih hparent)

theorem parentOf_eq_some {path parent : Octets} (h : parentOf path = some parent) :
    ∃ name, path = parent ++ slash :: name ∧ slash ∉ name := by
  induction path generalizing parent with
  | nil => cases h
  | cons c path ih =>
    rw [parentOf] at h
    cases hparent : parentOf path with
    | some parent' =>
      rw [hparent] at h
      cases h
      obtain ⟨name, rfl, hname⟩ := ih hparent
      exact ⟨name, rfl, hname⟩
    | none =>
      rw [hparent] at h
      dsimp only at h
      split_ifs at h with hc
      cases h
      exact ⟨path, by rw [hc, List.nil_append], parentOf_eq_none hparent⟩

/-- **`AddFile` adds the folders above the file.** -/
theorem mem_addFile_folders (tree : Tree) {path : Octets} (h : SafePath path) (bytes : Octets)
    {folder : Octets} :
    folder ∈ (tree.addFile path bytes).folders ↔
      folder ∈ tree.folders ∨ IsAncestor slash folder path := by
  rw [addFile]
  cases hparent : parentOf path with
  | none =>
    have hnone : ¬ IsAncestor slash folder path := by
      rintro ⟨rest, rfl⟩
      exact parentOf_eq_none hparent (List.mem_append_right _ List.mem_cons_self)
    simp only [hnone, or_false]
  | some parent =>
    obtain ⟨name, rfl, hname⟩ := parentOf_eq_some hparent
    have hsafe : SafePath parent := h.of_isAncestor ⟨name, rfl⟩
    have hsplit : split parent = parent.splitOn slash :=
      split_eq_splitOn hsafe.ne_nil hsafe.getLast?_ne
    rw [isAncestor_append hname]
    exact mem_addFolder tree hsafe hsplit

/-! ### Trees with all their folders -/

/-- The folders above every file and folder are there. -/
def Closed (tree : Tree) : Prop :=
  ∀ path, path ∈ tree.files ∨ path ∈ tree.folders →
    ∀ folder, IsAncestor slash folder path → folder ∈ tree.folders

theorem closed_empty : empty.Closed := by
  rintro path (h | h)
  · exact absurd h Std.ExtTreeMap.not_mem_empty
  · exact absurd h Std.ExtTreeSet.not_mem_empty

theorem Closed.addFolder {tree : Tree} (h : tree.Closed) {path path' : Octets}
    (hpath : SafePath path') (hsplit : split path = path'.splitOn slash) :
    (tree.addFolder path).Closed := by
  intro added hadded folder hfolder
  rw [addFolder_files, mem_addFolder tree hpath hsplit] at hadded
  rw [mem_addFolder tree hpath hsplit]
  rcases hadded with hadded | hadded | rfl | hadded
  · exact .inl (h added (.inl hadded) folder hfolder)
  · exact .inl (h added (.inr hadded) folder hfolder)
  · exact .inr (.inr hfolder)
  · exact .inr (.inr (hfolder.trans hadded))

theorem Closed.addFile {tree : Tree} (h : tree.Closed) {path : Octets} (hpath : SafePath path)
    (bytes : Octets) : (tree.addFile path bytes).Closed := by
  intro added hadded folder hfolder
  rw [addFile_files, mem_insert_files, mem_addFile_folders tree hpath] at hadded
  rw [mem_addFile_folders tree hpath]
  rcases hadded with (rfl | hadded) | hadded | hadded
  · exact .inr hfolder
  · exact .inl (h added (.inl hadded) folder hfolder)
  · exact .inl (h added (.inr hadded) folder hfolder)
  · exact .inr (hfolder.trans hadded)

end Tree

end BacnetBc.Cari
