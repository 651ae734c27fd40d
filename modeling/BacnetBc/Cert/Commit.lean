import BacnetBc.Cert.Files
import BacnetBc.Lib.Install

/-!
# What a commit does

**Theorem (`commitStaged_run`).** Which temp writes and renames succeed decides how `CommitStaged`
ends, in one of five ways (`CommitEnd`). At every moment the files are the old ones with a first
part of the staged ones in place, or all of them and the pending key moved (`CommitMoment`).
-/

namespace BacnetBc

open FaultyDisk Memory

variable {L : Layout}

/-! ## How the loops end -/

section
variable {e : Faults String DiskFile} {d : CertDisk}

theorem writeTempFile_ok {path : String} (h : e.write (tempPath path) = true) (now : Int)
    (bytes : Octets) (privateFile : Bool) :
    (writeTempFile now path bytes privateFile e d).value = .ok () ∧
      (writeTempFile now path bytes privateFile e d).disk =
        Function.update d (tempPath path) (some ⟨bytes, now, privateFile⟩) := by
  simp [writeTempFile, write_run_ok _ _ h]

theorem writeTempFile_fail {path : String} (h : e.write (tempPath path) = false) (now : Int)
    (bytes : Octets) (privateFile : Bool) :
    ∃ reason, (writeTempFile now path bytes privateFile e d).value = .error reason := by
  simp [writeTempFile, write_run_fail _ _ h]

theorem length_moments_writeTempFile {path : String} (h : e.write (tempPath path) = true)
    (now : Int) (bytes : Octets) (privateFile : Bool) :
    (writeTempFile now path bytes privateFile e d).moments.length = 6 := by
  simp [writeTempFile, write_run_ok _ _ h, FaultyDisk.remove]

/-- The staged copies as files. -/
def entriesOf (L : Layout) (now : Int) (copies : List (Nat × Staged)) : List (String × DiskFile) :=
  copies.filterMap fun (i, copy) => (L.paths i).map (·, ⟨copy.bytes, now, false⟩)

/-- The files of a commit, under the names of their temp files. -/
def tempEntries (es : List (String × DiskFile)) : List (String × DiskFile) :=
  es.map fun x => (tempPath x.1, x.2)

theorem writeTemps_ok {now : Int} {copies : List (Nat × Staged)}
    (hm : ∀ x ∈ copies, ∃ p, L.paths x.1 = some p)
    (hw : ∀ x ∈ entriesOf L now copies, e.write (tempPath x.1) = true) (paths : List String) :
    (writeTemps L now copies paths e d).value =
        .ok (paths ++ (entriesOf L now copies).map Prod.fst) ∧
      (writeTemps L now copies paths e d).disk =
        install (tempEntries (entriesOf L now copies)) d := by
  induction copies generalizing paths d with
  | nil => simp [writeTemps, entriesOf, tempEntries]
  | cons copy copies ih =>
    obtain ⟨i, copy⟩ := copy
    obtain ⟨path, hi⟩ := hm (i, copy) List.mem_cons_self
    have hes : entriesOf L now ((i, copy) :: copies) =
        (path, ⟨copy.bytes, now, false⟩) :: entriesOf L now copies := by
      simp [entriesOf, hi]
    rw [hes] at hw ⊢
    obtain ⟨hvalue, hdisk⟩ := writeTempFile_ok (d := d) (hw _ List.mem_cons_self) now
      copy.bytes false
    have hrest := ih (d := Function.update d (tempPath path) (some ⟨copy.bytes, now, false⟩))
      (fun x hx => hm x (List.mem_cons_of_mem _ hx)) (fun x hx => hw x (List.mem_cons_of_mem _ hx))
      (paths ++ [path])
    simp only [writeTemps, hi, bind_value, bind_disk, hvalue, hdisk, hrest.1, hrest.2]
    simp [tempEntries]

theorem writeTemps_fail {now : Int} {copies : List (Nat × Staged)}
    (hm : ∀ x ∈ copies, ∃ p, L.paths x.1 = some p) {x : String × DiskFile}
    (hx : x ∈ entriesOf L now copies) (hw : e.write (tempPath x.1) = false) (paths : List String) :
    ∃ reason, (writeTemps L now copies paths e d).value = .error reason := by
  induction copies generalizing paths d with
  | nil => cases hx
  | cons copy copies ih =>
    obtain ⟨i, copy⟩ := copy
    obtain ⟨path, hi⟩ := hm (i, copy) List.mem_cons_self
    have hes : entriesOf L now ((i, copy) :: copies) =
        (path, ⟨copy.bytes, now, false⟩) :: entriesOf L now copies := by
      simp [entriesOf, hi]
    simp only [writeTemps, hi, bind_value]
    cases hhead : e.write (tempPath path) with
    | false =>
      obtain ⟨reason, hr⟩ := writeTempFile_fail (d := d) hhead now copy.bytes false
      exact ⟨reason, by rw [hr]; rfl⟩
    | true =>
      obtain ⟨hvalue, -⟩ := writeTempFile_ok (d := d) hhead now copy.bytes false
      rw [hvalue]
      rw [hes] at hx
      rcases List.mem_cons.1 hx with rfl | hx
      · rw [hhead] at hw
        cases hw
      · exact ih (fun y hy => hm y (List.mem_cons_of_mem _ hy)) hx (paths ++ [path])

/-- The files that the renames of a commit replace before one fails. -/
def replaced (e : Faults String DiskFile) (es : List (String × DiskFile)) :
    List (String × DiskFile) :=
  es.takeWhile fun x => e.rename (tempPath x.1) x.1

theorem take_length_replaced (es : List (String × DiskFile)) :
    es.take (replaced e es).length = replaced e es :=
  (List.prefix_iff_eq_take.1 (List.takeWhile_prefix _)).symm

theorem replaceWithTemp_ok {path : String} {c : DiskFile} (hs : d (tempPath path) = some c)
    (h : e.rename (tempPath path) path = true) :
    (replaceWithTemp path e d).value = .ok () ∧
      (replaceWithTemp path e d).disk =
        Function.update (Function.update d (tempPath path) none) path (some c) ∧
      ∀ d' ∈ (replaceWithTemp path e d).moments,
        d' = d ∨ d' = Function.update (Function.update d (tempPath path) none) path (some c) := by
  simp [replaceWithTemp, rename_run_ok _ _ hs h]

theorem replaceWithTemp_fail {path : String} (h : e.rename (tempPath path) path = false) :
    (∃ reason, (replaceWithTemp path e d).value = .error reason) ∧
      (replaceWithTemp path e d).disk = d ∧
      ∀ d' ∈ (replaceWithTemp path e d).moments, d' = d := by
  simp [replaceWithTemp, rename_run_fail _ _ (Or.inr h)]

theorem moments_replaceWithTemp {path : String} {c : DiskFile} (hs : d (tempPath path) = some c)
    (h : e.rename (tempPath path) path = true) :
    (replaceWithTemp path e d).moments = [d, (replaceWithTemp path e d).disk,
      (replaceWithTemp path e d).disk] := by
  simp [replaceWithTemp, rename_run_ok _ _ hs h]

theorem moments_replaceWithTemp_fail {path : String} (h : e.rename (tempPath path) path = false) :
    (replaceWithTemp path e d).moments = [d, d] := by
  simp [replaceWithTemp, rename_run_fail _ _ (Or.inr h)]

/-- The first of many renames: its file is in place, and the other temp files are still there. -/
theorem exists_renamed {x : String × DiskFile} {es : List (String × DiskFile)}
    (hfile : ∀ y ∈ x :: es, L.IsFile y.1) (hn : ((x :: es).map Prod.fst).Nodup)
    (htmp : ∀ y ∈ x :: es, d (tempPath y.1) = some y.2)
    (hr : e.rename (tempPath x.1) x.1 = true) :
    ∃ d₁, (replaceWithTemp x.1 e d).value = .ok () ∧ (replaceWithTemp x.1 e d).disk = d₁ ∧
      (replaceWithTemp x.1 e d).moments = [d, d₁, d₁] ∧
      Agree L.IsFile (Function.update d x.1 (some x.2)) d₁ ∧
      ∀ y ∈ es, d₁ (tempPath y.1) = some y.2 := by
  have hx := htmp x List.mem_cons_self
  have hxf := hfile x List.mem_cons_self
  rw [List.map_cons, List.nodup_cons] at hn
  obtain ⟨hvalue, hdisk, -⟩ := replaceWithTemp_ok hx hr
  refine ⟨_, hvalue, rfl, moments_replaceWithTemp hx hr, ?_, ?_⟩
  · rw [hdisk]
    exact agree_rename (Layout.not_isFile_tempPath hxf) d x.2
  · intro y hy
    have hyf := hfile y (List.mem_cons_of_mem _ hy)
    have hne : tempPath y.1 ≠ tempPath x.1 := fun h =>
      hn.1 (List.mem_map.2 ⟨y, hy, tempPath_inj.1 h⟩)
    rw [hdisk, Function.update_of_ne (L.tempPath_ne hyf hxf), Function.update_of_ne hne]
    exact htmp y (List.mem_cons_of_mem _ hy)

theorem replaceAll_run {es : List (String × DiskFile)} (hfile : ∀ x ∈ es, L.IsFile x.1)
    (hn : (es.map Prod.fst).Nodup) (htmp : ∀ x ∈ es, d (tempPath x.1) = some x.2) :
    Agree L.IsFile (install (replaced e es) d) (replaceAll (es.map Prod.fst) e d).disk ∧
      (∀ d' ∈ (replaceAll (es.map Prod.fst) e d).moments,
        ∃ k, Agree L.IsFile (install (es.take k) d) d') ∧
      if replaced e es = es then (replaceAll (es.map Prod.fst) e d).value = .ok ()
      else ∃ reason, (replaceAll (es.map Prod.fst) e d).value = .error reason := by
  induction es generalizing d with
  | nil => simp [replaceAll, replaced, Agree.refl]
  | cons x es ih =>
    have hes := (List.nodup_cons.1 hn).2
    simp only [List.map_cons, replaceAll, bind_value, bind_disk, bind_moments, List.mem_append]
    cases hr : e.rename (tempPath x.1) x.1 with
    | false =>
      obtain ⟨⟨reason, hvalue⟩, hdisk, hmoments⟩ := replaceWithTemp_fail (d := d) hr
      have hnone : replaced e (x :: es) = [] := by simp [replaced, hr]
      rw [hvalue, hdisk, hnone]
      refine ⟨Agree.refl _ d, fun d' hd' => ⟨0, ?_⟩, ?_⟩
      · obtain rfl : d' = d := hd'.elim (hmoments d') List.mem_singleton.1
        exact Agree.refl _ d'
      · rw [if_neg (List.cons_ne_nil x es).symm]
        exact ⟨reason, rfl⟩
    | true =>
      obtain ⟨d₁, hvalue, hdisk, hmoments, hmoved, htmp₁⟩ := exists_renamed hfile hn htmp hr
      have hsome : replaced e (x :: es) = x :: replaced e es := by simp [replaced, hr]
      rw [hvalue, hdisk, hsome, hmoments]
      obtain ⟨hend, hmom, hval⟩ :=
        ih (fun y hy => hfile y (List.mem_cons_of_mem _ hy)) hes htmp₁
      refine ⟨(hmoved.install _).trans hend, fun d' hd' => ?_, ?_⟩
      · rcases hd' with hd' | hd'
        · simp only [List.mem_cons, List.not_mem_nil, or_false] at hd'
          rcases hd' with rfl | rfl | rfl
          · exact ⟨0, Agree.refl _ d'⟩
          · exact ⟨1, hmoved⟩
          · exact ⟨1, hmoved⟩
        · obtain ⟨k, hk⟩ := hmom d' hd'
          exact ⟨k + 1, (hmoved.install _).trans hk⟩
      · by_cases hall : replaced e es = es
        · rw [if_pos hall] at hval
          rw [if_pos (by rw [hall])]
          exact hval
        · rw [if_neg hall] at hval
          rw [if_neg fun h => hall (List.cons.inj h).2]
          exact hval

theorem promotePendingKey_ok {c : DiskFile} (hs : d L.pendingPrivateKeyPath = some c)
    (h : e.rename L.pendingPrivateKeyPath L.privateKeyPath = true) :
    (promotePendingKey L e d).value = .ok () ∧
      (promotePendingKey L e d).disk = Function.update
        (Function.update d L.pendingPrivateKeyPath none) L.privateKeyPath (some c) ∧
      ∀ d' ∈ (promotePendingKey L e d).moments, d' = d ∨ d' = Function.update
        (Function.update d L.pendingPrivateKeyPath none) L.privateKeyPath (some c) := by
  simp [promotePendingKey, rename_run_ok _ _ hs h]

theorem promotePendingKey_fail (h : d L.pendingPrivateKeyPath = none ∨
    e.rename L.pendingPrivateKeyPath L.privateKeyPath = false) :
    (∃ reason, (promotePendingKey L e d).value = .error reason) ∧
      (promotePendingKey L e d).disk = d ∧
      ∀ d' ∈ (promotePendingKey L e d).moments, d' = d := by
  simp [promotePendingKey, rename_run_fail _ _ h]

end

/-! ## How a commit ends -/

/-- The pending key, with content `c`, in the place of the private key. -/
def promoted (L : Layout) (c : DiskFile) (d : CertDisk) : CertDisk :=
  Function.update (Function.update d L.pendingPrivateKeyPath none) L.privateKeyPath (some c)

namespace Store

/-- The files that a commit writes. -/
def entries (s : Store L) (now : Int) : List (String × DiskFile) := entriesOf L now s.staged.toList

section
variable {s : Store L} {now : Int}

theorem mem_entries {x : String × DiskFile} : x ∈ s.entries now ↔
    ∃ i copy, s.staged[i]? = some copy ∧ L.paths i = some x.1 ∧ x.2 = ⟨copy.bytes, now, false⟩ := by
  obtain ⟨p, file⟩ := x
  simp only [entries, entriesOf, List.mem_filterMap, Prod.exists,
    Std.ExtTreeMap.mem_toList_iff_getElem?_eq_some, Option.map_eq_some_iff, Prod.mk.injEq]
  constructor
  · rintro ⟨i, copy, hs, p', hp, rfl, rfl⟩
    exact ⟨i, copy, hs, hp, rfl⟩
  · rintro ⟨i, copy, hs, hp, hfile⟩
    exact ⟨i, copy, hs, p, hp, rfl, hfile.symm⟩

theorem isFile_of_mem_entries {x : String × DiskFile} (h : x ∈ s.entries now) : L.IsFile x.1 := by
  obtain ⟨i, -, -, hp, -⟩ := mem_entries.1 h
  exact Layout.isFile_of_paths hp

theorem nodup_entries : ((s.entries now).map Prod.fst).Nodup := by
  have hkeys := s.staged.distinct_keys_toList
  have hfst : (s.entries now).map Prod.fst = s.staged.toList.filterMap fun x => L.paths x.1 := by
    simp only [entries, entriesOf, List.map_filterMap]
    refine congrArg (List.filterMap · _) (funext fun x => ?_)
    cases L.paths x.1 <;> rfl
  rw [hfst]
  refine List.Pairwise.filterMap _ (fun x y hxy p hp q hq hpq => hxy ?_) hkeys
  rw [L.paths_inj hp (hpq ▸ hq)]
  exact Std.ReflCmp.compare_self

theorem managed_toList (s : Store L) : ∀ x ∈ s.staged.toList, ∃ p, L.paths x.1 = some p :=
  fun x hx => s.managed x.1 (Std.ExtTreeMap.mem_iff_isSome_getElem?.2 (by
    rw [Std.ExtTreeMap.mem_toList_iff_getElem?_eq_some.1 hx]
    rfl))

end

/-- How a commit ends: the result and the store, and the disk as far as it is files. -/
inductive CommitEnd (s : Store L) (now : Int) (e : Faults String DiskFile) (d : CertDisk) :
    Except String Unit × Store L → CertDisk → Prop
  /-- A temp file could not be written. -/
  | notWritten {reason d'} {x : String × DiskFile} (hx : x ∈ s.entries now)
      (hw : e.write (tempPath x.1) = false) (hd : Agree L.IsFile d d') :
      CommitEnd s now e d (.error reason, s) d'
  /-- A file could not be replaced. -/
  | notReplaced {reason d'} (hw : ∀ x ∈ s.entries now, e.write (tempPath x.1) = true)
      (hr : replaced e (s.entries now) ≠ s.entries now)
      (hd : Agree L.IsFile (install (replaced e (s.entries now)) d) d') :
      CommitEnd s now e d (.error reason, s) d'
  /-- The pending key could not be moved. -/
  | notPromoted {reason d'} (hw : ∀ x ∈ s.entries now, e.write (tempPath x.1) = true)
      (hr : replaced e (s.entries now) = s.entries now) (hp : s.commitPromotesPendingKey = true)
      (hm : d L.pendingPrivateKeyPath = none ∨
        e.rename L.pendingPrivateKeyPath L.privateKeyPath = false)
      (hd : Agree L.IsFile (install (s.entries now) d) d') :
      CommitEnd s now e d (.error reason, s.clearStage) d'
  /-- The files are in place, and the new key. -/
  | promotes {c d'} (hw : ∀ x ∈ s.entries now, e.write (tempPath x.1) = true)
      (hr : replaced e (s.entries now) = s.entries now) (hp : s.commitPromotesPendingKey = true)
      (hc : d L.pendingPrivateKeyPath = some c)
      (hm : e.rename L.pendingPrivateKeyPath L.privateKeyPath = true)
      (hd : Agree L.IsFile (promoted L c (install (s.entries now) d)) d') :
      CommitEnd s now e d (.ok (), { s.clearStage with commitPromotesPendingKey := false }) d'
  /-- The files are in place. -/
  | installs {d'} (hw : ∀ x ∈ s.entries now, e.write (tempPath x.1) = true)
      (hr : replaced e (s.entries now) = s.entries now) (hp : s.commitPromotesPendingKey = false)
      (hd : Agree L.IsFile (install (s.entries now) d) d') :
      CommitEnd s now e d (.ok (), s.clearStage) d'

/-- A moment of a commit: a first part of the files is in place, or all of them and the new key. -/
def CommitMoment (s : Store L) (now : Int) (d d' : CertDisk) : Prop :=
  (∃ k, Agree L.IsFile (install ((s.entries now).take k) d) d') ∨
    s.commitPromotesPendingKey = true ∧ ∃ c, d L.pendingPrivateKeyPath = some c ∧
      Agree L.IsFile (promoted L c (install (s.entries now) d)) d'

theorem CommitMoment.agree {s : Store L} {now : Int} {d d' d'' : CertDisk}
    (h : s.CommitMoment now d d') (hd : Agree L.IsFile d' d'') : s.CommitMoment now d d'' := by
  rcases h with ⟨k, hk⟩ | ⟨hp, c, hc, hk⟩
  · exact Or.inl ⟨k, hk.trans hd⟩
  · exact Or.inr ⟨hp, c, hc, hk.trans hd⟩

theorem commitMoment_of_agree {s : Store L} {now : Int} {d d' : CertDisk}
    (h : Agree L.IsFile d d') : s.CommitMoment now d d' :=
  Or.inl ⟨0, h⟩

/-- A commit ends at one of its moments. -/
theorem CommitEnd.commitMoment {s : Store L} {now : Int} {e : Faults String DiskFile}
    {d d' : CertDisk} {r : Except String Unit × Store L} (h : s.CommitEnd now e d r d') :
    s.CommitMoment now d d' := by
  have hall (hd : Agree L.IsFile (install (s.entries now) d) d') : s.CommitMoment now d d' :=
    Or.inl ⟨(s.entries now).length, by rw [List.take_length]; exact hd⟩
  cases h with
  | notWritten hx hw hd => exact commitMoment_of_agree hd
  | notReplaced hw hr hd =>
    exact Or.inl ⟨(replaced e (s.entries now)).length, by rw [take_length_replaced]; exact hd⟩
  | notPromoted hw hr hp hm hd => exact hall hd
  | promotes hw hr hp hc hm hd => exact Or.inr ⟨hp, _, hc, hd⟩
  | installs hw hr hp hd => exact hall hd

/-- The keys are none of the files that a commit writes. -/
theorem pending_not_mem_entries (s : Store L) (now : Int) :
    L.pendingPrivateKeyPath ∉ (s.entries now).map Prod.fst := fun h => by
  obtain ⟨x, hx, hp⟩ := List.mem_map.1 h
  obtain ⟨i, -, -, hi, -⟩ := mem_entries.1 hx
  exact L.paths_ne_pending hi hp

theorem private_not_mem_entries (s : Store L) (now : Int) :
    L.privateKeyPath ∉ (s.entries now).map Prod.fst := fun h => by
  obtain ⟨x, hx, hp⟩ := List.mem_map.1 h
  obtain ⟨i, -, -, hi, -⟩ := mem_entries.1 hx
  exact L.paths_ne_private hi hp

/-! ## The steps of a commit -/

section
variable {s : Store L} {now : Int} {e : Faults String DiskFile} {d : CertDisk}

/-- Once they are written, the temp files hold the staged copies. -/
theorem writeTemps_entries (hw : ∀ x ∈ s.entries now, e.write (tempPath x.1) = true) :
    (writeTemps L now s.staged.toList [] e d).value = .ok ((s.entries now).map Prod.fst) ∧
      ∀ x ∈ s.entries now,
        (writeTemps L now s.staged.toList [] e d).disk (tempPath x.1) = some x.2 := by
  obtain ⟨hvalue, hdisk⟩ := writeTemps_ok (d := d) s.managed_toList hw []
  refine ⟨hvalue, ?_⟩
  intro x hx
  have hmap : (tempEntries (s.entries now)).map Prod.fst =
      ((s.entries now).map Prod.fst).map tempPath := by simp [tempEntries]
  have hnodup : ((tempEntries (s.entries now)).map Prod.fst).Nodup :=
    hmap ▸ nodup_entries.map fun p q h => tempPath_inj.1 h
  rw [hdisk]
  exact install_of_mem (x := (tempPath x.1, x.2)) hnodup (List.mem_map.2 ⟨x, hx, rfl⟩)

/-- The renames put a first part of the staged copies in place. -/
theorem replaceAll_entries {d₁ : CertDisk} (hd₁ : Agree L.IsFile d d₁)
    (htmp : ∀ x ∈ s.entries now, d₁ (tempPath x.1) = some x.2) :
    Agree L.IsFile (install (replaced e (s.entries now)) d)
        (replaceAll ((s.entries now).map Prod.fst) e d₁).disk ∧
      (∀ d' ∈ (replaceAll ((s.entries now).map Prod.fst) e d₁).moments, s.CommitMoment now d d') ∧
      if replaced e (s.entries now) = s.entries now then
        (replaceAll ((s.entries now).map Prod.fst) e d₁).value = .ok ()
      else ∃ reason, (replaceAll ((s.entries now).map Prod.fst) e d₁).value = .error reason := by
  obtain ⟨hend, hmoments, hresult⟩ :=
    replaceAll_run (e := e) (fun x hx => isFile_of_mem_entries hx) nodup_entries htmp
  refine ⟨(hd₁.install _).trans hend, ?_, hresult⟩
  intro d' hd'
  obtain ⟨k, hk⟩ := hmoments d' hd'
  exact Or.inl ⟨k, (hd₁.install _).trans hk⟩

/-- A file that is no temp file and not staged is not touched before the pending key is moved. -/
theorem pending_installed {d₂ : CertDisk} (hd₂ : Agree L.IsFile (install (s.entries now) d) d₂) :
    d₂ L.pendingPrivateKeyPath = d L.pendingPrivateKeyPath :=
  (hd₂ _ L.isFile_pending).trans (install_of_not_mem (s.pending_not_mem_entries now))

theorem installed_commitMoment {d₂ : CertDisk}
    (hd₂ : Agree L.IsFile (install (s.entries now) d) d₂) : s.CommitMoment now d d₂ :=
  Or.inl ⟨(s.entries now).length, by rw [List.take_length]; exact hd₂⟩

/-- The pending key stays where it is, or it replaces the private key. -/
theorem promotePendingKey_entries {d₂ : CertDisk}
    (hd₂ : Agree L.IsFile (install (s.entries now) d) d₂)
    (hp : s.commitPromotesPendingKey = true) :
    (∀ d' ∈ (promotePendingKey L e d₂).moments, s.CommitMoment now d d') ∧
      ((∃ reason, (promotePendingKey L e d₂).value = .error reason ∧
          (promotePendingKey L e d₂).disk = d₂ ∧
          (d L.pendingPrivateKeyPath = none ∨
            e.rename L.pendingPrivateKeyPath L.privateKeyPath = false)) ∨
        ∃ c, (promotePendingKey L e d₂).value = .ok () ∧ d L.pendingPrivateKeyPath = some c ∧
          e.rename L.pendingPrivateKeyPath L.privateKeyPath = true ∧
          Agree L.IsFile (promoted L c (install (s.entries now) d))
            (promotePendingKey L e d₂).disk) := by
  have hpending := pending_installed hd₂
  by_cases hm : d L.pendingPrivateKeyPath = none ∨
      e.rename L.pendingPrivateKeyPath L.privateKeyPath = false
  · obtain ⟨⟨reason, hvalue⟩, hdisk, hmoments⟩ :=
      promotePendingKey_fail (d := d₂) (hpending ▸ hm)
    refine ⟨?_, Or.inl ⟨reason, hvalue, hdisk, hm⟩⟩
    intro d' hd'
    rw [hmoments d' hd']
    exact installed_commitMoment hd₂
  · obtain ⟨hsome, hnot⟩ := not_or.1 hm
    obtain ⟨c, hc⟩ := Option.ne_none_iff_exists'.1 hsome
    have hrename : e.rename L.pendingPrivateKeyPath L.privateKeyPath = true := by simpa using hnot
    obtain ⟨hvalue, hdisk, hmoments⟩ := promotePendingKey_ok (d := d₂) (hpending.trans hc) hrename
    have hmoved : Agree L.IsFile (promoted L c (install (s.entries now) d))
        (promotePendingKey L e d₂).disk := by
      rw [hdisk]
      exact (hd₂.update _ _).update _ _
    refine ⟨?_, Or.inr ⟨c, hvalue, hc, hrename, hmoved⟩⟩
    intro d' hd'
    rcases hmoments d' hd' with rfl | hd'
    · exact installed_commitMoment hd₂
    · exact Or.inr ⟨hp, c, hc, hd'.trans hdisk.symm ▸ hmoved⟩

end

/-- **What a commit does.** -/
theorem commitStaged_run (s : Store L) (now : Int) (e : Faults String DiskFile) (d : CertDisk) :
    s.CommitEnd now e d (s.commitStaged now e d).value (s.commitStaged now e d).disk ∧
      ∀ d' ∈ (s.commitStaged now e d).moments, s.CommitMoment now d d' := by
  have hspares : SparesAt (writeTemps L now s.staged.toList []) L.IsFile e d :=
    spares_writeTemps now s.staged.toList (by simp) e d
  have hbefore : ∀ d' ∈ (writeTemps L now s.staged.toList [] e d).moments,
      s.CommitMoment now d d' :=
    fun d' hd' => commitMoment_of_agree (hspares.1 d' hd')
  by_cases hw : ∀ x ∈ s.entries now, e.write (tempPath x.1) = true
  · obtain ⟨hvalue, htmp⟩ := writeTemps_entries (d := d) hw
    simp only [commitStaged, bind_value, bind_disk, bind_moments, hvalue, List.mem_append]
    set d₁ := (writeTemps L now s.staged.toList [] e d).disk
    obtain ⟨hend, hduring, hresult⟩ := replaceAll_entries (e := e) hspares.2 htmp
    set d₂ := (replaceAll ((s.entries now).map Prod.fst) e d₁).disk
    by_cases hr : replaced e (s.entries now) = s.entries now
    · rw [if_pos hr] at hresult
      rw [hr] at hend
      rw [hresult]
      dsimp only
      cases hp : s.commitPromotesPendingKey with
      | false =>
        refine ⟨.installs hw hr hp hend, ?_⟩
        intro d' hd'
        rcases hd' with hd' | hd' | hd'
        · exact hbefore d' hd'
        · exact hduring d' hd'
        · exact List.mem_singleton.1 hd' ▸ installed_commitMoment hend
      | true =>
        obtain ⟨hpromoting, hpromotion⟩ := promotePendingKey_entries (e := e) hend hp
        simp only [if_true, bind_value, bind_disk, bind_moments, List.mem_append]
        rcases hpromotion with ⟨reason, hvalue, hdisk, hm⟩ | ⟨c, hvalue, hc, hrename, hmoved⟩
        · rw [hvalue, hdisk]
          refine ⟨.notPromoted hw hr hp hm hend, ?_⟩
          intro d' hd'
          rcases hd' with hd' | hd' | hd' | hd'
          · exact hbefore d' hd'
          · exact hduring d' hd'
          · exact hpromoting d' hd'
          · exact List.mem_singleton.1 hd' ▸ installed_commitMoment hend
        · rw [hvalue]
          refine ⟨.promotes hw hr hp hc hrename hmoved, ?_⟩
          intro d' hd'
          rcases hd' with hd' | hd' | hd' | hd'
          · exact hbefore d' hd'
          · exact hduring d' hd'
          · exact hpromoting d' hd'
          · exact List.mem_singleton.1 hd' ▸ Or.inr ⟨hp, c, hc, hmoved⟩
    · rw [if_neg hr] at hresult
      obtain ⟨reason, hresult⟩ := hresult
      rw [hresult]
      dsimp only
      refine ⟨.notReplaced hw hr hend, ?_⟩
      intro d' hd'
      rcases hd' with hd' | hd' | hd'
      · exact hbefore d' hd'
      · exact hduring d' hd'
      · rw [List.mem_singleton.1 hd']
        exact Or.inl ⟨(replaced e (s.entries now)).length, by rw [take_length_replaced]; exact hend⟩
  · obtain ⟨x, hx, hfail⟩ : ∃ x ∈ s.entries now, e.write (tempPath x.1) = false := by
      simpa using hw
    obtain ⟨reason, hvalue⟩ := writeTemps_fail (d := d) s.managed_toList hx hfail []
    simp only [commitStaged, bind_value, bind_disk, bind_moments, hvalue, List.mem_append]
    refine ⟨.notWritten hx hfail hspares.2, ?_⟩
    intro d' hd'
    rcases hd' with hd' | hd'
    · exact hbefore d' hd'
    · exact List.mem_singleton.1 hd' ▸ commitMoment_of_agree hspares.2

end Store

end BacnetBc
