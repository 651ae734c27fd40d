import BacnetBc.Cert.Contents

/-!
# What was validated is what is committed

A commit that returns true moves the staged copies into the files. Every File object has the same
contents of its own before and after it, only in another place, so all of them serve what they
served.

**Theorem (`commitStaged_committed`).** After a commit that returns true every File object is read
as before it, nothing is staged, and the other files are what they were. The pending key has
replaced the private key exactly if the last `ValidateStaged` to return true found the operational
certificate to be for the pending key only; if it has not, both keys are what they were.
-/

namespace BacnetBc

open FaultyDisk Memory

variable {X509 Key : Type} (ssl : OpenSsl X509 Key) {L : Layout}

/-! ## The files after a commit -/

/-- The file of the private key is the one that was the pending key's, which is gone. -/
def KeyReplaced (L : Layout) (d d' : CertDisk) : Prop :=
  ∃ c, d L.pendingPrivateKeyPath = some c ∧ d' L.privateKeyPath = some c ∧
    d' L.pendingPrivateKeyPath = none

def KeysKept (L : Layout) (d d' : CertDisk) : Prop :=
  d' L.privateKeyPath = d L.privateKeyPath ∧
    d' L.pendingPrivateKeyPath = d L.pendingPrivateKeyPath

theorem not_keyReplaced_of_kept {d d' : CertDisk} (h : KeysKept L d d') : ¬ KeyReplaced L d d' := by
  intro hreplaced
  obtain ⟨c, hc, -, hgone⟩ := hreplaced
  rw [h.2, hc] at hgone
  cases hgone

namespace Store

/-- What a commit that returns true has done to the files of the File objects. -/
structure Committed (s s' : Store L) (d d' : CertDisk) : Prop where
  reads : ∀ i, s'.read d' i = s.read d i
  cleared : s'.hasStagedChanges = false
  unstaged : ∀ {i p}, i ∉ s.staged → L.paths i = some p → d' p = d p

section
variable {s s' : Store L} {now : Int} {d d' : CertDisk}

theorem path_not_mem_entries {i : Nat} {p : String} (hi : i ∉ s.staged) (hp : L.paths i = some p) :
    p ∉ (s.entries now).map Prod.fst := by
  intro hmem
  obtain ⟨x, hx, rfl⟩ := List.mem_map.1 hmem
  obtain ⟨j, copy, hj, hpath, -⟩ := mem_entries.1 hx
  obtain rfl := L.paths_inj hpath hp
  exact hi (Std.ExtTreeMap.mem_iff_isSome_getElem?.2 (by rw [hj]; rfl))

/-- With every staged copy in its file, the stage can be cleared. -/
theorem committed_of_install (now : Int) (hs' : s'.staged = ∅)
    (hd : ∀ {i p}, L.paths i = some p → d' p = install (s.entries now) d p) :
    s.Committed s' d d' := by
  have hunstaged : ∀ {i p}, i ∉ s.staged → L.paths i = some p → d' p = d p := by
    intro i p hi hp
    rw [hd hp, install_of_not_mem (path_not_mem_entries hi hp)]
  have hown : s'.own d' = s.own d := by
    funext i
    rw [own_of_not_staged (by rw [hs']; exact Std.ExtTreeMap.getElem?_empty)]
    cases hi : s.staged[i]? with
    | some copy =>
      obtain ⟨p, hp⟩ := s.managed i (Std.ExtTreeMap.mem_iff_isSome_getElem?.2 (by rw [hi]; rfl))
      have hmem : (p, (⟨copy.bytes, now, false⟩ : DiskFile)) ∈ s.entries now :=
        mem_entries.2 ⟨i, copy, hi, hp, rfl⟩
      have hfile : d' p = some ⟨copy.bytes, now, false⟩ := by
        rw [hd hp]
        exact install_of_mem nodup_entries hmem
      rw [own_of_staged hi, hp, Option.bind_some, readDisk, hfile]
      rfl
    | none =>
      have hmem : i ∉ s.staged := by
        rw [Std.ExtTreeMap.mem_iff_isSome_getElem?, hi]
        exact Bool.false_ne_true
      rw [own_of_not_staged hi]
      cases hp : L.paths i with
      | none => rfl
      | some p => rw [Option.bind_some, Option.bind_some, readDisk, readDisk, hunstaged hmem hp]
  refine ⟨?_, ?_, hunstaged⟩
  · intro i
    rw [read_eq_serve, read_eq_serve, hown]
  · rw [hasStagedChanges, hs']
    rfl

/-- A commit that returns true, and what became of the keys. -/
theorem committed_of_commitEnd {e : Faults String DiskFile}
    (h : s.CommitEnd now e d (.ok (), s') d') :
    s.Committed s' d d' ∧ (s.commitPromotesPendingKey = true → KeyReplaced L d d') ∧
      (s.commitPromotesPendingKey = false → KeysKept L d d') := by
  cases h with
  | promotes hw hr hp hc hm hd =>
    refine ⟨committed_of_install now rfl ?_, ?_, ?_⟩
    · intro i p hi
      rw [hd p (Layout.isFile_of_paths hi), promoted, Function.update_of_ne (L.paths_ne_private hi),
        Function.update_of_ne (L.paths_ne_pending hi)]
    · intro _
      refine ⟨_, hc, ?_, ?_⟩
      · rw [hd _ L.isFile_private, promoted, Function.update_self]
      · rw [hd _ L.isFile_pending, promoted, Function.update_of_ne L.private_ne_pending.symm,
          Function.update_self]
    · intro hno
      rw [hp] at hno
      cases hno
  | installs hw hr hp hd =>
    refine ⟨committed_of_install now rfl fun hi => hd _ (Layout.isFile_of_paths hi), ?_, ?_⟩
    · intro hyes
      rw [hp] at hyes
      cases hyes
    · intro _
      refine ⟨?_, ?_⟩
      · rw [hd _ L.isFile_private, install_of_not_mem (private_not_mem_entries s now)]
      · rw [hd _ L.isFile_pending, install_of_not_mem (pending_not_mem_entries s now)]

end

/-! ## What the validation has noted -/

/-- The operational certificate to be is for the pending key, and not for the private key. -/
def MatchesPendingOnly (s : Store L) (d : CertDisk) : Prop :=
  ∃ certificate, firstCertificate ssl (s.effective d L.operationalInstance) = some certificate ∧
    isKeyOf ssl d L.privateKeyPath certificate = false ∧
    isKeyOf ssl d L.pendingPrivateKeyPath certificate = true

theorem promotes_iff_matches {s s' : Store L} {d : CertDisk}
    (h : s.validateStaged ssl d = (.ok (), s')) :
    s'.commitPromotesPendingKey = true ↔ s.MatchesPendingOnly ssl d := by
  obtain ⟨certificate, hv⟩ := validateStaged_spec ssl h
  constructor
  · intro hp
    obtain ⟨hprivate, hpending⟩ := hv.pending hp
    exact ⟨certificate, hv.operational, hprivate, hpending⟩
  · intro hmatch
    obtain ⟨certificate', hcert, hprivate, -⟩ := hmatch
    obtain rfl := Option.some.inj (hv.operational.symm.trans hcert)
    cases hflag : s'.commitPromotesPendingKey with
    | true => rfl
    | false =>
      rw [hv.current hflag] at hprivate
      cases hprivate

/-- An update leaves the note alone. -/
theorem update_promotes (s : Store L) (now : Int) (d : CertDisk) (u : Update) :
    (s.update now d u).1.commitPromotesPendingKey = s.commitPromotesPendingKey := by
  have hstage {i : Nat} {t : Store L} {hi : i ∈ t.staged} (h : s.stage now d i = some ⟨t, hi⟩) :
      t.commitPromotesPendingKey = s.commitPromotesPendingKey := by
    unfold stage at h
    split_ifs at h
    · obtain rfl : s = t := congrArg Subtype.val (Option.some.inj h)
      rfl
    · obtain rfl := congrArg Subtype.val (Option.some.inj h)
      rfl
  cases u with
  | write i fileStart fileData =>
    cases h : s.stage now d i with
    | none => rw [update, write, h]
    | some t =>
      obtain ⟨t, hi⟩ := t
      have hflag := hstage h
      rw [update, write_of_stage h]
      dsimp only
      split_ifs <;> exact hflag
  | resize i newSize =>
    rw [update, resize]
    split_ifs
    · rfl
    · cases h : s.stage now d i with
      | none => rfl
      | some t =>
        obtain ⟨t, hi⟩ := t
        have hflag := hstage h
        exact hflag

/-- Updates at times and on disks of their own, accepted or not. -/
def updates (s : Store L) : List (Int × CertDisk × Update) → Store L
  | [] => s
  | (now, d, u) :: us => (s.update now d u).1.updates us

theorem updates_promotes (us : List (Int × CertDisk × Update)) (s : Store L) :
    (s.updates us).commitPromotesPendingKey = s.commitPromotesPendingKey := by
  induction us generalizing s with
  | nil => rfl
  | cons u us ih =>
    obtain ⟨now, d, u⟩ := u
    rw [updates, ih, update_promotes]

end Store

/-- **What was validated is what is committed.** -/
theorem commitStaged_committed {s s' : Store L} {now : Int} {e : Faults String DiskFile}
    {d d' : CertDisk} (h : (s.commitStaged now e d).value = (.ok (), s'))
    (hd : (s.commitStaged now e d).disk = d') :
    s.Committed s' d d' ∧
      ∀ {validated noted : Store L} {dValidated : CertDisk} {us : List (Int × CertDisk × Update)},
        validated.validateStaged ssl dValidated = (.ok (), noted) → noted.updates us = s →
        (KeyReplaced L d d' ↔ validated.MatchesPendingOnly ssl dValidated) ∧
          (¬ KeyReplaced L d d' → KeysKept L d d') := by
  have hend := (s.commitStaged_run now e d).1
  rw [h, hd] at hend
  obtain ⟨hcommitted, hreplaced, hkept⟩ := Store.committed_of_commitEnd hend
  refine ⟨hcommitted, ?_⟩
  intro validated noted dValidated us hvalid hs
  have hflag : s.commitPromotesPendingKey = noted.commitPromotesPendingKey := by
    rw [← hs, Store.updates_promotes]
  rw [← Store.promotes_iff_matches ssl hvalid, ← hflag]
  cases hp : s.commitPromotesPendingKey with
  | true => exact ⟨⟨fun _ => rfl, fun _ => hreplaced hp⟩, fun hno => absurd (hreplaced hp) hno⟩
  | false =>
    refine ⟨⟨fun hyes => absurd hyes (not_keyReplaced_of_kept (hkept hp)), ?_⟩, fun _ => hkept hp⟩
    intro hyes
    cases hyes

/-- The second certificate is validated and committed, and its key is put in place. -/
theorem commitStaged_committed_example :
    let noted := (exampleStore.validateStaged exampleSsl exampleDisk).2
    let done := noted.commitStaged 2 .none exampleDisk
    noted.Committed done.value.2 exampleDisk done.disk ∧
      KeyReplaced exampleLayout.toLayout exampleDisk done.disk := by
  have hvalid : exampleStore.validateStaged exampleSsl exampleDisk =
      (.ok (), (exampleStore.validateStaged exampleSsl exampleDisk).2) :=
    Prod.ext (by decide +kernel) rfl
  have hmatch : exampleStore.MatchesPendingOnly exampleSsl exampleDisk :=
    ⟨.second, by decide +kernel, by decide +kernel, by decide +kernel⟩
  obtain ⟨hcommitted, hkeys⟩ := commitStaged_committed exampleSsl
    (Prod.ext (by decide +kernel) rfl :
      ((exampleStore.validateStaged exampleSsl exampleDisk).2.commitStaged 2 .none
        exampleDisk).value = (.ok (), _)) rfl
  have hnone : (exampleStore.validateStaged exampleSsl exampleDisk).2.updates [] =
      (exampleStore.validateStaged exampleSsl exampleDisk).2 := rfl
  exact ⟨hcommitted, (hkeys hvalid hnone).1.2 hmatch⟩

end BacnetBc
