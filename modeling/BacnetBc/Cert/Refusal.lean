import BacnetBc.Cert.KeyRuns

/-!
# Refusals

What is refused should leave no trace. `Unchanged` says so of an activation: the files, the staged
copies and what is read are the same. Of `Write` and `Resize` it is said by all that a client can
find out later (`Store.response`): the results of any further calls, and what it sees after them.

**Theorem (`refused_unchanged_iff`).** An activation that returns false leaves everything unchanged,
unless it gets as far as replacing a file and a later file or the pending key cannot be moved.

**Theorem (`refused_unobservable_iff`).** A refused update leaves no trace exactly if it is not a
`Write` to a File object that has a file but no staged copy yet.
-/

namespace BacnetBc

open FaultyDisk Memory Trajectory

variable {X509 Key : Type} (ssl : OpenSsl X509 Key) {L : Layout} {N : NodeLayout}

/-! ## What is read depends on the files and the staged copies -/

namespace Store

variable {s s' : Store L} {d d' : CertDisk}

theorem fallbackInstance_congr (hs : s'.staged = s.staged) (hd : Agree L.IsFile d d') (i : Nat) :
    s'.fallbackInstance d' i = s.fallbackInstance d i := by
  unfold fallbackInstance
  rw [hs]
  cases hp : L.paths i with
  | none => simp [ownPath, hp]
  | some p => simp [ownPath, hp, hd p (Layout.isFile_of_paths hp)]

theorem read_congr (hs : s'.staged = s.staged) (hd : Agree L.IsFile d d') (i : Nat) :
    s'.read d' i = s.read d i := by
  induction i using (measure L.rank).wf.induction with
  | _ i ih =>
    cases hi : s.staged[i]? with
    | some copy => rw [read_of_staged hi, read_of_staged (hs ▸ hi)]
    | none =>
      rw [read_of_not_staged hi, read_of_not_staged (hs ▸ hi), fallbackInstance_congr hs hd]
      cases hf : s.fallbackInstance d i with
      | some j => exact ih j (rank_lt_of_fallbackInstance hf)
      | none =>
        cases hp : L.paths i with
        | none => simp [ownPath, hp]
        | some p => simp [ownPath, hp, readDisk, hd p (Layout.isFile_of_paths hp)]

theorem entries_congr (hs : s'.staged = s.staged) (now : Int) : s'.entries now = s.entries now := by
  rw [entries, hs, entries]

end Store

/-! ## A refused activation -/

/-- The files, the staged copies and what is read are the same. -/
structure Unchanged (s s' : Store L) (d d' : CertDisk) : Prop where
  files : Agree L.IsFile d d'
  staged : s'.staged = s.staged
  reads : ∀ i, s'.read d' i = s.read d i

theorem unchanged_of_staged {s s' : Store L} {d d' : CertDisk} (hs : s'.staged = s.staged)
    (hd : Agree L.IsFile d d') : Unchanged s s' d d' :=
  ⟨hd, hs, Store.read_congr hs hd⟩

namespace ScNode

/-- The activation gets as far as replacing files, and does not get to its end: a file cannot be
replaced after another one has changed, or the pending key cannot be moved. -/
def PartlyCommits (node : ScNode N) (now : Int) (e : Faults String DiskFile)
    (d : CertDisk) : Prop :=
  node.store.hasStagedChanges = true ∧ (node.store.validateStaged ssl d).1 = .ok () ∧
    (∀ x ∈ node.store.entries now, e.write (tempPath x.1) = true) ∧
    if replaced e (node.store.entries now) = node.store.entries now then
      (node.store.validateStaged ssl d).2.commitPromotesPendingKey = true ∧
        e.rename N.pendingPrivateKeyPath N.privateKeyPath = false
    else ∃ x ∈ replaced e (node.store.entries now), d x.1 ≠ some x.2

end ScNode

section
variable {ssl} {node : ScNode N} {now : Int} {e : Faults String DiskFile} {d d' : CertDisk}

theorem not_partlyCommits_of_activated {store store' : Store N.toLayout}
    (hv : node.store.validateStaged ssl d = (.ok (), store))
    (hc : store.CommitEnd now e d (.ok (), store') d') : ¬ node.PartlyCommits ssl now e d := by
  have hstaged : store.staged = node.store.staged := by
    rw [← Store.validateStaged_staged ssl node.store d, hv]
  rintro ⟨-, -, -, hrest⟩
  rw [← Store.entries_congr hstaged, hv] at hrest
  cases hc with
  | promotes hw hr hp hc hm hd =>
    rw [if_pos hr] at hrest
    exact Bool.noConfusion (hm.symm.trans hrest.2)
  | installs hw hr hp hd =>
    rw [if_pos hr] at hrest
    exact Bool.noConfusion (hp.symm.trans hrest.1)

theorem unchanged_notCommitted_iff {store store' : Store N.toLayout} {reason : String}
    (hs : node.store.hasStagedChanges = true)
    (hv : node.store.validateStaged ssl d = (.ok (), store))
    (hc : store.CommitEnd now e d (.error reason, store') d') :
    Unchanged node.store store' d d' ↔ ¬ node.PartlyCommits ssl now e d := by
  have hstaged : store.staged = node.store.staged := by
    rw [← Store.validateStaged_staged ssl node.store d, hv]
  have hentries := Store.entries_congr hstaged now
  have hnodup : ((replaced e (store.entries now)).map Prod.fst).Nodup :=
    Store.nodup_entries.sublist ((List.takeWhile_sublist _).map _)
  have hfiles : ∀ x ∈ replaced e (store.entries now), N.IsFile x.1 := fun x hx =>
    Store.isFile_of_mem_entries ((List.takeWhile_sublist _).subset hx)
  unfold ScNode.PartlyCommits
  rw [← hentries, hv]
  cases hc with
  | notWritten hx hw hd =>
    refine iff_of_true (unchanged_of_staged hstaged hd) ?_
    rintro ⟨-, -, hall, -⟩
    exact Bool.noConfusion (hw.symm.trans (hall _ hx))
  | notReplaced hw hr hd =>
    rw [if_neg hr]
    constructor
    · rintro hu ⟨-, -, -, x, hx, hne⟩
      exact hne ((agree_install_iff hnodup hfiles).1 (hu.files.trans hd.symm) x hx)
    · intro hno
      refine unchanged_of_staged hstaged (Agree.trans ?_ hd)
      refine (agree_install_iff hnodup hfiles).2 ?_
      intro x hx
      by_contra hne
      exact hno ⟨hs, rfl, hw, x, hx, hne⟩
  | notPromoted hw hr hp hm hd =>
    rw [if_pos hr]
    refine iff_of_false (fun hu => ?_) (fun hno => hno ⟨hs, rfl, hw, hp, ?_⟩)
    · have hempty : node.store.staged = ∅ := hu.staged.symm
      rw [Store.hasStagedChanges, hempty] at hs
      exact absurd hs (by decide)
    · obtain ⟨certificate, hvalidated⟩ := Store.validateStaged_spec ssl hv
      obtain ⟨file, hfile⟩ := exists_file_of_isKeyOf ssl (hvalidated.pending hp).2
      exact hm.resolve_left (by rw [hfile]; exact Option.some_ne_none file)

end

/-- **An activation that returns false changes nothing, unless it has begun to replace files.** -/
theorem refused_unchanged_iff (node : ScNode N) (now : Int) (e : Faults String DiskFile)
    (d : CertDisk) :
    ((node.applyStagedCertificates ssl now e d).value.1.isOk = false →
      Unchanged node.store (node.applyStagedCertificates ssl now e d).value.2.store d
        (node.applyStagedCertificates ssl now e d).disk) ↔
    ¬ node.PartlyCommits ssl now e d := by
  have hend := (applyStaged_run ssl node now e d).1
  generalize (node.applyStagedCertificates ssl now e d).value = r,
    (node.applyStagedCertificates ssl now e d).disk = d' at hend
  cases hend with
  | nothingStaged hs =>
    refine iff_of_true nofun ?_
    rintro ⟨hstaged, -⟩
    exact Bool.noConfusion (hs.symm.trans hstaged)
  | notValid hs hv =>
    have hstaged := Store.validateStaged_staged ssl node.store d
    rw [hv] at hstaged
    refine iff_of_true (fun _ => unchanged_of_staged hstaged (Agree.refl _ d)) ?_
    rintro ⟨-, hok, -⟩
    rw [hv] at hok
    cases hok
  | notCommitted hs hv hc =>
    rw [← unchanged_notCommitted_iff hs hv hc]
    exact ⟨fun h => h rfl, fun h _ => h⟩
  | activated hs hv hc hd => exact iff_of_true nofun (not_partlyCommits_of_activated hv hc)

/-- The activation of the second certificate returns false, and has cleared the stage. -/
theorem halfActivation_changes :
    ∃ t ∈ states (Device.step exampleSsl) exampleDevice halfActivation,
      (t.node.applyStagedCertificates exampleSsl 2 promotionFails t.disk).value.1.isOk = false ∧
      ¬ Unchanged t.node.store
        (t.node.applyStagedCertificates exampleSsl 2 promotionFails t.disk).value.2.store t.disk
        (t.node.applyStagedCertificates exampleSsl 2 promotionFails t.disk).disk := by
  refine ⟨(halfActivation.take 2).foldl (Device.next exampleSsl) exampleDevice, ?_,
    by decide +kernel, fun h => ?_⟩
  · rw [← List.take_append_drop 2 halfActivation]
    exact mem_states_of_final (final_eq_foldl (fun _ _ => rfl) exampleDevice _) _
  · exact absurd (congrArg Std.ExtTreeMap.isEmpty h.staged) (by decide +kernel)

/-! ## A refused update -/

/-- A call of `Write` or `Resize`. -/
inductive Update
  | write (fileInstance : Nat) (fileStart : Int32) (fileData : Octets)
  | resize (fileInstance newSize : Nat)
deriving DecidableEq, Repr

/-- A call of the store's interface. -/
inductive StoreCall
  | update (u : Update)
  | discardStaged
  | validateStaged
  | commitStaged
  | generateKeyAndCsr
  | writeTrustedIssuerBundle (bundlePath : String)
  /-- `SetLayout` and `ReconcilePendingKey`, in a new process. -/
  | restart

/-- What a client sees. -/
structure View where
  hasStagedChanges : Bool
  contents : Nat → Option Octets
  size : Nat → Option Nat

/-- The `Write` gives a staged copy to a File object that has none. -/
def Update.Stages (s : Store L) : Update → Prop
  | .write i _ _ => i ∉ s.staged ∧ (L.paths i).isSome = true
  | .resize _ _ => False

namespace Store

/-- `Write` or `Resize`: the store, and whether it returns true. -/
def update (s : Store L) (now : Int) (d : CertDisk) : Update → Store L × Bool
  | .write i fileStart fileData =>
    ((s.write now d i fileStart fileData).1, (s.write now d i fileStart fileData).2.isOk)
  | .resize i newSize => ((s.resize now d i newSize).1, (s.resize now d i newSize).2.isOk)

/-- A call: whether it returns true, and the store afterwards. -/
def call (s : Store L) (now : Int) (seed : Nat) : StoreCall → CertAction (Bool × Store L)
  | .update u => do
    let d ← look
    let (s, result) := s.update now d u
    return (result, s)
  | .discardStaged => return (true, s.discardStaged)
  | .validateStaged => do
    let d ← look
    let (result, s) := s.validateStaged ssl d
    return (result.isOk, s)
  | .commitStaged => do
    let (result, s) ← s.commitStaged now
    return (result.isOk, s)
  | .generateKeyAndCsr => do
    let result ← s.generateKeyAndCsr ssl now seed
    return (result.isOk, s)
  | .writeTrustedIssuerBundle bundlePath => do
    let result ← s.writeTrustedIssuerBundle ssl now bundlePath
    return (result.isOk, s)
  | .restart => do
    let (result, _) ← reconcilePendingKey ssl L
    return (result, initial L)

def view (s : Store L) (d : CertDisk) : View :=
  ⟨s.hasStagedChanges, s.read d, fun i => (s.stat d i).map Prod.fst⟩

/-- The results of calls, and what is seen after them. -/
def response (s : Store L) (d : CertDisk) : List (StoreCall × Circumstances) → List Bool × View
  | [] => ([], s.view d)
  | (c, on) :: calls =>
    let o := s.call ssl on.now on.seed c on.faults d
    let (results, view) := o.value.2.response o.disk calls
    (o.value.1 :: results, view)

section
variable {s : Store L} {now : Int} {d : CertDisk} {u : Update}

theorem stage_of_mem {i : Nat} (h : i ∈ s.staged) : s.stage now d i = some ⟨s, h⟩ := by
  simp [stage, h]

theorem stage_of_no_path {i : Nat} (h : i ∉ s.staged) (hp : (L.paths i).isSome = false) :
    s.stage now d i = none := by
  simp [stage, h, hp]

theorem exists_stage (s : Store L) (now : Int) (d : CertDisk) {i : Nat}
    (hp : (L.paths i).isSome = true) :
    ∃ s' : { s' : Store L // i ∈ s'.staged }, s.stage now d i = some s' := by
  unfold stage
  split_ifs <;> exact ⟨_, rfl⟩

/-- A refused `Write` keeps the stage that it began with. -/
theorem write_refused {i : Nat} {s' : { s' : Store L // i ∈ s'.staged }} {fileStart : Int32}
    {fileData : Octets} (hstage : s.stage now d i = some s')
    (h : (s.write now d i fileStart fileData).2.isOk = false) :
    (s.write now d i fileStart fileData).1 = s'.1 := by
  unfold write at h ⊢
  rw [hstage] at h ⊢
  dsimp only at h ⊢
  split_ifs at h ⊢ <;> first | rfl | cases h

theorem resize_refused {i newSize : Nat} (h : (s.resize now d i newSize).2.isOk = false) :
    (s.resize now d i newSize).1 = s := by
  unfold resize at h ⊢
  split_ifs at h ⊢
  · rfl
  · cases hstage : s.stage now d i with
    | none => rfl
    | some s' =>
      rw [hstage] at h
      cases h

/-- A refused update that gives no File object its first staged copy leaves the store as it is. -/
theorem update_eq_of_refused (h : (s.update now d u).2 = false) (hs : ¬ u.Stages s) :
    (s.update now d u).1 = s := by
  cases u with
  | resize i newSize => exact resize_refused h
  | write i fileStart fileData =>
    by_cases hmem : i ∈ s.staged
    · exact write_refused (stage_of_mem hmem) h
    · have hpath : (L.paths i).isSome = false := by
        rw [← Bool.not_eq_true]
        exact fun hp => hs ⟨hmem, hp⟩
      simp only [update, write, stage_of_no_path hmem hpath]

/-- Otherwise the File object has a staged copy. -/
theorem mem_staged_of_refused {i : Nat} {fileStart : Int32} {fileData : Octets}
    (h : (s.update now d (.write i fileStart fileData)).2 = false)
    (hp : (L.paths i).isSome = true) :
    i ∈ (s.update now d (.write i fileStart fileData)).1.staged := by
  obtain ⟨s', hstage⟩ := exists_stage s now d hp
  have hsame : (s.update now d (.write i fileStart fileData)).1 = s'.1 := write_refused hstage h
  rw [hsame]
  exact s'.2

/-- The disk on which the temp file of one path cannot be written. -/
def onlyFails (path : String) : Faults String DiskFile :=
  { Faults.none with write := fun p => p != tempPath path }

/-- Where the temp file of a file that is not staged cannot be written, a commit clears the
stage. -/
theorem commitStaged_clears {i : Nat} {path : String} (hs : i ∉ s.staged)
    (hp : L.paths i = some path) (now : Int) (d : CertDisk) :
    (s.commitStaged now (onlyFails path) d).value.2.hasStagedChanges = false := by
  have hend := (s.commitStaged_run now (onlyFails path) d).1
  have hall : replaced (onlyFails path) (s.entries now) = s.entries now :=
    List.takeWhile_eq_self_iff.2 fun _ _ => rfl
  generalize (s.commitStaged now (onlyFails path) d).value = r,
    (s.commitStaged now (onlyFails path) d).disk = d' at hend
  cases hend with
  | notWritten hx hw hd =>
    -- the only temp file that fails is not one of this commit
    obtain ⟨j, copy, hj, hpath, -⟩ := mem_entries.1 hx
    have hsame := tempPath_inj.1 (by simpa [onlyFails] using hw)
    obtain rfl := L.paths_inj (hpath.trans (congrArg some hsame)) hp
    exact absurd (Std.ExtTreeMap.mem_iff_isSome_getElem?.2 (by rw [hj]; rfl)) hs
  | notReplaced hw hr hd => exact absurd hall hr
  | notPromoted hw hr hp hm hd => rfl
  | promotes hw hr hp hc hm hd => rfl
  | installs hw hr hp hd => rfl

/-- Where the temp file of a staged file cannot be written, it keeps the stage. -/
theorem commitStaged_keeps {i : Nat} {path : String} (hs : i ∈ s.staged)
    (hp : L.paths i = some path) (now : Int) (d : CertDisk) :
    (s.commitStaged now (onlyFails path) d).value.2.hasStagedChanges = true := by
  have hend := (s.commitStaged_run now (onlyFails path) d).1
  obtain ⟨copy, hcopy⟩ := Option.isSome_iff_exists.1 (Std.ExtTreeMap.mem_iff_isSome_getElem?.1 hs)
  have hmem : (path, (⟨copy.bytes, now, false⟩ : DiskFile)) ∈ s.entries now :=
    mem_entries.2 ⟨i, copy, hcopy, hp, rfl⟩
  have hfails : ¬ ∀ x ∈ s.entries now, (onlyFails path).write (tempPath x.1) = true := by
    intro hall
    exact absurd (hall _ hmem) (by simp [onlyFails])
  generalize (s.commitStaged now (onlyFails path) d).value = r,
    (s.commitStaged now (onlyFails path) d).disk = d' at hend
  cases hend with
  | notWritten hx hw hd =>
    have hne : s.staged.isEmpty = false := by
      rw [Std.ExtTreeMap.isEmpty_eq_false_iff]
      intro hempty
      exact Std.ExtTreeMap.not_mem_empty (hempty ▸ hs)
    rw [hasStagedChanges, hne]
    rfl
  | notReplaced hw hr hd => exact absurd hw hfails
  | notPromoted hw hr hp hm hd => exact absurd hw hfails
  | promotes hw hr hp hc hm hd => exact absurd hw hfails
  | installs hw hr hp hd => exact absurd hw hfails

end

end Store

/-- **A refused update leaves no trace, exactly if it stages nothing.** -/
theorem refused_unobservable_iff {s : Store L} {now : Int} {d : CertDisk} {u : Update}
    (h : (s.update now d u).2 = false) :
    (∀ calls, (s.update now d u).1.response ssl d calls = s.response ssl d calls) ↔
      ¬ u.Stages s := by
  constructor
  · intro hsame hstages
    cases u with
    | resize i newSize => exact hstages
    | write i fileStart fileData =>
      obtain ⟨hmem, hpath⟩ := hstages
      obtain ⟨path, hp⟩ := Option.isSome_iff_exists.1 hpath
      have hmem' := Store.mem_staged_of_refused h hpath
      -- a commit that fails on this file alone tells the two stores apart
      have hclear := Store.commitStaged_clears hmem hp now d
      have hkeep := Store.commitStaged_keeps hmem' hp now d
      have hview := congrArg (fun r => r.2.hasStagedChanges)
        (hsame [(.commitStaged, ⟨now, 0, Store.onlyFails path⟩)])
      exact Bool.noConfusion (hclear.symm.trans (hview.symm.trans hkeep))
  · intro hno calls
    rw [Store.update_eq_of_refused h hno]

/-- A new size that is too large, for a File object with nothing staged. -/
theorem refused_unobservable_iff_resize :
    ((Store.initial exampleLayout.toLayout).update 0 exampleDisk (.resize 2 65537)).2 = false ∧
    ((∀ calls,
      ((Store.initial exampleLayout.toLayout).update 0 exampleDisk (.resize 2 65537)).1.response
        exampleSsl exampleDisk calls =
      (Store.initial exampleLayout.toLayout).response exampleSsl exampleDisk calls) ↔
      ¬ (Update.resize 2 65537).Stages (Store.initial exampleLayout.toLayout)) :=
  ⟨by decide, refused_unobservable_iff exampleSsl (by decide)⟩

/-- A refused `Write` to the second issuer's File object: nothing was staged, and now something
is. -/
theorem refused_write_stages :
    ((Store.initial exampleLayout.toLayout).update 0 exampleDisk (.write 4 (-2) [])).2 = false ∧
    ¬ ∀ calls,
      ((Store.initial exampleLayout.toLayout).update 0 exampleDisk (.write 4 (-2) [])).1.response
        exampleSsl exampleDisk calls =
      (Store.initial exampleLayout.toLayout).response exampleSsl exampleDisk calls := by
  refine ⟨by decide, ?_⟩
  intro h
  have hview := congrArg (fun r => r.2.hasStagedChanges) (h [])
  exact absurd hview (by decide)

end BacnetBc
