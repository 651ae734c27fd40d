import BacnetBc.Cert.Generate

/-!
# How far a commit gets

The process can stop anywhere in `ApplyStagedCertificates`, and writes and renames can fail in it.
Which of the files are in place then follows from the faults and from the moment of the stop: the
look takes one moment, the temp files take six each and one more at their end, each rename takes
three, and one more comes before the rename of the pending key.

**Theorem (`applyStaged_at`).** Where a valid activation ends or stops, the files are the old ones
with those `inPlace`, and the pending key has moved exactly if `MovesKey`.
-/

namespace BacnetBc

open FaultyDisk Memory

variable {X509 Key : Type} (ssl : OpenSsl X509 Key) {L : Layout} {N : NodeLayout}

/-! ## How far -/

namespace Store

/-- The files that a commit has put in place where it ends, or where the process stops. -/
def inPlace (s : Store L) (now : Int) (e : Faults String DiskFile) (stop : Option Nat) :
    List (String × DiskFile) :=
  let entries := s.entries now
  if ∀ x ∈ entries, e.write (tempPath x.1) = true then
    match stop with
    | none => replaced e entries
    | some moment => (replaced e entries).take ((moment - 6 * entries.length) / 3)
  else []

/-- The commit puts all files in place and moves the pending key, before the process stops. -/
structure MovesKey (s : Store L) (now : Int) (e : Faults String DiskFile) (stop : Option Nat) :
    Prop where
  all : s.inPlace now e none = s.entries now
  promotes : s.commitPromotesPendingKey = true
  rename : e.rename L.pendingPrivateKeyPath L.privateKeyPath = true
  inTime : ∀ moment ∈ stop, 9 * (s.entries now).length + 4 ≤ moment

end Store

/-! ## The moments of the loops -/

section
variable {e : Faults String DiskFile} {d : CertDisk}

theorem length_moments_writeTemps {now : Int} {copies : List (Nat × Staged)}
    (hm : ∀ x ∈ copies, ∃ p, L.paths x.1 = some p)
    (hw : ∀ x ∈ entriesOf L now copies, e.write (tempPath x.1) = true) (paths : List String) :
    (writeTemps L now copies paths e d).moments.length =
      6 * (entriesOf L now copies).length + 1 := by
  induction copies generalizing paths d with
  | nil => rfl
  | cons copy copies ih =>
    obtain ⟨i, copy⟩ := copy
    obtain ⟨path, hi⟩ := hm (i, copy) List.mem_cons_self
    have hes : entriesOf L now ((i, copy) :: copies) =
        (path, ⟨copy.bytes, now, false⟩) :: entriesOf L now copies := by
      simp [entriesOf, hi]
    rw [hes] at hw ⊢
    have hfirst := hw _ List.mem_cons_self
    obtain ⟨hvalue, -⟩ := writeTempFile_ok (d := d) hfirst now copy.bytes false
    have hrest := ih (d := (writeTempFile now path copy.bytes false e d).disk)
      (fun x hx => hm x (List.mem_cons_of_mem _ hx)) (fun x hx => hw x (List.mem_cons_of_mem _ hx))
      (paths ++ [path])
    simp only [writeTemps, hi, bind_moments, hvalue, List.length_append,
      length_moments_writeTempFile hfirst, hrest, List.length_cons]
    omega

theorem length_moments_replaceAll {es : List (String × DiskFile)} (hfile : ∀ x ∈ es, L.IsFile x.1)
    (hn : (es.map Prod.fst).Nodup) (htmp : ∀ x ∈ es, d (tempPath x.1) = some x.2)
    (hall : replaced e es = es) :
    (replaceAll (es.map Prod.fst) e d).moments.length = 3 * es.length + 1 := by
  induction es generalizing d with
  | nil => rfl
  | cons x es ih =>
    cases hr : e.rename (tempPath x.1) x.1 with
    | false => simp [replaced, hr] at hall
    | true =>
      obtain ⟨d₁, hvalue, hdisk, hmoments, -, htmp₁⟩ := exists_renamed hfile hn htmp hr
      have hrest := ih (fun y hy => hfile y (List.mem_cons_of_mem _ hy)) (List.nodup_cons.1 hn).2
        htmp₁ (by simpa [replaced, hr] using hall)
      simp only [List.map_cons, replaceAll, bind_moments, hvalue, hdisk, hmoments,
        List.length_append, List.length_cons, List.length_nil, hrest]
      omega

/-- After the first moment each rename takes three. -/
theorem replaceAll_at {es : List (String × DiskFile)} (hfile : ∀ x ∈ es, L.IsFile x.1)
    (hn : (es.map Prod.fst).Nodup) (htmp : ∀ x ∈ es, d (tempPath x.1) = some x.2) (moment : Nat) :
    Agree L.IsFile (install ((replaced e es).take ((moment + 2) / 3)) d)
      ((replaceAll (es.map Prod.fst) e d).upTo moment).disk := by
  induction es generalizing d moment with
  | nil =>
    have hd : ((replaceAll [] e d).upTo moment).disk = d := by
      cases moment <;> rfl
    rw [List.map_nil, hd]
    simp [replaced, Agree.refl]
  | cons x es ih =>
    cases hr : e.rename (tempPath x.1) x.1 with
    | false =>
      obtain ⟨⟨reason, hvalue⟩, hdisk, hmoments⟩ := replaceWithTemp_fail (d := d) hr
      have hstays : Throughout (· = d) (replaceAll ((x :: es).map Prod.fst) e d) := by
        refine Throughout.bind ⟨hmoments, hdisk⟩ ?_
        rw [hvalue]
        exact Throughout.pure (I := (· = d)) hdisk _
      have hd : ((replaceAll ((x :: es).map Prod.fst) e d).upTo moment).disk = d :=
        hstays.stop moment
      rw [hd]
      simp [replaced, hr, Agree.refl]
    | true =>
      obtain ⟨d₁, hvalue, hdisk, hmoments, hmoved, htmp₁⟩ := exists_renamed hfile hn htmp hr
      have hsome : replaced e (x :: es) = x :: replaced e es := by simp [replaced, hr]
      have hlength : (replaceWithTemp x.1 e d).moments.length = 3 := by rw [hmoments]; rfl
      rw [hsome, List.map_cons, replaceAll]
      by_cases hfirst : moment < 3
      · rw [upTo_bind_of_lt (hlength.symm ▸ hfirst), Outcome.upTo, hmoments]
        rcases moment with _ | _ | _ | moment
        · exact Agree.refl L.IsFile d
        · exact hmoved
        · exact hmoved
        · omega
      · obtain ⟨k, rfl⟩ := Nat.exists_eq_add_of_le (Nat.le_of_not_lt hfirst)
        have hk : (3 + k + 2) / 3 = (k + 2) / 3 + 1 := by omega
        rw [upTo_bind_of_le (by rw [hlength]; omega), hlength, Nat.add_sub_cancel_left, hvalue,
          hdisk, hk, List.take_succ_cons, install_cons]
        exact (hmoved.install _).trans
          (ih (fun y hy => hfile y (List.mem_cons_of_mem _ hy)) (List.nodup_cons.1 hn).2 htmp₁ k)

/-- The rename of the pending key takes one moment. -/
theorem promotePendingKey_at {c : DiskFile} (hs : d L.pendingPrivateKeyPath = some c)
    (h : e.rename L.pendingPrivateKeyPath L.privateKeyPath = true) (moment : Nat) :
    ((promotePendingKey L e d).upTo moment).disk = if moment = 0 then d else promoted L c d := by
  have hrun : promotePendingKey L e d =
      ⟨.ok (), promoted L c d, [d, promoted L c d, promoted L c d]⟩ := by
    simp [promotePendingKey, bind_run, rename_run_ok _ _ hs h, promoted]
  rw [hrun]
  rcases moment with _ | _ | _ | moment <;> rfl

theorem promotePendingKey_at_fail
    (h : e.rename L.pendingPrivateKeyPath L.privateKeyPath = false) (moment : Nat) :
    ((promotePendingKey L e d).upTo moment).disk = d := by
  obtain ⟨-, hdisk, hmoments⟩ := promotePendingKey_fail (d := d) (L := L) (Or.inr h)
  have hstays : Throughout (· = d) (promotePendingKey L e d) := ⟨hmoments, hdisk⟩
  exact hstays.stop moment

end

/-! ## The moments of a commit -/

namespace Store

/-- The files where a commit ends, or where the process stops. -/
inductive CommitAt (s : Store L) (now : Int) (e : Faults String DiskFile) (d : CertDisk)
    (stop : Option Nat) : CertDisk → Prop
  | moved {c d'} (hm : s.MovesKey now e stop) (hc : d L.pendingPrivateKeyPath = some c)
      (hd : Agree L.IsFile (promoted L c (install (s.entries now) d)) d') :
      CommitAt s now e d stop d'
  | notMoved {d'} (hm : ¬ s.MovesKey now e stop)
      (hd : Agree L.IsFile (install (s.inPlace now e stop) d) d') : CommitAt s now e d stop d'

section
variable {s : Store L} {now : Int} {e : Faults String DiskFile} {d d' d'' : CertDisk}
  {stop : Option Nat}

theorem CommitAt.agree (h : s.CommitAt now e d stop d') (hd : Agree L.IsFile d' d'') :
    s.CommitAt now e d stop d'' := by
  cases h with
  | moved hm hc hd' => exact .moved hm hc (hd'.trans hd)
  | notMoved hm hd' => exact .notMoved hm (hd'.trans hd)

theorem inPlace_of_not_written {x : String × DiskFile} (hx : x ∈ s.entries now)
    (hw : e.write (tempPath x.1) = false) : s.inPlace now e stop = [] := by
  have hnot : ¬ ∀ x ∈ s.entries now, e.write (tempPath x.1) = true := fun h =>
    Bool.false_ne_true (hw.symm.trans (h x hx))
  exact if_neg hnot

theorem not_movesKey_of_not_written {x : String × DiskFile} (hx : x ∈ s.entries now)
    (hw : e.write (tempPath x.1) = false) : ¬ s.MovesKey now e stop := by
  intro hm
  have hall := hm.all
  rw [inPlace_of_not_written hx hw] at hall
  rw [← hall] at hx
  cases hx

theorem inPlace_none (hw : ∀ x ∈ s.entries now, e.write (tempPath x.1) = true) :
    s.inPlace now e none = replaced e (s.entries now) := if_pos hw

theorem inPlace_some (hw : ∀ x ∈ s.entries now, e.write (tempPath x.1) = true) (moment : Nat) :
    s.inPlace now e (some moment) =
      (replaced e (s.entries now)).take ((moment - 6 * (s.entries now).length) / 3) := if_pos hw

/-- Without the key, the files in place are those renamed by the moment. -/
theorem commitAt_of_renamed (hw : ∀ x ∈ s.entries now, e.write (tempPath x.1) = true)
    {moment k : Nat} (hk : k = (moment - 6 * (s.entries now).length) / 3)
    (hm : ¬ s.MovesKey now e (some moment))
    (hd : Agree L.IsFile (install ((replaced e (s.entries now)).take k) d) d') :
    s.CommitAt now e d (some moment) d' :=
  .notMoved hm (by rw [inPlace_some hw, ← hk]; exact hd)

end

/-- The end of a commit. -/
theorem commitAt_of_commitEnd {s : Store L} {now : Int} {e : Faults String DiskFile}
    {d d' : CertDisk} {r : Except String Unit × Store L} (h : s.CommitEnd now e d r d')
    (hpending : s.commitPromotesPendingKey = true → d L.pendingPrivateKeyPath ≠ none) :
    s.CommitAt now e d none d' := by
  cases h with
  | notWritten hx hw hd =>
    refine .notMoved (not_movesKey_of_not_written hx hw) ?_
    rw [inPlace_of_not_written hx hw]
    exact hd
  | notReplaced hw hr hd =>
    refine .notMoved (fun hm => hr ?_) ?_
    · rw [← inPlace_none hw]
      exact hm.all
    · rw [inPlace_none hw]
      exact hd
  | notPromoted hw hr hp hm hd =>
    have hrename := hm.resolve_left (hpending hp)
    refine .notMoved (fun hmoves => ?_) ?_
    · exact Bool.false_ne_true (hrename.symm.trans hmoves.rename)
    · rw [inPlace_none hw, hr]
      exact hd
  | promotes hw hr hp hc hm hd =>
    exact .moved ⟨(inPlace_none hw).trans hr, hp, hm, nofun⟩ hc hd
  | installs hw hr hp hd =>
    refine .notMoved (fun hmoves => ?_) ?_
    · exact Bool.false_ne_true (hp.symm.trans hmoves.promotes)
    · rw [inPlace_none hw, hr]
      exact hd

section
variable {s : Store L} {now : Int} {e : Faults String DiskFile} {d : CertDisk}

/-- A commit that cannot write a temp file. -/
theorem commitStaged_at_not_written {x : String × DiskFile} (hx : x ∈ s.entries now)
    (hw : e.write (tempPath x.1) = false) (moment : Nat) :
    s.CommitAt now e d (some (moment + 1)) ((s.commitStaged now e d).upTo moment).disk := by
  refine .notMoved (not_movesKey_of_not_written hx hw) ?_
  rw [inPlace_of_not_written hx hw]
  obtain ⟨reason, hvalue⟩ := writeTemps_fail (d := d) s.managed_toList hx hw []
  have hspares : SparesAt (s.commitStaged now) L.IsFile e d := by
    refine SparesAt.bind (spares_writeTemps now s.staged.toList (by simp) e d) ?_
    rw [hvalue]
    exact Spares.pure _ e _
  exact hspares.stop moment

/-- A commit while it renames: `d₁` is the disk with the temp files, and `k` counts from there. -/
theorem commitAt_replacing (hw : ∀ x ∈ s.entries now, e.write (tempPath x.1) = true)
    {d₁ d' : CertDisk} (hd₁ : Agree L.IsFile d d₁)
    (htmp : ∀ x ∈ s.entries now, d₁ (tempPath x.1) = some x.2) {k : Nat}
    (hm : ¬ s.MovesKey now e (some (6 * (s.entries now).length + 1 + k + 1)))
    (hd : Agree L.IsFile ((replaceAll ((s.entries now).map Prod.fst) e d₁).upTo k).disk d') :
    s.CommitAt now e d (some (6 * (s.entries now).length + 1 + k + 1)) d' := by
  have hcount : (k + 2) / 3 =
      (6 * (s.entries now).length + 1 + k + 1 - 6 * (s.entries now).length) / 3 := by omega
  have hat := replaceAll_at (e := e) (fun x hx => isFile_of_mem_entries hx) nodup_entries htmp k
  exact commitAt_of_renamed hw hcount hm (((hd₁.install _).trans hat).trans hd)

/-- A commit that has renamed all files, while it moves the key. -/
theorem commitAt_promoting (hw : ∀ x ∈ s.entries now, e.write (tempPath x.1) = true)
    (hr : replaced e (s.entries now) = s.entries now) (hp : s.commitPromotesPendingKey = true)
    (hpending : d L.pendingPrivateKeyPath ≠ none) {d₂ : CertDisk}
    (hd₂ : Agree L.IsFile (install (s.entries now) d) d₂) (j : Nat) :
    s.CommitAt now e d (some (9 * (s.entries now).length + 3 + j))
      ((promotePendingKey L e d₂).upTo j).disk := by
  have hinPlace : s.inPlace now e (some (9 * (s.entries now).length + 3 + j)) = s.entries now := by
    rw [inPlace_some hw, hr]
    exact List.take_of_length_le (by omega)
  obtain ⟨c, hc⟩ := Option.ne_none_iff_exists'.1 hpending
  cases hrename : e.rename L.pendingPrivateKeyPath L.privateKeyPath with
  | false =>
    rw [promotePendingKey_at_fail hrename]
    refine .notMoved (fun hm => Bool.false_ne_true (hrename.symm.trans hm.rename)) ?_
    rw [hinPlace]
    exact hd₂
  | true =>
    rw [promotePendingKey_at ((pending_installed hd₂).trans hc) hrename]
    by_cases hj : j = 0
    · rw [if_pos hj]
      refine .notMoved (fun hm => ?_) (hinPlace.symm ▸ hd₂)
      have := hm.inTime _ rfl
      omega
    · rw [if_neg hj]
      have htime : ∀ moment ∈ some (9 * (s.entries now).length + 3 + j),
          9 * (s.entries now).length + 4 ≤ moment := by
        rintro _ ⟨⟩
        omega
      exact .moved ⟨(inPlace_none hw).trans hr, hp, hrename, htime⟩ hc
        ((hd₂.update _ _).update _ _)

/-- A commit that has not begun. -/
theorem commitAt_first (s : Store L) (now : Int) (e : Faults String DiskFile) (d : CertDisk) :
    s.CommitAt now e d (some 0) d := by
  have hnone : s.inPlace now e (some 0) = [] := by
    simp [inPlace]
  refine .notMoved (fun hm => ?_) ?_
  · exact absurd (hm.inTime 0 rfl) (by omega)
  · rw [hnone]
    exact Agree.refl L.IsFile d

/-- **How far a commit has got at each moment.** -/
theorem commitStaged_at (s : Store L) (now : Int) (e : Faults String DiskFile) (d : CertDisk)
    (hpending : s.commitPromotesPendingKey = true → d L.pendingPrivateKeyPath ≠ none)
    (moment : Nat) :
    s.CommitAt now e d (some (moment + 1)) ((s.commitStaged now e d).upTo moment).disk := by
  by_cases hw : ∀ x ∈ s.entries now, e.write (tempPath x.1) = true
  case neg =>
    obtain ⟨x, hx, hfail⟩ : ∃ x ∈ s.entries now, e.write (tempPath x.1) = false := by
      simpa using hw
    exact commitStaged_at_not_written hx hfail moment
  have hspares : SparesAt (writeTemps L now s.staged.toList []) L.IsFile e d :=
    spares_writeTemps now s.staged.toList (by simp) e d
  have hlength : (writeTemps L now s.staged.toList [] e d).moments.length =
      6 * (s.entries now).length + 1 := length_moments_writeTemps s.managed_toList hw []
  obtain ⟨hvalue, htmp⟩ := writeTemps_entries (d := d) hw
  by_cases hfirst : moment < 6 * (s.entries now).length + 1
  · -- the temp files are being written
    rw [commitStaged, upTo_bind_of_lt (hlength.symm ▸ hfirst)]
    have hnone : 0 = (moment + 1 - 6 * (s.entries now).length) / 3 := by omega
    refine commitAt_of_renamed hw hnone (fun hm => ?_) (hspares.stop moment)
    have := hm.inTime _ rfl
    omega
  obtain ⟨k, rfl⟩ := Nat.exists_eq_add_of_le (Nat.le_of_not_lt hfirst)
  rw [commitStaged, upTo_bind_of_le (by rw [hlength]; omega), hlength, hvalue,
    Nat.add_sub_cancel_left]
  obtain ⟨hend, -, hresult⟩ := replaceAll_entries (e := e) hspares.2 htmp
  dsimp only
  by_cases hr : replaced e (s.entries now) = s.entries now
  · rw [if_pos hr] at hresult
    rw [hr] at hend
    cases hp : s.commitPromotesPendingKey with
    | false =>
      refine commitAt_replacing hw hspares.2 htmp (fun hm => ?_) (agree_upTo_bind ?_ k)
      · exact Bool.false_ne_true (hp.symm.trans hm.promotes)
      · rw [hresult]
        exact Throughout.pure (Agree.refl L.IsFile _) _
    | true =>
      have hlength₂ := length_moments_replaceAll (e := e) (fun x hx => isFile_of_mem_entries hx)
        nodup_entries htmp hr
      by_cases hsecond : k < 3 * (s.entries now).length + 1
      · -- the temp files are being renamed
        rw [upTo_bind_of_lt (hlength₂.symm ▸ hsecond)]
        refine commitAt_replacing hw hspares.2 htmp (fun hm => ?_) (Agree.refl L.IsFile _)
        have := hm.inTime _ rfl
        omega
      obtain ⟨j, rfl⟩ := Nat.exists_eq_add_of_le (Nat.le_of_not_lt hsecond)
      rw [upTo_bind_of_le (by rw [hlength₂]; omega), hlength₂, hresult, Nat.add_sub_cancel_left]
      dsimp only
      rw [if_pos rfl]
      have hstop : 6 * (s.entries now).length + 1 + (3 * (s.entries now).length + 1 + j) + 1 =
          9 * (s.entries now).length + 3 + j := by omega
      rw [hstop]
      refine (commitAt_promoting hw hr hp (hpending hp) hend j).agree (agree_upTo_bind ?_ j)
      generalize (promotePendingKey L e _).value = result
      cases result <;> exact Throughout.pure (Agree.refl L.IsFile _) _
  · rw [if_neg hr] at hresult
    obtain ⟨reason, hresult⟩ := hresult
    refine commitAt_replacing hw hspares.2 htmp (fun hm => ?_) (agree_upTo_bind ?_ k)
    · exact hr ((inPlace_none hw).symm.trans hm.all)
    · rw [hresult]
      exact Throughout.pure (Agree.refl L.IsFile _) _

end

end Store

/-! ## The moments of an activation -/

/-- **How far a valid activation has got** where it ends, or where the process stops. -/
theorem applyStaged_at {node : ScNode N} {store : Store N.toLayout} {d : CertDisk}
    (hs : node.store.hasStagedChanges = true)
    (hv : node.store.validateStaged ssl d = (.ok (), store)) (now : Int)
    (e : Faults String DiskFile) (stop : Option Nat) :
    store.CommitAt now e d stop ((node.applyStagedCertificates ssl now e d).diskAt stop) := by
  have hpending : store.commitPromotesPendingKey = true →
      d N.toLayout.pendingPrivateKeyPath ≠ none := by
    intro hp hnone
    obtain ⟨certificate, hvalidated⟩ := Store.validateStaged_spec ssl hv
    simpa [isKeyOf, loadKey, readDisk, hnone] using (hvalidated.pending hp).2
  rcases stop with _ | _ | moment
  · have hend := (applyStaged_run ssl node now e d).1
    show store.CommitAt now e d none (node.applyStagedCertificates ssl now e d).disk
    generalize (node.applyStagedCertificates ssl now e d).value = r,
      (node.applyStagedCertificates ssl now e d).disk = d' at hend
    cases hend with
    | nothingStaged hs' => exact Bool.noConfusion (hs.symm.trans hs')
    | notValid hs' hv' => cases hv.symm.trans hv'
    | notCommitted hs' hv' hc =>
      cases hv.symm.trans hv'
      exact Store.commitAt_of_commitEnd hc hpending
    | activated hs' hv' hc hd =>
      cases hv.symm.trans hv'
      exact (Store.commitAt_of_commitEnd hc hpending).agree hd
  · have hdisk : (node.applyStagedCertificates ssl now e d).diskAt (some 0) = d := by
      simp [ScNode.applyStagedCertificates, hs, Outcome.diskAt, Outcome.upTo]
    rw [hdisk]
    exact Store.commitAt_first store now e d
  · unfold ScNode.applyStagedCertificates
    simp only [hs, Bool.not_true, Bool.false_eq_true, if_false, Outcome.diskAt]
    rw [upTo_bind_of_le (by simp)]
    simp only [look_run, hv, List.length_singleton, Nat.add_sub_cancel]
    refine (Store.commitStaged_at store now e d hpending moment).agree (agree_upTo_bind ?_ moment)
    rcases (store.commitStaged now e d).value with ⟨reason | _, store'⟩
    · exact Throughout.pure (Agree.refl _ _) _
    · exact Throughout.bind (spares_writeTrustedIssuerBundle ssl store' now e _)
        (Throughout.pure (spares_writeTrustedIssuerBundle ssl store' now e _).2 _)

end BacnetBc
