import BacnetBc.Cert.Committed

/-!
# Staging can be taken back

Until an activation, what a client does to the certificate files is done in memory: `Write` and
`Resize` change the staged copies, and `ValidateStaged` notes which key a commit would promote.
`DiscardStaged` drops all of it.

**Theorem (`staging_reverts`).** Whatever calls of these three are made on a store with nothing
staged, accepted or refused, the disk is at every moment what it was. After `DiscardStaged` nothing
is staged, every File object is read and has the size that it had before the calls, and a commit
then changes no file and promotes no key.
-/

namespace BacnetBc

open FaultyDisk

variable {X509 Key : Type} (ssl : OpenSsl X509 Key) {L : Layout}

/-! ## Calls that stage -/

/-- `Write`, `Resize` and `ValidateStaged`. -/
def StoreCall.Stages : StoreCall → Prop
  | .update _ => True
  | .validateStaged => True
  | _ => False

namespace Store

/-- Calls one after the other: the store and the disk afterwards, and all moments. -/
def runCalls (s : Store L) (d : CertDisk) :
    List (StoreCall × Circumstances) → Outcome String DiskFile (Store L)
  | [] => ⟨s, d, [d]⟩
  | (c, on) :: calls =>
    let first := s.call ssl on.now on.seed c on.faults d
    let rest := first.value.2.runCalls first.disk calls
    ⟨rest.value, rest.disk, first.moments ++ rest.moments⟩

/-- A call that stages only looks at the disk. -/
theorem call_spares {c : StoreCall} (hc : c.Stages) (s : Store L) (now : Int) (seed : Nat) :
    Spares (s.call ssl now seed c) fun _ => True := by
  cases c with
  | update u => exact Spares.bind Spares.look fun _ => Spares.pure _
  | validateStaged => exact Spares.bind Spares.look fun _ => Spares.pure _
  | discardStaged => cases hc
  | commitStaged => cases hc
  | generateKeyAndCsr => cases hc
  | writeTrustedIssuerBundle bundlePath => cases hc
  | restart => cases hc

theorem eq_of_agree {d d' : CertDisk} (h : Agree (fun _ => True) d d') : d' = d :=
  funext fun p => h p trivial

/-- **The disk stays as it is** through any such calls. -/
theorem runCalls_disk {calls : List (StoreCall × Circumstances)}
    (hcalls : ∀ c ∈ calls, c.1.Stages) (s : Store L) (d : CertDisk) :
    (s.runCalls ssl d calls).disk = d ∧ ∀ d' ∈ (s.runCalls ssl d calls).moments, d' = d := by
  induction calls generalizing s with
  | nil => exact ⟨rfl, fun d' hd' => List.mem_singleton.1 hd'⟩
  | cons c calls ih =>
    obtain ⟨c, on⟩ := c
    have hspares := call_spares ssl (hcalls (c, on) List.mem_cons_self) s on.now on.seed on.faults d
    have hdisk : (s.call ssl on.now on.seed c on.faults d).disk = d := eq_of_agree hspares.2
    obtain ⟨hend, hmoments⟩ := ih (fun c hc => hcalls c (List.mem_cons_of_mem _ hc))
      (s.call ssl on.now on.seed c on.faults d).value.2
    unfold runCalls
    dsimp only
    rw [hdisk]
    refine ⟨hend, ?_⟩
    intro d' hd'
    rcases List.mem_append.1 hd' with hd' | hd'
    · exact eq_of_agree (hspares.1 d' hd')
    · exact hmoments d' hd'

/-! ## After a discard -/

theorem stat_of_not_staged {s : Store L} {d : CertDisk} {i : Nat} (h : s.staged[i]? = none) :
    s.stat d i = match s.fallbackInstance d i with
      | some j => s.stat d j
      | none => if ownPath L i = "" then none
        else (d (ownPath L i)).map fun file => (file.bytes.length, file.modified) := by
  rw [stat, h]
  dsimp only
  split <;> rename_i hf <;> rw [hf]

/-- The size and the time of a File object depend on the staged copies and the files. -/
theorem stat_congr {s s' : Store L} (hs : s'.staged = s.staged) (d : CertDisk) (i : Nat) :
    s'.stat d i = s.stat d i := by
  induction i using (measure L.rank).wf.induction with
  | _ i ih =>
    cases hi : s.staged[i]? with
    | some copy => rw [stat, stat, hs, hi]
    | none =>
      rw [stat_of_not_staged hi, stat_of_not_staged (hs ▸ hi),
        fallbackInstance_congr hs (Agree.refl _ d)]
      cases hf : s.fallbackInstance d i with
      | some j => exact ih j (rank_lt_of_fallbackInstance hf)
      | none => rfl

/-- A commit with nothing staged and no key to promote. -/
theorem commitStaged_initial (now : Int) (e : Faults String DiskFile) (d : CertDisk) :
    ((initial L).commitStaged now e d).value.1 = .ok () ∧
      ((initial L).commitStaged now e d).disk = d ∧
      ∀ d' ∈ ((initial L).commitStaged now e d).moments, d' = d := by
  have hempty : (initial L).staged.toList = [] := by
    apply List.eq_nil_iff_forall_not_mem.2
    intro x hx
    have hcopy := Std.ExtTreeMap.mem_toList_iff_getElem?_eq_some.1 hx
    cases hcopy.symm.trans Std.ExtTreeMap.getElem?_empty
  have hkeeps : (initial L).commitPromotesPendingKey = false := rfl
  unfold commitStaged
  rw [hempty, hkeeps]
  simp [writeTemps, replaceAll]

end Store

/-- **Staging is invisible, and `DiscardStaged` takes it back.** -/
theorem staging_reverts {s : Store L} (hs : s.staged = ∅)
    {calls : List (StoreCall × Circumstances)} (hcalls : ∀ c ∈ calls, c.1.Stages) (d : CertDisk) :
    let staging := s.runCalls ssl d calls
    let reverted := staging.value.discardStaged
    (staging.disk = d ∧ ∀ d' ∈ staging.moments, d' = d) ∧
      reverted.hasStagedChanges = false ∧
      (∀ i, reverted.read staging.disk i = s.read d i ∧
        reverted.stat staging.disk i = s.stat d i) ∧
      ∀ now e, (reverted.commitStaged now e staging.disk).value.1 = .ok () ∧
        (reverted.commitStaged now e staging.disk).disk = d ∧
        ∀ d' ∈ (reverted.commitStaged now e staging.disk).moments, d' = d := by
  intro staging reverted
  obtain ⟨hdisk, hmoments⟩ := Store.runCalls_disk ssl hcalls s d
  have hstaged : reverted.staged = s.staged := hs.symm
  refine ⟨⟨hdisk, hmoments⟩, ?_, ?_, ?_⟩
  · rw [Store.hasStagedChanges, hstaged, hs]
    rfl
  · intro i
    rw [hdisk]
    exact ⟨Store.read_congr hstaged (Agree.refl _ d) i, Store.stat_congr hstaged d i⟩
  · intro now e
    rw [hdisk]
    exact Store.commitStaged_initial now e d

/-- A refused and an accepted `Write`, and a `ValidateStaged` that returns false. -/
def stagingCalls : List (StoreCall × Circumstances) :=
  [(.update (.write 4 1000000 [1]), ⟨1, 0, .none⟩), (.update (.write 2 (-1) [1]), ⟨2, 0, .none⟩),
    (.validateStaged, ⟨3, 0, .none⟩)]

theorem staging_reverts_example :
    ((Store.initial exampleLayout.toLayout).runCalls exampleSsl exampleDisk
        stagingCalls).value.hasStagedChanges = true ∧
      ∀ i, (((Store.initial exampleLayout.toLayout).runCalls exampleSsl exampleDisk
        stagingCalls).value.discardStaged).read ((Store.initial exampleLayout.toLayout).runCalls
          exampleSsl exampleDisk stagingCalls).disk i =
        (Store.initial exampleLayout.toLayout).read exampleDisk i := by
  have hcalls : ∀ c ∈ stagingCalls, c.1.Stages := by
    intro c hc
    simp only [stagingCalls, List.mem_cons, List.not_mem_nil, or_false] at hc
    rcases hc with rfl | rfl | rfl <;> trivial
  refine ⟨by decide +kernel, ?_⟩
  intro i
  exact ((staging_reverts exampleSsl rfl hcalls exampleDisk).2.2.1 i).1

end BacnetBc
