import BacnetBc.Cert.Generate

/-!
# The certificate signing request and its key

GENERATE_CSR_FILE replaces two files one after the other: first the pending key, then the request. A
request that has gone to the issuer is of use as long as its key is on disk, as the pending key or
as the private key (`HasRequestKey`).

A call that comes to the renames goes through disks that are the old one, then have the new key,
then have the new key and its request (`replaces_run`). The old request has lost its pending key in
between.

**Theorem (`requestKey_kept`).** In a run of GENERATE_CSR_FILE calls the request on disk keeps its
key, as long as no call ends or stops in between while the private key is not the key of the request
(`LosesRequestKey`). A call that returns false leaves the request and its key there.

Whether a request is for a key is a parameter; a new key pair and the request that OpenSSL makes for
it go together.
-/

namespace BacnetBc

open FaultyDisk Memory Trajectory

variable {X509 Key : Type} (ssl : OpenSsl X509 Key) (requestFor : Octets → Key → Bool) {L : Layout}

/-! ## The request and its key -/

/-- The file at `path` is a key that the request is for. -/
def IsRequestKey (d : CertDisk) (path : String) (csrPem : Octets) : Prop :=
  ∃ key ∈ loadKey ssl d path, requestFor csrPem key = true

/-- The request on disk is for one of the two keys on disk. -/
def HasRequestKey (L : Layout) (d : CertDisk) : Prop :=
  ∃ csrPath ∈ L.paths L.csrInstance, ∃ file ∈ d csrPath,
    IsRequestKey ssl requestFor d L.privateKeyPath file.bytes ∨
      IsRequestKey ssl requestFor d L.pendingPrivateKeyPath file.bytes

/-- The private key is the key of the request on disk. -/
def PrivateIsRequestKey (L : Layout) (d : CertDisk) : Prop :=
  ∃ csrPath ∈ L.paths L.csrInstance, ∃ file ∈ d csrPath,
    IsRequestKey ssl requestFor d L.privateKeyPath file.bytes

instance (d : CertDisk) (path : String) (csrPem : Octets) :
    Decidable (IsRequestKey ssl requestFor d path csrPem) :=
  inferInstanceAs (Decidable (∃ _ ∈ _, _))

instance (L : Layout) (d : CertDisk) : Decidable (HasRequestKey ssl requestFor L d) :=
  inferInstanceAs (Decidable (∃ _ ∈ _, ∃ _ ∈ _, _))

/-- The request on disk is the same file. -/
def SameRequest (L : Layout) (d d' : CertDisk) : Prop :=
  ∀ csrPath ∈ L.paths L.csrInstance, d' csrPath = d csrPath

section
variable {ssl requestFor} {d d' : CertDisk}

theorem IsRequestKey.congr {path : String} {csrPem : Octets} (h : d' path = d path)
    (hk : IsRequestKey ssl requestFor d path csrPem) :
      IsRequestKey ssl requestFor d' path csrPem := by
  obtain ⟨key, hload, hfor⟩ := hk
  refine ⟨key, ?_, hfor⟩
  rw [loadKey, readDisk, h]
  exact hload

theorem HasRequestKey.agree (hd : Agree L.IsFile d d') (h : HasRequestKey ssl requestFor L d) :
    HasRequestKey ssl requestFor L d' := by
  obtain ⟨csrPath, hpath, file, hfile, hk⟩ := h
  refine ⟨csrPath, hpath, file, ?_, ?_⟩
  · rw [hd csrPath (Layout.isFile_of_paths hpath)]
    exact hfile
  · exact hk.imp (IsRequestKey.congr (hd _ L.isFile_private))
      (IsRequestKey.congr (hd _ L.isFile_pending))

theorem sameRequest_agree (hd : Agree L.IsFile d d') : SameRequest L d d' := fun csrPath hpath =>
  hd csrPath (Layout.isFile_of_paths hpath)

end

/-! ## What a call leaves on disk -/

section
variable {ssl requestFor} {d d' : CertDisk} {now : Int} {keyPem csrPem : Octets} {csrPath : String}

/-- With the new key and the old request, only the private key is left to be its key. -/
theorem HasRequestKey.withKey (h : PrivateIsRequestKey ssl requestFor L d)
    (hd : Agree L.IsFile (withKey L now keyPem d) d') :
    HasRequestKey ssl requestFor L d' ∧ SameRequest L d d' := by
  have hrequest : SameRequest L d d' := by
    intro csrPath hpath
    rw [hd csrPath (Layout.isFile_of_paths hpath), BacnetBc.withKey,
      Function.update_of_ne (L.paths_ne_pending hpath)]
  have hprivate : d' L.privateKeyPath = d L.privateKeyPath := by
    rw [hd _ L.isFile_private, BacnetBc.withKey, Function.update_of_ne L.private_ne_pending]
  obtain ⟨csrPath, hpath, file, hfile, hk⟩ := h
  refine ⟨⟨csrPath, hpath, file, ?_, Or.inl (hk.congr hprivate)⟩, hrequest⟩
  rw [hrequest csrPath hpath]
  exact hfile

/-- The new request has the new key. -/
theorem hasRequestKey_withKeyAndRequest {key : Key} (hkey : ssl.readPrivateKey keyPem = some key)
    (hfor : requestFor csrPem key = true) (hpath : L.paths L.csrInstance = some csrPath)
    (hne : L.pendingPrivateKeyPath ≠ "")
    (hd : Agree L.IsFile (withKeyAndRequest L now keyPem csrPem csrPath d) d') :
    HasRequestKey ssl requestFor L d' := by
  have hcsr : d' csrPath = some ⟨csrPem, now, false⟩ := by
    rw [hd csrPath (Layout.isFile_of_paths hpath), withKeyAndRequest, Function.update_self]
  have hpending : d' L.pendingPrivateKeyPath = some ⟨keyPem, now, true⟩ := by
    rw [hd _ L.isFile_pending, withKeyAndRequest,
      Function.update_of_ne (L.paths_ne_pending hpath).symm, BacnetBc.withKey, Function.update_self]
  refine ⟨csrPath, hpath, _, hcsr, Or.inr ⟨key, ?_, hfor⟩⟩
  rw [loadKey, if_neg hne, readDisk, hpending]
  exact hkey

end

/-! ## Runs of calls -/

/-- A GENERATE_CSR_FILE call: what the store holds, the circumstances, and the moment at which the
process stops, if it does. -/
structure GenerateCall (L : Layout) where
  store : Store L
  now : Int
  seed : Nat
  faults : Faults String DiskFile
  stop : Option Nat

namespace GenerateCall

/-- The call, if nothing stops it. -/
def outcome (call : GenerateCall L) (d : CertDisk) : Outcome String DiskFile (Except String Unit) :=
  call.store.generateKeyAndCsr ssl call.now call.seed call.faults d

def diskAfter (call : GenerateCall L) (d : CertDisk) : CertDisk :=
  match call.stop with
  | none => (call.outcome ssl d).disk
  | some moment => (call.outcome ssl d).moments.getD moment (call.outcome ssl d).disk

def ReturnsFalse (call : GenerateCall L) (d : CertDisk) : Prop :=
  call.stop = none ∧ ∃ reason, (call.outcome ssl d).value = .error reason

def step (d : CertDisk) (call : GenerateCall L) : Access CertDisk := .ok (call.diskAfter ssl d)

/-- The rename of the new request fails, or the process stops before it and not before that of the
new key. -/
def EndsBetween (call : GenerateCall L) : Prop :=
  match call.stop with
  | none => ¬ ReplacesRequest L call.faults
  | some moment => keyMoment ≤ moment ∧ (ReplacesRequest L call.faults → moment < requestMoment)

/-- The new key replaces the key of a request that stays. -/
def LosesRequestKey (call : GenerateCall L) (d : CertDisk) : Prop :=
  call.store.ReplacesPendingKey ssl d call.seed call.faults ∧ call.EndsBetween ∧
    ¬ PrivateIsRequestKey ssl requestFor L d

/-- What a call leaves: the old files, the new key with the old request, or both. -/
theorem diskAfter_cases (call : GenerateCall L) (d : CertDisk) :
    Agree L.IsFile d (call.diskAfter ssl d) ∨
      (call.store.ReplacesPendingKey ssl d call.seed call.faults ∧ call.EndsBetween ∧
        ∃ keyPem, Agree L.IsFile (withKey L call.now keyPem d) (call.diskAfter ssl d)) ∨
      (¬ call.ReturnsFalse ssl d ∧ L.pendingPrivateKeyPath ≠ "" ∧
        ∃ csrPath keyPem csrPem certificate, L.paths L.csrInstance = some csrPath ∧
          ssl.newKeyAndRequest call.seed certificate = some (keyPem, csrPem) ∧
          Agree L.IsFile (withKeyAndRequest L call.now keyPem csrPem csrPath d)
            (call.diskAfter ssl d)) := by
  by_cases hreplaces : call.store.ReplacesPendingKey ssl d call.seed call.faults
  · obtain ⟨csrPath, keyPem, csrPem, certificate, before, d₃, after, hpath, hnew, hmoments, hlength,
      hbefore, hd₃, hafter⟩ := replaces_run ssl call.now hreplaces
    have hrequest : ReplacesRequest L call.faults ↔
        call.faults.rename (tempPath csrPath) csrPath = true := by
      unfold ReplacesRequest
      rw [hpath]
      simp
    -- after the second rename
    have hend : ∀ d' ∈ (call.outcome ssl d).disk :: after,
        (¬ ReplacesRequest L call.faults ∧ Agree L.IsFile (withKey L call.now keyPem d) d') ∨
          (ReplacesRequest L call.faults ∧ (call.outcome ssl d).value = .ok () ∧
            Agree L.IsFile (withKeyAndRequest L call.now keyPem csrPem csrPath d) d') := by
      intro d' hd'
      have hrenames := hafter d' hd'
      unfold RenamesEnd at hrenames
      split_ifs at hrenames with hr
      · exact Or.inr ⟨hrequest.2 hr, hrenames⟩
      · exact Or.inl ⟨mt hrequest.1 hr, hrenames.2⟩
    cases hstop : call.stop with
    | none =>
      have hdisk : call.diskAfter ssl d = (call.outcome ssl d).disk := by
        rw [diskAfter, hstop]
      rw [hdisk]
      right
      rcases hend _ List.mem_cons_self with ⟨hnot, hagree⟩ | ⟨-, hvalue, hagree⟩
      · left
        refine ⟨hreplaces, ?_, keyPem, hagree⟩
        rw [EndsBetween, hstop]
        exact hnot
      · right
        refine ⟨?_, hreplaces.2.1, csrPath, keyPem, csrPem, certificate, hpath, hnew, hagree⟩
        rintro ⟨-, reason, hreason⟩
        rw [hvalue] at hreason
        cases hreason
    | some moment =>
      have hdisk : call.diskAfter ssl d = (before ++ [d₃, d₃, d₃] ++ after).getD moment
          (call.outcome ssl d).disk := by
        rw [diskAfter, hstop, ← hmoments]
        rfl
      have hreturns : ¬ call.ReturnsFalse ssl d := by
        rintro ⟨hnone, -⟩
        rw [hstop] at hnone
        cases hnone
      have hbetween : call.EndsBetween ↔
          keyMoment ≤ moment ∧ (ReplacesRequest L call.faults → moment < requestMoment) := by
        rw [EndsBetween, hstop]
      obtain ⟨hfirst, hsecond, hthird⟩ :=
        @getD_append_three before after d₃ (call.outcome ssl d).disk moment
      rw [hdisk]
      by_cases hkey : moment < keyMoment
      · exact Or.inl (hbefore _ (hfirst (hlength.symm ▸ hkey)))
      · right
        rw [Nat.not_lt] at hkey
        by_cases hrequestMoment : moment < requestMoment
        · left
          refine ⟨hreplaces, hbetween.2 ⟨hkey, fun _ => hrequestMoment⟩, keyPem, ?_⟩
          rw [hsecond (hlength.symm ▸ hkey) (hlength.symm ▸ hrequestMoment)]
          exact hd₃
        · rw [Nat.not_lt] at hrequestMoment
          rcases hend _ (hthird (hlength.symm ▸ hrequestMoment)) with ⟨hnot, hagree⟩ |
            ⟨-, -, hagree⟩
          · left
            exact ⟨hreplaces, hbetween.2 ⟨hkey, fun hr => absurd hr hnot⟩, keyPem, hagree⟩
          · right
            exact ⟨hreturns, hreplaces.2.1, csrPath, keyPem, csrPem, certificate, hpath,
              hnew, hagree⟩
  · left
    have hspares := Store.sparesAt_of_not_replacesPendingKey ssl hreplaces call.now
    unfold diskAfter
    split
    · exact hspares.2
    · exact Throughout.stop hspares _

/-- **One call.** -/
theorem hasRequestKey_diskAfter
    (hnew : ∀ seed certificate keyPem csrPem,
      ssl.newKeyAndRequest seed certificate = some (keyPem, csrPem) →
        ∃ key, ssl.readPrivateKey keyPem = some key ∧ requestFor csrPem key = true)
    {d : CertDisk} {call : GenerateCall L} (h : HasRequestKey ssl requestFor L d)
    (hg : ¬ call.LosesRequestKey ssl requestFor d) :
    HasRequestKey ssl requestFor L (call.diskAfter ssl d) ∧
      (call.ReturnsFalse ssl d → SameRequest L d (call.diskAfter ssl d)) := by
  rcases call.diskAfter_cases ssl d with hagree | ⟨hreplaces, hends, keyPem, hagree⟩ |
    ⟨hreturns, hne, csrPath, keyPem, csrPem, certificate, hpath, hpem, hagree⟩
  · exact ⟨h.agree hagree, fun _ => sameRequest_agree hagree⟩
  · have hprivate : PrivateIsRequestKey ssl requestFor L d := by
      by_contra hnot
      exact hg ⟨hreplaces, hends, hnot⟩
    obtain ⟨hkept, hsame⟩ := HasRequestKey.withKey hprivate hagree
    exact ⟨hkept, fun _ => hsame⟩
  · obtain ⟨key, hkey, hfor⟩ := hnew _ _ _ _ hpem
    exact ⟨hasRequestKey_withKeyAndRequest hkey hfor hpath hne hagree, fun hf => absurd hf hreturns⟩

end GenerateCall

/-- **A run of calls keeps the request's key**, as long as no call replaces the key of a request
that stays. -/
theorem requestKey_kept
    (hnew : ∀ seed certificate keyPem csrPem,
      ssl.newKeyAndRequest seed certificate = some (keyPem, csrPem) →
        ∃ key, ssl.readPrivateKey keyPem = some key ∧ requestFor csrPem key = true)
    {d : CertDisk} (h : HasRequestKey ssl requestFor L d) (calls : List (GenerateCall L))
    (hg : ∀ p ∈ steps (GenerateCall.step ssl) d calls, ¬ p.2.LosesRequestKey ssl requestFor p.1) :
    (∀ t ∈ states (GenerateCall.step ssl) d calls, HasRequestKey ssl requestFor L t) ∧
      ∀ p ∈ steps (GenerateCall.step ssl) d calls, p.2.ReturnsFalse ssl p.1 →
        SameRequest L p.1 (p.2.diskAfter ssl p.1) ∧
          HasRequestKey ssl requestFor L (p.2.diskAfter ssl p.1) := by
  have hstates : ∀ t ∈ states (GenerateCall.step ssl) d calls,
      HasRequestKey ssl requestFor L t := by
    have hstep : ∀ (d : CertDisk) (call : GenerateCall L) (d' : CertDisk),
        HasRequestKey ssl requestFor L d → ¬ call.LosesRequestKey ssl requestFor d →
          GenerateCall.step ssl d call = .ok d' → HasRequestKey ssl requestFor L d' := by
      rintro d call d' hd hguard ⟨⟩
      exact (GenerateCall.hasRequestKey_diskAfter ssl requestFor hnew hd hguard).1
    exact invariant_of_guard hstep h calls hg
  refine ⟨hstates, fun p hp hfalse => ?_⟩
  have hcall := GenerateCall.hasRequestKey_diskAfter ssl requestFor hnew
    (hstates p.1 (mem_states_of_mem_steps hp)) (hg p hp)
  exact ⟨hcall.2 hfalse, hcall.1⟩

/-! ### A request for the second key -/

/-- The request for the second key. -/
def secondRequestPem : Octets := pemText "CERTIFICATE REQUEST"
  ["MIGLMD8CAQAwDDEKMAgGA1UEAwwBTjAqMAUGAytlcAMhALPpGUui0+vTbh7ugc/N",
    "UWQcifUmVsr/JlzVj1YiX4ssoAAwBQYDK2VwA0EAtb7svFiWBCLevrv9dy4vJ8At",
    "964osg8MzcE78QX1bTEO5zA1sOyEz9k7MobQV57o9OLmPDtvx0s/9BRRir8qCg=="]

def exampleRequestFor (csrPem : Octets) : ExampleKey → Bool
  | .first => false
  | .second => csrPem = secondRequestPem
  | .third => csrPem = thirdRequestPem

theorem exampleSsl_newKeyAndRequest (seed : Nat) (certificate : ExampleCertificate)
    (keyPem csrPem : Octets)
    (h : exampleSsl.newKeyAndRequest seed certificate = some (keyPem, csrPem)) :
    ∃ key, exampleSsl.readPrivateKey keyPem = some key ∧ exampleRequestFor csrPem key = true := by
  cases h
  exact ⟨.third, by decide +kernel, by decide +kernel⟩

/-- The request for the second key is on disk, and has gone to the issuer. -/
def requestDisk : CertDisk :=
  Function.update exampleDisk "sc/cert1/device-389005/port-4/csr-node.pem"
    (some ⟨secondRequestPem, 0, false⟩)

/-- GENERATE_CSR_FILE with nothing staged. -/
def generateAgain (faults : Faults String DiskFile) (stop : Option Nat) :
    GenerateCall exampleLayout.toLayout := ⟨.initial _, 2, 0, faults, stop⟩

/-- The rename of the request fails. -/
def requestRenameFails : Faults String DiskFile :=
  ⟨fun _ => true, fun _ => none, fun _ target =>
    target ≠ "sc/cert1/device-389005/port-4/csr-node.pem"⟩

/-- If the second rename of a call fails, or the process stops right before it, the request on disk
is for a key that is gone. -/
theorem requestKey_lost :
    HasRequestKey exampleSsl exampleRequestFor exampleLayout.toLayout requestDisk ∧
      (∃ t ∈ states (GenerateCall.step exampleSsl) requestDisk
        [generateAgain requestRenameFails none],
        ¬ HasRequestKey exampleSsl exampleRequestFor exampleLayout.toLayout t) ∧
      ∃ t ∈ states (GenerateCall.step exampleSsl) requestDisk [generateAgain .none (some 15)],
        ¬ HasRequestKey exampleSsl exampleRequestFor exampleLayout.toLayout t := by
  refine ⟨by decide +kernel, ?_, ?_⟩
  · refine ⟨(generateAgain requestRenameFails none).diskAfter exampleSsl requestDisk, ?_, ?_⟩
    · exact List.mem_cons_of_mem _ List.mem_cons_self
    · decide +kernel
  · refine ⟨(generateAgain .none (some 15)).diskAfter exampleSsl requestDisk, ?_, ?_⟩
    · exact List.mem_cons_of_mem _ List.mem_cons_self
    · decide +kernel

/-- A call that stops early and one that is complete. -/
theorem requestKey_kept_generateAgain :
    (∀ t ∈ states (GenerateCall.step exampleSsl) requestDisk
        [generateAgain .none (some 3), generateAgain .none none],
      HasRequestKey exampleSsl exampleRequestFor exampleLayout.toLayout t) ∧
    ∀ p ∈ steps (GenerateCall.step exampleSsl) requestDisk
        [generateAgain .none (some 3), generateAgain .none none],
      p.2.ReturnsFalse exampleSsl p.1 →
        SameRequest exampleLayout.toLayout p.1 (p.2.diskAfter exampleSsl p.1) ∧
          HasRequestKey exampleSsl exampleRequestFor exampleLayout.toLayout
            (p.2.diskAfter exampleSsl p.1) :=
  requestKey_kept exampleSsl exampleRequestFor exampleSsl_newKeyAndRequest (by decide +kernel) _ (by
    rintro p hp ⟨-, hends, -⟩
    have hcall := mem_events_of_mem_steps hp
    simp only [List.mem_cons, List.not_mem_nil, or_false] at hcall
    rcases hcall with hcall | hcall <;> rw [hcall] at hends
    · exact absurd hends.1 (by decide)
    · exact hends fun csrPath _ => rfl)

end BacnetBc
