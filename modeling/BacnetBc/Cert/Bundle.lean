import BacnetBc.Cert.Committed
import BacnetBc.Cert.PemBlocks
import BacnetBc.Cert.Refusal
import BacnetBc.Lib.Dedup
import Mathlib

/-!
# The bundle of trusted issuers

`ValidateStaged` reads the issuer certificates as they will be after a commit and stops at a file
that does not parse. `WriteTrustedIssuerBundle` reads them again after the commit, as they are
served, and leaves out what does not parse. Its loop appends a certificate that it has not seen.

**Theorem (`bundle_after_commit`).** After a `ValidateStaged` and a `CommitStaged` that returned
true the bundle is made of the certificates that the validation used, each once, in the order in
which they occur first.
-/

namespace BacnetBc

open FaultyDisk Memory

variable {X509 Key : Type} (ssl : OpenSsl X509 Key) {L : Layout}

/-! ## The loop -/

namespace Store

/-- The certificates of an issuer file, none if it does not parse. -/
def issuersOf (s : Store L) (d : CertDisk) (i : Nat) : List X509 :=
  match (s.read d i).map (parseCertificates ssl) with
  | some (.ok certificates) => certificates
  | _ => []

end Store

/-- The loop over certificates: the bundle so far, and its parts. -/
theorem foldl_addIssuer (certificates : List X509) :
    (certificates.foldl (addIssuer ssl) ([], [])).1 =
        (certificates.filterMap ssl.writeX509).eraseDups.flatten ∧
      ∀ pem, pem ∈ (certificates.foldl (addIssuer ssl) ([], [])).2 ↔
        pem ∈ certificates.filterMap ssl.writeX509 := by
  induction certificates using List.reverseRecOn with
  | nil => exact ⟨rfl, fun _ => Iff.rfl⟩
  | append_singleton certificates certificate ih =>
    obtain ⟨hbundle, hseen⟩ := ih
    rw [List.foldl_append, List.foldl_cons, List.foldl_nil, List.filterMap_append, addIssuer]
    cases hpem : ssl.writeX509 certificate with
    | none =>
      simp only [List.filterMap_cons, hpem, List.filterMap_nil, List.append_nil]
      exact ⟨hbundle, hseen⟩
    | some pem =>
      simp only [List.filterMap_cons, hpem, List.filterMap_nil, Dedup.eraseDups_concat]
      by_cases h : pem ∈ certificates.filterMap ssl.writeX509
      · rw [if_pos ((hseen pem).2 h), if_pos h]
        refine ⟨hbundle, ?_⟩
        intro other
        rw [hseen other, List.mem_append, List.mem_singleton]
        constructor
        · exact Or.inl
        · intro hother
          cases hother with
          | inl hother => exact hother
          | inr hother => rwa [hother]
      · rw [if_neg fun hc => h ((hseen pem).1 hc), if_neg h]
        refine ⟨?_, ?_⟩
        · rw [hbundle, List.flatten_append, List.flatten_singleton]
        · intro other
          rw [List.mem_cons, hseen other, List.mem_append, List.mem_singleton, or_comm]

namespace Store

theorem foldl_addIssuerFile (s : Store L) (d : CertDisk) (instances : List Nat)
    (state : Octets × List Octets) :
    instances.foldl (s.addIssuerFile ssl d) state =
      (instances.flatMap (s.issuersOf ssl d)).foldl (addIssuer ssl) state := by
  induction instances generalizing state with
  | nil => rfl
  | cons i instances ih =>
    have hfile : s.addIssuerFile ssl d state i =
        (s.issuersOf ssl d i).foldl (addIssuer ssl) state := by
      unfold addIssuerFile issuersOf
      rcases (s.read d i).map (parseCertificates ssl) with _ | (_ | certificates) <;> rfl
    rw [List.foldl_cons, List.flatMap_cons, List.foldl_append, ih, hfile]

/-- **The loops make the bundle of every issuer certificate**, each once. -/
theorem trustedIssuerBundle_eq_flatten (s : Store L) (d : CertDisk) :
    s.trustedIssuerBundle ssl d =
      ((L.issuerInstances.flatMap (s.issuersOf ssl d)).filterMap
        ssl.writeX509).eraseDups.flatten := by
  rw [trustedIssuerBundle, foldl_addIssuerFile, (foldl_addIssuer ssl _).1]

/-! ## What the validation used -/

theorem parseIssuers_of_validateStaged {s s' : Store L} {d : CertDisk}
    (h : s.validateStaged ssl d = (.ok (), s')) :
    ∃ issuers, parseIssuers ssl s d L.issuerInstances = .ok issuers ∧ issuers ≠ [] := by
  unfold validateStaged at h
  cases hparse : parseIssuers ssl s d L.issuerInstances with
  | error reason =>
    rw [hparse] at h
    cases h
  | ok issuers =>
    cases issuers with
    | nil =>
      rw [hparse] at h
      cases h
    | cons issuer issuers => exact ⟨_, rfl, List.cons_ne_nil _ _⟩

/-- A file without octets holds no certificates. -/
theorem parseCertificates_nil : parseCertificates ssl [] = .ok [] := by
  have hbreak : breakOn pemBegin [] = none := by decide
  rw [parseCertificates, splitPemBlocks_nil hbreak rfl]
  rfl

/-- What the bundle is made of is what was parsed, if all of it parses. -/
theorem flatMap_of_parseIssuers {s : Store L} {d : CertDisk} {instances : List Nat}
    {issuers : List X509} (h : parseIssuers ssl s d instances = .ok issuers) :
    instances.flatMap (s.issuersOf ssl d) = issuers := by
  induction instances generalizing issuers with
  | nil =>
    cases h
    rfl
  | cons i instances ih =>
    rw [parseIssuers] at h
    cases hparse : parseCertificates ssl (s.effective d i) with
    | error why =>
      rw [hparse] at h
      cases h
    | ok certificates =>
      rw [hparse] at h
      cases hrest : parseIssuers ssl s d instances with
      | error why =>
        rw [hrest] at h
        cases h
      | ok rest =>
        rw [hrest] at h
        cases h
        have hissuers : s.issuersOf ssl d i = certificates := by
          rw [effective] at hparse
          unfold issuersOf
          cases hread : s.read d i with
          | none =>
            rw [hread, Option.getD_none, parseCertificates_nil] at hparse
            cases hparse
            rfl
          | some bytes =>
            rw [hread, Option.getD_some] at hparse
            rw [Option.map_some, hparse]
        rw [List.flatMap_cons, ih hrest, hissuers]

end Store

theorem parsed_of_readCertificates {blocks : List Octets} {certificates : List X509}
    (h : readCertificates ssl blocks = .ok certificates) :
    ∀ certificate ∈ certificates, ∃ block, ssl.readX509 block = some certificate := by
  induction blocks generalizing certificates with
  | nil =>
    cases h
    simp
  | cons block blocks ih =>
    rw [readCertificates] at h
    cases hread : ssl.readX509 block with
    | none =>
      rw [hread] at h
      cases h
    | some first =>
      rw [hread] at h
      cases hrest : readCertificates ssl blocks with
      | error why =>
        rw [hrest] at h
        cases h
      | ok rest =>
        rw [hrest] at h
        cases h
        intro certificate hmem
        cases List.mem_cons.1 hmem with
        | inl heq => exact ⟨block, by rw [heq, hread]⟩
        | inr hmem => exact ih hrest certificate hmem

theorem parsed_of_parseCertificates {pem : Octets} {certificates : List X509}
    (h : parseCertificates ssl pem = .ok certificates) :
    ∀ certificate ∈ certificates, ∃ block, ssl.readX509 block = some certificate := by
  unfold parseCertificates at h
  split at h
  · cases h
  · split_ifs at h
    · cases h
      simp
  · exact parsed_of_readCertificates ssl h

/-- Every issuer certificate was parsed from a block. -/
theorem parsed_of_parseIssuers {s : Store L} {d : CertDisk} {instances : List Nat}
    {issuers : List X509} (h : parseIssuers ssl s d instances = .ok issuers) :
    ∀ issuer ∈ issuers, ∃ block, ssl.readX509 block = some issuer := by
  intro issuer hmem
  rw [← Store.flatMap_of_parseIssuers ssl h, List.mem_flatMap] at hmem
  obtain ⟨i, -, hmem⟩ := hmem
  unfold Store.issuersOf at hmem
  split at hmem
  · rename_i certificates hparse
    obtain ⟨bytes, -, hbytes⟩ := Option.map_eq_some_iff.1 hparse
    exact parsed_of_parseCertificates ssl hbytes issuer hmem
  · cases hmem

/-! ## After a commit -/

/-- A file that was written in one step holds the octets. -/
theorem file_of_atomicWriteFileToDisk {now : Int} {path : String} {bytes : Octets}
    {privateFile : Bool} {e : Faults String DiskFile} {d : CertDisk}
    (h : (atomicWriteFileToDisk now path bytes privateFile e d).value = .ok ()) :
    (atomicWriteFileToDisk now path bytes privateFile e d).disk path =
      some ⟨bytes, now, privateFile⟩ := by
  unfold atomicWriteFileToDisk at h ⊢
  rw [bind_value] at h
  rw [bind_disk]
  cases hw : e.write (tempPath path) with
  | false =>
    obtain ⟨reason, hvalue⟩ := writeTempFile_fail (d := d) hw now bytes privateFile
    rw [hvalue] at h
    cases h
  | true =>
    obtain ⟨hvalue, hdisk⟩ := writeTempFile_ok (d := d) hw now bytes privateFile
    rw [hvalue] at h ⊢
    dsimp only at h ⊢
    rw [bind_value] at h
    rw [bind_disk]
    cases hr : e.rename (tempPath path) path with
    | false =>
      obtain ⟨⟨reason, hvalue'⟩, -, -⟩ :=
        replaceWithTemp_fail (d := (writeTempFile now path bytes privateFile e d).disk) hr
      rw [hvalue'] at h
      cases h
    | true =>
      have htemp : (writeTempFile now path bytes privateFile e d).disk (tempPath path) =
          some ⟨bytes, now, privateFile⟩ := by
        rw [hdisk, Function.update_self]
      obtain ⟨hvalue', hdisk', -⟩ := replaceWithTemp_ok htemp hr
      rw [hvalue']
      dsimp only
      rw [pure_run, hdisk', Function.update_self]

/-- The bundle that is written is the bundle. -/
theorem Store.file_of_writeTrustedIssuerBundle {s : Store L} {now : Int} {path : String}
    {e : Faults String DiskFile} {d : CertDisk}
    (h : (s.writeTrustedIssuerBundle ssl now path e d).value = .ok ()) :
    (s.writeTrustedIssuerBundle ssl now path e d).disk path =
      some ⟨s.trustedIssuerBundle ssl d, now, false⟩ := by
  unfold writeTrustedIssuerBundle at h ⊢
  rw [bind_value, look_run] at h
  rw [bind_disk, look_run]
  dsimp only at h ⊢
  by_cases hempty : s.trustedIssuerBundle ssl d = []
  · rw [if_pos hempty] at h
    cases h
  · rw [if_neg hempty] at h ⊢
    exact file_of_atomicWriteFileToDisk h

/-- PEM writing of a parsed certificate succeeds, and tells parsed certificates apart. -/
structure WritesPem (ssl : OpenSsl X509 Key) : Prop where
  succeeds : ∀ {block certificate}, ssl.readX509 block = some certificate →
    ∃ pem, ssl.writeX509 certificate = some pem
  injective : ∀ {block block' certificate certificate'}, ssl.readX509 block = some certificate →
    ssl.readX509 block' = some certificate' →
      ssl.writeX509 certificate = ssl.writeX509 certificate' → certificate = certificate'

/-- The PEM text of a certificate. -/
def pemOf (certificate : X509) : Octets := (ssl.writeX509 certificate).getD []

theorem filterMap_writeX509 {certificates : List X509}
    (h : ∀ certificate ∈ certificates, ∃ pem, ssl.writeX509 certificate = some pem) :
    certificates.filterMap ssl.writeX509 = certificates.map (pemOf ssl) := by
  induction certificates with
  | nil => rfl
  | cons certificate certificates ih =>
    obtain ⟨pem, hpem⟩ := h certificate List.mem_cons_self
    rw [List.filterMap_cons_some hpem, List.map_cons, pemOf, hpem,
      ih fun c hc => h c (List.mem_cons_of_mem _ hc)]
    rfl

/-- **The bundle is made of the certificates that were validated.** -/
theorem bundle_after_commit [DecidableEq X509] (hpem : WritesPem ssl) {s noted s' : Store L}
    {now : Int} {e : Faults String DiskFile} {d d' : CertDisk}
    (hvalid : s.validateStaged ssl d = (.ok (), noted))
    (hcommit : (noted.commitStaged now e d).value = (.ok (), s'))
    (hd : (noted.commitStaged now e d).disk = d') :
    ∃ issuers, parseIssuers ssl s d L.issuerInstances = .ok issuers ∧ issuers ≠ [] ∧
      issuers.eraseDups.Nodup ∧ (∀ issuer, issuer ∈ issuers.eraseDups ↔ issuer ∈ issuers) ∧
      (∀ issuer ∈ issuers, ssl.writeX509 issuer = some (pemOf ssl issuer)) ∧
      s'.trustedIssuerBundle ssl d' = issuers.eraseDups.flatMap (pemOf ssl) ∧
      ∀ path now' e', (s'.writeTrustedIssuerBundle ssl now' path e' d').value = .ok () →
        (s'.writeTrustedIssuerBundle ssl now' path e' d').disk path =
          some ⟨issuers.eraseDups.flatMap (pemOf ssl), now', false⟩ := by
  obtain ⟨issuers, hparse, hne⟩ := Store.parseIssuers_of_validateStaged ssl hvalid
  have hparsed := parsed_of_parseIssuers ssl hparse
  have hwrites : ∀ issuer ∈ issuers, ∃ pem, ssl.writeX509 issuer = some pem := by
    intro issuer hmem
    obtain ⟨block, hblock⟩ := hparsed issuer hmem
    exact hpem.succeeds hblock
  have hpemOf : ∀ issuer ∈ issuers, ssl.writeX509 issuer = some (pemOf ssl issuer) := by
    intro issuer hmem
    obtain ⟨pem, hwrite⟩ := hwrites issuer hmem
    rw [pemOf, hwrite]
    rfl
  have hinjective : ∀ a ∈ issuers, ∀ b ∈ issuers, pemOf ssl a = pemOf ssl b → a = b := by
    intro a ha b hb heq
    obtain ⟨blockA, hA⟩ := hparsed a ha
    obtain ⟨blockB, hB⟩ := hparsed b hb
    exact hpem.injective hA hB (by rw [hpemOf a ha, hpemOf b hb, heq])
  have hcommitted : noted.Committed s' d d' := by
    have hend := (noted.commitStaged_run now e d).1
    rw [hcommit, hd] at hend
    exact (Store.committed_of_commitEnd hend).1
  have hreads (i : Nat) : s'.read d' i = s.read d i := by
    have hstaged : noted.staged = s.staged := by
      rw [← Store.validateStaged_staged ssl s d, hvalid]
    rw [hcommitted.reads, Store.read_congr hstaged (Agree.refl _ d)]
  have hbundle : s'.trustedIssuerBundle ssl d' = issuers.eraseDups.flatMap (pemOf ssl) := by
    have hsame : s'.issuersOf ssl d' = s.issuersOf ssl d := by
      funext i
      rw [Store.issuersOf, Store.issuersOf, hreads]
    rw [Store.trustedIssuerBundle_eq_flatten, hsame, Store.flatMap_of_parseIssuers ssl hparse,
      filterMap_writeX509 ssl hwrites, Dedup.eraseDups_map hinjective]
    rfl
  refine ⟨issuers, hparse, hne, Dedup.nodup_eraseDups issuers, fun _ => List.mem_eraseDups, hpemOf,
    hbundle, ?_⟩
  intro path now' e' hok
  rw [Store.file_of_writeTrustedIssuerBundle ssl hok, hbundle]

theorem writesPem_example : WritesPem exampleSsl where
  succeeds := by
    intro block certificate _
    cases certificate <;> exact ⟨_, rfl⟩
  injective := by
    intro block block' certificate certificate' _ _ heq
    have hissuer : issuerPem ≠ firstCertificatePem := by decide
    have hissuer' : issuerPem ≠ secondCertificatePem := by decide
    have hfirst : firstCertificatePem ≠ secondCertificatePem := by decide +kernel
    cases certificate <;> cases certificate'
    · rfl
    · exact absurd (Option.some.inj heq) hissuer
    · exact absurd (Option.some.inj heq) hissuer'
    · exact absurd (Option.some.inj heq).symm hissuer
    · rfl
    · exact absurd (Option.some.inj heq) hfirst
    · exact absurd (Option.some.inj heq).symm hissuer'
    · exact absurd (Option.some.inj heq).symm hfirst
    · rfl

/-- The second slot serves the issuer of the first one, and the bundle has it once. -/
theorem bundle_after_commit_example :
    let noted := (exampleStore.validateStaged exampleSsl exampleDisk).2
    let done := noted.commitStaged 2 .none exampleDisk
    parseIssuers exampleSsl exampleStore exampleDisk exampleLayout.toLayout.issuerInstances =
        .ok [.issuer, .issuer] ∧
      done.value.2.trustedIssuerBundle exampleSsl done.disk = issuerPem := by
  have hvalid : exampleStore.validateStaged exampleSsl exampleDisk =
      (.ok (), (exampleStore.validateStaged exampleSsl exampleDisk).2) :=
    Prod.ext (by decide +kernel) rfl
  have hparse : parseIssuers exampleSsl exampleStore exampleDisk
      exampleLayout.toLayout.issuerInstances = .ok [.issuer, .issuer] := by decide +kernel
  obtain ⟨issuers, hissuers, -, -, -, -, hbundle, -⟩ := bundle_after_commit exampleSsl
    writesPem_example hvalid (Prod.ext (by decide +kernel) rfl :
      ((exampleStore.validateStaged exampleSsl exampleDisk).2.commitStaged 2 .none
        exampleDisk).value = (.ok (), _)) rfl
  obtain rfl := Except.ok.inj (hparse.symm.trans hissuers)
  refine ⟨hparse, ?_⟩
  rw [hbundle]
  decide +kernel

end BacnetBc
