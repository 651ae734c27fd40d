import BacnetBc.Lib.Memory
import Mathlib.Tactic.SplitIfs

/-!
# Certificates in PEM files

`SplitPemBlocks` cuts a PEM text into its blocks; `ParseCertificates` hands each to OpenSSL. What
OpenSSL does with a block, a key or a chain is a parameter (`OpenSsl`): nothing is assumed of it but
that it gives the same answer to the same question.

A search from a position is modelled on the octets from that position on: `breakOn` gives what is
before the first occurrence of a text, and the rest from the occurrence on.
-/

namespace BacnetBc

open Memory

/-! ## Texts -/

/-- The octets of a text. -/
def octetsOf (text : String) : Octets := text.toUTF8.data.toList

theorem octetsOf_append (s t : String) : octetsOf (s ++ t) = octetsOf s ++ octetsOf t := by
  rw [octetsOf, String.toUTF8, String.toByteArray_append]
  simp [octetsOf, String.toUTF8]

/-- What is before the first occurrence of `pattern`, and the rest from there on. -/
def breakOn (pattern : Octets) : Octets → Option (Octets × Octets)
  | [] => if pattern = [] then some ([], []) else none
  | octet :: octets =>
    if pattern.isPrefixOf (octet :: octets) then some ([], octet :: octets)
    else (breakOn pattern octets).map fun (before, rest) => (octet :: before, rest)

theorem breakOn_eq_some {pattern octets before rest : Octets}
    (h : breakOn pattern octets = some (before, rest)) :
    octets = before ++ rest ∧ pattern <+: rest := by
  induction octets generalizing before with
  | nil =>
    unfold breakOn at h
    split_ifs at h with hp
    obtain ⟨rfl, rfl⟩ := Prod.mk.inj (Option.some.inj h)
    exact ⟨rfl, hp ▸ List.nil_prefix⟩
  | cons octet octets ih =>
    unfold breakOn at h
    split_ifs at h with hp
    · obtain ⟨rfl, rfl⟩ := Prod.mk.inj (Option.some.inj h)
      exact ⟨rfl, List.isPrefixOf_iff_prefix.1 hp⟩
    · cases hb : breakOn pattern octets with
      | none => simp [hb] at h
      | some found =>
        obtain ⟨before', rest'⟩ := found
        simp only [hb, Option.map_some, Option.some.injEq, Prod.mk.injEq] at h
        obtain ⟨rfl, rfl⟩ := h
        obtain ⟨heq, hprefix⟩ := ih hb
        exact ⟨by rw [heq, List.cons_append], hprefix⟩

/-- Space, tab, CR and LF. -/
def isPemSpace (octet : UInt8) : Bool :=
  octet == 0x20 || octet == 0x09 || octet == 0x0D || octet == 0x0A

/-- An octet of the writer's text as it is shown in a message. -/
def shownChar (octet : UInt8) : Char :=
  if 0x20 ≤ octet ∧ octet < 0x7F then Char.ofNat octet.toNat else '?'

/-! ## SplitPemBlocks -/

/-- `kBegin`. -/
def pemBegin : Octets := octetsOf "-----BEGIN "

/-- `kDashes`. -/
def pemDashes : Octets := octetsOf "-----"

/-- `endMarker`. -/
def pemEnd (label : String) : Octets := octetsOf ("-----END " ++ label ++ "-----")

/-- The block that `fromBegin` starts with, and what is behind it. -/
def pemBlock (label : String) (fromBegin : Octets) : Except String (Octets × Octets) :=
  match breakOn pemDashes (fromBegin.drop pemBegin.length) with
  | none => .error "has an unterminated PEM header"
  | some (found, fromDashes) =>
    if found ≠ octetsOf label then
      .error ("holds a \"" ++ String.ofList ((found.take 40).map shownChar) ++
        "\" PEM block (only " ++ label ++ " is allowed here)")
    else
      match breakOn (pemEnd label) fromDashes with
      | none => .error ("has a " ++ label ++ " block with no END line")
      | some (_, fromEnd) =>
        let rest := fromEnd.drop (pemEnd label).length
        .ok (fromBegin.take (fromBegin.length - rest.length), rest)

theorem length_lt_of_pemBlock {label : String} {fromBegin block rest : Octets}
    (hbegin : pemBegin <+: fromBegin) (h : pemBlock label fromBegin = .ok (block, rest)) :
    rest.length < fromBegin.length := by
  have hpos : pemBegin.length = 11 := by decide
  have hle := hbegin.length_le
  unfold pemBlock at h
  split at h
  · cases h
  · rename_i found fromDashes hdashes
    split_ifs at h
    split at h
    · cases h
    · rename_i before fromEnd hend
      obtain ⟨rfl, rfl⟩ := Prod.mk.inj (Except.ok.inj h)
      have hd := congrArg List.length (breakOn_eq_some hdashes).1
      have he := congrArg List.length (breakOn_eq_some hend).1
      simp only [List.length_drop, List.length_append] at hd he ⊢
      omega

/-- `SplitPemBlocks`. -/
def splitPemBlocks (label : String) (pem : Octets) : Except String (List Octets) :=
  match _hb : breakOn pemBegin pem with
  | none => if pem.all isPemSpace then .ok [] else .error "has text outside a PEM block"
  | some (gap, fromBegin) =>
    if gap.all isPemSpace then
      match _hp : pemBlock label fromBegin with
      | .error reason => .error reason
      | .ok (block, rest) => (splitPemBlocks label rest).map (block :: ·)
    else .error "has text outside a PEM block"
termination_by pem.length
decreasing_by
  have hlen := congrArg List.length (breakOn_eq_some _hb).1
  have hlt := length_lt_of_pemBlock (breakOn_eq_some _hb).2 _hp
  simp only [List.length_append] at hlen
  omega

/-! ## OpenSSL -/

/-- `X509_PURPOSE_SSL_SERVER` and `X509_PURPOSE_SSL_CLIENT`. -/
inductive Purpose
  | sslServer
  | sslClient
deriving DecidableEq, Repr

/-- What the certificate store asks OpenSSL. -/
structure OpenSsl (X509 Key : Type) where
  /-- `PEM_read_bio_X509` on one block. -/
  readX509 : Octets → Option X509
  /-- `PEM_write_bio_X509`. -/
  writeX509 : X509 → Option Octets
  /-- `PEM_read_bio_PrivateKey`, with the password asked for at start-up. -/
  readPrivateKey : Octets → Option Key
  /-- `X509_check_private_key`. -/
  checkPrivateKey : X509 → Key → Bool
  /-- `X509_check_ca`. -/
  checkCa : X509 → Nat
  /-- `X509_verify_cert` of a certificate, with intermediates, against a store: the error string
  unless it verifies. -/
  verify : X509 → List X509 → List X509 → Purpose → Option String
  /-- A new key pair and a request for it with the subject of a certificate: the PEM texts of the
  private key and of the request. The number tells one new key pair from another. -/
  newKeyAndRequest : Nat → X509 → Option (Octets × Octets)

variable {X509 Key : Type} (ssl : OpenSsl X509 Key)

/-- Each block as a certificate. -/
def readCertificates : List Octets → Except String (List X509)
  | [] => .ok []
  | block :: blocks =>
    match ssl.readX509 block with
    | none => .error "holds a CERTIFICATE block that doesn't parse"
    | some certificate => (readCertificates blocks).map (certificate :: ·)

/-- `ParseCertificates`. -/
def parseCertificates (pem : Octets) : Except String (List X509) :=
  match splitPemBlocks "CERTIFICATE" pem with
  | .error reason => .error reason
  | .ok [] => if pem.all isPemSpace then .ok [] else .error "not a PEM certificate"
  | .ok blocks => readCertificates ssl blocks

/-- `X509_verify_cert` against one store after the other, until one verifies. -/
def verifyAgainst (leaf : X509) (intermediates : List X509) (purpose : Purpose) :
    String → List (List X509) → Except String Unit
  | why, [] => .error why
  | _, store :: stores =>
    match ssl.verify leaf intermediates store purpose with
    | none => .ok ()
    | some error => verifyAgainst leaf intermediates purpose error stores

/-- `ChainsToIssuers`: each issuer on its own, then all of them together. -/
def chainsToIssuers (leaf : X509) (intermediates issuers : List X509) (purpose : Purpose) :
    Except String Unit :=
  verifyAgainst ssl leaf intermediates purpose "no issuer certificate"
    (issuers.map ([·]) ++ if issuers.length < 2 then [] else [issuers])

/-- The first certificate of a PEM text, if it holds nothing but certificates. -/
def firstCertificate (pem : Octets) : Option X509 :=
  match parseCertificates ssl pem with
  | .ok (certificate :: _) => some certificate
  | _ => none

end BacnetBc
