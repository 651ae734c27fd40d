import BacnetBc.Lib.LittleEndian
import BacnetBc.Log.Named

/-!
# Frames that are written and logged

`LoggedFrame` is an Original-Unicast-NPDU, an Original-Broadcast-NPDU or a Forwarded-NPDU with any
headers in front of a network layer message or an APDU, segmented or not. The bits that the decoder
does not look at may be anything.

**Theorem (`decodeBacnetFrame_encode`).** The log finds in a frame what it was built from: the
addresses, the type of the message or PDU, the invoke ID, the service, the reason, the object and
the property.
-/

namespace BacnetBc

open Memory

namespace Log

/-! ## APDUs -/

/-- The first octet of an APDU: the type, and four bits. -/
def firstOctet (pduType flags : UInt8) : UInt8 := pduType <<< 4 ||| flags &&& 0x0F

/-- The first octet of an APDU that says whether it is a segment. -/
def segmentOctet (pduType flags : UInt8) (segmented : Bool) : UInt8 :=
  firstOctet pduType ((if segmented then 0x08 else 0) ||| flags &&& 0x07)

/-- A service and its parameters. `names` are the services that begin with a property. -/
inductive Service (names : UInt8 → Bool)
  | naming (choice : UInt8) (h : names choice = true) (p : NamedProperty)
  | other (choice : UInt8) (h : names choice = false) (parameters : Octets)

namespace Service

variable {names : UInt8 → Bool}

def choice : Service names → UInt8
  | naming choice _ _ => choice
  | other choice _ _ => choice

def encode : Service names → Octets
  | naming choice _ p => choice :: p.encode
  | other choice _ parameters => choice :: parameters

/-- What is logged of the parameters. -/
def logged : Service names → Option ObjectProperty
  | naming _ _ p => some p.logged
  | other _ _ _ => none

end Service

/-- ReadProperty and WriteProperty. -/
def requestNames (service : UInt8) : Bool := service == 12 || service == 15

/-- ReadProperty. -/
def ackNames (service : UInt8) : Bool := service == 12

/-- The sequence number and the window of a segment. -/
abbrev Segment := UInt8 × UInt8

def segmentOctets (segment : Option Segment) : Octets := segment.elim [] fun s => [s.1, s.2]

inductive Apdu
  | confirmedRequest (flags maxima invokeId : UInt8) (segment : Option Segment)
    (service : Service requestNames)
  | unconfirmedRequest (flags service : UInt8) (parameters : Octets)
  | simpleAck (flags invokeId service : UInt8)
  | complexAck (flags invokeId : UInt8) (segment : Option Segment) (service : Service ackNames)
  | segmentAck (flags : UInt8) (rest : Octets)
  | error (flags invokeId service : UInt8) (parameters : Octets)
  | reject (flags invokeId reason : UInt8)
  | abort (flags invokeId reason : UInt8)

namespace Apdu

def encode : Apdu → Octets
  | confirmedRequest flags maxima invokeId segment service =>
    segmentOctet 0 flags segment.isSome :: maxima :: invokeId ::
      (segmentOctets segment ++ service.encode)
  | unconfirmedRequest flags service parameters => firstOctet 1 flags :: service :: parameters
  | simpleAck flags invokeId service => [firstOctet 2 flags, invokeId, service]
  | complexAck flags invokeId segment service =>
    segmentOctet 3 flags segment.isSome :: invokeId :: (segmentOctets segment ++ service.encode)
  | segmentAck flags rest => firstOctet 4 flags :: rest
  | error flags invokeId service parameters =>
    firstOctet 5 flags :: invokeId :: service :: parameters
  | reject flags invokeId reason => [firstOctet 6 flags, invokeId, reason]
  | abort flags invokeId reason => [firstOctet 7 flags, invokeId, reason]

/-- What is logged of it, beside what is logged of the headers. -/
def logged (out : DecodedFrame) : Apdu → DecodedFrame
  | confirmedRequest _ _ invokeId segment service =>
    { out with
      pduType := some 0
      segmented := segment.isSome
      invokeId := some invokeId
      serviceChoice := some service.choice
      objectProperty := service.logged }
  | unconfirmedRequest _ service _ =>
    { out with pduType := some 1, serviceChoice := some service }
  | simpleAck _ invokeId service =>
    { out with pduType := some 2, invokeId := some invokeId, serviceChoice := some service }
  | complexAck _ invokeId segment service =>
    { out with
      pduType := some 3
      segmented := segment.isSome
      invokeId := some invokeId
      serviceChoice := some service.choice
      objectProperty := service.logged }
  | segmentAck _ _ => { out with pduType := some 4 }
  | error _ invokeId service _ =>
    { out with pduType := some 5, invokeId := some invokeId, serviceChoice := some service }
  | reject _ invokeId reason =>
    { out with pduType := some 6, invokeId := some invokeId, reason := some reason }
  | abort _ invokeId reason =>
    { out with pduType := some 7, invokeId := some invokeId, reason := some reason }

end Apdu

/-! ## Frames -/

inductive Content
  | networkMessage (type : UInt8) (data : Octets)
  | apdu (apdu : Apdu)

namespace Content

def npduContent : Content → NpduContent
  | networkMessage type data => .networkMessage type data
  | apdu a => .apdu a.encode

def logged (out : DecodedFrame) : Content → DecodedFrame
  | networkMessage type _ => { out with isNetworkMessage := true, networkMessageType := type }
  | apdu a => a.logged out

end Content

/-- The BVLC functions that have an NPDU. -/
inductive Bvlc
  | unicast
  | broadcast
  | forwarded (originator : Octets) (length_eq : originator.length = 6)

namespace Bvlc

def function : Bvlc → UInt8
  | unicast => 0x0A
  | broadcast => 0x0B
  | forwarded _ _ => 0x04

def originator : Bvlc → Octets
  | forwarded originator _ => originator
  | _ => []

end Bvlc

structure LoggedFrame where
  bvlc : Bvlc
  lengthField : UInt8 × UInt8
  header : NpduHeader
  content : Content

namespace LoggedFrame

def npdu (f : LoggedFrame) : Npdu := ⟨f.header, f.content.npduContent⟩

/-- The octets in front of the NPDU. -/
def bvlcOctets (f : LoggedFrame) : Octets :=
  0x81 :: f.bvlc.function :: f.lengthField.1 :: f.lengthField.2 :: f.bvlc.originator

def encode (f : LoggedFrame) : Octets := f.bvlcOctets ++ f.npdu.encode

/-- What is to be logged of the frame. -/
def logged (f : LoggedFrame) : DecodedFrame :=
  f.content.logged
    { bacnetIp := true
      bvlcFunction := f.bvlc.function
      hasNpdu := true
      npduVersion := 1
      npduControl := f.npdu.control
      hasDest := f.header.destination.isSome
      dnet := (f.header.destination.map Prod.fst).elim 0 NetworkAddress.network
      dadr := (f.header.destination.map Prod.fst).elim [] NetworkAddress.address
      hasSrc := f.header.source.isSome
      snet := f.header.source.elim 0 NetworkAddress.network
      sadr := f.header.source.elim [] NetworkAddress.address }

end LoggedFrame

/-! ## The first octet -/

theorem firstOctet_masked : ∀ pduType < 8, ∀ flags < 16,
    (UInt8.ofNat pduType <<< 4 ||| UInt8.ofNat flags) >>> 4 = UInt8.ofNat pduType := by
  decide

theorem segment_masked : ∀ pduType < 8, ∀ flags < 8, ∀ segmented : Bool,
    (UInt8.ofNat pduType <<< 4 ||| ((if segmented then 0x08 else 0) ||| UInt8.ofNat flags) &&& 0x0F)
      &&& 0x08 = if segmented then 0x08 else 0 := by
  decide

theorem firstOctet_type {pduType : UInt8} (h : pduType < 8) (flags : UInt8) :
    firstOctet pduType flags >>> 4 = pduType := by
  have hmasked : (flags &&& 0x0F).toNat < 16 :=
    Nat.and_lt_two_pow _ (by decide : (15 : Nat) < 2 ^ 4)
  have hshift := firstOctet_masked pduType.toNat (UInt8.lt_iff_toNat_lt.1 h) _ hmasked
  simpa [firstOctet] using hshift

theorem segmentOctet_segmented {pduType : UInt8} (h : pduType < 8) (flags : UInt8)
    (segmented : Bool) : (segmentOctet pduType flags segmented &&& 0x08 != 0) = segmented := by
  have hmasked : (flags &&& 0x07).toNat < 8 := Nat.and_lt_two_pow _ (by decide : (7 : Nat) < 2 ^ 3)
  have hbit := segment_masked pduType.toNat (UInt8.lt_iff_toNat_lt.1 h) _ hmasked segmented
  rw [UInt8.ofNat_toNat, UInt8.ofNat_toNat] at hbit
  rw [segmentOctet, firstOctet, hbit]
  cases segmented <;> rfl

/-! ## The APDU -/

theorem read_part (before part after : Octets) {i : Nat}
    (h : i < part.length) : read (before ++ (part ++ after)) (before.length + i) = .ok part[i] := by
  rw [read_within before after h, read_of_lt h]

theorem decodeService_encode {names : UInt8 → Bool} (before : Octets) (s : Service names)
    (out : DecodedFrame) (hout : out.objectProperty = none) :
    decodeService (before ++ s.encode) out before.length names =
      .ok { out with serviceChoice := some s.choice, objectProperty := s.logged } := by
  unfold decodeService
  cases s with
  | naming choice hnames p =>
    have hfind := decodeObjectAndProperty_encode (before ++ [choice]) p
    rw [List.append_assoc, List.length_append] at hfind
    rw [if_neg (by simp [Service.encode]), Service.encode, read_append_cons, ok_bind]
    dsimp only
    rw [if_pos hnames]
    exact congrArg (· >>= _) hfind
  | other choice hnames parameters =>
    rw [if_neg (by simp [Service.encode]), Service.encode, read_append_cons, ok_bind]
    dsimp only
    rw [if_neg (by simp [hnames])]
    cases out
    cases hout
    rfl

theorem length_segmentOctets (segment : Option Segment) :
    (segmentOctets segment).length = if segment.isSome then 2 else 0 := by
  cases segment <;> rfl

/-- A Confirmed-Request. -/
theorem decodeApdu_confirmedRequest (before : Octets) {out : DecodedFrame}
    (hout : out.objectProperty = none) (flags maxima invokeId : UInt8) (segment : Option Segment)
    (service : Service requestNames) :
    decodeApdu (before ++ (Apdu.confirmedRequest flags maxima invokeId segment service).encode) out
        before.length =
      .ok ((Apdu.confirmedRequest flags maxima invokeId segment service).logged out) := by
  have htype : segmentOctet 0 flags segment.isSome >>> 4 = 0 := firstOctet_type (by decide) _
  have hsegmented : (segmentOctet 0 flags segment.isSome &&& 0x08 != 0) = segment.isSome :=
    segmentOctet_segmented (by decide) flags segment.isSome
  generalize hfirst : segmentOctet 0 flags segment.isSome = first at htype hsegmented
  have hencode : (Apdu.confirmedRequest flags maxima invokeId segment service).encode =
      [first, maxima, invokeId] ++ (segmentOctets segment ++ service.encode) := by
    rw [← hfirst]
    rfl
  have hservice := decodeService_encode (before ++ ([first, maxima, invokeId] ++
    segmentOctets segment)) service { out with
      pduType := some 0
      segmented := segment.isSome
      invokeId := some invokeId } hout
  have hposition : (before ++ ([first, maxima, invokeId] ++ segmentOctets segment)).length =
      before.length + if segment.isSome then 5 else 3 := by
    rw [List.length_append, List.length_append, length_segmentOctets]
    split <;> rfl
  rw [hposition, List.append_assoc, List.append_assoc] at hservice
  have hfirstRead := read_part before [first, maxima, invokeId]
    (segmentOctets segment ++ service.encode) (i := 0) (by simp)
  have hinvokeRead := read_part before [first, maxima, invokeId]
    (segmentOctets segment ++ service.encode) (i := 2) (by simp)
  rw [hencode]
  unfold decodeApdu
  rw [Nat.add_zero] at hfirstRead
  rw [hfirstRead, ok_bind]
  simp only [List.getElem_cons_zero, htype, hsegmented, if_true]
  rw [if_neg (by simp), hinvokeRead, ok_bind]
  exact hservice

/-- A ComplexACK. -/
theorem decodeApdu_complexAck (before : Octets) {out : DecodedFrame}
    (hout : out.objectProperty = none) (flags invokeId : UInt8) (segment : Option Segment)
    (service : Service ackNames) :
    decodeApdu (before ++ (Apdu.complexAck flags invokeId segment service).encode) out
        before.length =
      .ok ((Apdu.complexAck flags invokeId segment service).logged out) := by
  have htype : segmentOctet 3 flags segment.isSome >>> 4 = 3 := firstOctet_type (by decide) _
  have hsegmented : (segmentOctet 3 flags segment.isSome &&& 0x08 != 0) = segment.isSome :=
    segmentOctet_segmented (by decide) flags segment.isSome
  generalize hfirst : segmentOctet 3 flags segment.isSome = first at htype hsegmented
  have hencode : (Apdu.complexAck flags invokeId segment service).encode =
      [first, invokeId] ++ (segmentOctets segment ++ service.encode) := by
    rw [← hfirst]
    rfl
  have hservice := decodeService_encode (before ++ ([first, invokeId] ++
    segmentOctets segment)) service { out with
      pduType := some 3
      segmented := segment.isSome
      invokeId := some invokeId } hout
  have hposition : (before ++ ([first, invokeId] ++ segmentOctets segment)).length =
      before.length + if segment.isSome then 4 else 2 := by
    rw [List.length_append, List.length_append, length_segmentOctets]
    split <;> rfl
  rw [hposition, List.append_assoc, List.append_assoc] at hservice
  have hfirstRead := read_part before [first, invokeId]
    (segmentOctets segment ++ service.encode) (i := 0) (by simp)
  have hinvokeRead := read_part before [first, invokeId]
    (segmentOctets segment ++ service.encode) (i := 1) (by simp)
  rw [hencode]
  unfold decodeApdu
  rw [Nat.add_zero] at hfirstRead
  rw [hfirstRead, ok_bind]
  simp only [List.getElem_cons_zero, htype, hsegmented]
  rw [if_neg (by decide), if_neg (by decide), if_neg (by decide), if_pos trivial, if_neg (by simp),
    hinvokeRead, ok_bind]
  exact hservice

/-- A SimpleACK or an Error. -/
theorem decodeApdu_answer (before after : Octets) (out : DecodedFrame) {pduType first : UInt8}
    (invokeId service : UInt8) (htype : first >>> 4 = pduType) (h : pduType = 2 ∨ pduType = 5) :
    decodeApdu (before ++ first :: invokeId :: service :: after) out before.length =
      .ok { out with
        pduType := some pduType, invokeId := some invokeId, serviceChoice := some service } := by
  have h1 := read_part before [first, invokeId, service] after (i := 1) (by simp)
  have h2 := read_part before [first, invokeId, service] after (i := 2) (by simp)
  simp only [List.cons_append, List.nil_append] at h1 h2
  unfold decodeApdu
  rw [read_append_cons, ok_bind]
  simp only [htype]
  rw [if_neg (by rcases h with rfl | rfl <;> decide),
    if_neg (by rcases h with rfl | rfl <;> decide), if_pos h, if_neg (by simp), h1, ok_bind, h2]
  rfl

/-- A Reject or an Abort. -/
theorem decodeApdu_refusal (before after : Octets) (out : DecodedFrame) {pduType first : UInt8}
    (invokeId reason : UInt8) (htype : first >>> 4 = pduType) (h : pduType = 6 ∨ pduType = 7) :
    decodeApdu (before ++ first :: invokeId :: reason :: after) out before.length =
      .ok { out with
        pduType := some pduType, invokeId := some invokeId, reason := some reason } := by
  have h1 := read_part before [first, invokeId, reason] after (i := 1) (by simp)
  have h2 := read_part before [first, invokeId, reason] after (i := 2) (by simp)
  simp only [List.cons_append, List.nil_append] at h1 h2
  unfold decodeApdu
  rw [read_append_cons, ok_bind]
  simp only [htype]
  rw [if_neg (by rcases h with rfl | rfl <;> decide),
    if_neg (by rcases h with rfl | rfl <;> decide),
    if_neg (by rcases h with rfl | rfl <;> decide), if_neg (by rcases h with rfl | rfl <;> decide),
    if_pos h, if_neg (by simp), h1, ok_bind, h2]
  rfl

/-- **An APDU of any type.** -/
theorem decodeApdu_encode (before : Octets) (a : Apdu) {out : DecodedFrame}
    (hout : out.objectProperty = none) :
    decodeApdu (before ++ a.encode) out before.length = .ok (a.logged out) := by
  cases a with
  | confirmedRequest flags maxima invokeId segment service =>
    exact decodeApdu_confirmedRequest before hout flags maxima invokeId segment service
  | complexAck flags invokeId segment service =>
    exact decodeApdu_complexAck before hout flags invokeId segment service
  | unconfirmedRequest flags service parameters =>
    have htype : firstOctet 1 flags >>> 4 = 1 := firstOctet_type (by decide) flags
    have h1 := read_part before [firstOctet 1 flags, service] parameters (i := 1) (by simp)
    unfold decodeApdu
    rw [Apdu.encode, read_append_cons, ok_bind]
    simp only [htype]
    rw [if_neg (by decide), if_pos trivial, if_neg (by simp)]
    exact congrArg (· >>= _) h1
  | simpleAck flags invokeId service =>
    exact decodeApdu_answer before [] out invokeId service (firstOctet_type (by decide) flags)
      (.inl rfl)
  | segmentAck flags rest =>
    have htype : firstOctet 4 flags >>> 4 = 4 := firstOctet_type (by decide) flags
    unfold decodeApdu
    rw [Apdu.encode, read_append_cons, ok_bind]
    simp only [htype]
    rfl
  | error flags invokeId service parameters =>
    exact decodeApdu_answer before parameters out invokeId service
      (firstOctet_type (by decide) flags) (.inr rfl)
  | reject flags invokeId reason =>
    exact decodeApdu_refusal before [] out invokeId reason (firstOctet_type (by decide) flags)
      (.inl rfl)
  | abort flags invokeId reason =>
    exact decodeApdu_refusal before [] out invokeId reason (firstOctet_type (by decide) flags)
      (.inr rfl)

/-! ## The headers -/

theorem network_octets (v : UInt16) :
    (v >>> 8).toUInt8.toUInt16 <<< 8 ||| v.toUInt8.toUInt16 = v := by
  have hlt := v.toNat_lt
  rw [← UInt16.toNat_inj]
  simp only [UInt16.toNat_or, UInt16.toNat_shiftLeft, UInt8.toNat_toUInt16, UInt16.toNat_toUInt8,
    UInt16.toNat_shiftRight, UInt16.toNat_ofNat, Nat.reducePow, Nat.reduceMod]
  have hhalves := @shiftLeft_or_mod v.toNat 8 hlt
  rwa [Nat.mod_mod] at hhalves

theorem decodeAddress_encode (before after : Octets) (a : NetworkAddress) :
    decodeAddress (before ++ (a.encode ++ after)) before.length =
      .ok ((a.network, a.address), some (before ++ a.encode).length) := by
  have hlength : (UInt8.ofNat a.address.length).toNat = a.address.length := by
    rw [UInt8.toNat_ofNat', Nat.mod_eq_of_lt a.length_lt]
  obtain ⟨head, hhead⟩ : ∃ head, head =
      [(a.network >>> 8).toUInt8, a.network.toUInt8, UInt8.ofNat a.address.length] := ⟨_, rfl⟩
  have hencode : a.encode = head ++ a.address := by
    rw [hhead]
    rfl
  have hthree : head.length = 3 := by rw [hhead]; rfl
  have h0 := read_part before head (a.address ++ after) (i := 0) (by omega)
  have h1 := read_part before head (a.address ++ after) (i := 1) (by omega)
  have h2 := read_part before head (a.address ++ after) (i := 2) (by omega)
  have haddress := slice_part (before ++ head) a.address after
  rw [List.length_append, hthree, List.append_assoc] at haddress
  rw [Nat.add_zero] at h0
  have hlong : (before ++ (head ++ (a.address ++ after))).length =
      before.length + 3 + a.address.length + after.length := by
    simp only [List.length_append, hthree]
    omega
  unfold decodeAddress
  rw [hencode, List.append_assoc, if_neg (by omega), h0, ok_bind, h1, ok_bind, h2, ok_bind]
  simp only [hhead, List.getElem_cons_zero, List.getElem_cons_succ, hlength, network_octets]
  rw [← hhead, if_neg (by omega), haddress, ok_bind]
  simp only [List.length_append, hthree, Nat.add_assoc]
  rfl

/-- An address that may be absent. -/
theorem decodeAddressIf_encode (before after : Octets) (a : Option NetworkAddress) :
    decodeAddressIf (before ++ (a.elim [] NetworkAddress.encode ++ after)) a.isSome
        before.length =
      .ok ((a.elim 0 NetworkAddress.network, a.elim [] NetworkAddress.address),
        some (before ++ a.elim [] NetworkAddress.encode).length) := by
  cases a with
  | none => simp [decodeAddressIf]
  | some a => exact decodeAddress_encode before after a

theorem decodeContent_encode (before : Octets) (c : Content) (out : DecodedFrame)
    (hnetwork : out.isNetworkMessage = (c.npduContent.networkBit != 0))
    (hout : out.objectProperty = none) :
    decodeContent (before ++ c.npduContent.encode) out before.length = .ok (c.logged out) := by
  unfold decodeContent
  cases c with
  | networkMessage type data =>
    have htrue : out.isNetworkMessage = true := hnetwork
    rw [if_neg (by simp [Content.npduContent, NpduContent.encode]), if_pos htrue,
      Content.npduContent, NpduContent.encode, read_append_cons, ok_bind]
    cases out
    cases htrue
    rfl
  | apdu a =>
    have hfalse : out.isNetworkMessage = false := hnetwork
    have hlong : before.length < (before ++ a.encode).length := by
      cases a <;> simp [Apdu.encode]
    rw [Content.npduContent, NpduContent.encode, if_neg (by omega), hfalse,
      if_neg Bool.false_ne_true]
    exact decodeApdu_encode before a hout

/-- The source address, the hop count and the content. -/
theorem decodeSource_encode (before : Octets) (f : LoggedFrame) (out : DecodedFrame)
    (hsource : out.hasSrc = f.header.source.isSome)
    (hdest : out.hasDest = f.header.destination.isSome)
    (hnetwork : out.isNetworkMessage = (f.content.npduContent.networkBit != 0))
    (hout : out.objectProperty = none) :
    decodeSource (before ++ (f.header.source.elim [] NetworkAddress.encode ++
        ((f.header.destination.map Prod.snd).toList ++ f.content.npduContent.encode))) out
        before.length =
      .ok (f.content.logged { out with
        snet := f.header.source.elim 0 NetworkAddress.network
        sadr := f.header.source.elim [] NetworkAddress.address }) := by
  have haddress := decodeAddressIf_encode before
    ((f.header.destination.map Prod.snd).toList ++ f.content.npduContent.encode) f.header.source
  rw [← hsource] at haddress
  obtain ⟨source, hs⟩ : ∃ source, source = f.header.source.elim [] NetworkAddress.encode := ⟨_, rfl⟩
  rw [← hs] at haddress ⊢
  have hcontent (hops : Octets) := decodeContent_encode (before ++ source ++ hops) f.content
    { out with
      snet := f.header.source.elim 0 NetworkAddress.network
      sadr := f.header.source.elim [] NetworkAddress.address } hnetwork hout
  unfold decodeSource
  rw [haddress, ok_bind]
  dsimp only
  cases hd : f.header.destination with
  | none =>
    have hplain := hcontent []
    rw [List.append_nil, List.append_assoc] at hplain
    have hno : out.hasDest = false := by
      rw [hdest, hd]
      rfl
    rw [if_neg (by simp [hno])]
    exact hplain
  | some d =>
    have hhops := hcontent [d.2]
    rw [List.append_assoc, List.append_assoc, List.length_append, ← List.append_assoc,
      List.append_assoc] at hhops
    have hyes : out.hasDest = true := by
      rw [hdest, hd]
      rfl
    rw [if_pos hyes, if_neg (by simp)]
    exact hhops

/-- What is found in front of the source address. -/
def found (f : LoggedFrame) : DecodedFrame where
  bacnetIp := true
  bvlcFunction := f.bvlc.function
  hasNpdu := true
  npduVersion := 1
  npduControl := f.npdu.control
  hasDest := f.header.destination.isSome
  dnet := (f.header.destination.map Prod.fst).elim 0 NetworkAddress.network
  dadr := (f.header.destination.map Prod.fst).elim [] NetworkAddress.address
  hasSrc := f.header.source.isSome
  isNetworkMessage := f.content.npduContent.networkBit != 0

theorem decodeNpdu_encode (before : Octets) (f : LoggedFrame) :
    decodeNpdu (before ++ f.npdu.encode) { bacnetIp := true, bvlcFunction := f.bvlc.function }
        before.length =
      .ok (f.content.logged { found f with
        snet := f.header.source.elim 0 NetworkAddress.network
        sadr := f.header.source.elim [] NetworkAddress.address }) := by
  obtain ⟨hnetwork, hdest, hsource⟩ := f.npdu.control_bits
  obtain ⟨destination, hd⟩ : ∃ destination, destination =
      (f.header.destination.map Prod.fst).elim [] NetworkAddress.encode := ⟨_, rfl⟩
  obtain ⟨tail, htail⟩ : ∃ tail, tail = f.header.source.elim [] NetworkAddress.encode ++
      ((f.header.destination.map Prod.snd).toList ++ f.content.npduContent.encode) := ⟨_, rfl⟩
  have hencode : f.npdu.encode = [1, f.npdu.control] ++ (destination ++ tail) := by
    rw [hd, htail, Npdu.encode, Npdu.headerOctets]
    simp [LoggedFrame.npdu]
  have h0 := read_part before [1, f.npdu.control] (destination ++ tail) (i := 0) (by simp)
  have h1 := read_part before [1, f.npdu.control] (destination ++ tail) (i := 1) (by simp)
  rw [Nat.add_zero] at h0
  have haddress := decodeAddressIf_encode (before ++ [1, f.npdu.control]) tail
    (f.header.destination.map Prod.fst)
  rw [← hd, List.append_assoc, List.length_append, Option.isSome_map] at haddress
  have hbehind := decodeSource_encode (before ++ [1, f.npdu.control] ++ destination) f (found f)
    rfl rfl rfl rfl
  rw [← htail, List.append_assoc, List.append_assoc] at hbehind
  rw [hencode]
  unfold decodeNpdu
  rw [if_neg (by simp), h0, ok_bind, h1, ok_bind]
  simp only [List.getElem_cons_zero, List.getElem_cons_succ]
  rw [hdest, hsource, hnetwork]
  show decodeAddressIf _ f.header.destination.isSome _ >>= _ = _
  have hlength : before.length + [1, f.npdu.control].length = before.length + 2 := rfl
  rw [hlength] at haddress
  rw [haddress, ok_bind]
  exact hbehind

/-- **The log finds in a frame what it was built from.** -/
theorem decodeBacnetFrame_encode (f : LoggedFrame) : decodeBacnetFrame f.encode = .ok f.logged := by
  have hoffset : npduOffset f.bvlc.function = some f.bvlcOctets.length := by
    cases hbvlc : f.bvlc with
    | unicast => simp [LoggedFrame.bvlcOctets, hbvlc, Bvlc.function, Bvlc.originator, npduOffset]
    | broadcast => simp [LoggedFrame.bvlcOctets, hbvlc, Bvlc.function, Bvlc.originator, npduOffset]
    | forwarded originator hlength =>
      simp [LoggedFrame.bvlcOctets, hbvlc, Bvlc.function, Bvlc.originator, npduOffset, hlength]
  have h0 : read f.encode 0 = .ok 0x81 := rfl
  have h1 : read f.encode 1 = .ok f.bvlc.function := rfl
  unfold decodeBacnetFrame
  rw [if_neg (by simp [LoggedFrame.encode, LoggedFrame.bvlcOctets]), h0, ok_bind,
    if_neg (by simp), h1, ok_bind]
  dsimp only
  rw [hoffset]
  dsimp only
  rw [LoggedFrame.encode, decodeNpdu_encode]
  cases hcontent : f.content with
  | networkMessage type data => simp only [LoggedFrame.logged, hcontent, found]; rfl
  | apdu a => simp only [LoggedFrame.logged, hcontent, found]; rfl

end Log

end BacnetBc
