import BacnetBc.Peer.Reply
import BacnetBc.Peer.Token

/-!
# The two ACKs, as a peer sends them

`readPropertyAck` and `readPropertyMultipleAck` are the two answers with a value that the controller
asks for, and `BvllHeader` and `NpduHeader` are the headers they may come behind: with a
destination, a source, both or neither.

**Theorem (`handleReplyFromPeer_decodes`).** Decoding undoes encoding. A ReadProperty-ACK gives the
REAL it was built from. A ReadPropertyMultiple-ACK gives the REAL of its last Present_Value and bit
1 of its last Status_Flags, whatever else it holds, and it gives no reading exactly when one of the
two properties has no value or its last value is of another type.
-/

namespace BacnetBc

open Memory

/-! ## Headers -/

/-- DNET, DLEN and DADR, or SNET, SLEN and SADR. -/
structure NetworkAddress where
  network : UInt16
  address : Octets
  length_lt : address.length < 256

def NetworkAddress.encode (a : NetworkAddress) : Octets :=
  (a.network >>> 8).toUInt8 :: a.network.toUInt8 :: UInt8.ofNat a.address.length :: a.address

/-- The NPDU header of an APDU: `otherControl` gives the priority and the other free control bits,
and the hop count comes with the destination. -/
structure NpduHeader where
  otherControl : UInt8
  destination : Option (NetworkAddress × UInt8)
  source : Option NetworkAddress

namespace NpduHeader

def control (h : NpduHeader) : UInt8 :=
  h.otherControl &&& 0x57 ||| (if h.destination.isSome then 0x20 else 0) |||
    (if h.source.isSome then 0x08 else 0)

def encode (h : NpduHeader) : Octets :=
  0x01 :: h.control :: ((h.destination.elim [] fun d => d.1.encode) ++
    ((h.source.elim [] NetworkAddress.encode) ++ (h.destination.map Prod.snd).toList))

end NpduHeader

/-- The BVLL header of an Original-Unicast-NPDU. `rest` is its length field, and on BACnet/IPv6 the
two virtual addresses. -/
structure BvllHeader (dataLink : DataLink) where
  rest : Octets
  length_rest : rest.length = if dataLink = .ipv6 then 8 else 2

def BvllHeader.encode {dataLink : DataLink} (h : BvllHeader dataLink) : Octets :=
  (if dataLink = .ipv6 then 0x82 else 0x81) :: (if dataLink = .ipv6 then 0x01 else 0x0A) :: h.rest

theorem BvllHeader.length_encode {dataLink : DataLink} (h : BvllHeader dataLink) :
    h.encode.length = if dataLink = .ipv6 then 10 else 4 := by
  simp only [BvllHeader.encode, List.length_cons, h.length_rest]
  split_ifs <;> rfl

theorem bvllLength_encode {dataLink : DataLink} (bvll : BvllHeader dataLink) (after : Octets) :
    bvllLength dataLink (bvll.encode ++ after) = .ok (some bvll.encode.length) := by
  have hlength := bvll.length_encode
  unfold bvllLength
  simp only [← hlength]
  rw [if_neg (by simp)]
  have h0 : read (bvll.encode ++ after) 0 = .ok (if dataLink = .ipv6 then 0x82 else 0x81) := rfl
  have h1 : read (bvll.encode ++ after) 1 = .ok (if dataLink = .ipv6 then 0x01 else 0x0A) := rfl
  rw [h0, h1]
  simp [bind, Except.bind, pure, Except.pure]

theorem skipAddress_encode (before after : Octets) (a : NetworkAddress) :
    skipAddress (before ++ (a.encode ++ after)) true before.length =
      .ok (some (before ++ a.encode).length) := by
  have hlength : (UInt8.ofNat a.address.length).toNat = a.address.length := by
    rw [UInt8.toNat_ofNat', Nat.mod_eq_of_lt a.length_lt]
  have hread : read (before ++ (a.encode ++ after)) (before.length + 2) =
      .ok (UInt8.ofNat a.address.length) := by
    have hsplit := read_append_cons (before ++ [(a.network >>> 8).toUInt8, a.network.toUInt8])
      (UInt8.ofNat a.address.length) (a.address ++ after)
    simpa [NetworkAddress.encode] using hsplit
  unfold skipAddress
  rw [if_pos rfl, if_neg (by simp [NetworkAddress.encode]), hread]
  simp only [bind, Except.bind, pure, Except.pure, hlength, NetworkAddress.encode,
    List.length_append, List.length_cons]
  congr 2
  omega

/-- An address that may be absent. -/
theorem skipAddress_elim (before after : Octets) (a : Option NetworkAddress) :
    skipAddress (before ++ (a.elim [] NetworkAddress.encode ++ after)) a.isSome before.length =
      .ok (some (before ++ a.elim [] NetworkAddress.encode).length) := by
  cases a with
  | none => simp [skipAddress]
  | some a => exact skipAddress_encode before after a

theorem control_bits : ∀ other < 256, ∀ destination source : Bool,
    let control := UInt8.ofNat other &&& 0x57 ||| (if destination then 0x20 else 0) |||
      (if source then 0x08 else 0)
    (control &&& 0x80 != 0) = false ∧ (control &&& 0x20 != 0) = destination ∧
      (control &&& 0x08 != 0) = source := by
  decide +kernel

/-- **The APDU is found behind every shape of header.** -/
theorem apduAt_encode {dataLink : DataLink} (bvll : BvllHeader dataLink) (npdu : NpduHeader)
    {apdu : Octets} (h : 3 ≤ apdu.length) :
    apduAt dataLink (bvll.encode ++ (npdu.encode ++ apdu)) = some apdu := by
  obtain ⟨hnetwork, hdestination, hsource⟩ :=
    control_bits npdu.otherControl.toNat npdu.otherControl.toNat_lt npdu.destination.isSome
      npdu.source.isSome
  rw [UInt8.ofNat_toNat] at hnetwork hdestination hsource
  change (npdu.control &&& 0x80 != 0) = false at hnetwork
  change (npdu.control &&& 0x20 != 0) = npdu.destination.isSome at hdestination
  change (npdu.control &&& 0x08 != 0) = npdu.source.isSome at hsource
  obtain ⟨destination, hd⟩ : ∃ destination, destination =
      (npdu.destination.map Prod.fst).elim [] NetworkAddress.encode := ⟨_, rfl⟩
  obtain ⟨source, hs⟩ : ∃ source, source = npdu.source.elim [] NetworkAddress.encode := ⟨_, rfl⟩
  obtain ⟨hops, hh⟩ : ∃ hops, hops = (npdu.destination.map Prod.snd).toList := ⟨_, rfl⟩
  have hnpdu : npdu.encode = [0x01, npdu.control] ++ (destination ++ (source ++ hops)) := by
    rw [hd, hs, hh, NpduHeader.encode]
    cases npdu.destination <;> rfl
  have hhops : hops.length = if npdu.destination.isSome then 1 else 0 := by
    rw [hh]
    cases npdu.destination <;> rfl
  obtain ⟨message, hmessage⟩ : ∃ message, message = bvll.encode ++ (npdu.encode ++ apdu) := ⟨_, rfl⟩
  have hstart : apduStart dataLink message =
      .ok (some (bvll.encode ++ [0x01, npdu.control] ++ destination ++ source ++ hops).length) := by
    have hversion : read message bvll.encode.length = .ok 0x01 := by
      rw [hmessage, hnpdu]
      exact read_append_cons _ _ _
    have hcontrol : read message (bvll.encode.length + 1) = .ok npdu.control := by
      have hsplit := read_append_cons (bvll.encode ++ [0x01]) npdu.control
        (destination ++ (source ++ hops) ++ apdu)
      rw [hmessage, hnpdu]
      simpa using hsplit
    have hskipDestination : skipAddress message npdu.destination.isSome (bvll.encode.length + 2) =
        .ok (some (bvll.encode ++ [0x01, npdu.control] ++ destination).length) := by
      have hskip := skipAddress_elim (bvll.encode ++ [0x01, npdu.control])
        (source ++ hops ++ apdu) (npdu.destination.map Prod.fst)
      rw [← hd, Option.isSome_map] at hskip
      rw [hmessage, hnpdu]
      simpa using hskip
    have hskipSource : skipAddress message npdu.source.isSome
        (bvll.encode ++ [0x01, npdu.control] ++ destination).length =
        .ok (some (bvll.encode ++ [0x01, npdu.control] ++ destination ++ source).length) := by
      have hskip := skipAddress_elim (bvll.encode ++ [0x01, npdu.control] ++ destination)
        (hops ++ apdu) npdu.source
      rw [← hs] at hskip
      rw [hmessage, hnpdu]
      simpa using hskip
    have hlength : message.length = (bvll.encode ++ [0x01, npdu.control] ++ destination ++ source ++
        hops).length + apdu.length := by
      rw [hmessage, hnpdu]
      simp only [List.length_append]
      omega
    unfold apduStart
    rw [hmessage, bvllLength_encode, ← hmessage]
    simp only [bind, Except.bind]
    rw [if_neg (by rw [hlength]; simp only [List.length_append, List.length_cons]; omega), hversion]
    simp only [bne_self_eq_false, Bool.false_eq_true, if_false, hcontrol, hnetwork, hdestination,
      hsource, hskipDestination, hskipSource]
    have hposition : (if npdu.destination.isSome = true then
        (bvll.encode ++ [0x01, npdu.control] ++ destination ++ source).length + 1 else
        (bvll.encode ++ [0x01, npdu.control] ++ destination ++ source).length) =
        (bvll.encode ++ [0x01, npdu.control] ++ destination ++ source ++ hops).length := by
      simp only [List.length_append, hhops]
      split_ifs <;> rfl
    rw [hposition, if_neg (by omega)]
    rfl
  rw [← hmessage, apduAt, hstart]
  have hsplit : message = (bvll.encode ++ [0x01, npdu.control] ++ destination ++ source ++ hops) ++
      apdu := by
    rw [hmessage, hnpdu]
    simp
  rw [hsplit]
  simp only
  rw [List.drop_left]

/-! ## What the ACKs are built from -/

/-- An unsigned number in one to four octets. -/
structure ShortUnsigned where
  octets : Octets
  length_pos : 0 < octets.length
  length_le : octets.length ≤ 4

namespace ShortUnsigned

def value (u : ShortUnsigned) : UInt32 :=
  u.octets.foldl (fun v octet => v <<< 8 ||| octet.toUInt32) 0

theorem fits (u : ShortUnsigned) : LengthForm.inline.Fits u.octets.length :=
  Nat.lt_succ_of_le u.length_le

/-- Under context tag `number`. -/
def contextItem (number : UInt8) (u : ShortUnsigned) : Item :=
  .primitive ⟨number, true, .inline, u.octets, u.fits, Or.inl rfl⟩

/-- As an application-tagged ENUMERATED. -/
def enumeratedItem (u : ShortUnsigned) : Item :=
  .primitive ⟨9, false, .inline, u.octets, u.fits, Or.inr (by decide)⟩

theorem unsigned_contextItem (number : UInt8) (u : ShortUnsigned) :
    (u.contextItem number).token.unsigned = u.value := by
  show (u.octets.take 4).foldl _ 0 = _
  rw [List.take_of_length_le u.length_le]
  rfl

end ShortUnsigned

/-- The four octets of an object identifier. -/
structure ObjectIdentifier where
  octets : Octets
  length_eq : octets.length = 4

def ObjectIdentifier.item (o : ObjectIdentifier) : Item :=
  .primitive ⟨0, true, .inline, o.octets, show o.octets.length < 5 by rw [o.length_eq]; decide,
    Or.inl rfl⟩

/-- An application-tagged REAL. -/
def realItem (humidity : Single) : Item :=
  .primitive ⟨4, false, .inline, bigEndianOctets 4 humidity.bits.toNat,
    show (bigEndianOctets 4 _).length < 5 by rw [length_bigEndianOctets]; decide,
      Or.inr (by decide)⟩

/-- Any application-tagged primitive value. -/
structure ApplicationValue where
  item : Item
  isApplication : item.token.isContext = false
  isValue : item.token.kind = .value

/-- What the peer has to say of a property: its value, or an error class and code. -/
inductive MemberResult
  | value (v : ApplicationValue)
  | error (errorClass errorCode : ShortUnsigned)

namespace ApplicationValue

/-- The REAL that the value is, if it is one. -/
def real (v : ApplicationValue) : Option Single := v.item.token.real

/-- Bit 1 of the BIT STRING that the value is, if it is one of two octets or more. -/
def fault (v : ApplicationValue) : Option Bool := v.item.token.fault

end ApplicationValue

namespace MemberResult

def items : MemberResult → List Item
  | value v => [.opening 4, v.item, .closing 4]
  | error errorClass errorCode =>
    [.opening 5, errorClass.enumeratedItem, errorCode.enumeratedItem, .closing 5]

def value? : MemberResult → Option ApplicationValue
  | value v => some v
  | error _ _ => none

end MemberResult

/-- One property of a ReadPropertyMultiple-ACK. -/
structure Member where
  property : ShortUnsigned
  index : Option ShortUnsigned
  result : MemberResult

def Member.items (m : Member) : List Item :=
  m.property.contextItem 2 :: ((m.index.map (ShortUnsigned.contextItem 3)).toList ++ m.result.items)

/-- Result(+) of ReadProperty. -/
def readPropertyAck (invokeId : UInt8) (object : ObjectIdentifier) (property : ShortUnsigned)
    (index : Option ShortUnsigned) (humidity : Single) : Octets :=
  [0x30, invokeId, serviceReadProperty] ++ encodeItems (object.item :: property.contextItem 1 ::
    ((index.map (ShortUnsigned.contextItem 2)).toList ++
      [.opening 3, realItem humidity, .closing 3]))

/-- Result(+) of ReadPropertyMultiple, for one object. -/
def readPropertyMultipleAck (invokeId : UInt8) (object : ObjectIdentifier) (members : List Member) :
    Octets :=
  [0x30, invokeId, serviceReadPropertyMultiple] ++ encodeItems (object.item :: .opening 1 ::
    (members.flatMap Member.items ++ [.closing 1]))

/-- The value of the last member of the property that carries one. -/
def lastValue (property : UInt32) (members : List Member) : Option ApplicationValue :=
  (members.filterMap fun m =>
    if m.property.value = property then m.result.value? else none).getLast?

/-! ## What comes out of them -/

theorem real_realItem (humidity : Single) : (realItem humidity).token.real = some humidity := by
  have hbits : (bigEndianOctets 4 humidity.bits.toNat).foldl
      (fun (v : UInt32) octet => v <<< 8 ||| octet.toUInt32) 0 = humidity.bits := by
    rw [foldl_bigEndianOctets (by decide) humidity.bits.toNat_lt, UInt32.ofNat_toNat]
  have hunsigned : (realItem humidity).token.unsigned = humidity.bits := by
    show ((bigEndianOctets 4 humidity.bits.toNat).take 4).foldl _ 0 = _
    rw [List.take_of_length_le (by simp)]
    exact hbits
  have htype : ¬ ((realItem humidity).token.isContext = true ∨
      (realItem humidity).token.kind ≠ .value ∨
      (realItem humidity).token.number ≠ 4 ∨ (realItem humidity).token.content.length ≠ 4) := by
    simp [realItem, Item.token]
  rw [Token.real, if_neg htype, hunsigned]

/-- A token that the ReadProperty walk passes over. -/
theorem presentValueOf_skip {t : Token} (ho : ¬ t.Opens 3) (hv : ¬ t.IsContextValue 1)
    (property : UInt32) (rest : List Token) :
    presentValueOf property (t :: rest) = presentValueOf property rest := by
  rw [presentValueOf, if_neg ho, Token.propertyAfter, if_neg hv]

/-- **A ReadProperty-ACK gives the REAL it was built from.** -/
theorem readPropertyAckReal_encode (invokeId : UInt8) (object : ObjectIdentifier)
    {property : ShortUnsigned} (h : property.value = propertyIdentifierPresentValue)
    (index : Option ShortUnsigned) (humidity : Single) :
    readPropertyAckReal (readPropertyAck invokeId object property index humidity) =
      some humidity := by
  have htokens := @map_token_tags [0x30, invokeId, serviceReadProperty] _ _
    (show readPropertyAck invokeId object property index humidity = _ from rfl) 3 rfl
  rw [readPropertyAckReal, presentValueIn_eq_token fun _ => within_of_mem_tags, htokens]
  have hproperty : (property.contextItem 1).token.propertyAfter 1 0 =
      propertyIdentifierPresentValue := by
    rw [Token.propertyAfter, if_pos ⟨rfl, rfl, rfl⟩, ShortUnsigned.unsigned_contextItem, h]
  have hvalue : presentValueOf propertyIdentifierPresentValue
      ([Item.opening 3, realItem humidity, .closing 3].map Item.token) = some humidity := by
    rw [List.map_cons, presentValueOf, if_pos ⟨rfl, rfl, rfl⟩, if_pos rfl]
    exact real_realItem humidity
  have hobject : ∀ rest, presentValueOf 0 (object.item.token :: rest) = presentValueOf 0 rest :=
    presentValueOf_skip (by simp [Token.Opens, ObjectIdentifier.item, Item.token])
      (by simp [Token.IsContextValue, ObjectIdentifier.item, Item.token]) 0
  have hbehind : ∀ rest, presentValueOf 0 ((property.contextItem 1).token :: rest) =
      presentValueOf propertyIdentifierPresentValue rest := fun rest => by
    rw [← hproperty]
    exact if_neg (by simp [Token.Opens, ShortUnsigned.contextItem, Item.token])
  rw [List.map_cons, List.map_cons, hobject, hbehind]
  cases index with
  | none => exact hvalue
  | some index =>
    refine Eq.trans ?_ hvalue
    exact presentValueOf_skip (by simp [Token.Opens, ShortUnsigned.contextItem, Item.token])
      (by simp [Token.IsContextValue, ShortUnsigned.contextItem, Item.token]) _ _

/-- A token that the ReadPropertyMultiple walk passes over. -/
theorem membersOf_skip {t : Token} (ho : ¬ t.Opens 4) (hv : ¬ t.IsContextValue 2)
    (property : UInt32)
    (rest : List Token) : membersOf property (t :: rest) = membersOf property rest := by
  rw [membersOf, if_neg ho, Token.propertyAfter, if_neg hv]

/-- An application-tagged token is passed over. -/
theorem membersOf_application {t : Token} (h : t.isContext = false) (property : UInt32)
    (rest : List Token) : membersOf property (t :: rest) = membersOf property rest :=
  membersOf_skip (by simp [Token.Opens, h]) (by simp [Token.IsContextValue, h]) property rest

/-- A closing tag is passed over. -/
theorem membersOf_closing (number : UInt8) (property : UInt32) (rest : List Token) :
    membersOf property ((Item.closing number).token :: rest) = membersOf property rest :=
  membersOf_skip (by simp [Token.Opens, Item.token]) (by simp [Token.IsContextValue, Item.token])
    property rest

/-- The opening tag of an object's results, or of an error, is passed over. -/
theorem membersOf_opening {number : UInt8} (h : number ≠ 4) (property : UInt32)
    (rest : List Token) :
    membersOf property ((Item.opening number).token :: rest) = membersOf property rest :=
  membersOf_skip (by simp [Token.Opens, Item.token, h]) (by simp [Token.IsContextValue, Item.token])
    property rest

/-- An array index is passed over. -/
theorem membersOf_index (index : ShortUnsigned) (property : UInt32) (rest : List Token) :
    membersOf property ((index.contextItem 3).token :: rest) = membersOf property rest :=
  membersOf_skip (by simp [Token.Opens, ShortUnsigned.contextItem, Item.token])
    (by simp [Token.IsContextValue, ShortUnsigned.contextItem, Item.token]) property rest

theorem membersOf_result (property : UInt32) (r : MemberResult) (rest : List Token) :
    membersOf property (r.items.map Item.token ++ rest) =
      (r.value?.map fun v => (property, v.item.token)).toList ++ membersOf property rest := by
  cases r with
  | value v =>
    show membersOf _ ((Item.opening 4).token :: v.item.token :: (Item.closing 4).token :: rest) = _
    have hopens : (Item.opening 4).token.Opens 4 := ⟨rfl, rfl, rfl⟩
    rw [membersOf, if_pos hopens, membersOf_application v.isApplication, membersOf_closing]
    rfl
  | error errorClass errorCode =>
    show membersOf _ ((Item.opening 5).token :: errorClass.enumeratedItem.token ::
      errorCode.enumeratedItem.token :: (Item.closing 5).token :: rest) = _
    have hclass : errorClass.enumeratedItem.token.isContext = false := rfl
    have hcode : errorCode.enumeratedItem.token.isContext = false := rfl
    have h5 : (5 : UInt8) ≠ 4 := by decide
    rw [membersOf_opening h5, membersOf_application hclass, membersOf_application hcode,
      membersOf_closing]
    rfl

/-- One member gives its value under its property, and leaves its property behind. -/
theorem membersOf_member (property : UInt32) (m : Member) (rest : List Token) :
    membersOf property (m.items.map Item.token ++ rest) =
      (m.result.value?.map fun v => (m.property.value, v.item.token)).toList ++
        membersOf m.property.value rest := by
  have hbehind : ∀ rest, membersOf property ((m.property.contextItem 2).token :: rest) =
      membersOf m.property.value rest := fun rest => by
    have hproperty : (m.property.contextItem 2).token.propertyAfter 2 property =
        m.property.value := by
      rw [Token.propertyAfter, if_pos ⟨rfl, rfl, rfl⟩, ShortUnsigned.unsigned_contextItem]
    rw [← hproperty]
    exact if_neg (by simp [Token.Opens, ShortUnsigned.contextItem, Item.token])
  rw [← membersOf_result, Member.items, List.map_cons, List.cons_append, hbehind, List.map_append,
    List.append_assoc]
  cases m.index with
  | none => rfl
  | some index => exact membersOf_index index _ _

theorem membersOf_flatMap (property : UInt32) (members : List Member) :
    membersOf property ((members.flatMap Member.items ++ [Item.closing 1]).map Item.token) =
      members.filterMap fun m => m.result.value?.map fun v => (m.property.value, v.item.token) := by
  induction members generalizing property with
  | nil => exact membersOf_closing 1 property []
  | cons m members ih =>
    rw [List.flatMap_cons, List.append_assoc, List.map_append, membersOf_member, ih,
      List.filterMap_cons]
    cases m.result.value? <;> rfl

/-- Each field of the reading comes from the last member of its property. -/
theorem foldl_absorbToken (ms : List (UInt32 × Token)) :
    ms.foldl MultipleReading.absorbToken ⟨none, none⟩ =
      ⟨(ms.filter (·.1 = propertyIdentifierPresentValue)).getLast?.bind (·.2.real),
        (ms.filter (·.1 = propertyIdentifierStatusFlags)).getLast?.bind (·.2.fault)⟩ := by
  have hne : propertyIdentifierStatusFlags ≠ propertyIdentifierPresentValue := by decide
  induction ms using List.reverseRecOn with
  | nil => rfl
  | append_singleton ms m ih =>
    rw [List.foldl_append, ih, List.foldl_cons, List.foldl_nil, MultipleReading.absorbToken,
      List.filter_append, List.filter_append]
    by_cases hpv : m.1 = propertyIdentifierPresentValue
    · have hsf : m.1 ≠ propertyIdentifierStatusFlags := fun h => hne (h.symm.trans hpv)
      simp [hpv, hne.symm]
    · by_cases hsf : m.1 = propertyIdentifierStatusFlags
      · simp [hsf, hne]
      · simp [hpv, hsf]

/-- The last value of a property, among all values with their properties. -/
theorem getLast?_filter_values (property : UInt32) (members : List Member) :
    ((members.filterMap fun m => m.result.value?.map
      fun v => (m.property.value, v.item.token)).filter (·.1 = property)).getLast? =
        (lastValue property members).map fun v => (property, v.item.token) := by
  rw [lastValue, ← List.getLast?_map, List.filter_filterMap, List.map_filterMap]
  congr 2
  funext m
  cases m.result.value? with
  | none => simp
  | some v =>
    by_cases hp : m.property.value = property
    · simp [hp]
    · simp [hp]

/-- **A ReadPropertyMultiple-ACK gives the last value of each of the two properties.** -/
theorem multipleReading_encode (invokeId : UInt8) (object : ObjectIdentifier)
    (members : List Member) : multipleReading (readPropertyMultipleAck invokeId object members) =
      ⟨(lastValue propertyIdentifierPresentValue members).bind ApplicationValue.real,
        (lastValue propertyIdentifierStatusFlags members).bind ApplicationValue.fault⟩ := by
  have htokens := @map_token_tags [0x30, invokeId, serviceReadPropertyMultiple] _ _
    (show readPropertyMultipleAck invokeId object members = _ from rfl) 3 rfl
  have hobject : ∀ rest, membersOf 0 (object.item.token :: rest) = membersOf 0 rest :=
    membersOf_skip (by simp [Token.Opens, ObjectIdentifier.item, Item.token])
      (by simp [Token.IsContextValue, ObjectIdentifier.item, Item.token]) 0
  have h1 : (1 : UInt8) ≠ 4 := by decide
  rw [multipleReading_eq_token, htokens, List.map_cons, List.map_cons, hobject,
    membersOf_opening h1, membersOf_flatMap, foldl_absorbToken, getLast?_filter_values,
      getLast?_filter_values]
  simp only [Option.bind_map]
  rfl

/-- Which answer a ReadPropertyMultiple-ACK of these members is. -/
def answerOf (members : List Member) : Answer :=
  match (lastValue propertyIdentifierPresentValue members).bind ApplicationValue.real,
    (lastValue propertyIdentifierStatusFlags members).bind ApplicationValue.fault with
  | some humidity, some fault => .multiple humidity fault
  | _, _ => .ignored

theorem answerOf_eq_ignored_iff (members : List Member) :
    answerOf members = .ignored ↔
      (∀ v ∈ lastValue propertyIdentifierPresentValue members, v.real = none) ∨
        ∀ v ∈ lastValue propertyIdentifierStatusFlags members, v.fault = none := by
  have hnone {α β : Type} (o : Option α) (f : α → Option β) :
      (∀ v ∈ o, f v = none) ↔ o.bind f = none :=
    Option.bind_eq_none_iff.symm
  rw [hnone, hnone, answerOf]
  cases (lastValue propertyIdentifierPresentValue members).bind ApplicationValue.real with
  | none => simp
  | some humidity =>
    cases (lastValue propertyIdentifierStatusFlags members).bind ApplicationValue.fault with
    | none => simp
    | some fault => simp

theorem pduType_ack (invokeId service : UInt8) (body : Octets) :
    pduType ([0x30, invokeId, service] ++ body) = 3 :=
  show (0x30 : UInt8) >>> 4 = 3 by decide

theorem isFallback_ack (c : Controller) (invokeId service : UInt8) (body : Octets) :
    c.isFallback ([0x30, invokeId, service] ++ body) = false := by
  have htype : ¬ (3 : UInt8) = 6 := by decide
  simp only [Controller.isFallback, pduType_ack, beq_eq_false_iff_ne.2 htype, Bool.and_false,
    Bool.false_and]

theorem isUnsegmentedComplexAck_ack (invokeId service : UInt8) (body : Octets) :
    isUnsegmentedComplexAck ([0x30, invokeId, service] ++ body) = true := by
  have hsegmented : ((0x30 : UInt8) &&& 0x08 != 0) = false := by decide
  show (pduType ([0x30, invokeId, service] ++ body) == 3 && !((0x30 : UInt8) &&& 0x08 != 0)) = true
  rw [pduType_ack, hsegmented]
  rfl

/-- An unsegmented ComplexACK with the invoke id of an outstanding read, behind any headers. -/
theorem handleReplyFromPeer_encode {dataLink : DataLink} {fromAddress : Octets} {fromPort : UInt16}
    {c : Controller} (hpeer : c.fromPeer dataLink fromAddress fromPort = true)
    (bvll : BvllHeader dataLink) (npdu : NpduHeader) {invokeId : UInt8}
    (ha : c.awaits invokeId = true) (now : Time) (service : UInt8) (body : Octets) :
    handleReplyFromPeer dataLink now
        (bvll.encode ++ (npdu.encode ++ ([0x30, invokeId, service] ++ body))) fromAddress
          fromPort c =
      .ok ((c.answerTo ([0x30, invokeId, service] ++ body)).apply (c.answered now invokeId)) := by
  have hapdu := apduAt_encode bvll npdu
      (show 3 ≤ ([0x30, invokeId, service] ++ body).length by simp)
  rw [handleReplyFromPeer_eq, taken_eq_some_iff.2 ⟨hpeer, hapdu, ha⟩]
  rfl

theorem answerTo_readPropertyAck {c : Controller} {invokeId : UInt8}
    (h : c.awaitsReadProperty invokeId = true) (object : ObjectIdentifier)
      {property : ShortUnsigned}
    (hproperty : property.value = propertyIdentifierPresentValue) (index : Option ShortUnsigned)
    (humidity : Single) :
    c.answerTo (readPropertyAck invokeId object property index humidity) =
      if c.peer.sensorFaultReported then .ignored else .reading humidity := by
  have hreal := readPropertyAckReal_encode invokeId object hproperty index humidity
  have hacks : c.acksReadProperty (readPropertyAck invokeId object property index humidity) =
      true :=
    (Bool.and_eq_true _ _).mpr ⟨h, rfl⟩
  rw [Controller.answerTo, hacks, hreal, readPropertyAck, isFallback_ack,
    isUnsegmentedComplexAck_ack]
  rfl

theorem answerTo_readPropertyMultipleAck {c : Controller} {invokeId : UInt8}
    (h : c.awaitsReadPropertyMultiple invokeId = true) (object : ObjectIdentifier)
    (members : List Member) :
    c.answerTo (readPropertyMultipleAck invokeId object members) = answerOf members := by
  have hreading := multipleReading_encode invokeId object members
  have hother : c.acksReadProperty (readPropertyMultipleAck invokeId object members) = false := by
    have hservice : (serviceReadPropertyMultiple == serviceReadProperty) = false := by decide
    exact Bool.and_eq_false_iff.mpr (Or.inr hservice)
  have hacks : c.acksReadPropertyMultiple (readPropertyMultipleAck invokeId object members) =
      true :=
    (Bool.and_eq_true _ _).mpr ⟨h, rfl⟩
  rw [Controller.answerTo, hother, hacks, hreading, readPropertyMultipleAck, isFallback_ack,
    isUnsegmentedComplexAck_ack, answerOf]
  cases (lastValue propertyIdentifierPresentValue members).bind ApplicationValue.real with
  | none => rfl
  | some humidity =>
    cases (lastValue propertyIdentifierStatusFlags members).bind ApplicationValue.fault <;> rfl

/-- **Decoding undoes encoding**, behind every shape of header. -/
theorem handleReplyFromPeer_decodes {dataLink : DataLink} {fromAddress : Octets} {fromPort : UInt16}
    {c : Controller} (hpeer : c.fromPeer dataLink fromAddress fromPort = true)
    (bvll : BvllHeader dataLink) (npdu : NpduHeader) (now : Time) (invokeId : UInt8)
    (object : ObjectIdentifier) :
    (c.awaitsReadProperty invokeId = true → ∀ property index humidity,
      property.value = propertyIdentifierPresentValue →
        readPropertyAckReal (readPropertyAck invokeId object property index humidity) =
          some humidity ∧
        handleReplyFromPeer dataLink now (bvll.encode ++ (npdu.encode ++
            readPropertyAck invokeId object property index humidity)) fromAddress fromPort c =
          .ok (Answer.apply (c.answered now invokeId)
            (if c.peer.sensorFaultReported then .ignored else .reading humidity))) ∧
    (c.awaitsReadPropertyMultiple invokeId = true → ∀ members,
      multipleReading (readPropertyMultipleAck invokeId object members) =
        ⟨(lastValue propertyIdentifierPresentValue members).bind ApplicationValue.real,
          (lastValue propertyIdentifierStatusFlags members).bind ApplicationValue.fault⟩ ∧
      handleReplyFromPeer dataLink now (bvll.encode ++ (npdu.encode ++
          readPropertyMultipleAck invokeId object members)) fromAddress fromPort c =
        .ok (Answer.apply (c.answered now invokeId) (answerOf members)) ∧
      (answerOf members = .ignored ↔
        (∀ v ∈ lastValue propertyIdentifierPresentValue members, v.real = none) ∨
          ∀ v ∈ lastValue propertyIdentifierStatusFlags members, v.fault = none)) := by
  constructor
  · intro hawaits property index humidity hproperty
    have ha : c.awaits invokeId = true := by simp [Controller.awaits, hawaits]
    refine ⟨readPropertyAckReal_encode invokeId object hproperty index humidity, ?_⟩
    rw [← answerTo_readPropertyAck hawaits object hproperty index humidity]
    exact handleReplyFromPeer_encode hpeer bvll npdu ha now _ _
  · intro hawaits members
    have ha : c.awaits invokeId = true := by simp [Controller.awaits, hawaits]
    refine ⟨multipleReading_encode invokeId object members, ?_, answerOf_eq_ignored_iff members⟩
    rw [← answerTo_readPropertyMultipleAck hawaits object members]
    exact handleReplyFromPeer_encode hpeer bvll npdu ha now _ _

/-! ### A routed answer -/

/-- Both reads are outstanding. -/
def askingTwice : Controller :=
  { polling with peer :=
    { polling.peer with
      readPropertyMultipleInvokeId := 1, readPropertyMultiplePending := true, pollCount := 2 } }

def plainBvll : BvllHeader .ipv4 := ⟨[0x00, 0x40], rfl⟩

/-- From network 5, station 7, to network 1, with a broadcast address. -/
def routedNpdu : NpduHeader where
  otherControl := 0x04
  destination := some (⟨1, [], by decide⟩, 0xFF)
  source := some ⟨5, [7], by decide⟩

def analogInput1 : ObjectIdentifier := ⟨[0, 0, 0, 1], rfl⟩

def presentValueOctets : ShortUnsigned := ⟨[0x55], by decide, by decide⟩

/-- An error, a Present_Value of 47.0 in a long form, and Status_Flags with FAULT. -/
def faultyMembers : List Member :=
  [⟨presentValueOctets, none, .error ⟨[2], by decide, by decide⟩ ⟨[31], by decide, by decide⟩⟩,
    ⟨presentValueOctets, some ⟨[3], by decide, by decide⟩,
      .value ⟨.primitive ⟨4, false, .fourOctets, [0x42, 0x3C, 0, 0], by decide, Or.inr (by decide)⟩,
        rfl, rfl⟩⟩,
    ⟨⟨[0, 0x6F], by decide, by decide⟩, none,
      .value ⟨.primitive ⟨8, false, .inline, [4, 0x40], by decide, Or.inr (by decide)⟩, rfl, rfl⟩⟩]

theorem handleReplyFromPeer_decodes_askingTwice :
    handleReplyFromPeer .ipv4 0 (plainBvll.encode ++ (routedNpdu.encode ++
        readPropertyAck 0 analogInput1 presentValueOctets none ⟨0x423C0000⟩)) peerAddress 0xBAC0
        askingTwice =
      .ok (Answer.apply (askingTwice.answered 0 0) (.reading ⟨0x423C0000⟩)) ∧
    handleReplyFromPeer .ipv4 0 (plainBvll.encode ++ (routedNpdu.encode ++
        readPropertyMultipleAck 1 analogInput1 faultyMembers)) peerAddress 0xBAC0 askingTwice =
      .ok (Answer.apply (askingTwice.answered 0 1) (.multiple ⟨0x423C0000⟩ true)) := by
  have hpeer : askingTwice.fromPeer .ipv4 peerAddress 0xBAC0 = true := by decide
  have hmembers : answerOf faultyMembers = .multiple ⟨0x423C0000⟩ true := by decide
  have hread := (handleReplyFromPeer_decodes hpeer plainBvll routedNpdu 0 0 analogInput1).1
    (by decide) presentValueOctets none ⟨0x423C0000⟩ (by decide)
  have hmultiple := (handleReplyFromPeer_decodes hpeer plainBvll routedNpdu 0 1 analogInput1).2
    (by decide) faultyMembers
  exact ⟨hread.2, hmembers ▸ hmultiple.2.1⟩

end BacnetBc
