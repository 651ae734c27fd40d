import BacnetBc.Lib.Returns
import BacnetBc.Peer.Tag

/-!
# The frame decoder

What the log prints of a frame comes from `DecodeBacnetFrame`, which walks the BVLC, NPDU and APDU
headers as far as it can. Each `return` on the way leaves what was found before it, and what was not
found is as `DecodedFrame()` has it. A pair of a flag and a value that counts only with the flag is
an option here, and `dadr` with its length is the octets it points to.

A frame comes with a 16-bit length, so no position overflows its 32 bits.

**Theorem (`decodeBacnetFrame_found`).** Whatever the octets of a frame are, no read lies outside
it, and what is found stands in it: the BVLC function, version and control octet of the NPDU, and
the type of the PDU where the addresses end.
-/

namespace BacnetBc

open Memory

namespace Log

/-! ## Tag headers -/

structure TagHeader where
  tagNumber : UInt8
  contextSpecific : Bool
  isOpeningTag : Bool
  isClosingTag : Bool
  length : UInt32
  headerLength : Nat
deriving DecidableEq, Repr

/-- `DecodeTagHeader`. -/
def decodeTagHeader (frame : Octets) (offset : Nat) : Access (Option TagHeader) :=
  if frame.length ≤ offset then .ok none
  else do
    let b0 ← read frame offset
    let contextSpecific := b0 &&& 0x08 != 0
    let lvt := b0 &&& 0x07
    match ← readTagNumber frame (offset + 1) b0 with
    | none => return none
    | some (tagNumber, pos) =>
      if contextSpecific = true ∧ lvt = 6 then
        return some ⟨tagNumber, contextSpecific, true, false, 0, pos - offset⟩
      else if contextSpecific = true ∧ lvt = 7 then
        return some ⟨tagNumber, contextSpecific, false, true, 0, pos - offset⟩
      else if lvt ≤ 4 then
        return some ⟨tagNumber, contextSpecific, false, false, lvt.toUInt32, pos - offset⟩
      else if lvt = 5 then
        match ← readExtendedLength frame pos with
        | none => return none
        | some (length, pos) =>
          return some ⟨tagNumber, contextSpecific, false, false, length, pos - offset⟩
      else return none

/-! ## The object and the property -/

structure ObjectProperty where
  objectType : UInt16
  objectInstance : UInt32
  propertyId : UInt32
  arrayIndex : Option UInt32
deriving DecidableEq, Repr

/-- The number under a context tag that has 1 to 4 content octets, and the position behind it. -/
def decodeContextUnsigned (frame : Octets) (offset : Nat) (number : UInt8) :
    Access (Option (UInt32 × Nat)) := do
  match ← decodeTagHeader frame offset with
  | none => return none
  | some tag =>
    let pos := offset + tag.headerLength
    if tag.contextSpecific = false ∨ tag.tagNumber ≠ number ∨ tag.length = 0 ∨ 4 < tag.length ∨
        frame.length < pos + tag.length.toNat then return none
    else
      let value ← bigEndian frame pos tag.length.toNat 0
      return some (value, pos + tag.length.toNat)

/-- `DecodeObjectAndProperty`. -/
def decodeObjectAndProperty (frame : Octets) (offset : Nat) : Access (Option ObjectProperty) := do
  match ← decodeTagHeader frame offset with
  | none => return none
  | some objTag =>
    let objValueOffset := offset + objTag.headerLength
    if objTag.contextSpecific = false ∨ objTag.tagNumber ≠ 0 ∨ objTag.length ≠ 4 ∨
        frame.length < objValueOffset + 4 then return none
    else
      let objValue ← bigEndian frame objValueOffset 4 0
      match ← decodeContextUnsigned frame (objValueOffset + 4) 1 with
      | none => return none
      | some (propValue, pos) =>
        let index ← decodeContextUnsigned frame pos 2
        return some
          { objectType := (objValue >>> 22 &&& 0x3FF).toUInt16
            objectInstance := objValue &&& 0x3FFFFF
            propertyId := propValue
            arrayIndex := index.map Prod.fst }

/-! ## The frame -/

structure DecodedFrame where
  bacnetIp : Bool := false
  bvlcFunction : UInt8 := 0
  hasNpdu : Bool := false
  npduVersion : UInt8 := 0
  npduControl : UInt8 := 0
  hasDest : Bool := false
  dnet : UInt16 := 0
  dadr : Octets := []
  hasSrc : Bool := false
  snet : UInt16 := 0
  sadr : Octets := []
  isNetworkMessage : Bool := false
  networkMessageType : UInt8 := 0
  /-- With `hasApdu`. -/
  pduType : Option UInt8 := none
  segmented : Bool := false
  invokeId : Option UInt8 := none
  serviceChoice : Option UInt8 := none
  reason : Option UInt8 := none
  objectProperty : Option ObjectProperty := none
deriving DecidableEq, Repr

/-- DNET, DLEN and DADR, or SNET, SLEN and SADR, as far as they are in the frame, and the position
behind them. -/
def decodeAddress (frame : Octets) (offset : Nat) : Access ((UInt16 × Octets) × Option Nat) :=
  if frame.length < offset + 3 then .ok ((0, []), none)
  else do
    let network := (← read frame offset).toUInt16 <<< 8 ||| (← read frame (offset + 1)).toUInt16
    let length ← read frame (offset + 2)
    if frame.length < offset + 3 + length.toNat then return ((network, []), none)
    else
      let address ← slice frame (offset + 3) length.toNat
      return ((network, address), some (offset + 3 + length.toNat))

/-- An address that may be absent. -/
def decodeAddressIf (frame : Octets) (present : Bool) (offset : Nat) :
    Access ((UInt16 × Octets) × Option Nat) :=
  if present then decodeAddress frame offset else .ok ((0, []), some offset)

/-- The service choice of a PDU that has one, and what its parameters name. -/
def decodeService (frame : Octets) (out : DecodedFrame) (serviceOffset : Nat)
    (namesProperty : UInt8 → Bool) : Access DecodedFrame :=
  if frame.length ≤ serviceOffset then .ok out
  else do
    let serviceChoice ← read frame serviceOffset
    let out := { out with serviceChoice := some serviceChoice }
    if namesProperty serviceChoice then
      let objectProperty ← decodeObjectAndProperty frame (serviceOffset + 1)
      return { out with objectProperty := objectProperty }
    else return out

/-- The cases of the PDU type. -/
def decodeApdu (frame : Octets) (out : DecodedFrame) (offset : Nat) : Access DecodedFrame := do
  let first ← read frame offset
  let pduType := first >>> 4
  let segmented := first &&& 0x08 != 0
  let out := { out with pduType := some pduType }
  if pduType = 0 then
    let out := { out with segmented := segmented }
    if frame.length ≤ offset + 2 then return out
    else
      let invokeId ← read frame (offset + 2)
      decodeService frame { out with invokeId := some invokeId }
        (offset + if segmented then 5 else 3) fun service => service == 12 || service == 15
  else if pduType = 1 then
    if frame.length ≤ offset + 1 then return out
    else
      let serviceChoice ← read frame (offset + 1)
      return { out with serviceChoice := some serviceChoice }
  else if pduType = 2 ∨ pduType = 5 then
    if frame.length ≤ offset + 2 then return out
    else
      let invokeId ← read frame (offset + 1)
      let serviceChoice ← read frame (offset + 2)
      return { out with invokeId := some invokeId, serviceChoice := some serviceChoice }
  else if pduType = 3 then
    let out := { out with segmented := segmented }
    if frame.length ≤ offset + 1 then return out
    else
      let invokeId ← read frame (offset + 1)
      decodeService frame { out with invokeId := some invokeId }
        (offset + if segmented then 4 else 2) fun service => service == 12
  else if pduType = 6 ∨ pduType = 7 then
    if frame.length ≤ offset + 2 then return out
    else
      let invokeId ← read frame (offset + 1)
      let reason ← read frame (offset + 2)
      return { out with invokeId := some invokeId, reason := some reason }
  else return out

/-- What stands behind the addresses. -/
def decodeContent (frame : Octets) (out : DecodedFrame) (offset : Nat) : Access DecodedFrame :=
  if frame.length ≤ offset then .ok out
  else if out.isNetworkMessage then do
    let networkMessageType ← read frame offset
    return { out with networkMessageType := networkMessageType }
  else decodeApdu frame out offset

/-- The source address, if there is one, and the hop count that comes with a destination. -/
def decodeSource (frame : Octets) (out : DecodedFrame) (offset : Nat) : Access DecodedFrame := do
  let ((snet, sadr), behind) ← decodeAddressIf frame out.hasSrc offset
  let out := { out with snet := snet, sadr := sadr }
  match behind with
  | none => return out
  | some offset =>
    if out.hasDest then
      if frame.length ≤ offset then return out
      else decodeContent frame out (offset + 1)
    else decodeContent frame out offset

/-- The NPDU. -/
def decodeNpdu (frame : Octets) (out : DecodedFrame) (offset : Nat) : Access DecodedFrame :=
  if frame.length < offset + 2 then .ok out
  else do
    let npduVersion ← read frame offset
    let npduControl ← read frame (offset + 1)
    let out := { out with
      hasNpdu := true
      npduVersion := npduVersion
      npduControl := npduControl
      hasDest := npduControl &&& 0x20 != 0
      hasSrc := npduControl &&& 0x08 != 0
      isNetworkMessage := npduControl &&& 0x80 != 0 }
    let ((dnet, dadr), behind) ← decodeAddressIf frame out.hasDest (offset + 2)
    let out := { out with dnet := dnet, dadr := dadr }
    match behind with
    | none => return out
    | some offset => decodeSource frame out offset

/-- Where the NPDU of a BVLC function begins: an Original-Unicast-NPDU, an Original-Broadcast-NPDU
or a Forwarded-NPDU, which has the originating address in front. -/
def npduOffset (bvlcFunction : UInt8) : Option Nat :=
  if bvlcFunction = 0x0A ∨ bvlcFunction = 0x0B then some 4
  else if bvlcFunction = 0x04 then some 10
  else none

/-- `DecodeBacnetFrame`. -/
def decodeBacnetFrame (frame : Octets) : Access DecodedFrame :=
  if frame.length < 4 then .ok {}
  else do
    if (← read frame 0) ≠ 0x81 then return {}
    else
      let bvlcFunction ← read frame 1
      let out : DecodedFrame := { bacnetIp := true, bvlcFunction := bvlcFunction }
      match npduOffset bvlcFunction with
      | none => return out
      | some offset => decodeNpdu frame out offset

/-! ## No read lies outside -/

section
variable (frame : Octets) (offset : Nat)

theorem decodeTagHeader_returns : Returns (decodeTagHeader frame offset) fun _ => True := by
  unfold decodeTagHeader
  refine .ite (fun _ => .ok trivial) fun hlt => .bind (.read (by omega)) fun b0 _ => ?_
  obtain ⟨number, hnumber, -⟩ := readTagNumber_spec frame (offset + 1) b0
  refine .bind (.of_eq (P := fun _ => True) hnumber trivial) fun r _ => ?_
  cases r with
  | none => exact .pure trivial
  | some r =>
    refine .ite (fun _ => .pure trivial) fun _ => .ite (fun _ => .pure trivial) fun _ =>
      .ite (fun _ => .pure trivial) fun _ => .ite (fun _ => ?_) fun _ => .pure trivial
    obtain ⟨length, hlength, -⟩ := readExtendedLength_spec frame r.2
    refine .bind (.of_eq (P := fun _ => True) hlength trivial) fun l _ => ?_
    cases l with
    | none => exact .pure trivial
    | some l => exact .pure trivial

theorem bigEndian_returns {position count : Nat} (h : position + count ≤ frame.length)
    (value : UInt32) : Returns (bigEndian frame position count value) fun _ => True :=
  .of_eq (bigEndian_eq h value) trivial

theorem decodeContextUnsigned_returns (number : UInt8) :
    Returns (decodeContextUnsigned frame offset number) fun _ => True := by
  unfold decodeContextUnsigned
  refine .bind (decodeTagHeader_returns frame offset) fun r _ => ?_
  cases r with
  | none => exact .pure trivial
  | some tag =>
    refine .ite (fun _ => .pure trivial) fun hfits =>
      .bind (bigEndian_returns frame ?_ 0) fun _ _ => .pure trivial
    push Not at hfits
    exact hfits.2.2.2.2

theorem decodeObjectAndProperty_returns :
    Returns (decodeObjectAndProperty frame offset) fun _ => True := by
  unfold decodeObjectAndProperty
  refine .bind (decodeTagHeader_returns frame offset) fun r _ => ?_
  cases r with
  | none => exact .pure trivial
  | some tag =>
    refine .ite (fun _ => .pure trivial) fun hfits => .bind (bigEndian_returns frame ?_ 0)
      fun _ _ => .bind (decodeContextUnsigned_returns _ _ _) fun r _ => ?_
    · push Not at hfits
      exact hfits.2.2.2
    · cases r with
      | none => exact .pure trivial
      | some p => exact .bind (decodeContextUnsigned_returns _ _ _) fun _ _ => .pure trivial

/-- Where the walk goes on behind an address. -/
def behindAddress (offset : Nat) : Option Nat :=
  if frame.length < offset + 3 then none
  else
    let next := offset + 3 + (frame[offset + 2]?.getD 0).toNat
    if frame.length < next then none else some next

theorem decodeAddress_returns :
    Returns (decodeAddress frame offset) fun r => r.2 = behindAddress frame offset := by
  unfold decodeAddress behindAddress
  refine .ite (fun hshort => .ok (if_pos hshort).symm) fun hlt => .bind (.read (by omega))
    fun _ _ => .bind (.read (by omega)) fun _ _ => .bind (.read (by omega)) fun length hlength => ?_
  rw [if_neg hlt, hlength, Option.getD_some]
  refine .ite (fun hshort => .pure (if_pos hshort).symm) fun hfits => .bind (.slice (by omega))
    fun _ _ => .pure (if_neg hfits).symm

theorem decodeAddressIf_returns (present : Bool) :
    Returns (decodeAddressIf frame present offset) fun r =>
      r.2 = if present then behindAddress frame offset else some offset := by
  unfold decodeAddressIf
  refine .ite (fun hpresent => ?_) fun habsent => .ok (if_neg habsent).symm
  rw [if_pos hpresent]
  exact decodeAddress_returns frame offset

/-- The headers that have been found. -/
structure DecodedFrame.SameHeaders (out d : DecodedFrame) : Prop where
  bvlcFunction : d.bvlcFunction = out.bvlcFunction
  npduVersion : d.npduVersion = out.npduVersion
  npduControl : d.npduControl = out.npduControl
  isNetworkMessage : d.isNetworkMessage = out.isNetworkMessage

theorem DecodedFrame.SameHeaders.after {a b c : DecodedFrame} (h' : b.SameHeaders c)
    (h : a.SameHeaders b) : a.SameHeaders c :=
  ⟨h'.bvlcFunction.trans h.bvlcFunction, h'.npduVersion.trans h.npduVersion,
    h'.npduControl.trans h.npduControl, h'.isNetworkMessage.trans h.isNetworkMessage⟩

theorem decodeService_returns (out : DecodedFrame) (namesProperty : UInt8 → Bool) :
    Returns (decodeService frame out offset namesProperty) fun d =>
      out.SameHeaders d ∧ d.pduType = out.pduType := by
  unfold decodeService
  exact .ite (fun _ => .ok ⟨⟨rfl, rfl, rfl, rfl⟩, rfl⟩) fun hlt => .bind (.read (by omega))
    fun _ _ =>
    .ite (fun _ => .bind (decodeObjectAndProperty_returns _ _)
      fun _ _ => .pure ⟨⟨rfl, rfl, rfl, rfl⟩, rfl⟩) fun _ => .pure ⟨⟨rfl, rfl, rfl, rfl⟩, rfl⟩

/-- The type of the PDU at `offset`, and the service of an Unconfirmed-Request. -/
structure DecodedFrame.PduAt (d : DecodedFrame) (frame : Octets) (offset : Nat) : Prop where
  pduType : d.pduType = frame[offset]?.map fun first : UInt8 => first >>> 4
  serviceChoice : d.pduType = some 1 → d.serviceChoice = frame[offset + 1]?

theorem decodeApdu_returns {out : DecodedFrame} (hout : out.serviceChoice = none)
    (h : offset < frame.length) :
    Returns (decodeApdu frame out offset) fun d => out.SameHeaders d ∧ d.PduAt frame offset := by
  have hother {d : DecodedFrame} {first : UInt8} (hfirst : frame[offset]? = some first)
      (htype : d.pduType = some (first >>> 4)) (hne : first >>> 4 ≠ 1) : d.PduAt frame offset := by
    refine ⟨by rw [htype, hfirst]; rfl, fun hone => ?_⟩
    rw [htype] at hone
    exact absurd (Option.some.inj hone) hne
  unfold decodeApdu
  refine .bind (.read h) fun first hfirst => .ite (fun h0 => ?_) fun h0 => .ite (fun h1 => ?_)
    fun h1 => .ite (fun _ => ?_) fun _ => .ite (fun _ => ?_) fun _ => .ite (fun _ => ?_)
      fun _ => .pure ⟨⟨rfl, rfl, rfl, rfl⟩, hother hfirst rfl h1⟩
  · have hne : first >>> 4 ≠ 1 := by
      rw [h0]
      decide
    refine .ite (fun _ => .pure ⟨⟨rfl, rfl, rfl, rfl⟩, hother hfirst rfl hne⟩) fun hlt =>
      .bind (.read (by omega)) fun _ _ => .imp (decodeService_returns _ _ _ _) ?_
    rintro d ⟨hheaders, htype⟩
    exact ⟨hheaders.after ⟨rfl, rfl, rfl, rfl⟩, hother hfirst htype hne⟩
  · have hshort (hend : frame.length ≤ offset + 1) : frame[offset + 1]? = none :=
      List.getElem?_eq_none hend
    refine .ite (fun hend => .pure ⟨⟨rfl, rfl, rfl, rfl⟩, ?_, fun _ => ?_⟩) fun hlt =>
      .bind (.read (by omega)) fun service hservice => .pure
        ⟨⟨rfl, rfl, rfl, rfl⟩, ?_, fun _ => ?_⟩
    · rw [hfirst]
      rfl
    · rw [hshort hend]
      exact hout
    · rw [hfirst]
      rfl
    · exact hservice.symm
  · exact .ite (fun _ => .pure ⟨⟨rfl, rfl, rfl, rfl⟩, hother hfirst rfl h1⟩) fun hlt =>
      .bind (.read (by omega)) fun _ _ => .bind (.read (by omega)) fun _ _ =>
        .pure ⟨⟨rfl, rfl, rfl, rfl⟩, hother hfirst rfl h1⟩
  · refine .ite (fun _ => .pure ⟨⟨rfl, rfl, rfl, rfl⟩, hother hfirst rfl h1⟩) fun hlt =>
      .bind (.read (by omega)) fun _ _ => .imp (decodeService_returns _ _ _ _) ?_
    rintro d ⟨hheaders, htype⟩
    exact ⟨hheaders.after ⟨rfl, rfl, rfl, rfl⟩, hother hfirst htype h1⟩
  · exact .ite (fun _ => .pure ⟨⟨rfl, rfl, rfl, rfl⟩, hother hfirst rfl h1⟩) fun hlt =>
      .bind (.read (by omega)) fun _ _ => .bind (.read (by omega)) fun _ _ =>
        .pure ⟨⟨rfl, rfl, rfl, rfl⟩, hother hfirst rfl h1⟩

/-- The PDU that was found where the addresses end, if the walk came there. -/
def DecodedFrame.PduBehind (d : DecodedFrame) (frame : Octets) : Option Nat → Prop
  | none => d.pduType = none
  | some offset => d.PduAt frame offset

theorem pduAt_of_outside {d : DecodedFrame} (hpdu : d.pduType = none) (h : frame.length ≤ offset) :
    d.PduAt frame offset := by
  refine ⟨?_, fun hone => ?_⟩
  · rw [hpdu, List.getElem?_eq_none h]
    rfl
  · rw [hpdu] at hone
    cases hone

theorem decodeContent_returns {out : DecodedFrame} (hout : out.serviceChoice = none)
    (hpdu : out.pduType = none) :
    Returns (decodeContent frame out offset) fun d =>
      out.SameHeaders d ∧ (out.isNetworkMessage = false → d.PduAt frame offset) := by
  unfold decodeContent
  refine .ite (fun hend => .ok ⟨⟨rfl, rfl, rfl, rfl⟩, fun _ => pduAt_of_outside _ _ hpdu hend⟩)
    fun hlt => .ite (fun hnetwork => .bind (.read (by omega)) fun _ _ =>
      .pure ⟨⟨rfl, rfl, rfl, rfl⟩, ?_⟩) fun _ => .imp
        (decodeApdu_returns frame offset hout (by omega)) fun d hd => ⟨hd.1, fun _ => hd.2⟩
  intro hapdu
  rw [hnetwork] at hapdu
  cases hapdu

/-- The position of the content, behind the source address and the hop count. -/
def contentBehind (hasSrc hasDest : Bool) : Option Nat :=
  (if hasSrc then behindAddress frame offset else some offset).map fun next =>
    if hasDest then next + 1 else next

theorem decodeSource_returns {out : DecodedFrame} (hout : out.serviceChoice = none)
    (hpdu : out.pduType = none) :
    Returns (decodeSource frame out offset) fun d =>
      out.SameHeaders d ∧ (out.isNetworkMessage = false →
        d.PduBehind frame (contentBehind frame offset out.hasSrc out.hasDest)) := by
  unfold decodeSource contentBehind
  refine .bind (decodeAddressIf_returns _ _ _) fun r hr => ?_
  obtain ⟨address, behind⟩ := r
  rw [← show behind = _ from hr]
  cases behind with
  | none => exact .pure ⟨⟨rfl, rfl, rfl, rfl⟩, fun _ => hpdu⟩
  | some next =>
    rw [Option.map_some]
    refine .ite (fun hdest => ?_) fun hdest => ?_
    · rw [if_pos hdest]
      refine .ite (fun hend => .pure ⟨⟨rfl, rfl, rfl, rfl⟩, fun _ => ?_⟩) fun _ =>
        .imp (decodeContent_returns _ _ hout hpdu) fun d hd =>
          ⟨hd.1.after ⟨rfl, rfl, rfl, rfl⟩, hd.2⟩
      exact pduAt_of_outside _ _ hpdu (by omega)
    · rw [if_neg hdest]
      exact .imp (decodeContent_returns _ _ hout hpdu) fun d hd =>
        ⟨hd.1.after ⟨rfl, rfl, rfl, rfl⟩, hd.2⟩

end

/-- What the walk over an NPDU finds. -/
structure DecodedFrame.NpduAt (d : DecodedFrame) (frame : Octets) (bvlcFunction : UInt8)
    (offset : Nat) : Prop where
  bvlcFunction : d.bvlcFunction = bvlcFunction
  npduVersion : d.npduVersion = frame[offset]?.getD 0
  npduControl : d.npduControl = frame[offset + 1]?.getD 0
  isNetworkMessage : d.isNetworkMessage = ((frame[offset + 1]?.getD 0) &&& 0x80 != 0)
  pdu : d.isNetworkMessage = false → d.PduBehind frame
    ((if frame[offset + 1]?.getD 0 &&& 0x20 != 0 then behindAddress frame (offset + 2)
      else some (offset + 2)).bind fun next => contentBehind frame next
        (frame[offset + 1]?.getD 0 &&& 0x08 != 0) (frame[offset + 1]?.getD 0 &&& 0x20 != 0))

theorem decodeNpdu_returns (frame : Octets) (bvlcFunction : UInt8) (offset : Nat) :
    Returns (decodeNpdu frame { bacnetIp := true, bvlcFunction := bvlcFunction } offset) fun d =>
      offset + 2 ≤ frame.length ∧ d.NpduAt frame bvlcFunction offset ∨
        frame.length < offset + 2 ∧ d = { bacnetIp := true, bvlcFunction := bvlcFunction } := by
  unfold decodeNpdu
  refine .ite (fun hshort => .ok (.inr ⟨hshort, rfl⟩)) fun hlt => .bind (.read (by omega))
    fun version hversion => .bind (.read (by omega)) fun control hcontrol =>
      .bind (decodeAddressIf_returns _ _ _) fun r hr => ?_
  obtain ⟨address, behind⟩ := r
  have hbehind : behind = if control &&& 0x20 != 0 then behindAddress frame (offset + 2)
      else some (offset + 2) := hr
  cases behind with
  | none =>
    refine .pure (.inl ⟨by omega, rfl, ?_, ?_, ?_, fun _ => ?_⟩)
    · rw [hversion]
      rfl
    · rw [hcontrol]
      rfl
    · rw [hcontrol]
      rfl
    · rw [hcontrol, Option.getD_some, ← hbehind]
      rfl
  | some next =>
    refine .imp (decodeSource_returns frame next rfl rfl) fun d hd =>
      .inl ⟨by omega, hd.1.bvlcFunction, ?_, ?_, ?_, ?_⟩
    · rw [hd.1.npduVersion, hversion]
      rfl
    · rw [hd.1.npduControl, hcontrol]
      rfl
    · rw [hd.1.isNetworkMessage, hcontrol]
      rfl
    · intro hapdu
      rw [hcontrol, Option.getD_some, ← hbehind]
      exact hd.2 (hd.1.isNetworkMessage.symm.trans hapdu)

/-- A BACnet/IP frame with this function. -/
structure IsBvlc (frame : Octets) (function : UInt8) : Prop where
  length_le : 4 ≤ frame.length
  type : frame[0]? = some 0x81
  function : frame[1]? = some function

/-- What can be found in a frame. -/
inductive FoundIn (frame : Octets) : DecodedFrame → Prop
  | nothing (h : ∀ function, ¬ IsBvlc frame function) : FoundIn frame {}
  | bvlc {function} (h : IsBvlc frame function)
      (hnpdu : ∀ offset, npduOffset function = some offset → frame.length < offset + 2) :
      FoundIn frame { bacnetIp := true, bvlcFunction := function }
  | npdu {function offset d} (h : IsBvlc frame function) (hnpdu : npduOffset function = some offset)
      (hlong : offset + 2 ≤ frame.length) (hd : d.NpduAt frame function offset) : FoundIn frame d

theorem decodeBacnetFrame_returns (frame : Octets) :
    Returns (decodeBacnetFrame frame) (FoundIn frame) := by
  unfold decodeBacnetFrame
  refine .ite (fun hshort => .ok (.nothing fun _ h => absurd h.length_le (by omega))) fun hlt =>
    .bind (.read (by omega)) fun type htype => ?_
  refine .ite (fun hne => .pure (.nothing fun _ h => hne ?_)) fun heq =>
    .bind (.read (by omega)) fun function hfunction => ?_
  · exact Option.some.inj (htype.symm.trans h.type)
  have hbvlc : IsBvlc frame function :=
    ⟨by omega, htype.trans (congrArg some (not_not.1 heq)), hfunction⟩
  dsimp only
  cases hoffset : npduOffset function with
  | none =>
    refine .pure (.bvlc hbvlc fun offset h => ?_)
    rw [hoffset] at h
    cases h
  | some offset =>
    refine .imp (decodeNpdu_returns frame function offset) fun d hd => ?_
    obtain ⟨hlong, hd⟩ | ⟨hshort, rfl⟩ := hd
    · exact .npdu hbvlc hoffset hlong hd
    · refine .bvlc hbvlc fun offset' h => ?_
      obtain rfl := Option.some.inj (hoffset.symm.trans h)
      exact hshort

/-- What `DecodeBacnetFrame` finds in a frame. -/
def decoded (frame : Octets) : DecodedFrame :=
  match decodeBacnetFrame frame with
  | .ok d => d
  | .error _ => {}

theorem decodeBacnetFrame_eq (frame : Octets) : decodeBacnetFrame frame = .ok (decoded frame) := by
  obtain ⟨d, hd, -⟩ := decodeBacnetFrame_returns frame
  rw [decoded, hd]

theorem foundIn_decoded (frame : Octets) : FoundIn frame (decoded frame) := by
  obtain ⟨d, hd, hfound⟩ := decodeBacnetFrame_returns frame
  rw [decodeBacnetFrame_eq] at hd
  obtain rfl := Except.ok.inj hd
  exact hfound

/-- **No read lies outside the frame, and what is found stands in it.** -/
theorem decodeBacnetFrame_found (frame : Octets) :
    ∃ d, decodeBacnetFrame frame = .ok d ∧ FoundIn frame d :=
  ⟨decoded frame, decodeBacnetFrame_eq frame, foundIn_decoded frame⟩

end Log

end BacnetBc
