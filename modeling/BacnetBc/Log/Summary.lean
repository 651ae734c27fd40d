import BacnetBc.Cert.Pem
import BacnetBc.Lib.Decimal
import BacnetBc.Lib.Hex
import BacnetBc.Log.Decode
import BacnetBc.Log.Names

/-!
# The line for a frame

`SummarizeBacnetFrame` puts the line together in buffers of a fixed size: the PDU and what it names
in one of 128 octets, and all of it in that of the caller, which has 192. What does not fit is cut.

**Theorem (`logLine_eq`).** Of any frame the whole line is logged, with the address octets of the
destination cut off behind a whole octet if there are more than 26.
-/

namespace BacnetBc

open Memory

namespace Log

/-! ## Text in a buffer -/

/-- `snprintf` behind the text that is in a buffer of `size` octets. -/
def appendText (size : Nat) (buffer text : Octets) : Octets :=
  buffer ++ text.take (size - 1 - buffer.length)

/-- The digit of `%X`. -/
def upperDigit (n : Nat) : UInt8 := if n < 10 then .ofNat (0x30 + n) else .ofNat (0x37 + n)

/-- `%02X`. -/
def upperPair (octet : UInt8) : Octets :=
  [upperDigit (octet.toNat / 16), upperDigit (octet.toNat % 16)]

/-- `AppendHex`. -/
def appendHex (size : Nat) (buffer : Octets) : Octets → Octets
  | [] => buffer
  | octet :: octets =>
    if buffer.length + 2 < size then
      appendHex size (appendText size buffer (upperPair octet)) octets
    else buffer

/-! ## The parts of the line -/

/-- A PDU with its service or its reason, by name or else by number. -/
def choiceText (label kind : String) (name : UInt8 → Option String) : Option UInt8 → Octets
  | none => octetsOf label
  | some choice =>
    match name choice with
    | some name => octetsOf label ++ octetsOf ": " ++ octetsOf name
    | none => octetsOf label ++ octetsOf ": " ++ octetsOf kind ++ octetsOf "=" ++
        Decimal.text choice.toNat

/-- The cases of the PDU type in `SummarizeBacnetFrame`. -/
def pduText (d : DecodedFrame) (pduType : UInt8) : Octets :=
  match pduType with
  | 0 => choiceText "ConfirmedRequest" "service" confirmedServiceName d.serviceChoice
  | 1 => choiceText "Unconfirmed" "service" unconfirmedServiceName d.serviceChoice
  | 2 => choiceText "SimpleACK" "service" confirmedServiceName d.serviceChoice
  | 3 => choiceText "ComplexACK" "service" confirmedServiceName d.serviceChoice
  | 4 => octetsOf "SegmentACK"
  | 5 => choiceText "Error" "service" confirmedServiceName d.serviceChoice
  | 6 => choiceText "Reject" "reason" rejectReasonName d.reason
  | 7 => choiceText "Abort" "reason" abortReasonName d.reason
  | _ => octetsOf "?"

def indexText : Option UInt32 → Octets
  | none => []
  | some index => octetsOf "[" ++ Decimal.text index.toNat ++ octetsOf "]"

/-- The object and the property, by name if both have one. -/
def objectPropertyText (p : ObjectProperty) : Octets :=
  match objectTypeName p.objectType, propertyName p.propertyId with
  | some type, some property =>
    octetsOf " " ++ octetsOf type ++ octetsOf " " ++ Decimal.text p.objectInstance.toNat ++
      octetsOf "." ++ octetsOf property ++ indexText p.arrayIndex
  | _, _ =>
    octetsOf " object-type=" ++ Decimal.text p.objectType.toNat ++ octetsOf " " ++
      Decimal.text p.objectInstance.toNat ++ octetsOf ".property=" ++
      Decimal.text p.propertyId.toNat ++ indexText p.arrayIndex

/-- `body`, in its 128 octets. -/
def bodyBuffer (d : DecodedFrame) (pduType : UInt8) : Octets :=
  let body := appendText 128 [] (pduText d pduType)
  match d.objectProperty with
  | none => body
  | some p => appendText 128 body (objectPropertyText p)

/-- `AppendRouteSuffix`. -/
def appendRouteSuffix (size : Nat) (buffer : Octets) (d : DecodedFrame) : Octets :=
  if d.hasDest then
    let buffer := appendText size buffer (octetsOf " DNET=" ++ Decimal.text d.dnet.toNat)
    if 0 < d.dadr.length then
      appendHex size (appendText size buffer (octetsOf " DADR=")) d.dadr
    else buffer
  else buffer

def networkMessageText (type : UInt8) : Octets :=
  match networkMessageName type with
  | some name => octetsOf "Network-Layer-Message: " ++ octetsOf name
  | none => octetsOf "Network-Layer-Message: type=" ++ Decimal.text type.toNat

/-- `SummarizeBacnetFrame`, of what has been decoded. -/
def summarize (size : Nat) (d : DecodedFrame) : Octets :=
  if ¬ d.bacnetIp then appendText size [] (octetsOf "?")
  else if ¬ d.hasNpdu then
    appendText size [] (octetsOf "BVLC function=0x" ++ upperPair d.bvlcFunction)
  else if d.isNetworkMessage then
    appendRouteSuffix size (appendText size [] (networkMessageText d.networkMessageType)) d
  else
    match d.pduType with
    | none => appendText size [] (octetsOf "?")
    | some pduType => appendRouteSuffix size (appendText size [] (bodyBuffer d pduType)) d

/-- `SummarizeBacnetFrame`, with a buffer of `size` octets. -/
def summarizeBacnetFrame (frame : Octets) (size : Nat) : Access Octets := do
  if size = 0 then return []
  else
    let d ← decodeBacnetFrame frame
    return summarize size d

/-- The summary that `LogBacnetFrame` prints. -/
def logLine (frame : Octets) : Access Octets := summarizeBacnetFrame frame 192

/-! ## What fits -/

theorem appendText_eq {size : Nat} {buffer text : Octets}
    (h : buffer.length + text.length < size) : appendText size buffer text = buffer ++ text := by
  rw [appendText, List.take_of_length_le (by omega)]

def upperText (octets : Octets) : Octets := octets.flatMap upperPair

/-- As many octets as fit are written, each with both digits. -/
theorem appendHex_eq (size : Nat) (buffer octets : Octets) :
    ∃ n, min octets.length ((size - 1 - buffer.length) / 2) ≤ n ∧
      appendHex size buffer octets = buffer ++ upperText (octets.take n) := by
  induction octets generalizing buffer with
  | nil => exact ⟨0, by simp, by simp [appendHex, upperText]⟩
  | cons octet octets ih =>
    rw [appendHex]
    split_ifs with hfits
    · have hpair : (upperPair octet).length = 2 := rfl
      rw [appendText_eq (by omega)]
      obtain ⟨n, hn, heq⟩ := ih (buffer ++ upperPair octet)
      refine ⟨n + 1, ?_, ?_⟩
      · rw [List.length_append, hpair] at hn
        rw [List.length_cons]
        omega
      · rw [heq, List.take_succ_cons, upperText, upperText, List.flatMap_cons, List.append_assoc]
    · refine ⟨0, ?_, by simp [upperText]⟩
      omega

theorem length_octetsOf (text : String) : (octetsOf text).length = text.utf8ByteSize := by
  rw [octetsOf, Array.length_toList]
  rfl

theorem length_text_uint32 (n : UInt32) : (Decimal.text n.toNat).length ≤ 10 :=
  (Decimal.length_text_le (by decide)).2 (n.toNat_lt.trans (by decide))

theorem length_text_uint16 (n : UInt16) : (Decimal.text n.toNat).length ≤ 5 :=
  (Decimal.length_text_le (by decide)).2 (n.toNat_lt.trans (by decide))

theorem length_text_uint8 (n : UInt8) : (Decimal.text n.toNat).length ≤ 3 :=
  (Decimal.length_text_le (by decide)).2 (n.toNat_lt.trans (by decide))

/-! ## The names -/

theorem size_objectTypeName {objectType : UInt16} {name : String}
    (h : objectTypeName objectType = some name) : name.utf8ByteSize ≤ 22 := by
  have hall : ∀ row ∈ objectTypeNames.toList, row.name.utf8ByteSize ≤ 22 := by decide +kernel
  have hmem := (lookUpIdName_eq_some_iff ascends_objectTypeNames).1 h
  exact hall _ (Array.mem_toList_iff.2 hmem)

theorem size_propertyName {propertyId : UInt32} {name : String}
    (h : propertyName propertyId = some name) : name.utf8ByteSize ≤ 35 := by
  have hall : ∀ row ∈ propertyNames.toList, row.name.utf8ByteSize ≤ 35 := by decide +kernel
  have hmem := (lookUpIdName_eq_some_iff ascends_propertyNames).1 h
  exact hall _ (Array.mem_toList_iff.2 hmem)

/-- The longest name of a service, an unconfirmed service and a reason. -/
theorem size_choiceNames (choice : UInt8) :
    (∀ name ∈ confirmedServiceName choice, name.utf8ByteSize ≤ 32) ∧
    (∀ name ∈ unconfirmedServiceName choice, name.utf8ByteSize ≤ 34) ∧
    (∀ name ∈ rejectReasonName choice, name.utf8ByteSize ≤ 27) ∧
    ∀ name ∈ abortReasonName choice, name.utf8ByteSize ≤ 33 := by
  revert choice
  decide +kernel

/-- ReadProperty and WriteProperty. -/
theorem size_propertyServices (choice : UInt8) (h : choice = 12 ∨ choice = 15) :
    (∀ name ∈ confirmedServiceName choice, name.utf8ByteSize ≤ 13) ∧
    ∀ name ∈ unconfirmedServiceName choice, name.utf8ByteSize ≤ 13 := by
  revert choice
  decide +kernel

theorem size_networkMessageName (type : UInt8) :
    ∀ name ∈ networkMessageName type, name.utf8ByteSize ≤ 28 := by
  revert type
  decide +kernel

/-! ## The parts -/

theorem length_choiceText (label kind : String) {names : UInt8 → Option String}
    {choice : Option UInt8} {longest : Nat} (hkind : kind.utf8ByteSize ≤ 7)
      (hlongest : 11 ≤ longest)
    (h : ∀ c ∈ choice, ∀ name ∈ names c, name.utf8ByteSize ≤ longest) :
    (choiceText label kind names choice).length ≤ label.utf8ByteSize + 2 + longest := by
  have hcolon : (octetsOf ": ").length = 2 := rfl
  have hequals : (octetsOf "=").length = 1 := rfl
  cases choice with
  | none =>
    rw [choiceText, length_octetsOf]
    omega
  | some c =>
    rw [choiceText]
    cases hname : names c with
    | some name =>
      have hsize := h c rfl name hname
      simp only [List.length_append, length_octetsOf, hcolon] at hcolon ⊢
      omega
    | none =>
      have hdigits := length_text_uint8 c
      simp only [List.length_append, length_octetsOf] at hcolon hequals ⊢
      omega

/-- The PDU, with services of at most so long names. -/
theorem length_pduText {d : DecodedFrame} (pduType : UInt8) (longest : Nat)
    (hlongest : 11 ≤ longest)
    (hconfirmed : ∀ c ∈ d.serviceChoice, ∀ name ∈ confirmedServiceName c,
      name.utf8ByteSize ≤ longest)
    (hunconfirmed : ∀ c ∈ d.serviceChoice, ∀ name ∈ unconfirmedServiceName c,
      name.utf8ByteSize ≤ longest + 5) :
    (pduText d pduType).length ≤ max 40 (18 + longest) := by
  have hservice {label : String} (hlabel : label.utf8ByteSize ≤ 16) :
      (choiceText label "service" confirmedServiceName d.serviceChoice).length ≤ 18 + longest := by
    have := length_choiceText label "service" (by decide) hlongest hconfirmed
    omega
  have hreason {label : String} (hlabel : label.utf8ByteSize ≤ 6) :
      (choiceText label "reason" rejectReasonName d.reason).length ≤ 40 := by
    have := length_choiceText label "reason" (by decide) (by decide)
      fun c (_ : c ∈ d.reason) => (size_choiceNames c).2.2.1
    omega
  have hle : 18 + longest ≤ max 40 (18 + longest) := le_max_right _ _
  unfold pduText
  split
  · exact (hservice (by decide)).trans hle
  · have hlabel : "Unconfirmed".utf8ByteSize = 11 := by decide
    have := length_choiceText "Unconfirmed" "service" (by decide) (by omega)
      hunconfirmed
    omega
  · exact (hservice (by decide)).trans hle
  · exact (hservice (by decide)).trans hle
  · exact le_max_of_le_left (by decide)
  · exact (hservice (by decide)).trans hle
  · exact le_max_of_le_left (hreason (by decide))
  · have hlabel : "Abort".utf8ByteSize = 5 := by decide
    have := length_choiceText "Abort" "reason" (by decide) (by decide)
      fun c (_ : c ∈ d.reason) => (size_choiceNames c).2.2.2
    omega
  · exact le_max_of_le_left (by decide)

theorem length_indexText (index : Option UInt32) : (indexText index).length ≤ 12 := by
  have hbracket : (octetsOf "[").length = 1 ∧ (octetsOf "]").length = 1 := ⟨rfl, rfl⟩
  cases index with
  | none => exact Nat.zero_le 12
  | some index =>
    have hdigits := length_text_uint32 index
    rw [indexText, List.length_append, List.length_append, hbracket.1, hbracket.2]
    omega

theorem length_objectPropertyText (p : ObjectProperty) : (objectPropertyText p).length ≤ 82 := by
  have hinstance := length_text_uint32 p.objectInstance
  have hindex := length_indexText p.arrayIndex
  have hspace : (octetsOf " ").length = 1 := rfl
  have hdot : (octetsOf ".").length = 1 := rfl
  have htype : (octetsOf " object-type=").length = 13 := rfl
  have hproperty : (octetsOf ".property=").length = 10 := rfl
  have htypeDigits := length_text_uint16 p.objectType
  have hpropertyDigits := length_text_uint32 p.propertyId
  unfold objectPropertyText
  split
  · rename_i type property hname hname'
    have hsize := size_objectTypeName hname
    have hsize' := size_propertyName hname'
    rw [← length_octetsOf] at hsize hsize'
    simp only [List.length_append, hspace, hdot]
    omega
  · simp only [List.length_append, hspace, htype, hproperty]
    omega

/-! ## The PDUs that name a property -/

/-- Only of a ReadProperty and of a WriteProperty the property is decoded. -/
def DecodedFrame.Named (d : DecodedFrame) : Prop :=
  d.objectProperty = none ∨ d.serviceChoice = some 12 ∨ d.serviceChoice = some 15

section
variable (frame : Octets) {out : DecodedFrame} (hout : out.objectProperty = none)
include hout

theorem decodeService_named (offset : Nat) {namesProperty : UInt8 → Bool}
    (hnames : ∀ service, namesProperty service = true → service = 12 ∨ service = 15) :
    Returns (decodeService frame out offset namesProperty) DecodedFrame.Named := by
  unfold decodeService
  refine .ite (fun _ => .ok (.inl hout)) fun hlt => .bind (.read (by omega)) fun service _ =>
    .ite (fun hservice => .bind (decodeObjectAndProperty_returns _ _) fun _ _ => .pure (.inr ?_))
      fun _ => .pure (.inl hout)
  exact (hnames service hservice).imp (congrArg some) (congrArg some)

theorem decodeApdu_named {offset : Nat} (h : offset < frame.length) :
    Returns (decodeApdu frame out offset) DecodedFrame.Named := by
  unfold decodeApdu
  refine .bind (.read h) fun first _ => .ite (fun _ => ?_) fun _ => .ite (fun _ => ?_) fun _ =>
    .ite (fun _ => ?_) fun _ => .ite (fun _ => ?_) fun _ => .ite (fun _ => ?_)
      fun _ => .pure (.inl hout)
  · refine .ite (fun _ => .pure (.inl hout)) fun hlt => .bind (.read (by omega)) fun invokeId _ =>
      decodeService_named frame ?_ _ fun service hservice => ?_
    · exact hout
    · simpa using hservice
  · exact .ite (fun _ => .pure (.inl hout)) fun hlt => .bind (.read (by omega)) fun _ _ =>
      .pure (.inl hout)
  · exact .ite (fun _ => .pure (.inl hout)) fun hlt => .bind (.read (by omega)) fun _ _ =>
      .bind (.read (by omega)) fun _ _ => .pure (.inl hout)
  · refine .ite (fun _ => .pure (.inl hout)) fun hlt => .bind (.read (by omega)) fun invokeId _ =>
      decodeService_named frame ?_ _ fun service hservice => .inl ?_
    · exact hout
    · simpa using hservice
  · exact .ite (fun _ => .pure (.inl hout)) fun hlt => .bind (.read (by omega)) fun _ _ =>
      .bind (.read (by omega)) fun _ _ => .pure (.inl hout)

theorem decodeContent_named (offset : Nat) :
    Returns (decodeContent frame out offset) DecodedFrame.Named := by
  unfold decodeContent
  exact .ite (fun _ => .ok (.inl hout)) fun hlt => .ite
    (fun _ => .bind (.read (by omega)) fun _ _ => .pure (.inl hout)) fun _ =>
      decodeApdu_named frame hout (by omega)

theorem decodeSource_named (offset : Nat) :
    Returns (decodeSource frame out offset) DecodedFrame.Named := by
  unfold decodeSource
  refine .bind (decodeAddressIf_returns _ _ _) fun r _ => ?_
  obtain ⟨address, _ | next⟩ := r
  · exact .pure (.inl hout)
  · refine .ite (fun _ => .ite (fun _ => .pure (.inl hout)) fun _ =>
      decodeContent_named frame ?_ _) fun _ => decodeContent_named frame ?_ _
    · exact hout
    · exact hout

end

theorem decodeNpdu_named (frame : Octets) (bvlcFunction : UInt8) (offset : Nat) :
    Returns (decodeNpdu frame { bacnetIp := true, bvlcFunction := bvlcFunction } offset)
      DecodedFrame.Named := by
  unfold decodeNpdu
  refine .ite (fun _ => .ok (.inl rfl)) fun hlt => .bind (.read (by omega)) fun _ _ =>
    .bind (.read (by omega)) fun _ _ => .bind (decodeAddressIf_returns _ _ _) fun r _ => ?_
  obtain ⟨address, _ | next⟩ := r
  · exact .pure (.inl rfl)
  · exact decodeSource_named frame rfl next

theorem named_decoded (frame : Octets) : (decoded frame).Named := by
  have hreturns : Returns (decodeBacnetFrame frame) DecodedFrame.Named := by
    unfold decodeBacnetFrame
    refine .ite (fun _ => .ok (.inl rfl)) fun hlt => .bind (.read (by omega)) fun _ _ =>
      .ite (fun _ => .pure (.inl rfl)) fun _ => .bind (.read (by omega)) fun function _ => ?_
    dsimp only
    cases npduOffset function with
    | none => exact .pure (.inl rfl)
    | some offset => exact decodeNpdu_named frame function offset
  obtain ⟨d, hd, hnamed⟩ := hreturns
  rw [decodeBacnetFrame_eq] at hd
  obtain rfl := Except.ok.inj hd
  exact hnamed

/-! ## The line -/

def bodyText (d : DecodedFrame) (pduType : UInt8) : Octets :=
  pduText d pduType ++ (d.objectProperty.map objectPropertyText).getD []

theorem bodyBuffer_eq {d : DecodedFrame} (hd : d.Named) (pduType : UInt8) :
    bodyBuffer d pduType = bodyText d pduType ∧ (bodyText d pduType).length ≤ 122 := by
  unfold bodyBuffer bodyText
  have hany := length_pduText pduType (d := d) 32 (by decide)
    (fun c _ => (size_choiceNames c).1) fun c _ name hname =>
      ((size_choiceNames c).2.1 name hname).trans (by decide)
  have hpdu : (pduText d pduType).length ≤ 50 := hany
  rw [appendText_eq (by rw [List.length_nil]; omega), List.nil_append]
  cases hp : d.objectProperty with
  | none =>
    refine ⟨(List.append_nil _).symm, ?_⟩
    rw [Option.map_none, Option.getD_none, List.append_nil]
    omega
  | some p =>
    have hservice := hd.resolve_left (by rw [hp]; simp)
    have hnames (c) (hc : c ∈ d.serviceChoice) := size_propertyServices c
      (hservice.imp (fun h => Option.some.inj (hc.symm.trans h))
        fun h => Option.some.inj (hc.symm.trans h))
    have hnamed := length_pduText pduType (d := d) 13 (by decide)
      (fun c hc => (hnames c hc).1) fun c hc name hname => ((hnames c hc).2 name hname).trans
        (by decide)
    have hshort : (pduText d pduType).length ≤ 40 := hnamed
    have hproperty := length_objectPropertyText p
    rw [Option.map_some, Option.getD_some, List.length_append]
    exact ⟨appendText_eq (by omega), by omega⟩

def routeText (d : DecodedFrame) (count : Nat) : Octets :=
  if d.hasDest then
    octetsOf " DNET=" ++ Decimal.text d.dnet.toNat ++
      if 0 < d.dadr.length then octetsOf " DADR=" ++ upperText (d.dadr.take count) else []
  else []

/-- The line, with `count` of the address octets at most. -/
def lineText (d : DecodedFrame) (count : Nat) : Octets :=
  if ¬ d.bacnetIp then octetsOf "?"
  else if ¬ d.hasNpdu then octetsOf "BVLC function=0x" ++ upperPair d.bvlcFunction
  else if d.isNetworkMessage then networkMessageText d.networkMessageType ++ routeText d count
  else
    match d.pduType with
    | none => octetsOf "?"
    | some pduType => bodyText d pduType ++ routeText d count

theorem appendRouteSuffix_eq {buffer : Octets} (d : DecodedFrame) (h : buffer.length ≤ 122) :
    ∃ count, min d.dadr.length 26 ≤ count ∧
      appendRouteSuffix 192 buffer d = buffer ++ routeText d count := by
  have hnet : (octetsOf " DNET=").length = 6 := rfl
  have haddress : (octetsOf " DADR=").length = 6 := rfl
  have hdigits := length_text_uint16 d.dnet
  have hfits : buffer.length + (octetsOf " DNET=" ++ Decimal.text d.dnet.toNat).length < 192 := by
    rw [List.length_append]
    omega
  unfold appendRouteSuffix routeText
  by_cases hdest : d.hasDest
  · simp only [if_pos hdest, appendText_eq hfits]
    by_cases hlong : 0 < d.dadr.length
    · simp only [if_pos hlong]
      rw [appendText_eq (by simp only [List.length_append]; omega)]
      obtain ⟨count, hcount, heq⟩ := appendHex_eq 192 (buffer ++ (octetsOf " DNET=" ++
        Decimal.text d.dnet.toNat) ++ octetsOf " DADR=") d.dadr
      simp only [List.length_append] at hcount
      refine ⟨count, by omega, ?_⟩
      rw [heq]
      simp only [List.append_assoc]
    · simp only [if_neg hlong, List.append_nil, and_true]
      exact ⟨_, le_rfl⟩
  · simp only [if_neg hdest, List.append_nil, and_true]
    exact ⟨_, le_rfl⟩

theorem length_networkMessageText (type : UInt8) : (networkMessageText type).length ≤ 51 := by
  have hlabel : (octetsOf "Network-Layer-Message: ").length = 23 := rfl
  have hnumber : (octetsOf "Network-Layer-Message: type=").length = 28 := rfl
  have hdigits := length_text_uint8 type
  unfold networkMessageText
  cases hname : networkMessageName type with
  | some name =>
    have hsize := size_networkMessageName type name hname
    rw [List.length_append, hlabel, length_octetsOf]
    omega
  | none =>
    rw [List.length_append, hnumber]
    omega

theorem summarize_eq {d : DecodedFrame} (hd : d.Named) :
    ∃ count, min d.dadr.length 26 ≤ count ∧ summarize 192 d = lineText d count := by
  unfold summarize lineText
  by_cases hip : ¬ d.bacnetIp = true
  · simp only [if_pos hip]
    exact ⟨_, le_rfl, rfl⟩
  by_cases hnpdu : ¬ d.hasNpdu = true
  · simp only [if_neg hip, if_pos hnpdu]
    have hlength : (octetsOf "BVLC function=0x" ++ upperPair d.bvlcFunction).length = 18 := rfl
    exact ⟨_, le_rfl, appendText_eq (by rw [hlength]; decide)⟩
  by_cases hnetwork : d.isNetworkMessage = true
  · have hlength := length_networkMessageText d.networkMessageType
    simp only [if_neg hip, if_neg hnpdu, if_pos hnetwork]
    rw [appendText_eq (by rw [List.length_nil]; omega), List.nil_append]
    exact appendRouteSuffix_eq d (hlength.trans (by decide))
  simp only [if_neg hip, if_neg hnpdu, if_neg hnetwork]
  cases d.pduType with
  | none => exact ⟨_, le_rfl, rfl⟩
  | some pduType =>
    obtain ⟨hbody, hlength⟩ := bodyBuffer_eq hd pduType
    dsimp only
    rw [hbody, appendText_eq (by rw [List.length_nil]; omega), List.nil_append]
    exact appendRouteSuffix_eq d hlength

/-- **Nothing is cut off the line but address octets behind the 26th.** -/
theorem logLine_eq (frame : Octets) : ∃ count, min (decoded frame).dadr.length 26 ≤ count ∧
    logLine frame = .ok (lineText (decoded frame) count) := by
  obtain ⟨count, hcount, heq⟩ := summarize_eq (named_decoded frame)
  refine ⟨count, hcount, ?_⟩
  rw [logLine, summarizeBacnetFrame, if_neg (by decide), decodeBacnetFrame_eq, ok_bind, heq]
  rfl

end Log

end BacnetBc
