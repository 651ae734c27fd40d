import BacnetBc.Peer.Ack
import BacnetBc.Udp

/-!
# The walk over the headers of a frame, in 16 bits

`IsStackChosenBroadcast` keeps its position in a `uint16_t`, and `HandleReplyFromPeer` walks the
same headers with a `size_t`. `Walk.headerEnd` is the walk of the first with the assignments to its
position left open (`Keep`): a `uint16_t` cuts a value off (`uint16`), and `fitting16` calls a value
that does not fit a fault.

**Theorem (`walk_classifies`).** A frame is classified by what it was built from, whatever headers
stand before its content. Both walks find the same APDU. On any octets no read lies behind the last
octet and no position is cut off: the two address fields take the position to 523 at most.
-/

namespace BacnetBc

open Memory

/-! ## The walk -/

/-- What a variable holds after a position is assigned to it. -/
abbrev Keep := Nat → Access Nat

/-- A `uint16_t`. -/
def uint16 : Keep := fun i => .ok (i % 65536)

/-- A `uint16_t` for which an overflow is a fault. -/
def fitting16 : Keep := fun i => if i < 65536 then .ok i else .error (.writeOutside i)

namespace Walk

/-- The position after DNET, DLEN and DADR, or after SNET, SLEN and SADR. -/
def skipSpecifier (keep : Keep) (message : Octets) (present : Bool) (i : Nat) :
    Access (Option Nat) :=
  if present then
    if message.length < i + 3 then .ok none
    else do
      let addressLength ← read message (i + 2)
      return some (← keep (i + (3 + addressLength.toNat)))
  else .ok (some i)

/-- The control octet, and the position behind the headers. -/
def headerEnd (keep : Keep) (message : Octets) : Access (Option (UInt8 × Nat)) := do
  let i ← keep 4 -- past the BVLC header
  if message.length < i + 2 then return none
  else if (← read message i) != 0x01 then return none
  else
    let control ← read message (i + 1)
    let i ← keep (i + 2)
    match ← skipSpecifier keep message (control &&& 0x20 != 0) i with
    | none => return none
    | some i =>
      match ← skipSpecifier keep message (control &&& 0x08 != 0) i with
      | none => return none
      | some i =>
        let i ← if control &&& 0x20 != 0 then keep (i + 1) else .ok i -- hop count
        return some (control, i)

/-- The decision of `IsStackChosenBroadcast` on what stands behind the headers. -/
def chosenContent (message : Octets) (control : UInt8) (i : Nat) : Access Bool :=
  if control &&& 0x80 != 0 then .ok true -- network layer message
  else if message.length < i + 2 then .ok false
  else do
    if (← read message i) >>> 4 != 1 then return false
    else
      let service ← read message (i + 1)
      return service == 0 || service == 1

/-- `IsStackChosenBroadcast`. -/
def isStackChosenBroadcast (keep : Keep) (message : Octets) : Access Bool :=
  if message.length < 6 then .ok false
  else do
    let function ← read message 1
    if (← read message 0) != 0x81 || (function != 0x0A && function != 0x0B) then return false
    else
      match ← headerEnd keep message with
      | none => return false
      | some (control, i) => chosenContent message control i

/-! ## No position is cut off -/

/-- The positions up to the end of the longest headers are kept as they are. -/
def KeepsHeaders (keep : Keep) : Prop := ∀ i ≤ 523, keep i = .ok i

theorem keepsHeaders_uint16 : KeepsHeaders uint16 := by
  intro i hi
  rw [uint16, Nat.mod_eq_of_lt (by omega)]

theorem keepsHeaders_fitting16 : KeepsHeaders fitting16 := by
  intro i hi
  rw [fitting16, if_pos (by omega)]

theorem skipSpecifier_eq {keep : Keep} (hkeep : KeepsHeaders keep) (message : Octets)
    (present : Bool) {i : Nat} (hi : i ≤ 265) :
    skipSpecifier keep message present i = skipAddress message present i := by
  cases present with
  | false => rfl
  | true =>
    unfold skipSpecifier skipAddress
    simp only [if_true]
    by_cases hshort : message.length < i + 3
    · rw [if_pos hshort, if_pos hshort]
    · rw [if_neg hshort, if_neg hshort, read_of_lt (by omega : i + 2 < message.length)]
      have hlt := message[i + 2].toNat_lt
      simp only [bind, Except.bind, hkeep (i + (3 + message[i + 2].toNat)) (by omega),
        Nat.add_assoc]

theorem skipAddress_le {message : Octets} {present : Bool} {i j : Nat}
    (h : skipAddress message present i = .ok (some j)) : j ≤ i + 258 := by
  unfold skipAddress at h
  split at h
  · by_cases hshort : message.length < i + 3
    · rw [if_pos hshort] at h
      cases h
    · rw [if_neg hshort, read_of_lt (by omega : i + 2 < message.length)] at h
      have hlt := message[i + 2].toNat_lt
      obtain rfl := Option.some.inj (Except.ok.inj h)
      omega
  · obtain rfl := Option.some.inj (Except.ok.inj h)
    omega

/-- The walk in a variable of any size that holds the headers is the walk in a `size_t`. -/
theorem headerEnd_eq {keep : Keep} (hkeep : KeepsHeaders keep) (message : Octets) :
    headerEnd keep message = headerEnd .ok message := by
  have hall : KeepsHeaders (.ok : Keep) := fun _ _ => rfl
  unfold headerEnd
  rw [hkeep 4 (by omega), ok_bind, ok_bind]
  by_cases hshort : message.length < 4 + 2
  · rw [if_pos hshort, if_pos hshort]
  · rw [if_neg hshort, if_neg hshort, read_of_lt (by omega : 4 < message.length),
      read_of_lt (by omega : 4 + 1 < message.length), hkeep (4 + 2) (by omega)]
    simp only [ok_bind]
    generalize message[4 + 1] = control
    split
    · rfl
    · rw [skipSpecifier_eq hkeep message _ (by omega), skipSpecifier_eq hall message _ (by omega)]
      obtain ⟨afterD, hD⟩ := skipAddress_spec message (control &&& 0x20 != 0) (4 + 2)
      rw [hD]
      simp only [ok_bind]
      cases afterD with
      | none => rfl
      | some i =>
        have hi := skipAddress_le hD
        dsimp only
        rw [skipSpecifier_eq hkeep message _ (by omega), skipSpecifier_eq hall message _ (by omega)]
        obtain ⟨afterS, hS⟩ := skipAddress_spec message (control &&& 0x08 != 0) i
        rw [hS]
        simp only [ok_bind]
        cases afterS with
        | none => rfl
        | some j =>
          have hj := skipAddress_le hS
          dsimp only
          rw [hkeep (j + 1) (by omega)]
          rfl

theorem isStackChosenBroadcast_eq {keep : Keep} (hkeep : KeepsHeaders keep) (message : Octets) :
    isStackChosenBroadcast keep message = BacnetBc.isStackChosenBroadcast message := by
  have hall : KeepsHeaders (.ok : Keep) := fun _ _ => rfl
  unfold isStackChosenBroadcast BacnetBc.isStackChosenBroadcast stackChosenNpdu
  rw [headerEnd_eq hkeep]
  unfold headerEnd
  by_cases hshort : message.length < 6
  · rw [if_pos hshort, if_pos hshort]
  · rw [if_neg hshort, if_neg hshort, if_neg hshort]
    simp only [ok_bind, if_neg hshort, read_of_lt (by omega : 0 < message.length),
      read_of_lt (by omega : 1 < message.length), read_of_lt (by omega : 4 < message.length),
      read_of_lt (by omega : 4 + 1 < message.length)]
    split
    · rfl
    · split
      · rfl
      · rw [skipSpecifier_eq hall message _ (by omega : 4 + 2 ≤ 265)]
        generalize message[4 + 1] = control
        obtain ⟨afterD, hD⟩ := skipAddress_spec message (control &&& 0x20 != 0) (4 + 2)
        rw [hD]
        simp only [ok_bind]
        cases afterD with
        | none => rfl
        | some i =>
          have hi := skipAddress_le hD
          dsimp only
          rw [skipSpecifier_eq hall message _ (by omega)]
          obtain ⟨afterS, hS⟩ := skipAddress_spec message (control &&& 0x08 != 0) i
          rw [hS]
          simp only [ok_bind]
          cases afterS with
          | none => rfl
          | some j =>
            dsimp only
            split <;> rfl

end Walk

/-! ## Frames, as they are built -/

/-- What an NPDU carries. -/
inductive NpduContent
  | networkMessage (type : UInt8) (data : Octets)
  | apdu (octets : Octets)

namespace NpduContent

def encode : NpduContent → Octets
  | networkMessage type data => type :: data
  | apdu octets => octets

/-- Bit 7 of the control octet. -/
def networkBit : NpduContent → UInt8
  | networkMessage _ _ => 0x80
  | apdu _ => 0

/-- A network layer message, or an Unconfirmed-Request with the service I-Am or I-Have. The low
half of the first octet of an Unconfirmed-Request is reserved. -/
def IsStackAnswer : NpduContent → Prop
  | networkMessage _ _ => True
  | apdu octets => ∃ reserved service parameters,
      octets = (0x10 ||| reserved &&& 0x0F) :: service :: parameters ∧
        (service = 0 ∨ service = 1)

end NpduContent

structure Npdu where
  header : NpduHeader
  content : NpduContent

namespace Npdu

def control (n : Npdu) : UInt8 := n.header.control ||| n.content.networkBit

/-- The octets in front of the content. -/
def headerOctets (n : Npdu) : Octets :=
  0x01 :: n.control :: (((n.header.destination.map Prod.fst).elim [] NetworkAddress.encode) ++
    ((n.header.source.elim [] NetworkAddress.encode) ++
      (n.header.destination.map Prod.snd).toList))

def encode (n : Npdu) : Octets := n.headerOctets ++ n.content.encode

end Npdu

/-- Original-Unicast-NPDU or Original-Broadcast-NPDU. -/
def IsOriginalNpdu (function : UInt8) : Prop := function = 0x0A ∨ function = 0x0B

/-- A BACnet/IP frame: `lengthField` is the length as the frame gives it, and `parameters` what
another function than an Original-NPDU has in front of the NPDU or in its place. -/
structure BipFrame where
  function : UInt8
  lengthField : UInt8 × UInt8
  parameters : Octets
  npdu : Option Npdu
  original : IsOriginalNpdu function → parameters = [] ∧ npdu.isSome

namespace BipFrame

def encode (frame : BipFrame) : Octets :=
  0x81 :: frame.function :: frame.lengthField.1 :: frame.lengthField.2 ::
    (frame.parameters ++ frame.npdu.elim [] Npdu.encode)

/-- The frame is one that the stack addresses itself. -/
def IsStackChosen (frame : BipFrame) : Prop :=
  IsOriginalNpdu frame.function ∧ ∃ npdu ∈ frame.npdu, npdu.content.IsStackAnswer

end BipFrame

theorem network_bits : ∀ control < 256,
    (UInt8.ofNat control ||| 0x80) &&& 0x80 = 0x80 ∧
      (UInt8.ofNat control ||| 0x80) &&& 0x20 = UInt8.ofNat control &&& 0x20 ∧
      (UInt8.ofNat control ||| 0x80) &&& 0x08 = UInt8.ofNat control &&& 0x08 := by
  decide +kernel

/-- The control octet tells what the NPDU was built from. -/
theorem Npdu.control_bits (n : Npdu) :
    (n.control &&& 0x80 != 0) = (n.content.networkBit != 0) ∧
      (n.control &&& 0x20 != 0) = n.header.destination.isSome ∧
      (n.control &&& 0x08 != 0) = n.header.source.isSome := by
  obtain ⟨hnetwork, hdestination, hsource⟩ :=
    BacnetBc.control_bits n.header.otherControl.toNat n.header.otherControl.toNat_lt
      n.header.destination.isSome n.header.source.isSome
  rw [UInt8.ofNat_toNat] at hnetwork hdestination hsource
  change (n.header.control &&& 0x80 != 0) = false at hnetwork
  change (n.header.control &&& 0x20 != 0) = _ at hdestination
  change (n.header.control &&& 0x08 != 0) = _ at hsource
  unfold Npdu.control
  cases n.content with
  | apdu octets =>
    rw [NpduContent.networkBit, UInt8.or_zero]
    exact ⟨hnetwork, hdestination, hsource⟩
  | networkMessage type data =>
    obtain ⟨h80, h20, h08⟩ := network_bits n.header.control.toNat n.header.control.toNat_lt
    rw [UInt8.ofNat_toNat] at h80 h20 h08
    rw [NpduContent.networkBit, h80, h20, h08]
    exact ⟨rfl, hdestination, hsource⟩

namespace Walk

/-- **The walk ends where the content begins.** -/
theorem headerEnd_encode {before : Octets} (hbefore : before.length = 4) (n : Npdu) :
    headerEnd .ok (before ++ n.encode) =
      .ok (some (n.control, (before ++ n.headerOctets).length)) := by
  have hall : KeepsHeaders (.ok : Keep) := fun _ _ => rfl
  obtain ⟨-, hdestination, hsource⟩ := n.control_bits
  obtain ⟨destination, hd⟩ : ∃ destination, destination =
      (n.header.destination.map Prod.fst).elim [] NetworkAddress.encode := ⟨_, rfl⟩
  obtain ⟨source, hs⟩ : ∃ source, source = n.header.source.elim [] NetworkAddress.encode := ⟨_, rfl⟩
  obtain ⟨hops, hh⟩ : ∃ hops, hops = (n.header.destination.map Prod.snd).toList := ⟨_, rfl⟩
  have hheader : n.headerOctets = [0x01, n.control] ++ (destination ++ (source ++ hops)) := by
    rw [hd, hs, hh, Npdu.headerOctets]
    rfl
  have hhops : hops.length = if n.header.destination.isSome then 1 else 0 := by
    rw [hh]
    cases n.header.destination <;> rfl
  obtain ⟨message, hmessage⟩ : ∃ message, message = before ++ n.encode := ⟨_, rfl⟩
  have hsplit : message = before ++
      0x01 :: n.control :: (destination ++ (source ++ (hops ++ n.content.encode))) := by
    rw [hmessage, Npdu.encode, hheader]
    simp
  have hversion : read message 4 = .ok 0x01 := by
    rw [hsplit, ← hbefore]
    exact read_append_cons _ _ _
  have hcontrol : read message (4 + 1) = .ok n.control := by
    have hread := read_append_cons (before ++ [0x01]) n.control
      (destination ++ (source ++ (hops ++ n.content.encode)))
    rw [hsplit, ← hbefore]
    simpa using hread
  have hskipDestination : skipAddress message n.header.destination.isSome (4 + 2) =
      .ok (some (4 + 2 + destination.length)) := by
    have hskip := skipAddress_elim (before ++ [0x01, n.control])
      (source ++ (hops ++ n.content.encode)) (n.header.destination.map Prod.fst)
    rw [← hd, Option.isSome_map] at hskip
    rw [hsplit, ← hbefore]
    simpa [Nat.add_assoc, Nat.add_comm, Nat.add_left_comm] using hskip
  have hskipSource : skipAddress message n.header.source.isSome (4 + 2 + destination.length) =
      .ok (some (4 + 2 + destination.length + source.length)) := by
    have hskip := skipAddress_elim (before ++ [0x01, n.control] ++ destination)
      (hops ++ n.content.encode) n.header.source
    rw [← hs] at hskip
    rw [hsplit, ← hbefore]
    simpa [Nat.add_assoc, Nat.add_comm, Nat.add_left_comm] using hskip
  have hlength : message.length =
      4 + 2 + destination.length + source.length + hops.length + n.content.encode.length := by
    rw [hsplit]
    simp only [List.length_append, List.length_cons, hbefore]
    omega
  have hdle := skipAddress_le hskipDestination
  rw [← hmessage, headerEnd, ok_bind, if_neg (by omega), hversion, ok_bind]
  rw [if_neg (by simp), hcontrol, ok_bind, ok_bind, hdestination, hsource,
    skipSpecifier_eq hall _ _ (by omega), hskipDestination, ok_bind]
  dsimp only
  rw [skipSpecifier_eq hall _ _ (by omega), hskipSource, ok_bind]
  dsimp only
  rw [hheader]
  simp only [List.length_append, List.length_cons, List.length_nil, hbefore, hhops]
  split
  · rw [ok_bind]
    exact congrArg (fun i => Except.ok (some (n.control, i))) (by omega)
  · rw [ok_bind]
    exact congrArg (fun i => Except.ok (some (n.control, i))) (by omega)

end Walk

/-! ## The content -/

theorem unconfirmed_bits : ∀ first < 256,
    (UInt8.ofNat first >>> 4 = 1 → UInt8.ofNat first = 0x10 ||| UInt8.ofNat first &&& 0x0F) ∧
      (0x10 ||| UInt8.ofNat first &&& 0x0F) >>> 4 = 1 := by
  decide +kernel

/-- PDU type 1, with any reserved bits. -/
theorem pduType_eq_one_iff (first : UInt8) :
    first >>> 4 = 1 ↔ ∃ reserved : UInt8, first = 0x10 ||| reserved &&& 0x0F := by
  constructor
  · intro h
    have hbits := (unconfirmed_bits first.toNat first.toNat_lt).1
    rw [UInt8.ofNat_toNat] at hbits
    exact ⟨first, hbits h⟩
  · intro h
    obtain ⟨reserved, rfl⟩ := h
    have hbits := (unconfirmed_bits reserved.toNat reserved.toNat_lt).2
    rw [UInt8.ofNat_toNat] at hbits
    exact hbits

theorem NpduContent.isStackAnswer_cons (first service : UInt8) (parameters : Octets) :
    (NpduContent.apdu (first :: service :: parameters)).IsStackAnswer ↔
      first >>> 4 = 1 ∧ (service = 0 ∨ service = 1) := by
  rw [pduType_eq_one_iff]
  constructor
  · intro h
    obtain ⟨reserved, s, p, heq, hs⟩ := h
    injection heq with hfirst hrest
    injection hrest with hservice hp
    exact ⟨⟨reserved, hfirst⟩, hservice ▸ hs⟩
  · intro h
    obtain ⟨⟨reserved, rfl⟩, hs⟩ := h
    exact ⟨reserved, service, parameters, rfl, hs⟩

theorem Walk.chosenContent_encode (before : Octets) {c : NpduContent} {control : UInt8}
    (hcontrol : (control &&& 0x80 != 0) = (c.networkBit != 0)) :
    Walk.chosenContent (before ++ c.encode) control before.length = .ok true ↔
      c.IsStackAnswer := by
  unfold Walk.chosenContent
  rw [hcontrol]
  cases c with
  | networkMessage type data =>
    show _ ↔ True
    simp [NpduContent.networkBit]
  | apdu octets =>
    rw [if_neg (by simp [NpduContent.networkBit])]
    match octets with
    | [] | [_] =>
      rw [if_pos (by simp [NpduContent.encode])]
      simp [NpduContent.IsStackAnswer]
    | first :: service :: parameters =>
      have hfirst : read (before ++ (first :: service :: parameters)) before.length = .ok first :=
        read_append_cons _ _ _
      have hservice : read (before ++ (first :: service :: parameters)) (before.length + 1) =
          .ok service := by
        have hread := read_append_cons (before ++ [first]) service parameters
        simpa using hread
      rw [if_neg (by simp [NpduContent.encode]), NpduContent.isStackAnswer_cons,
        NpduContent.encode, hfirst, ok_bind, hservice]
      by_cases htype : first >>> 4 = 1
      · simp [htype, ok_bind, pure, Except.pure]
      · simp [htype, pure, Except.pure]

/-- A frame that is no Original-NPDU is not chosen. -/
theorem Walk.isStackChosenBroadcast_of_function {keep : Keep} {message : Octets} {function : UInt8}
    (h : message[1]? = some function) (hf : ¬ IsOriginalNpdu function) :
    Walk.isStackChosenBroadcast keep message = .ok false := by
  unfold Walk.isStackChosenBroadcast
  by_cases hshort : message.length < 6
  · rw [if_pos hshort]
  · have hfunction : message[1] = function := by
      rw [List.getElem?_eq_getElem (by omega)] at h
      exact Option.some.inj h
    rw [if_neg hshort, read_of_lt (by omega : 1 < message.length), ok_bind,
      read_of_lt (by omega : 0 < message.length), ok_bind, hfunction, if_pos]
    · rfl
    · unfold IsOriginalNpdu at hf
      push Not at hf
      simp [hf.1, hf.2]

theorem BipFrame.encode_original {frame : BipFrame} (hf : IsOriginalNpdu frame.function)
    {npdu : Npdu} (hn : frame.npdu = some npdu) :
    frame.encode =
      [0x81, frame.function, frame.lengthField.1, frame.lengthField.2] ++ npdu.encode := by
  rw [BipFrame.encode, (frame.original hf).1, hn]
  rfl

theorem Walk.headerEnd_frame {keep : Keep} (hkeep : KeepsHeaders keep) {frame : BipFrame}
    (hf : IsOriginalNpdu frame.function) {npdu : Npdu} (hn : frame.npdu = some npdu) :
    Walk.headerEnd keep frame.encode = .ok (some (npdu.control,
      ([0x81, frame.function, frame.lengthField.1, frame.lengthField.2] ++
        npdu.headerOctets).length)) := by
  rw [Walk.headerEnd_eq hkeep, BipFrame.encode_original hf hn]
  exact Walk.headerEnd_encode rfl npdu

theorem Walk.isStackChosenBroadcast_encode {keep : Keep} (hkeep : KeepsHeaders keep)
    (frame : BipFrame) :
    Walk.isStackChosenBroadcast keep frame.encode = .ok true ↔ frame.IsStackChosen := by
  have hfunction : frame.encode[1]? = some frame.function := rfl
  by_cases hf : IsOriginalNpdu frame.function
  · obtain ⟨npdu, hn⟩ := Option.isSome_iff_exists.1 (frame.original hf).2
    have hencode := BipFrame.encode_original hf hn
    have hchosen : frame.IsStackChosen ↔ npdu.content.IsStackAnswer := by
      unfold BipFrame.IsStackChosen
      rw [hn]
      simp [hf]
    have hlong : ¬ frame.encode.length < 6 := by
      rw [hencode]
      simp [Npdu.encode, Npdu.headerOctets]
    have hread0 : read frame.encode 0 = .ok 0x81 := rfl
    have hread1 : read frame.encode 1 = .ok frame.function := rfl
    have hchecked : ¬ ((0x81 : UInt8) != 0x81 ||
        (frame.function != 0x0A && frame.function != 0x0B)) = true := by
      cases hf with
      | inl h => simp [h]
      | inr h => simp [h]
    rw [hchosen, Walk.isStackChosenBroadcast, if_neg hlong, hread1, ok_bind, hread0, ok_bind,
      if_neg hchecked, Walk.headerEnd_frame hkeep hf hn, ok_bind]
    dsimp only
    rw [hencode, Npdu.encode, ← List.append_assoc]
    exact Walk.chosenContent_encode _ npdu.control_bits.1
  · rw [Walk.isStackChosenBroadcast_of_function hfunction hf]
    constructor
    · intro h
      cases h
    · intro h
      exact absurd h.1 hf

/-! ## The same APDU in both walks -/

/-- What an APDU starts behind, if the frame is an Original-Unicast-NPDU. -/
theorem Walk.apduStart_eq {message : Octets} (h : bvllLength .ipv4 message = .ok (some 4)) :
    apduStart .ipv4 message = do
      match ← Walk.headerEnd .ok message with
      | none => return none
      | some (control, i) =>
        if control &&& 0x80 != 0 || message.length < i + 3 then return none else return some i := by
  have hall : KeepsHeaders (.ok : Keep) := fun _ _ => rfl
  unfold apduStart Walk.headerEnd
  rw [h, ok_bind, ok_bind]
  dsimp only
  by_cases hshort : message.length < 4 + 2
  · rw [if_pos hshort, if_pos hshort]
    rfl
  · rw [if_neg hshort, if_neg hshort, read_of_lt (by omega : 4 < message.length),
      read_of_lt (by omega : 4 + 1 < message.length)]
    simp only [ok_bind]
    by_cases hversion : (message[4] != 1) = true
    · rw [if_pos hversion, if_pos hversion]
      rfl
    · rw [if_neg hversion, if_neg hversion]
      generalize message[4 + 1] = control
      rw [Walk.skipSpecifier_eq hall message _ (by omega)]
      obtain ⟨afterD, hD⟩ := skipAddress_spec message (control &&& 0x20 != 0) (4 + 2)
      rw [hD]
      simp only [ok_bind]
      cases afterD with
      | none => split <;> rfl
      | some i =>
        have hi := Walk.skipAddress_le hD
        dsimp only
        rw [Walk.skipSpecifier_eq hall message _ (by omega)]
        obtain ⟨afterS, hS⟩ := skipAddress_spec message (control &&& 0x08 != 0) i
        rw [hS]
        simp only [ok_bind]
        cases afterS with
        | none => split <;> rfl
        | some j =>
          dsimp only
          cases hnetwork : control &&& 0x80 != 0 <;> cases hhops : control &&& 0x20 != 0 <;>
            simp [hnetwork, pure, Except.pure, bind, Except.bind]

theorem bvllLength_ipv4_eq_iff (message : Octets) (n : Nat) :
    bvllLength .ipv4 message = .ok (some n) ↔
      n = 4 ∧ 4 ≤ message.length ∧ message[0]? = some 0x81 ∧ message[1]? = some 0x0A := by
  unfold bvllLength
  simp only [reduceCtorEq, if_false]
  by_cases h4 : message.length < 4
  · rw [if_pos h4]
    constructor
    · intro h
      cases h
    · intro h
      omega
  · rw [if_neg h4, read_of_lt (by omega : 0 < message.length),
      read_of_lt (by omega : 1 < message.length), List.getElem?_eq_getElem (by omega),
      List.getElem?_eq_getElem (by omega), ok_bind, ok_bind]
    by_cases h0 : message[0] = 0x81
    · by_cases h1 : message[1] = 0x0A
      · rw [if_neg (by simp [h0]), if_neg (by simp [h1]), h0, h1]
        constructor
        · intro h
          exact ⟨(Option.some.inj (Except.ok.inj h)).symm, by omega, rfl, rfl⟩
        · intro h
          rw [h.1]
          rfl
      · simp [h0, h1, pure, Except.pure]
    · simp [h0, pure, Except.pure]

/-- **Both walks come to the same APDU.** -/
theorem Walk.apduStart_eq_iff (message : Octets) (i : Nat) :
    apduStart .ipv4 message = .ok (some i) ↔
      message[0]? = some 0x81 ∧ message[1]? = some 0x0A ∧ i + 3 ≤ message.length ∧
        ∃ control, Walk.headerEnd .ok message = .ok (some (control, i)) ∧
          (control &&& 0x80 != 0) = false := by
  obtain ⟨bvll, hbvll⟩ := bvllLength_spec .ipv4 message
  cases bvll with
  | none =>
    have hnone : apduStart .ipv4 message = .ok none := by
      rw [apduStart, hbvll]
      rfl
    rw [hnone]
    constructor
    · intro h
      cases h
    · intro h
      obtain ⟨h0, h1, -, control, hend, -⟩ := h
      by_cases h4 : 4 ≤ message.length
      · have hsome := (bvllLength_ipv4_eq_iff message 4).2 ⟨rfl, h4, h0, h1⟩
        rw [hbvll] at hsome
        cases hsome
      · rw [Walk.headerEnd, ok_bind, if_pos (by omega)] at hend
        cases hend
  | some n =>
    obtain ⟨rfl, h4, h0, h1⟩ := (bvllLength_ipv4_eq_iff message n).1 hbvll
    rw [Walk.apduStart_eq hbvll]
    cases hend : Walk.headerEnd .ok message with
    | error fault => simp [bind, Except.bind]
    | ok r =>
      rw [ok_bind]
      cases r with
      | none => simp [pure, Except.pure]
      | some found =>
        obtain ⟨control, start⟩ := found
        dsimp only
        by_cases hstop : (control &&& 0x80 != 0 || decide (message.length < start + 3)) = true
        · rw [if_pos hstop]
          constructor
          · intro h
            cases h
          · intro h
            obtain ⟨-, -, hlength, c, heq, hapdu⟩ := h
            cases heq
            rw [hapdu, Bool.false_or, decide_eq_true_eq] at hstop
            omega
        · rw [if_neg hstop]
          rw [Bool.not_eq_true, Bool.or_eq_false_iff, decide_eq_false_iff_not] at hstop
          obtain ⟨hapdu, hlength⟩ := hstop
          constructor
          · intro h
            cases h
            exact ⟨h0, h1, by omega, control, rfl, hapdu⟩
          · intro h
            obtain ⟨-, -, -, c, heq, -⟩ := h
            cases heq
            rfl

/-! ## The classification -/

/-- **A frame is classified by what it was built from, behind any headers.** Both walks find its
APDU, and on any octets the walk stays inside them and inside 16 bits. -/
theorem walk_classifies :
    (∀ frame : BipFrame,
      Walk.isStackChosenBroadcast uint16 frame.encode = .ok true ↔ frame.IsStackChosen) ∧
    (∀ (frame : BipFrame) (npdu : Npdu), IsOriginalNpdu frame.function → frame.npdu = some npdu →
      ∃ control i, Walk.headerEnd uint16 frame.encode = .ok (some (control, i)) ∧
        frame.encode.drop i = npdu.content.encode) ∧
    (∀ message i, apduStart .ipv4 message = .ok (some i) ↔
      message[0]? = some 0x81 ∧ message[1]? = some 0x0A ∧ i + 3 ≤ message.length ∧
        ∃ control, Walk.headerEnd uint16 message = .ok (some (control, i)) ∧
          (control &&& 0x80 != 0) = false) ∧
    (∀ message, ∃ chosen, Walk.isStackChosenBroadcast fitting16 message = .ok chosen ∧
      Walk.isStackChosenBroadcast uint16 message = .ok chosen ∧
      CASExampleHelper.isStackChosenBroadcast message = .ok chosen) := by
  have hkeep := Walk.keepsHeaders_uint16
  refine ⟨?_, ?_, ?_, ?_⟩
  · exact Walk.isStackChosenBroadcast_encode hkeep
  · intro frame npdu hf hn
    refine ⟨npdu.control, _, Walk.headerEnd_frame hkeep hf hn, ?_⟩
    rw [BipFrame.encode_original hf hn, Npdu.encode, ← List.append_assoc, List.drop_left]
  · intro message i
    rw [Walk.headerEnd_eq hkeep]
    exact Walk.apduStart_eq_iff message i
  · intro message
    obtain ⟨chosen, hchosen⟩ := isStackChosenBroadcast_inside message
    refine ⟨chosen, ?_, ?_, ?_⟩
    · rw [Walk.isStackChosenBroadcast_eq Walk.keepsHeaders_fitting16, hchosen]
    · rw [Walk.isStackChosenBroadcast_eq hkeep, hchosen]
    · rw [isStackChosenBroadcast_funext, hchosen]

end BacnetBc
