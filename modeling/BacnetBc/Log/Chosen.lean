import BacnetBc.Log.Decode
import BacnetBc.Peer.Broadcast

/-!
# The decoder and the frames that are copied

`IsStackChosenBroadcast` walks the same headers as `DecodeBacnetFrame`, with fewer checks: it does
not ask whether the octets of an address are in the frame.

**Theorem (`isStackChosenBroadcast_iff_decoded`).** On any octets the frames that are copied to a
peer on another port are those that the decoder finds to be an I-Am, an I-Have or a network layer
message, in an original NPDU of version 1. Of a network layer message the addresses have to begin in
the frame.
-/

namespace BacnetBc

open Memory

namespace Log

/-! ## The walk with fewer checks -/

section
variable (frame : Octets)

/-- The position that is taken for the end of an address, in the frame or behind it. -/
def skipped (present : Bool) (offset : Nat) : Option Nat :=
  if present then
    if frame.length < offset + 3 then none
    else some (offset + 3 + (frame[offset + 2]?.getD 0).toNat)
  else some offset

theorem skipSpecifier_returns (present : Bool) (offset : Nat) :
    Returns (Walk.skipSpecifier .ok frame present offset) fun r =>
      r = skipped frame present offset := by
  unfold Walk.skipSpecifier skipped
  refine .ite (fun hpresent => ?_) fun habsent => .ok (if_neg habsent).symm
  rw [if_pos hpresent]
  refine .ite (fun hshort => .ok (if_pos hshort).symm) fun hlt => .bind (.read (by omega))
    fun length hlength => .pure ?_
  rw [if_neg hlt, hlength, Option.getD_some, Nat.add_assoc]

/-- Where the content of an original NPDU with this control octet is looked for. -/
def contentOffset (control : UInt8) : Option Nat :=
  ((skipped frame (control &&& 0x20 != 0) 6).bind
    (skipped frame (control &&& 0x08 != 0))).map fun next =>
      if control &&& 0x20 != 0 then next + 1 else next

theorem headerEnd_returns (hlong : 6 ≤ frame.length) :
    Returns (Walk.headerEnd .ok frame) fun r =>
      r = if frame[4]?.getD 0 = 1 then
        (contentOffset frame (frame[5]?.getD 0)).map fun offset => (frame[5]?.getD 0, offset)
      else none := by
  unfold Walk.headerEnd
  rw [ok_bind]
  refine .ite (fun hshort => absurd hshort (by omega)) fun _ => .bind (.read (by omega))
    fun version hversion => ?_
  rw [hversion, Option.getD_some]
  refine .ite (fun hne => .pure (if_neg (bne_iff_ne.1 hne)).symm) fun heq =>
    .bind (.read (by omega)) fun control hcontrol => ?_
  have hone : version = 1 := by simpa using heq
  rw [hcontrol, Option.getD_some, ok_bind, if_pos hone, contentOffset]
  refine .bind (skipSpecifier_returns frame _ _) fun r hr => ?_
  rw [← hr]
  cases r with
  | none => exact .pure rfl
  | some next =>
    refine .bind (skipSpecifier_returns frame _ _) fun r hr => ?_
    rw [Option.bind_some, ← hr]
    cases r with
    | none => exact .pure rfl
    | some next =>
      dsimp only
      rw [Option.map_some]
      refine .ite (fun hdest => .pure ?_) fun hdest => .pure ?_
      · rw [if_pos hdest]
        rfl
      · rw [if_neg hdest]
        rfl

/-- The first two octets of an I-Am or an I-Have. -/
def AnnouncesAt (offset : Nat) : Prop :=
  (frame[offset]?.map fun first : UInt8 => first >>> 4) = some 1 ∧
    (frame[offset + 1]? = some 0 ∨ frame[offset + 1]? = some 1)

theorem AnnouncesAt.lt {frame : Octets} {offset : Nat} (h : AnnouncesAt frame offset) :
    offset + 1 < frame.length := by
  obtain h | h := h.2
  · exact (List.getElem?_eq_some_iff.1 h).1
  · exact (List.getElem?_eq_some_iff.1 h).1

theorem chosenContent_returns (control : UInt8) (offset : Nat) :
    Returns (Walk.chosenContent frame control offset) fun r =>
      r = true ↔ control &&& 0x80 ≠ 0 ∨ AnnouncesAt frame offset := by
  unfold Walk.chosenContent
  refine .ite (fun hnetwork => .ok (iff_of_true rfl (.inl (bne_iff_ne.1 hnetwork)))) fun hapdu => ?_
  rw [or_iff_right fun h => hapdu (bne_iff_ne.2 h)]
  refine .ite (fun hshort => .ok (iff_of_false Bool.false_ne_true fun h => ?_)) fun hlt =>
    .bind (.read (by omega)) fun first hfirst => .ite
      (fun hne => .pure (iff_of_false Bool.false_ne_true fun h => ?_)) fun heq =>
        .bind (.read (by omega)) fun service hservice => .pure ?_
  · have := h.lt
    omega
  · rw [AnnouncesAt, hfirst] at h
    exact bne_iff_ne.1 hne (Option.some.inj h.1)
  · have htype : first >>> 4 = 1 := by simpa using heq
    rw [AnnouncesAt, hfirst, hservice, Option.map_some, htype, Bool.or_eq_true, beq_iff_eq,
      beq_iff_eq]
    simp only [Option.some.injEq, true_and]

end

/-- The octets of a frame that is copied. -/
structure ChosenOctets (frame : Octets) : Prop where
  type : frame[0]? = some 0x81
  original : IsOriginalNpdu (frame[1]?.getD 0)
  version : frame[4]?.getD 0 = 1
  content : ∃ offset ∈ contentOffset frame (frame[5]?.getD 0),
    frame[5]?.getD 0 &&& 0x80 ≠ 0 ∨ AnnouncesAt frame offset

theorem isStackChosenBroadcast_returns (frame : Octets) (hlong : 6 ≤ frame.length) :
    Returns (isStackChosenBroadcast frame) fun r => r = true ↔ ChosenOctets frame := by
  have hall : Walk.KeepsHeaders (.ok : Keep) := fun _ _ => rfl
  rw [← Walk.isStackChosenBroadcast_eq hall]
  unfold Walk.isStackChosenBroadcast
  refine .ite (fun hshort => absurd hshort (by omega)) fun _ => .bind (.read (by omega))
    fun function hfunction => .bind (.read (by omega)) fun type htype => ?_
  have hsame : (type != 0x81 || (function != 0x0A && function != 0x0B)) = true ↔
      ¬ (frame[0]? = some 0x81 ∧ IsOriginalNpdu (frame[1]?.getD 0)) := by
    rw [htype, hfunction]
    simp only [Option.some.injEq, Option.getD_some, IsOriginalNpdu, Bool.or_eq_true,
      Bool.and_eq_true, bne_iff_ne]
    tauto
  refine .ite (fun hne => .pure ?_) fun heq => .bind (headerEnd_returns frame hlong) fun r hr => ?_
  · exact iff_of_false Bool.false_ne_true fun h => hsame.1 hne ⟨h.type, h.original⟩
  obtain ⟨hbvlc, horiginal⟩ := not_not.1 (mt hsame.2 heq)
  subst hr
  split_ifs with hone
  · have hcontent : ChosenOctets frame ↔ ∃ offset ∈ contentOffset frame (frame[5]?.getD 0),
        frame[5]?.getD 0 &&& 0x80 ≠ 0 ∨ AnnouncesAt frame offset :=
      ⟨fun h => h.content, fun h => ⟨hbvlc, horiginal, hone, h⟩⟩
    cases hoffset : contentOffset frame (frame[5]?.getD 0) with
    | none =>
      refine .pure (iff_of_false Bool.false_ne_true fun h => ?_)
      obtain ⟨_, hmem, -⟩ := h.content
      rw [hoffset] at hmem
      cases hmem
    | some offset =>
      refine .imp (chosenContent_returns frame _ offset) fun r hr => hr.trans ?_
      rw [hcontent, hoffset]
      exact ⟨fun h => ⟨offset, rfl, h⟩, by rintro ⟨_, ⟨⟩, h⟩; exact h⟩
  · exact .pure (iff_of_false Bool.false_ne_true fun h => hone h.version)

/-! ## The walk of the decoder -/

section
variable {frame : Octets}

theorem mem_behindAddress {offset next : Nat} : next ∈ behindAddress frame offset ↔
    next ∈ skipped frame true offset ∧ next ≤ frame.length := by
  unfold behindAddress skipped
  rw [if_pos rfl]
  dsimp only
  split_ifs with hshort hbehind
  · exact iff_of_false nofun fun h => nomatch h.1
  · refine iff_of_false nofun ?_
    rintro ⟨⟨⟩, hle⟩
    omega
  · refine ⟨fun h => ⟨h, ?_⟩, And.left⟩
    obtain rfl := Option.some.inj h
    omega

theorem mem_behindIf {present : Bool} {offset next : Nat} (h : next ≤ frame.length) :
    next ∈ (if present then behindAddress frame offset else some offset) ↔
      next ∈ skipped frame present offset := by
  cases present with
  | true =>
    rw [if_pos rfl, mem_behindAddress]
    exact and_iff_left h
  | false => rfl

theorem le_of_mem_skipped {present : Bool} {offset next : Nat}
    (h : next ∈ skipped frame present offset) : offset ≤ next := by
  unfold skipped at h
  split_ifs at h
  · cases h
  · obtain rfl := Option.some.inj h
    omega
  · exact (Option.some.inj h).le

/-- Where the decoder looks for the content. -/
def decodedOffset (frame : Octets) (control : UInt8) : Option Nat :=
  (if control &&& 0x20 != 0 then behindAddress frame (4 + 2) else some (4 + 2)).bind fun next =>
    contentBehind frame next (control &&& 0x08 != 0) (control &&& 0x20 != 0)

/-- The two walks come to the same octet of the frame. -/
theorem mem_decodedOffset {control : UInt8} {offset : Nat} (h : offset < frame.length) :
    offset ∈ decodedOffset frame control ↔ offset ∈ contentOffset frame control := by
  unfold decodedOffset contentOffset contentBehind
  generalize (control &&& 0x20 != 0) = dest
  have hle (next : Nat) : (if dest then next + 1 else next) = offset → next ≤ frame.length := by
    split_ifs <;> omega
  constructor
  · intro hmem
    obtain ⟨first, hfirst, hmem⟩ := Option.bind_eq_some_iff.1 hmem
    obtain ⟨next, hnext, heq⟩ := Option.map_eq_some_iff.1 hmem
    have hnext := (mem_behindIf (hle next heq)).1 hnext
    have hfirst := (mem_behindIf ((le_of_mem_skipped hnext).trans (hle next heq))).1 hfirst
    exact Option.map_eq_some_iff.2 ⟨next, Option.bind_eq_some_iff.2 ⟨first, hfirst, hnext⟩, heq⟩
  · intro hmem
    obtain ⟨next, hmem, heq⟩ := Option.map_eq_some_iff.1 hmem
    obtain ⟨first, hfirst, hnext⟩ := Option.bind_eq_some_iff.1 hmem
    have hfirst := (mem_behindIf ((le_of_mem_skipped hnext).trans (hle next heq))).2 hfirst
    have hnext := (mem_behindIf (hle next heq)).2 hnext
    exact Option.bind_eq_some_iff.2 ⟨first, hfirst, Option.map_eq_some_iff.2 ⟨next, hnext, heq⟩⟩

end

/-- An I-Am or an I-Have has been found. -/
def DecodedFrame.Announces (d : DecodedFrame) : Prop :=
  d.pduType = some 1 ∧ (d.serviceChoice = some 0 ∨ d.serviceChoice = some 1)

theorem DecodedFrame.PduAt.announces_iff {d : DecodedFrame} {frame : Octets} {offset : Nat}
    (h : d.PduAt frame offset) : d.Announces ↔ AnnouncesAt frame offset := by
  unfold Announces AnnouncesAt
  rw [← h.pduType]
  refine and_congr_right fun hone => ?_
  rw [h.serviceChoice hone]

theorem DecodedFrame.PduBehind.announces_iff {d : DecodedFrame} {frame : Octets}
    {behind : Option Nat} (h : d.PduBehind frame behind) :
    d.Announces ↔ ∃ offset ∈ behind, AnnouncesAt frame offset := by
  cases behind with
  | none =>
    refine iff_of_false (fun hd => ?_) (by simp)
    rw [Announces, show d.pduType = none from h] at hd
    exact nomatch hd.1
  | some offset =>
    rw [PduAt.announces_iff h]
    exact ⟨fun ha => ⟨offset, rfl, ha⟩, by rintro ⟨_, ⟨⟩, ha⟩; exact ha⟩

/-- What makes a decoded frame one of those that are copied. -/
structure DecodedFrame.StackChosen (d : DecodedFrame) (frame : Octets) : Prop where
  original : IsOriginalNpdu d.bvlcFunction
  version : d.npduVersion = 1
  content : d.isNetworkMessage = true ∧ (contentOffset frame d.npduControl).isSome ∨
    d.isNetworkMessage = false ∧ d.Announces

theorem npduOffset_eq_four {function : UInt8} (h : IsOriginalNpdu function) :
    npduOffset function = some 4 := if_pos h

/-- Without an NPDU no version has been found. -/
theorem not_stackChosen {d : DecodedFrame} (frame : Octets) (h : d.npduVersion = 0) :
    ¬ d.StackChosen frame := by
  intro hd
  have hversion := hd.version
  rw [h] at hversion
  exact absurd hversion (by decide)

theorem isStackChosenBroadcast_of_short {frame : Octets} (h : frame.length < 6) :
    isStackChosenBroadcast frame = .ok false := if_pos h

/-- The frame with an NPDU. -/
theorem returns_iff_of_npduAt {frame : Octets} {d : DecodedFrame} {function : UInt8} {b : Bool}
    (hbvlc : IsBvlc frame function) (horiginal : IsOriginalNpdu function)
    (hd : d.NpduAt frame function 4) (hb : b = true ↔ ChosenOctets frame) :
    b = true ↔ d.StackChosen frame := by
  have hnetwork : d.isNetworkMessage = (d.npduControl &&& 0x80 != 0) := by
    rw [hd.isNetworkMessage, hd.npduControl]
  have hcontent : (∃ offset ∈ contentOffset frame d.npduControl,
      d.npduControl &&& 0x80 ≠ 0 ∨ AnnouncesAt frame offset) ↔
        d.isNetworkMessage = true ∧ (contentOffset frame d.npduControl).isSome ∨
          d.isNetworkMessage = false ∧ d.Announces := by
    cases hmessage : d.isNetworkMessage with
    | true =>
      have hbit : d.npduControl &&& 0x80 ≠ 0 := bne_iff_ne.1 (hnetwork.symm.trans hmessage)
      simp only [hbit, ne_eq, not_false_eq_true, true_or, and_true, true_and, Bool.true_eq_false,
        false_and, or_false, Option.isSome_iff_exists, Option.mem_def]
    | false =>
      have hbit : ¬ d.npduControl &&& 0x80 ≠ 0 := by
        intro h
        rw [bne_iff_ne.2 h, hmessage] at hnetwork
        cases hnetwork
      have hpdu : d.PduBehind frame (decodedOffset frame d.npduControl) := by
        rw [hd.npduControl]
        exact hd.pdu hmessage
      rw [hpdu.announces_iff]
      simp only [hbit, false_or, Bool.false_eq_true, false_and, true_and]
      refine exists_congr fun offset => ⟨fun h => ⟨?_, h.2⟩, fun h => ⟨?_, h.2⟩⟩
      · exact (mem_decodedOffset (by have := h.2.lt; omega)).2 h.1
      · exact (mem_decodedOffset (by have := h.2.lt; omega)).1 h.1
  rw [hd.npduControl] at hcontent
  refine hb.trans ⟨fun h => ⟨?_, hd.npduVersion.trans h.version, ?_⟩, fun h =>
    ⟨hbvlc.type, ?_, hd.npduVersion.symm.trans h.version, ?_⟩⟩
  · rw [hd.bvlcFunction]
    exact horiginal
  · rw [hd.npduControl]
    exact hcontent.1 h.content
  · rw [hbvlc.function]
    exact horiginal
  · refine hcontent.2 ?_
    rw [← show d.npduControl = frame[4 + 1]?.getD 0 from hd.npduControl]
    exact h.content

theorem le_npduOffset {function : UInt8} {offset : Nat} (h : npduOffset function = some offset) :
    4 ≤ offset := by
  unfold npduOffset at h
  split_ifs at h
  · exact (Option.some.inj h).le
  · have := Option.some.inj h
    omega

theorem not_stackChosen_of_short {frame : Octets} {d : DecodedFrame} (hshort : frame.length < 6)
    (hd : FoundIn frame d) : ¬ d.StackChosen frame := by
  cases hd with
  | nothing => exact not_stackChosen frame rfl
  | bvlc => exact not_stackChosen frame rfl
  | npdu h hoffset hlong =>
    have := le_npduOffset hoffset
    omega

theorem returns_iff_of_foundIn {frame : Octets} {d : DecodedFrame} {b : Bool}
    (hlong : 6 ≤ frame.length) (hd : FoundIn frame d) (hb : b = true ↔ ChosenOctets frame) :
    b = true ↔ d.StackChosen frame := by
  have hother {function : UInt8} (h : IsBvlc frame function) (hne : ¬ IsOriginalNpdu function) :
      ¬ b = true := by
    intro htrue
    have horiginal := (hb.1 htrue).original
    rw [h.function] at horiginal
    exact hne horiginal
  cases hd with
  | nothing h =>
    refine iff_of_false (fun htrue => ?_) (not_stackChosen frame rfl)
    exact h frame[1] ⟨by omega, (hb.1 htrue).type, List.getElem?_eq_getElem (by omega)⟩
  | @bvlc function h hnpdu =>
    refine iff_of_false (hother h fun horiginal => ?_) (not_stackChosen frame rfl)
    have := hnpdu 4 (npduOffset_eq_four horiginal)
    omega
  | @npdu function offset d h hoffset _ hd =>
    by_cases horiginal : IsOriginalNpdu function
    · rw [npduOffset_eq_four horiginal] at hoffset
      obtain rfl := Option.some.inj hoffset
      exact returns_iff_of_npduAt h horiginal hd hb
    · refine iff_of_false (hother h horiginal) fun hchosen => horiginal ?_
      rw [← hd.bvlcFunction]
      exact hchosen.original

/-- **The copied frames are those that the log shows as an answer of the stack.** -/
theorem isStackChosenBroadcast_iff_decoded (frame : Octets) :
    isStackChosenBroadcast frame = .ok true ↔ (decoded frame).StackChosen frame := by
  by_cases hshort : frame.length < 6
  · rw [isStackChosenBroadcast_of_short hshort]
    exact iff_of_false (by simp) (not_stackChosen_of_short hshort (foundIn_decoded frame))
  obtain ⟨b, hb, hchosen⟩ := isStackChosenBroadcast_returns frame (by omega)
  rw [hb, Except.ok.injEq]
  exact returns_iff_of_foundIn (by omega) (foundIn_decoded frame) hchosen

end Log

end BacnetBc
