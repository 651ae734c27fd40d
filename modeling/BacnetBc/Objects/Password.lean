import BacnetBc.Cert.Node
import BacnetBc.Lib.Memory
import Mathlib.Tactic.SplitIfs

/-!
# The password of a remote device management service

`DeviceCommunicationControl` and `ReinitializeDevice` compare the password of a request with
`DCC_PASSWORD`. The first one compares octet by octet and leaves off at the first difference; the
other calls `PasswordAccepted`, which takes up all differences into one accumulator.

**The requirement** (`Grants`). A request is granted when no password is configured, or when it has
the octets that are configured.

**Theorem (`checked_alike_iff`).** Neither check reads behind the password of the request. Both
grant what is required, unless `PasswordAccepted` has cut the length of the configured password to
32 bits.
-/

namespace BacnetBc

open Memory

def errorCodePasswordFailure : Nat := 26

/-- A string with a NUL behind it, and none in it. -/
structure CString where
  octets : Octets
  ne_zero : ∀ octet ∈ octets, octet ≠ 0

/-- `strlen`. -/
def CString.strlen (s : CString) : Nat := s.octets.length

/-- The password of a request: none, or a buffer of `passwordLength` octets. -/
structure WirePassword where
  password : Option Octets
  passwordLength : UInt8
  length_eq : ∀ octets ∈ password, octets.length = passwordLength.toNat

/-! ## PasswordAccepted -/

/-- The loop of `PasswordAccepted`, with `remaining` octets to go from `i`. -/
def differenceFrom (password required : Octets) (i : Nat) (diff : UInt32) : Nat → Access UInt32
  | 0 => .ok diff
  | remaining + 1 => do
    let octet ← read password i
    let wanted ← read required i
    differenceFrom password required (i + 1) (diff ||| (octet ^^^ wanted).toUInt32) remaining

/-- `PasswordAccepted`. -/
def passwordAccepted (dccPassword : CString) (password : Option Octets) (passwordLength : UInt32) :
    Access Bool :=
  let requiredLength := UInt32.ofNat dccPassword.strlen
  if requiredLength = 0 then .ok true
  else
    match password with
    | none => .ok false
    | some octets =>
      if passwordLength ≠ requiredLength then .ok false
      else (differenceFrom octets dccPassword.octets 0 0 requiredLength.toNat).map (· == 0)

/-! ## DeviceCommunicationControl -/

/-- The loop of `DeviceCommunicationControl`: a plain `char` is signed. -/
def matchesFrom (password required : Octets) (i : Nat) : Nat → Access Bool
  | 0 => .ok true
  | remaining + 1 => do
    let octet ← read password i
    let wanted ← read required i
    if octet.toInt8 ≠ wanted.toInt8 then .ok false
    else matchesFrom password required (i + 1) remaining

/-- `DeviceCommunicationControl`: accepted, or refused with this error code. -/
def deviceCommunicationControl (ownInstance : UInt32) (dccPassword : CString)
    (deviceInstance : UInt32) (password : Option Octets) (passwordLength : UInt8) :
    Access (Except Nat Unit) :=
  if deviceInstance ≠ ownInstance then
    .ok (.error errorCodeOptionalFunctionalityNotSupported)
  else if 0 < dccPassword.strlen then
    match password with
    | none => .ok (.error errorCodePasswordFailure)
    | some octets =>
      if passwordLength.toNat ≠ dccPassword.strlen then .ok (.error errorCodePasswordFailure)
      else
        (matchesFrom octets dccPassword.octets 0 dccPassword.strlen).map fun isMatch =>
          if isMatch then .ok () else .error errorCodePasswordFailure
  else .ok (.ok ())

/-! ## The requirement -/

/-- The request has the password, or needs none. -/
def Grants (dccPassword : CString) (wire : WirePassword) : Prop :=
  dccPassword.octets = [] ∨ wire.password = some dccPassword.octets

instance (dccPassword : CString) (wire : WirePassword) : Decidable (Grants dccPassword wire) :=
  inferInstanceAs (Decidable (_ ∨ _))

/-- Both checks give the verdict that is required. -/
structure CheckedAlike (dccPassword : CString) (wire : WirePassword) : Prop where
  inline : ∀ ownInstance, deviceCommunicationControl ownInstance dccPassword ownInstance
    wire.password wire.passwordLength =
      .ok (if Grants dccPassword wire then .ok () else .error errorCodePasswordFailure)
  shared : passwordAccepted dccPassword wire.password wire.passwordLength.toUInt32 =
    .ok (decide (Grants dccPassword wire))

/-- The configured password is too long for 32 bits, and what is left of it is nothing or is what
the request has. -/
def CutToMatch (dccPassword : CString) (wire : WirePassword) : Prop :=
  UInt32.size ≤ dccPassword.strlen ∧
    (dccPassword.strlen % UInt32.size = 0 ∨
      wire.password = some (dccPassword.octets.take (dccPassword.strlen % UInt32.size)))

/-! ## The loops -/

theorem take_drop_succ {octets : Octets} {i n : Nat} (h : i < octets.length) :
    (octets.drop i).take (n + 1) = octets[i] :: (octets.drop (i + 1)).take n := by
  rw [List.drop_eq_getElem_cons h, List.take_succ_cons]

theorem differenceFrom_spec {password required : Octets} (n : Nat) :
    ∀ (i : Nat) (diff : UInt32), i + n ≤ password.length → i + n ≤ required.length →
      ∃ total, differenceFrom password required i diff n = .ok total ∧
        (total = 0 ↔ diff = 0 ∧ (password.drop i).take n = (required.drop i).take n) := by
  induction n with
  | zero =>
    intro i diff _ _
    exact ⟨diff, rfl, by simp⟩
  | succ n ih =>
    intro i diff hpassword hrequired
    have hi : i < password.length := by omega
    have hj : i < required.length := by omega
    obtain ⟨total, hrun, htotal⟩ := ih (i + 1) (diff ||| (password[i] ^^^ required[i]).toUInt32)
      (by omega) (by omega)
    refine ⟨total, ?_, ?_⟩
    · rw [differenceFrom, read_of_lt hi, ok_bind, read_of_lt hj, ok_bind]
      exact hrun
    · -- the octets add nothing to the accumulator exactly when they are equal
      have hoctet : (password[i] ^^^ required[i]).toUInt32 = 0 ↔ password[i] = required[i] := by
        rw [← UInt8.xor_eq_zero_iff, ← UInt8.toUInt32_inj]
        rfl
      rw [htotal, UInt32.or_eq_zero_iff, hoctet, take_drop_succ hi, take_drop_succ hj,
        List.cons.injEq, and_assoc]

theorem matchesFrom_spec {password required : Octets} (n : Nat) :
    ∀ i, i + n ≤ password.length → i + n ≤ required.length →
      matchesFrom password required i n =
        .ok (decide ((password.drop i).take n = (required.drop i).take n)) := by
  induction n with
  | zero =>
    intro i _ _
    simp [matchesFrom]
  | succ n ih =>
    intro i hpassword hrequired
    have hi : i < password.length := by omega
    have hj : i < required.length := by omega
    rw [matchesFrom, read_of_lt hi, ok_bind, read_of_lt hj, ok_bind, take_drop_succ hi,
      take_drop_succ hj]
    by_cases hne : password[i] = required[i]
    · rw [if_neg (by rw [hne]; exact not_not_intro rfl), ih (i + 1) (by omega) (by omega)]
      simp [hne]
    · have hne' : password[i].toInt8 ≠ required[i].toInt8 := by
        intro heq
        exact hne (congrArg Int8.toUInt8 heq)
      rw [if_pos hne']
      simp [hne]

/-! ## The verdicts -/

variable (dccPassword : CString) (wire : WirePassword)

/-- The length that `PasswordAccepted` requires. -/
def cutLength : Nat := dccPassword.strlen % UInt32.size

theorem length_take_cutLength :
    (dccPassword.octets.take (cutLength dccPassword)).length = cutLength dccPassword := by
  exact List.length_take_of_le (Nat.mod_le _ _)

theorem passwordAccepted_of_length {dccPassword : CString} {password : Option Octets}
    {passwordLength : UInt32} (h : ∀ octets ∈ password, octets.length = passwordLength.toNat) :
    passwordAccepted dccPassword password passwordLength =
      .ok (decide (cutLength dccPassword = 0 ∨
        password = some (dccPassword.octets.take (cutLength dccPassword)))) := by
  have hcut : (UInt32.ofNat dccPassword.strlen).toNat = cutLength dccPassword :=
    UInt32.toNat_ofNat'
  have hzero : UInt32.ofNat dccPassword.strlen = 0 ↔ cutLength dccPassword = 0 := by
    rw [← UInt32.toNat_inj, hcut]
    rfl
  unfold passwordAccepted
  by_cases hnone : cutLength dccPassword = 0
  · rw [if_pos (hzero.2 hnone)]
    simp [hnone]
  rw [if_neg (fun h => hnone (hzero.1 h))]
  cases password with
  | none => simp [hnone]
  | some octets =>
    have hoctets : octets.length = passwordLength.toNat := h octets rfl
    have hlength : passwordLength = UInt32.ofNat dccPassword.strlen ↔
        octets.length = cutLength dccPassword := by
      rw [← UInt32.toNat_inj, hcut, hoctets]
    dsimp only
    by_cases hsame : octets.length = cutLength dccPassword
    · have hrequired : cutLength dccPassword ≤ dccPassword.octets.length := Nat.mod_le _ _
      obtain ⟨total, hrun, htotal⟩ :
          ∃ total, differenceFrom octets dccPassword.octets 0 0 (cutLength dccPassword) =
              .ok total ∧
            (total = 0 ↔ (0 : UInt32) = 0 ∧ (octets.drop 0).take (cutLength dccPassword) =
              (dccPassword.octets.drop 0).take (cutLength dccPassword)) :=
        differenceFrom_spec _ 0 0 (by omega) (by omega)
      rw [if_neg (not_not_intro (hlength.2 hsame)), hcut, hrun]
      have htake : octets.take (cutLength dccPassword) = octets := List.take_of_length_le hsame.le
      rw [List.drop_zero, List.drop_zero, htake] at htotal
      simp only [Except.map, hnone, false_or, Option.some.injEq]
      congr 1
      rw [Bool.eq_iff_iff, beq_iff_eq, htotal, decide_eq_true_iff]
      exact and_iff_right rfl
    · rw [if_pos (fun h => hsame (hlength.1 h))]
      have hne : octets ≠ dccPassword.octets.take (cutLength dccPassword) := by
        intro heq
        apply hsame
        rw [heq, length_take_cutLength]
      simp [hnone, hne]

theorem passwordAccepted_eq :
    passwordAccepted dccPassword wire.password wire.passwordLength.toUInt32 =
      .ok (decide (cutLength dccPassword = 0 ∨
        wire.password = some (dccPassword.octets.take (cutLength dccPassword)))) := by
  apply passwordAccepted_of_length
  intro octets hoctets
  rw [UInt8.toNat_toUInt32]
  exact wire.length_eq octets hoctets

theorem deviceCommunicationControl_eq (ownInstance : UInt32) :
    deviceCommunicationControl ownInstance dccPassword ownInstance wire.password
      wire.passwordLength =
        .ok (if Grants dccPassword wire then .ok () else .error errorCodePasswordFailure) := by
  unfold deviceCommunicationControl
  rw [if_neg (not_not_intro rfl)]
  by_cases hnone : dccPassword.octets = []
  · have hgrants : Grants dccPassword wire := .inl hnone
    rw [if_neg (by simp [CString.strlen, hnone]), if_pos hgrants]
  have hpos : 0 < dccPassword.strlen := List.length_pos_iff.2 hnone
  rw [if_pos hpos]
  cases hpassword : wire.password with
  | none =>
    have hgrants : ¬ Grants dccPassword wire := by
      simp [Grants, hnone, hpassword]
    rw [if_neg hgrants]
  | some octets =>
    have hgrants : Grants dccPassword wire ↔ octets = dccPassword.octets := by
      simp [Grants, hnone, hpassword]
    have hoctets : octets.length = wire.passwordLength.toNat := wire.length_eq octets hpassword
    dsimp only
    rw [← hoctets]
    by_cases hsame : octets.length = dccPassword.strlen
    · have hrequired : octets.length = dccPassword.octets.length := hsame
      rw [if_neg (not_not_intro hsame), ← hsame, matchesFrom_spec _ _ (by omega) (by omega)]
      have htake : dccPassword.octets.take octets.length = dccPassword.octets :=
        List.take_of_length_le hrequired.ge
      simp only [List.drop_zero, List.take_length, htake, hgrants, Except.map, decide_eq_true_eq]
    · have hne : ¬ Grants dccPassword wire := by
        rw [hgrants]
        rintro rfl
        exact hsame rfl
      rw [if_pos hsame, if_neg hne]

/-- The verdict of `PasswordAccepted` is the one required, unless its length was cut. -/
theorem cutLength_iff :
    ((cutLength dccPassword = 0 ∨
        wire.password = some (dccPassword.octets.take (cutLength dccPassword))) ↔
      Grants dccPassword wire) ↔ ¬ CutToMatch dccPassword wire := by
  by_cases hlong : UInt32.size ≤ dccPassword.strlen
  · -- nothing is granted: no request has a password that long
    have hgrants : ¬ Grants dccPassword wire := by
      rintro (hnone | hpassword)
      · rw [CString.strlen, hnone] at hlong
        exact absurd hlong (by decide)
      · have hlength := wire.length_eq _ hpassword
        have hlt : wire.passwordLength.toNat < UInt8.size := wire.passwordLength.toNat_lt
        have hsize : UInt8.size < UInt32.size := by decide
        rw [CString.strlen, hlength] at hlong
        omega
    rw [iff_false_intro hgrants, iff_false, CutToMatch, and_iff_right hlong]
    rfl
  · have hcut : cutLength dccPassword = dccPassword.strlen := Nat.mod_eq_of_lt (not_le.1 hlong)
    have hfits : ¬ CutToMatch dccPassword wire := fun h => hlong h.1
    refine iff_of_true ?_ hfits
    rw [hcut, CString.strlen, List.take_length, List.length_eq_zero_iff]
    exact Iff.rfl

/-- **The two checks of a password.** -/
theorem checked_alike_iff :
    (∃ verdict, passwordAccepted dccPassword wire.password wire.passwordLength.toUInt32 =
        .ok verdict) ∧
      (∀ ownInstance, ∃ answer, deviceCommunicationControl ownInstance dccPassword ownInstance
        wire.password wire.passwordLength = .ok answer) ∧
      (CheckedAlike dccPassword wire ↔ ¬ CutToMatch dccPassword wire) := by
  refine ⟨⟨_, passwordAccepted_eq dccPassword wire⟩,
    fun ownInstance => ⟨_, deviceCommunicationControl_eq dccPassword wire ownInstance⟩, ?_⟩
  rw [← cutLength_iff]
  constructor
  · intro h
    have hshared := h.shared
    rw [passwordAccepted_eq] at hshared
    exact decide_eq_decide.1 (Except.ok.inj hshared)
  · intro h
    refine ⟨deviceCommunicationControl_eq dccPassword wire, ?_⟩
    rw [passwordAccepted_eq, decide_eq_decide.2 h]

/-- A password of 4 GiB: its length is cut to 0, and every request is granted. -/
theorem cut_to_nothing :
    ¬ ∀ (dccPassword : CString) (wire : WirePassword), CheckedAlike dccPassword wire := by
  let dccPassword : CString :=
    ⟨List.replicate UInt32.size 0x41, fun octet h => by
      rw [List.eq_of_mem_replicate h]
      decide⟩
  let wire : WirePassword := ⟨none, 0, fun octets h => by cases h⟩
  intro h
  have hlength : dccPassword.strlen = UInt32.size := List.length_replicate
  have hcut : cutLength dccPassword = 0 := by
    rw [cutLength, hlength, Nat.mod_self]
  have hfits := (cutLength_iff dccPassword wire).1 ?_
  · exact hfits ⟨hlength.ge, .inl hcut⟩
  · have hshared := (h dccPassword wire).shared
    rw [passwordAccepted_eq] at hshared
    exact decide_eq_decide.1 (Except.ok.inj hshared)

end BacnetBc
