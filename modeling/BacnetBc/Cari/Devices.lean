import BacnetBc.Cari.Answer

/-!
# One folder for each device

The folder of a device in `cert1/` is called after its instance, in decimal digits. `DeviceInstance`
reads the digits as a number, so zeros in front of them make another folder for the same device.

**Theorem (`one_per_device_iff`).** In an accepted tree distinct device folders are for distinct
devices exactly when no two of them differ in leading zeros alone. Then the device folder of a
request is the only one for its device.
-/

namespace BacnetBc.Cari

open Memory
open Path hiding split

/-- The tree has the folder `cert1/device`, and that is a device folder by its name. -/
structure HasDevice (tree : Tree) (device : Octets) : Prop where
  slash : slash ∉ device
  start : startsWith device (octetsOf "device-") = true
  mem : octetsOf "cert1/" ++ device ∈ tree.folders

/-- Distinct device folders are for distinct devices. -/
def OnePerDevice (tree : Tree) : Prop :=
  ∀ device device', HasDevice tree device → HasDevice tree device' → device ≠ device' →
    deviceInstance device ≠ deviceInstance device'

/-- Two device folders differ in leading zeros alone. -/
def SpelledTwice (tree : Tree) : Prop :=
  ∃ k digits, 0 < k ∧ HasDevice tree (octetsOf "device-" ++ digits) ∧
    HasDevice tree (octetsOf "device-" ++ (List.replicate k 0x30 ++ digits))

/-! ## The instance of a name -/

/-- The digits of a device folder's name. -/
structure InstanceDigits (device digits : Octets) : Prop where
  eq : device = octetsOf "device-" ++ digits
  isDigit : ∀ octet ∈ digits, Decimal.isDigit octet = true
  le : Decimal.value digits ≤ 4194302

theorem deviceInstance_eq_some {device : Octets} {instance' : UInt32}
    (h : deviceInstance device = some instance') :
    ∃ digits, InstanceDigits device digits ∧ instance' = UInt32.ofNat (Decimal.value digits) := by
  unfold deviceInstance at h
  dsimp only at h
  split_ifs at h with hname hdigits hvalue
  simp only [Bool.or_eq_true, Bool.not_eq_true', not_or, Bool.not_eq_false] at hname
  obtain ⟨digits, rfl⟩ := startsWith_iff.1 hname.1.1
  have hdrop : (octetsOf "device-" ++ digits).drop 7 = digits := List.drop_left' (by rfl)
  rw [hdrop] at h hdigits hvalue
  simp only [Bool.not_eq_true', Bool.not_eq_false, List.all_eq_true] at hdigits
  exact ⟨digits, ⟨rfl, hdigits, not_lt.1 hvalue⟩, (Option.some.inj h).symm⟩

theorem ofNat_inj {a b : Nat} (ha : a ≤ 4194302) (hb : b ≤ 4194302)
    (h : UInt32.ofNat a = UInt32.ofNat b) : a = b := by
  have hnat := congrArg UInt32.toNat h
  rw [UInt32.toNat_ofNat', UInt32.toNat_ofNat'] at hnat
  omega

/-- Two names are for one device when they differ in leading zeros. -/
theorem deviceInstance_eq_iff {device device' digits digits' : Octets} {i i' : UInt32}
    (h : InstanceDigits device digits) (h' : InstanceDigits device' digits')
    (hi : i = UInt32.ofNat (Decimal.value digits))
    (hi' : i' = UInt32.ofNat (Decimal.value digits')) :
    i = i' ↔ ∃ k, digits' = List.replicate k 0x30 ++ digits ∨
      digits = List.replicate k 0x30 ++ digits' := by
  rw [← Decimal.value_eq_iff h.isDigit h'.isDigit, hi, hi']
  constructor
  · exact ofNat_inj h.le h'.le
  · exact congrArg UInt32.ofNat

/-! ## Accepted trees -/

theorem exists_ok_of_mapM {α β : Type} {f : α → Access β} {l : List α} {bs : List β}
    (h : l.mapM f = .ok bs) : ∀ a ∈ l, ∃ b, f a = .ok b := by
  induction l generalizing bs with
  | nil => exact fun a ha => absurd ha List.not_mem_nil
  | cons a l ih =>
    rw [List.mapM_cons] at h
    obtain ⟨b, hb, h⟩ := bind_eq_ok.1 h
    obtain ⟨bs', hbs', -⟩ := bind_eq_ok.1 h
    exact List.forall_mem_cons.2 ⟨⟨b, hb⟩, ih hbs'⟩

/-- `Validate` takes the first part of each path. -/
theorem ne_nil_of_validate {tree : Tree} {response : Bool} {problems : List Octets}
    (h : validate tree response = .ok problems) (path : Octets)
    (hpath : path ∈ tree.files ∨ path ∈ tree.folders) : path ≠ [] := by
  obtain ⟨folders, hfolders, h⟩ := bind_eq_ok.1 h
  obtain ⟨files, hfiles, -⟩ := bind_eq_ok.1 h
  rintro rfl
  have hempty {α : Type} {f : Octets × List Octets → Access α} :
      ¬ ∃ b, (parts [] >>= f) = .ok b := by
    rintro ⟨b, hb⟩
    obtain ⟨a, ha, -⟩ := bind_eq_ok.1 hb
    cases ha
  rcases hpath with hpath | hpath
  · obtain ⟨bytes, hbytes⟩ :=
      Option.isSome_iff_exists.1 (Std.ExtTreeMap.mem_iff_isSome_getElem?.1 hpath)
    have hmem : (([] : Octets), bytes) ∈ tree.files.toList :=
      Std.ExtTreeMap.mem_toList_iff_getElem?_eq_some.2 hbytes
    exact hempty (exists_ok_of_mapM hfiles _ hmem)
  · exact hempty (exists_ok_of_mapM hfolders _ (Std.ExtTreeSet.mem_toList.2 hpath))

theorem accepted_of_validate {tree : Tree} {response : Bool}
    (h : validate tree response = .ok []) : Accepted tree response :=
  (validate_eq_nil_iff response (ne_nil_of_validate h)).1 h

theorem split_devicePath {device : Octets} (hslash : slash ∉ device) (hne : device ≠ []) :
    split (octetsOf "cert1/" ++ device) = [octetsOf "cert1", device] := by
  have hcert1 : octetsOf "cert1/" ++ device = octetsOf "cert1" ++ slash :: device := rfl
  rw [hcert1, split, split_append_cons (by decide), split_eq_singleton hne hslash]

/-- In an accepted tree a device folder has an instance. -/
theorem HasDevice.exists_digits {tree : Tree} {response : Bool} {device : Octets}
    (haccepted : Accepted tree response) (h : HasDevice tree device) :
    ∃ digits, InstanceDigits device digits ∧
      deviceInstance device = some (UInt32.ofNat (Decimal.value digits)) := by
  have hne : device ≠ [] := by
    rintro rfl
    exact absurd h.start (by decide)
  have hissuer : device ≠ octetsOf "issuer" := by
    rintro rfl
    exact absurd h.start (by decide)
  have hverdict := haccepted.folders _ h.mem
  rw [verdictOf, split_devicePath h.slash hne] at hverdict
  simp only [folderVerdict, ne_eq, not_true_eq_false, if_false, hissuer] at hverdict
  cases hinstance : deviceInstance device with
  | none =>
    rw [hinstance] at hverdict
    cases hverdict
  | some instance' =>
    obtain ⟨digits, hdigits, rfl⟩ := deviceInstance_eq_some hinstance
    exact ⟨digits, hdigits, rfl⟩

/-! ## Distinct devices -/

theorem SpelledTwice.not_onePerDevice {tree : Tree} {response : Bool}
    (haccepted : Accepted tree response) (h : SpelledTwice tree) : ¬ OnePerDevice tree := by
  obtain ⟨k, digits, hk, hdevice, hdevice'⟩ := h
  obtain ⟨short, hshort, heq⟩ := hdevice.exists_digits haccepted
  obtain ⟨long, hlong, heq'⟩ := hdevice'.exists_digits haccepted
  obtain rfl := List.append_cancel_left hshort.eq
  obtain rfl := List.append_cancel_left hlong.eq
  have hne : octetsOf "device-" ++ digits ≠
      octetsOf "device-" ++ (List.replicate k 0x30 ++ digits) := by
    intro hsame
    have hlength := congrArg List.length (List.append_cancel_left hsame)
    rw [List.length_append, List.length_replicate] at hlength
    omega
  intro hone
  refine hone _ _ hdevice hdevice' hne ?_
  rw [heq, heq', Decimal.value_zeros]

theorem onePerDevice_of_not_spelledTwice {tree : Tree} {response : Bool}
    (haccepted : Accepted tree response) (h : ¬ SpelledTwice tree) : OnePerDevice tree := by
  intro device device' hdevice hdevice' hne heq
  obtain ⟨digits, hdigits, hinstance⟩ := hdevice.exists_digits haccepted
  obtain ⟨digits', hdigits', hinstance'⟩ := hdevice'.exists_digits haccepted
  rw [hinstance, hinstance', Option.some.injEq] at heq
  obtain ⟨k, hzeros⟩ := (deviceInstance_eq_iff hdigits hdigits' rfl rfl).1 heq
  rw [hdigits.eq] at hdevice hne
  rw [hdigits'.eq] at hdevice' hne
  have hpos : 0 < k := by
    rw [Nat.pos_iff_ne_zero]
    rintro rfl
    rcases hzeros with rfl | rfl
    · exact hne rfl
    · exact hne rfl
  rcases hzeros with rfl | rfl
  · exact h ⟨k, digits, hpos, hdevice, hdevice'⟩
  · exact h ⟨k, digits', hpos, hdevice', hdevice⟩

/-- The device folder of a request is in the tree. -/
theorem hasDevice_of_mem {tree : Tree} (hcomplete : tree.Complete) {entry : CsrEntry}
    (h : entry ∈ listCsrs tree) :
    HasDevice tree entry.deviceFolder ∧
      deviceInstance entry.deviceFolder = some entry.deviceInstance := by
  obtain ⟨hmem, hentry, device, port, name, hcsr, -⟩ := isCsr_of_mem h
  obtain ⟨entry', hentry', -, -, hdevice, hinstance⟩ := csrEntry_of_isCsr hcsr tree
  obtain rfl := Option.some.inj (hentry.symm.trans hentry')
  rw [hdevice]
  refine ⟨⟨hcsr.slash_device, ?_, ?_⟩, hinstance⟩
  · obtain ⟨digits, hdigits, -⟩ := deviceInstance_eq_some hinstance
    exact startsWith_iff.2 ⟨digits, hdigits.eq⟩
  · apply hcomplete.closed _ (.inl hmem)
    refine ⟨port ++ slash :: (octetsOf "csr-" ++ name ++ octetsOf ".pem"), ?_⟩
    have hslash : octetsOf "/" = [slash] := rfl
    rw [hcsr.path_eq (hcomplete.safePath (.inl hmem)), portFolderPath, hslash]
    simp only [List.append_assoc, List.cons_append, List.nil_append]

/-- **When there is one folder for each device.** -/
theorem one_per_device_iff {tree : Tree} {response : Bool} (h : validate tree response = .ok []) :
    (OnePerDevice tree ↔ ¬ SpelledTwice tree) ∧
      (tree.Complete → OnePerDevice tree → ∀ entry ∈ listCsrs tree, ∀ device,
        HasDevice tree device → deviceInstance device = some entry.deviceInstance →
          device = entry.deviceFolder) := by
  have haccepted := accepted_of_validate h
  refine ⟨⟨?_, onePerDevice_of_not_spelledTwice haccepted⟩, ?_⟩
  · intro hone htwice
    exact htwice.not_onePerDevice haccepted hone
  · intro hcomplete hone entry hentry device hdevice hinstance
    obtain ⟨hown, hownInstance⟩ := hasDevice_of_mem hcomplete hentry
    by_contra hne
    exact hone device entry.deviceFolder hdevice hown hne (hinstance.trans hownInstance.symm)

/-- Two devices, each with a port. -/
def twoDevices (device device' : Octets) : Tree :=
  (Tree.empty.addFolder (octetsOf "cert1/" ++ device ++ octetsOf "/port-4")).addFolder
    (octetsOf "cert1/" ++ device' ++ octetsOf "/port-4")

theorem one_per_device_iff_two :
    (OnePerDevice (twoDevices (octetsOf "device-1") (octetsOf "device-2")) ↔
        ¬ SpelledTwice (twoDevices (octetsOf "device-1") (octetsOf "device-2"))) ∧
      ((twoDevices (octetsOf "device-1") (octetsOf "device-2")).Complete →
        OnePerDevice (twoDevices (octetsOf "device-1") (octetsOf "device-2")) →
          ∀ entry ∈ listCsrs (twoDevices (octetsOf "device-1") (octetsOf "device-2")), ∀ device,
            HasDevice (twoDevices (octetsOf "device-1") (octetsOf "device-2")) device →
              deviceInstance device = some entry.deviceInstance → device = entry.deviceFolder) :=
  one_per_device_iff (show validate _ false = .ok [] by rfl)

/-- `cert1/device-1` and `cert1/device-01`. -/
theorem device_spelled_twice :
    ¬ ∀ (tree : Tree) (response : Bool), validate tree response = .ok [] → OnePerDevice tree := by
  intro h
  have hone := h (twoDevices (octetsOf "device-1") (octetsOf "device-01")) false (by rfl)
  have hne : octetsOf "device-1" ≠ octetsOf "device-01" := by decide
  refine hone _ _ ⟨by decide, by decide, ?_⟩ ⟨by decide, by decide, ?_⟩ hne (by decide)
  · exact Std.ExtTreeSet.contains_iff_mem.1 (by rfl)
  · exact Std.ExtTreeSet.contains_iff_mem.1 (by rfl)

end BacnetBc.Cari
