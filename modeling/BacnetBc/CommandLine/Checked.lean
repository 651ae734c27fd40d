import BacnetBc.CommandLine.Reading

/-!
# What `Run` promises

**The fields** (`Options.Holds`). After `Run` each field is what the last value of its option says,
or its default. The text of a number stands for the number itself: the checks keep each of them
within its field.

**Theorem (`run_checked`).** After `Run` every field is in its range and the options go together.
Wherever an option was expected, there was `--xml` or an option with a value that it accepts.
-/

namespace BacnetBc.CommandLine

open Memory

/-! ## The fields -/

/-- The field of an option is what the value says, or its default. -/
def Options.Holds (options : Options) (given : Option Octets) : ValueOption → Prop
  | .datalink => options.dataLink = (given.bind dataLinkOf).getD .ipv4
  | .deviceID => options.deviceInstance.toNat = (given.map Decimal.value).getD 389005
  | .deviceName => True
  | .port => options.udpPort.toNat = (given.map Decimal.value).getD 47808
  | .link .interface => options.ipv6InterfaceIndex.toNat = (given.map Decimal.value).getD 0
  | .link .mstpPort => options.mstpPortName = given.getD []
  | .link .mstpBaud => options.mstpBaudRate.toNat = (given.map Decimal.value).getD 38400
  | .link .mstpMac => options.mstpMacAddress.toNat = (given.map Decimal.value).getD 1
  | .link .mstpMaxMaster => options.mstpMaxMaster.toNat = (given.map Decimal.value).getD 127
  | .link .mstpMaxInfoFrames => options.mstpMaxInfoFrames.toNat = (given.map Decimal.value).getD 1
  | .link .scHub => options.scPrimaryHubUri = given.getD []
  | .link .scFailoverHub => options.scFailoverHubUri = given.getD []
  | .link .scCertDir => options.scCertificateDirectory = given.getD (octetsOf "./certs")
  | .link .importCari => options.importCariZip = given.getD []

/-- A number that fits its field is held as it is. -/
theorem toNat_getD {β : Type} {ofNat : Nat → β} {toNat : β → Nat} {given : Option Octets}
    (maximum default : Nat) (hround : ∀ n ≤ maximum, toNat (ofNat n) = n)
    (hgiven : ∀ v, given = some v → Decimal.value v ≤ maximum) (hdefault : default ≤ maximum) :
    toNat ((given.map fun v => ofNat (Decimal.value v)).getD (ofNat default)) =
      (given.map Decimal.value).getD default := by
  cases given with
  | none => exact hround default hdefault
  | some v => exact hround _ (hgiven v rfl)

theorem toNat_ofNat32 {n : Nat} (h : n ≤ 0xFFFFFFFF) : (UInt32.ofNat n).toNat = n :=
  UInt32.toNat_ofNat_of_lt' (Nat.lt_succ_of_le h)

theorem toNat_ofNat16 {n : Nat} (h : n ≤ 65535) : (UInt16.ofNat n).toNat = n :=
  UInt16.toNat_ofNat_of_lt' (Nat.lt_succ_of_le h)

theorem toNat_ofNat8 {n : Nat} (h : n ≤ 255) : (UInt8.ofNat n).toNat = n :=
  UInt8.toNat_ofNat_of_lt' (Nat.lt_succ_of_le h)

theorem holds_ofLast {b : Build} {last : ValueOption → Option Octets}
    (h : ∀ o v, last o = some v → o.Accepts b v) (o : ValueOption) :
    (Options.ofLast last).Holds (last o) o := by
  cases o with
  | datalink => rfl
  | deviceID =>
    apply toNat_getD 4194302 389005 (fun n hn => toNat_ofNat32 (hn.trans (by decide)))
    · intro v hv
      exact (h .deviceID v hv).value_le
    · decide
  | deviceName => trivial
  | port =>
    apply toNat_getD 65535 47808 (fun n hn => toNat_ofNat16 hn)
    · intro v hv
      exact (h .port v hv).value_le
    · decide
  | link o =>
    cases o with
    | interface =>
      apply toNat_getD 0xFFFFFFFF 0 (fun n hn => toNat_ofNat32 hn)
      · intro v hv
        exact (h (.link .interface) v hv).value_le
      · decide
    | mstpPort => rfl
    | mstpBaud =>
      apply toNat_getD 0xFFFFFFFF 38400 (fun n hn => toNat_ofNat32 hn)
      · intro v hv
        exact (h (.link .mstpBaud) v hv).1.value_le
      · decide
    | mstpMac =>
      apply toNat_getD 127 1 (fun n hn => toNat_ofNat8 (hn.trans (by decide)))
      · intro v hv
        exact (h (.link .mstpMac) v hv).value_le
      · decide
    | mstpMaxMaster =>
      apply toNat_getD 127 127 (fun n hn => toNat_ofNat8 (hn.trans (by decide)))
      · intro v hv
        exact (h (.link .mstpMaxMaster) v hv).value_le
      · decide
    | mstpMaxInfoFrames =>
      apply toNat_getD 255 1 (fun n hn => toNat_ofNat8 hn)
      · intro v hv
        exact (h (.link .mstpMaxInfoFrames) v hv).value_le
      · decide
    | scHub => rfl
    | scFailoverHub => rfl
    | scCertDir => rfl
    | importCari => rfl

/-! ## The command line -/

/-- What holds of the options that a row of items gives. -/
structure Checked (b : Build) (items : List (Item ValueOption)) (options : Options) : Prop where
  deviceInstance : options.deviceInstance.toNat ≤ 4194302
  udpPort : 1 ≤ options.udpPort.toNat ∧ options.udpPort.toNat ≤ 65535
  mstpBaudRate : options.mstpBaudRate.toNat ∈ supportedBaudRates
  has76800Baud : options.mstpBaudRate.toNat = 76800 → b.has76800Baud = true
  mac_le_maxMaster : options.mstpMacAddress ≤ options.mstpMaxMaster
  maxMaster_le : options.mstpMaxMaster.toNat ≤ 127
  maxInfoFrames : 1 ≤ options.mstpMaxInfoFrames.toNat ∧ options.mstpMaxInfoFrames.toNat ≤ 255
  linkOption : ∀ o v, .value (.link o) v ∈ items → o.dataLink = options.dataLink
  port : ∀ v, .value .port v ∈ items → options.dataLink = .ipv4 ∨ options.dataLink = .ipv6
  serialPort : options.dataLink = .mstp → options.mstpPortName ≠ []
  hub : options.dataLink = .sc → options.scPrimaryHubUri ≠ [] ∨ options.importCariZip ≠ []
  holds : ∀ o, options.Holds (lastValue items o) o

/-- Where an option is expected, there is `--xml` or a known option with a value that it accepts. -/
def Expected (b : Build) (argument : Octets) (rest : List Octets) : Prop :=
  argument = octetsOf "--xml" ∨
    ∃ o v after, argument = octetsOf (ValueOption.name o) ∧ rest = v :: after ∧ o.Accepts b v

theorem getD_value (P : Nat → Prop) {given : Option Octets} {default : Nat}
    (hgiven : ∀ v, given = some v → P (Decimal.value v)) (hdefault : P default) :
    P ((given.map Decimal.value).getD default) := by
  cases given with
  | none => exact hdefault
  | some v => exact hgiven v rfl

theorem number_mem_range {given : Option Octets} {minimum maximum default : Nat}
    (hgiven : ∀ v, given = some v → NumberIn minimum maximum v)
    (hdefault : minimum ≤ default ∧ default ≤ maximum) :
    minimum ≤ (given.map Decimal.value).getD default ∧
      (given.map Decimal.value).getD default ≤ maximum :=
  getD_value (fun n => minimum ≤ n ∧ n ≤ maximum)
    (fun v hv => ⟨(hgiven v hv).le_value, (hgiven v hv).value_le⟩) hdefault

theorem lastValue_mem {items : List (Item ValueOption)} {o : ValueOption} {v : Octets}
    (h : lastValue items o = some v) : .value o v ∈ items :=
  Item.mem_pairs.1 (LastWins.mem_of_last h)

theorem isSome_lastValue {items : List (Item ValueOption)} {o : ValueOption} {v : Octets}
    (h : .value o v ∈ items) : (lastValue items o).isSome = true :=
  LastWins.isSome_last_iff.2 (List.mem_map.2 ⟨_, Item.mem_pairs.2 h, rfl⟩)

/-- MAC and Max_Master are checked against each other on MS/TP. On another data link both are at
their defaults. -/
theorem mac_le_maxMaster {b : Build} {items : List (Item ValueOption)} {options : Options}
    (h : Runs b items options) : options.mstpMacAddress ≤ options.mstpMaxMaster := by
  have hcombines := h.combines
  rw [h.options_eq]
  by_cases hmstp : (Options.ofLast (lastValue items)).dataLink = .mstp
  · exact hcombines.mac hmstp
  · have hnone : ∀ o : LinkOption, o.dataLink = .mstp → lastValue items (.link o) = none := by
      intro o hlink
      by_contra hgiven
      have hsome := Option.isSome_iff_ne_none.2 hgiven
      exact hmstp ((hcombines.linkOption o hsome).symm.trans hlink)
    simp only [Options.ofLast, hnone .mstpMac rfl, hnone .mstpMaxMaster rfl]
    decide

theorem checked_of_runs {b : Build} {items : List (Item ValueOption)} {options : Options}
    (h : Runs b items options) : Checked b items options := by
  have haccepts : ∀ o v, lastValue items o = some v → o.Accepts b v := by
    intro o v hlast
    exact h.accepted o v (lastValue_mem hlast)
  have hholds : ∀ o, options.Holds (lastValue items o) o := by
    intro o
    rw [h.options_eq]
    exact holds_ofLast haccepts o
  have hcombines := h.combines
  have hlink : (Settled.ofLast (lastValue items)).options = options := h.options_eq.symm
  constructor
  case deviceInstance =>
    rw [hholds .deviceID]
    exact (number_mem_range (haccepts .deviceID) (by decide)).2
  case udpPort =>
    rw [hholds .port]
    exact number_mem_range (haccepts .port) (by decide)
  case mstpBaudRate =>
    rw [hholds (.link .mstpBaud)]
    exact getD_value (· ∈ supportedBaudRates)
      (fun v hv => (haccepts (.link .mstpBaud) v hv).2.1) (by decide)
  case has76800Baud =>
    rw [hholds (.link .mstpBaud)]
    exact getD_value (fun n => n = 76800 → b.has76800Baud = true)
      (fun v hv => (haccepts (.link .mstpBaud) v hv).2.2) (fun heq => absurd heq (by decide))
  case mac_le_maxMaster => exact mac_le_maxMaster h
  case maxMaster_le =>
    rw [hholds (.link .mstpMaxMaster)]
    exact (number_mem_range (haccepts (.link .mstpMaxMaster)) (by decide)).2
  case maxInfoFrames =>
    rw [hholds (.link .mstpMaxInfoFrames)]
    exact number_mem_range (haccepts (.link .mstpMaxInfoFrames)) (by decide)
  case linkOption =>
    intro o v hmem
    rw [← hlink]
    exact hcombines.linkOption o (isSome_lastValue hmem)
  case port =>
    intro v hmem
    have hne := hcombines.port (isSome_lastValue hmem)
    rw [hlink] at hne
    cases hdata : options.dataLink with
    | ipv4 => exact .inl rfl
    | ipv6 => exact .inr rfl
    | mstp => exact absurd hdata hne.1
    | sc => exact absurd hdata hne.2
  case serialPort =>
    rw [← hlink]
    exact hcombines.serialPort
  case hub =>
    rw [← hlink]
    exact hcombines.hub
  case holds => exact hholds

theorem expected_of_accepted {b : Build} {items read : List (Item ValueOption)}
    (h : ∀ o v, .value o v ∈ items → o.Accepts b v) {argument : Octets} {rest : List Octets}
    (heq : argumentsOf items = argumentsOf read ++ argument :: rest) :
    Expected b argument rest := by
  have hxml : ∀ (o : ValueOption) (v : Octets) (l : List (Item ValueOption)),
      .value o v ∈ l → octetsOf o.name ≠ octetsOf "--xml" := fun o _ _ _ => o.name_ne_xml
  obtain ⟨after, rfl, hafter⟩ := Item.exists_of_flatMap_append ValueOption.name_injective
    (fun o v => hxml o v read) (fun o v => hxml o v items) heq.symm
  cases after with
  | nil => simp at hafter
  | cons item after =>
    cases item with
    | xml =>
      left
      exact (List.cons.inj hafter).1
    | value o v =>
      right
      refine ⟨o, v, argumentsOf after, (List.cons.inj hafter).1, (List.cons.inj hafter).2, ?_⟩
      exact h o v (by simp)

/-- **What `Run` promises.** -/
theorem run_checked {b : Build} {args : List Octets} {options : Options}
    (h : parseCommandLine b args = .run options) :
    (∃ items, args = argumentsOf items ∧ Checked b items options) ∧
      ∀ read argument rest, args = argumentsOf read ++ argument :: rest →
        Expected b argument rest := by
  obtain ⟨items, rfl, hruns⟩ := (run_iff b _ options).1 h
  refine ⟨⟨items, rfl, checked_of_runs hruns⟩, ?_⟩
  intro read argument rest heq
  exact expected_of_accepted hruns.accepted heq

/-- A system with a 64-bit `unsigned long` and `B76800`. -/
def linux : Build where
  ulongMax := 0xFFFFFFFFFFFFFFFF
  has76800Baud := true
  le_ulongMax := by decide

/-- `--mstp-mac 12 --xml --datalink mstp --mstp-port COM3 --mstp-mac 7`. -/
def mstpArguments : List Octets :=
  ["--mstp-mac", "12", "--xml", "--datalink", "mstp", "--mstp-port", "COM3", "--mstp-mac", "7"].map
    octetsOf

def mstpOptions : Options where
  dataLink := .mstp
  mstpPortName := octetsOf "COM3"
  mstpMacAddress := 7

theorem run_checked_mstp :
    (∃ items, mstpArguments = argumentsOf items ∧ Checked linux items mstpOptions) ∧
      ∀ read argument rest, mstpArguments = argumentsOf read ++ argument :: rest →
        Expected linux argument rest :=
  run_checked (by decide)

end BacnetBc.CommandLine
