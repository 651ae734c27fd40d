import BacnetBc.CommandLine.Parse
import BacnetBc.Lib.LastWins

/-!
# What a command line says

**The reading** (`Item`). A command line is a row of items: `--xml`, or an option with a value. It
is read in one way only (`Item.flatMap_arguments_inj`).

**The values** (`ValueOption.Accepts`, `Options.ofLast`). An option says which values it accepts,
and the options that result are a function of the last value each option was given.

**Theorem (`run_iff`).** `ParseCommandLine` returns `Run` exactly when nothing asks for help, the
arguments are a row of items, each value is accepted and the combination is one data link's.

**Theorem (`run_checked`).** What the rest of the device may rely on.
-/

namespace BacnetBc.CommandLine

open Memory Cari

/-! ## Numbers -/

/-- The text is a decimal number in the range, with nothing around the digits. -/
structure NumberIn (minimum maximum : Nat) (text : Octets) : Prop where
  ne_nil : text ≠ []
  digits : ∀ octet ∈ text, Decimal.isDigit octet = true
  le_value : minimum ≤ Decimal.value text
  value_le : Decimal.value text ≤ maximum

theorem isSpace_of_isDigit {octet : UInt8} (h : Decimal.isDigit octet = true) :
    isSpace octet = false := by
  simp only [Decimal.isDigit, Bool.and_eq_true, decide_eq_true_eq, UInt8.le_iff_toNat_le] at h
  have hlow : 48 ≤ octet.toNat := h.1
  have hnot : ¬ octet.toNat ≤ 13 := by omega
  have hne : octet ≠ 0x20 := by
    intro heq
    subst heq
    exact absurd hlow (by decide)
  simp only [isSpace, Bool.or_eq_false_iff, Bool.and_eq_false_iff, UInt8.le_iff_toNat_le]
  exact ⟨beq_false_of_ne hne, .inr (decide_eq_false hnot)⟩

/-- After a digit there is no white space and no sign to read. -/
theorem strtoul_digit (b : Build) {octet : UInt8} (h : Decimal.isDigit octet = true)
    (rest : Octets) :
    strtoul b (octet :: rest) =
      if b.ulongMax < Decimal.value ((octet :: rest).takeWhile Decimal.isDigit) then
        { value := b.ulongMax, parseEnd := (octet :: rest).dropWhile Decimal.isDigit,
          outOfRange := true }
      else
        { value := Decimal.value ((octet :: rest).takeWhile Decimal.isDigit),
          parseEnd := (octet :: rest).dropWhile Decimal.isDigit, outOfRange := false } := by
  have hspace : (octet :: rest).dropWhile isSpace = octet :: rest :=
    List.dropWhile_cons_of_neg (by simp [isSpace_of_isDigit h])
  have hminus : octet ≠ 0x2D := by
    intro heq
    subst heq
    exact absurd h (by decide)
  have hplus : octet ≠ 0x2B := by
    intro heq
    subst heq
    exact absurd h (by decide)
  have hdigits : (octet :: rest).takeWhile Decimal.isDigit ≠ [] := by
    rw [List.takeWhile_cons_of_pos h]
    exact List.cons_ne_nil _ _
  rw [strtoul, hspace]
  simp [hminus, hplus, hdigits]

theorem strtoul_parseEnd (b : Build) {octet : UInt8} (h : Decimal.isDigit octet = true)
    (rest : Octets) :
    (strtoul b (octet :: rest)).parseEnd = (octet :: rest).dropWhile Decimal.isDigit := by
  rw [strtoul_digit b h]
  split <;> rfl

/-- A decimal number within the range of `unsigned long` is read as it is. -/
theorem parseNumber_of_numberIn (b : Build) {text : Octets} {minimum maximum : Nat}
    (hmax : maximum ≤ 0xFFFFFFFF) (h : NumberIn minimum maximum text) :
    parseNumber b text minimum maximum = some (Decimal.value text) := by
  obtain ⟨octet, rest, rfl⟩ := List.exists_cons_of_ne_nil h.ne_nil
  have hdigit : Decimal.isDigit octet = true := h.digits octet (by simp)
  have htake : (octet :: rest).takeWhile Decimal.isDigit = octet :: rest :=
    List.takeWhile_eq_self_iff.2 h.digits
  have hdrop : (octet :: rest).dropWhile Decimal.isDigit = [] :=
    List.dropWhile_eq_nil_iff.2 h.digits
  have hfits : ¬ b.ulongMax < Decimal.value (octet :: rest) := by
    have := h.value_le
    have := b.le_ulongMax
    omega
  have hlow := h.le_value
  have hhigh := h.value_le
  rw [parseNumber, strtoul_digit b hdigit, htake, hdrop, if_neg hfits]
  simp [hdigit, hlow, hhigh]

/-- Nothing else is read as a number: no sign, no space, no other octet after the digits. -/
theorem numberIn_of_parseNumber {b : Build} {text : Octets} {minimum maximum n : Nat}
    (h : parseNumber b text minimum maximum = some n) : NumberIn minimum maximum text := by
  cases text with
  | nil => simp [parseNumber] at h
  | cons octet rest =>
    by_cases hdigit : Decimal.isDigit octet = true
    · rw [parseNumber] at h
      simp only [List.head?_cons, Option.any_some, hdigit, Bool.not_true, Bool.false_eq_true,
        if_false] at h
      split_ifs at h with hchecks
      simp only [Bool.or_eq_true, decide_eq_true_eq, bne_iff_ne, not_or, not_not,
        ne_eq] at hchecks
      obtain ⟨⟨⟨⟨hrange, -⟩, hend⟩, hlow⟩, hhigh⟩ := hchecks
      rw [strtoul_parseEnd b hdigit] at hend
      have hall : ∀ o ∈ octet :: rest, Decimal.isDigit o = true :=
        List.dropWhile_eq_nil_iff.1 hend
      rw [strtoul_digit b hdigit, List.takeWhile_eq_self_iff.2 hall] at hrange hlow hhigh
      split_ifs at hrange hlow hhigh with hfits
      · exact absurd rfl hrange
      · exact ⟨List.cons_ne_nil _ _, hall, Nat.le_of_not_lt hlow, Nat.le_of_not_lt hhigh⟩
    · rw [parseNumber] at h
      simp [hdigit] at h

theorem parseNumber_of_not (b : Build) {text : Octets} {minimum maximum : Nat}
    (h : ¬ NumberIn minimum maximum text) : parseNumber b text minimum maximum = none := by
  cases heq : parseNumber b text minimum maximum with
  | none => rfl
  | some n => exact absurd (numberIn_of_parseNumber heq) h

/-! ## The values an option accepts -/

/-- A hub that the options can name. -/
structure IsHubUri (value : Octets) : Prop where
  secure : startsWith value (octetsOf "wss://") = true
  lt_length : 6 < value.length
  length_le : value.length ≤ 255

def LinkOption.Accepts (b : Build) (value : Octets) : LinkOption → Prop
  | interface => NumberIn 1 0xFFFFFFFF value
  | mstpBaud => NumberIn 1 0xFFFFFFFF value ∧ Decimal.value value ∈ supportedBaudRates ∧
      (Decimal.value value = 76800 → b.has76800Baud = true)
  | mstpMac => NumberIn 0 127 value
  | mstpMaxMaster => NumberIn 1 127 value
  | mstpMaxInfoFrames => NumberIn 1 255 value
  | scHub | scFailoverHub => IsHubUri value
  | mstpPort | scCertDir | importCari => True

def ValueOption.Accepts (b : Build) (value : Octets) : ValueOption → Prop
  | datalink => (dataLinkOf value).isSome = true
  | deviceID => NumberIn 0 4194302 value
  | deviceName => True
  | port => NumberIn 1 65535 value
  | link o => o.Accepts b value

/-- The options in terms of the value each of them was given last. -/
def Options.ofLast (last : ValueOption → Option Octets) : Options where
  dataLink := ((last .datalink).bind dataLinkOf).getD .ipv4
  deviceInstance := ((last .deviceID).map fun v => .ofNat (Decimal.value v)).getD 389005
  udpPort := ((last .port).map fun v => .ofNat (Decimal.value v)).getD 47808
  ipv6InterfaceIndex := ((last (.link .interface)).map fun v => .ofNat (Decimal.value v)).getD 0
  mstpPortName := (last (.link .mstpPort)).getD []
  mstpBaudRate := ((last (.link .mstpBaud)).map fun v => .ofNat (Decimal.value v)).getD 38400
  mstpMacAddress := ((last (.link .mstpMac)).map fun v => .ofNat (Decimal.value v)).getD 1
  mstpMaxMaster := ((last (.link .mstpMaxMaster)).map fun v => .ofNat (Decimal.value v)).getD 127
  mstpMaxInfoFrames :=
    ((last (.link .mstpMaxInfoFrames)).map fun v => .ofNat (Decimal.value v)).getD 1
  scPrimaryHubUri := (last (.link .scHub)).getD []
  scFailoverHubUri := (last (.link .scFailoverHub)).getD []
  scCertificateDirectory := (last (.link .scCertDir)).getD (octetsOf "./certs")
  importCariZip := (last (.link .importCari)).getD []

/-- What the loop has settled once each option was last given this value. -/
def Settled.ofLast (last : ValueOption → Option Octets) : Settled where
  options := .ofLast last
  portGiven := (last .port).isSome
  given o := (last (.link o)).isSome

theorem readHubUri_of {o : LinkOption} {value : Octets} (h : IsHubUri value) :
    readHubUri o value = .ok value := by
  have hlow := h.lt_length
  have hhigh := h.length_le
  rw [readHubUri, if_neg, if_neg (by omega)]
  simp only [h.secure, Bool.not_true, Bool.false_or, decide_eq_true_eq]
  omega

theorem isHubUri_of_readHubUri {o : LinkOption} {value uri : Octets}
    (h : readHubUri o value = .ok uri) : IsHubUri value := by
  rw [readHubUri] at h
  split_ifs at h with hform hlength
  simp only [Bool.or_eq_true, Bool.not_eq_true', decide_eq_true_eq, not_or,
    Bool.not_eq_false] at hform
  exact ⟨hform.1, by omega, by omega⟩

theorem filter_supported (n : Nat) :
    (some n).filter (· ∈ supportedBaudRates) =
      if n ∈ supportedBaudRates then some n else none := by
  simp [Option.filter]

section Step

variable (b : Build) (last : ValueOption → Option Octets) {value : Octets}

theorem readLinkValue_of_accepts {o : LinkOption} (h : o.Accepts b value) :
    readLinkValue b o value (.ofLast last) =
      .ok (.ofLast (Function.update last (.link o) (some value))) := by
  cases o with
  | interface =>
    rw [readLinkValue, parseNumber_of_numberIn b (by decide) h]
    rfl
  | mstpPort => rfl
  | mstpBaud =>
    obtain ⟨hnumber, hsupported, havailable⟩ := h
    have h76800 : ¬ ((!b.has76800Baud && Decimal.value value == 76800) = true) := by
      simp only [Bool.and_eq_true, Bool.not_eq_true', beq_iff_eq, not_and, Bool.eq_false_iff]
      exact fun h heq => h (havailable heq)
    rw [readLinkValue, parseNumber_of_numberIn b (by decide) hnumber, filter_supported,
      if_pos hsupported]
    dsimp only
    rw [if_neg h76800]
    rfl
  | mstpMac =>
    rw [readLinkValue, parseNumber_of_numberIn b (by decide) h]
    rfl
  | mstpMaxMaster =>
    rw [readLinkValue, parseNumber_of_numberIn b (by decide) h]
    rfl
  | mstpMaxInfoFrames =>
    rw [readLinkValue, parseNumber_of_numberIn b (by decide) h]
    rfl
  | scHub =>
    rw [readLinkValue, readHubUri_of h]
    rfl
  | scFailoverHub =>
    rw [readLinkValue, readHubUri_of h]
    rfl
  | scCertDir => rfl
  | importCari => rfl

/-- **The step of the loop.** A value that the option accepts becomes its last one. -/
theorem readValue_of_accepts {o : ValueOption} (h : o.Accepts b value) :
    readValue b o value (.ofLast last) =
      .ok (.ofLast (Function.update last o (some value))) := by
  cases o with
  | datalink =>
    obtain ⟨dataLink, hlink⟩ := Option.isSome_iff_exists.1 h
    rw [readValue, hlink]
    simp [Settled.ofLast, Options.ofLast, hlink]
  | deviceID =>
    rw [readValue, parseNumber_of_numberIn b (by decide) h]
    rfl
  | deviceName => rfl
  | port =>
    rw [readValue, parseNumber_of_numberIn b (by decide) h]
    rfl
  | link o =>
    have hgiven : Function.update (Settled.ofLast last).given o true =
        (Settled.ofLast (Function.update last (.link o) (some value))).given := by
      funext o'
      by_cases heq : o' = o
      · subst heq
        simp [Settled.ofLast]
      · simp [Settled.ofLast, heq]
    have hread := readLinkValue_of_accepts b last h
    rw [readValue, hgiven]
    dsimp only [Settled.ofLast]
    rw [hread]
    rfl

end Step

/-- A value that the option does not accept ends the loop. -/
theorem accepts_of_readLinkValue {b : Build} {o : LinkOption} {value : Octets}
    {options options' : Options} (h : readLinkValue b o value options = .ok options') :
    o.Accepts b value := by
  have hnumber : ∀ {minimum maximum : Nat}, parseNumber b value minimum maximum ≠ none →
      NumberIn minimum maximum value := by
    intro minimum maximum hread
    by_contra hnot
    exact hread (parseNumber_of_not b hnot)
  cases o with
  | interface =>
    apply hnumber
    intro hnone
    simp [readLinkValue, hnone] at h
  | mstpPort => trivial
  | mstpBaud =>
    rw [readLinkValue] at h
    cases heq : parseNumber b value 1 0xFFFFFFFF with
    | none => simp [heq] at h
    | some n =>
      have hin := numberIn_of_parseNumber heq
      rw [parseNumber_of_numberIn b (by decide) hin, filter_supported] at h
      by_cases hsupported : Decimal.value value ∈ supportedBaudRates
      · rw [if_pos hsupported] at h
        dsimp only at h
        split_ifs at h with h76800
        refine ⟨hin, hsupported, ?_⟩
        intro hvalue
        simpa [hvalue] using h76800
      · rw [if_neg hsupported] at h
        simp at h
  | mstpMac =>
    apply hnumber
    intro hnone
    simp [readLinkValue, hnone] at h
  | mstpMaxMaster =>
    apply hnumber
    intro hnone
    simp [readLinkValue, hnone] at h
  | mstpMaxInfoFrames =>
    apply hnumber
    intro hnone
    simp [readLinkValue, hnone] at h
  | scHub =>
    cases heq : readHubUri .scHub value with
    | error problem => simp [readLinkValue, heq, Except.map] at h
    | ok uri => exact isHubUri_of_readHubUri heq
  | scFailoverHub =>
    cases heq : readHubUri .scFailoverHub value with
    | error problem => simp [readLinkValue, heq, Except.map] at h
    | ok uri => exact isHubUri_of_readHubUri heq
  | scCertDir => trivial
  | importCari => trivial

theorem accepts_of_readValue {b : Build} {o : ValueOption} {value : Octets} {s s' : Settled}
    (h : readValue b o value s = .ok s') : o.Accepts b value := by
  cases o with
  | datalink =>
    cases heq : dataLinkOf value with
    | none => simp [readValue, heq] at h
    | some dataLink => simp [ValueOption.Accepts, heq]
  | deviceID =>
    cases heq : parseNumber b value 0 4194302 with
    | none => simp [readValue, heq] at h
    | some n => exact numberIn_of_parseNumber heq
  | deviceName => trivial
  | port =>
    cases heq : parseNumber b value 1 65535 with
    | none => simp [readValue, heq] at h
    | some n => exact numberIn_of_parseNumber heq
  | link o =>
    cases heq : readLinkValue b o value s.options with
    | error problem => simp [readValue, heq, Except.map] at h
    | ok options => exact accepts_of_readLinkValue heq

/-! ## Items -/

/-- A part of a command line: `--xml`, or an option with its value. -/
inductive Item (κ : Type)
  | xml
  | value (option : κ) (value : Octets)
deriving DecidableEq

namespace Item

variable {κ : Type} (name : κ → Octets)

def arguments : Item κ → List Octets
  | xml => [octetsOf "--xml"]
  | value o v => [name o, v]

def pair? : Item κ → Option (κ × Octets)
  | xml => none
  | value o v => some (o, v)

/-- The options with their values, in order. -/
def pairs (items : List (Item κ)) : List (κ × Octets) := items.filterMap pair?

@[simp] theorem mem_pairs {items : List (Item κ)} {o : κ} {v : Octets} :
    (o, v) ∈ pairs items ↔ .value o v ∈ items := by
  simp only [pairs, List.mem_filterMap]
  constructor
  · intro h
    obtain ⟨item, hmem, hpair⟩ := h
    cases item with
    | xml => exact absurd hpair (by simp [pair?])
    | value o' v' =>
      obtain ⟨rfl, rfl⟩ := Prod.mk.inj (Option.some.inj hpair)
      exact hmem
  · intro h
    exact ⟨_, h, rfl⟩

@[simp] theorem pairs_xml (items : List (Item κ)) : pairs (.xml :: items) = pairs items := rfl

@[simp] theorem pairs_value (o : κ) (v : Octets) (items : List (Item κ)) :
    pairs (.value o v :: items) = (o, v) :: pairs items := rfl

variable {name}

/-- **A row of items is read in one way only.** What follows some of its items is again a row of
items. -/
theorem exists_of_flatMap_append (hname : Function.Injective name)
    {read items : List (Item κ)} {rest : List Octets}
    (hread : ∀ o v, .value o v ∈ read → name o ≠ octetsOf "--xml")
    (hitems : ∀ o v, .value o v ∈ items → name o ≠ octetsOf "--xml")
    (h : read.flatMap (arguments name) ++ rest = items.flatMap (arguments name)) :
    ∃ after, items = read ++ after ∧ rest = after.flatMap (arguments name) := by
  induction read generalizing items with
  | nil => exact ⟨items, rfl, h⟩
  | cons item read ih =>
    have hread' : ∀ o v, .value o v ∈ read → name o ≠ octetsOf "--xml" := by
      intro o v hmem
      exact hread o v (List.mem_cons_of_mem _ hmem)
    cases items with
    | nil => cases item <;> simp [arguments] at h
    | cons item' items =>
      have hitems' : ∀ o v, .value o v ∈ items → name o ≠ octetsOf "--xml" := by
        intro o v hmem
        exact hitems o v (List.mem_cons_of_mem _ hmem)
      have hhead : item = item' := by
        cases item with
        | xml =>
          cases item' with
          | xml => rfl
          | value o' v' =>
            simp only [List.flatMap_cons, arguments, List.cons_append, List.cons.injEq] at h
            exact absurd h.1.symm (hitems o' v' (by simp))
        | value o v =>
          cases item' with
          | xml =>
            simp only [List.flatMap_cons, arguments, List.cons_append, List.cons.injEq] at h
            exact absurd h.1 (hread o v (by simp))
          | value o' v' =>
            simp only [List.flatMap_cons, arguments, List.cons_append, List.cons.injEq] at h
            rw [hname h.1, h.2.1]
      subst hhead
      rw [List.flatMap_cons, List.flatMap_cons, List.append_assoc, List.append_cancel_left_eq] at h
      obtain ⟨after, rfl, hrest⟩ := ih hread' hitems' h
      exact ⟨after, rfl, hrest⟩

theorem flatMap_arguments_inj (hname : Function.Injective name) {items items' : List (Item κ)}
    (hitems : ∀ o v, .value o v ∈ items → name o ≠ octetsOf "--xml")
    (hitems' : ∀ o v, .value o v ∈ items' → name o ≠ octetsOf "--xml")
    (h : items.flatMap (arguments name) = items'.flatMap (arguments name)) : items = items' := by
  obtain ⟨after, rfl, hrest⟩ :=
    exists_of_flatMap_append hname hitems hitems' (by rw [List.append_nil, h])
  cases after with
  | nil => rw [List.append_nil]
  | cons item after => cases item <;> simp [arguments] at hrest

end Item

/-! ## The loop -/

theorem ValueOption.name_injective :
    Function.Injective fun o : ValueOption => octetsOf o.name := by
  intro o o' h
  have hsome : some o = some o' := by
    rw [← ofArgument_name o, ← ofArgument_name o']
    exact congrArg ofArgument h
  exact Option.some.inj hsome

theorem ValueOption.name_ne_xml (o : ValueOption) : octetsOf o.name ≠ octetsOf "--xml" := by
  cases o with
  | link o => cases o <;> decide
  | datalink => decide
  | deviceID => decide
  | deviceName => decide
  | port => decide

theorem ValueOption.startsWith_name (o : ValueOption) :
    startsWith (octetsOf o.name) (octetsOf "--") = true := by
  cases o with
  | link o => cases o <;> decide
  | datalink => rfl
  | deviceID => rfl
  | deviceName => rfl
  | port => rfl

/-- The arguments that the items stand for. -/
def argumentsOf (items : List (Item ValueOption)) : List Octets :=
  items.flatMap (Item.arguments fun o => octetsOf o.name)

/-- The value each option is given last. -/
def lastValue (items : List (Item ValueOption)) : ValueOption → Option Octets :=
  LastWins.last (Item.pairs items)

theorem lastValue_value (o : ValueOption) (v : Octets) (items : List (Item ValueOption))
    (last : ValueOption → Option Octets) (k : ValueOption) :
    (lastValue (.value o v :: items) k).or (last k) =
      (lastValue items k).or (Function.update last o (some v) k) := by
  rw [lastValue, Item.pairs_value, LastWins.last_cons, Option.or_assoc, lastValue]
  by_cases h : o = k
  · subst h
    rw [if_pos rfl, Function.update_self, Option.some_or]
  · rw [if_neg h, Function.update_of_ne (Ne.symm h), Option.none_or]

section Loop

variable (b : Build)

theorem readArguments_xml (rest : List Octets) (s : Settled) :
    readArguments b (octetsOf "--xml" :: rest) s = readArguments b rest s := by
  rw [readArguments, if_pos rfl]

theorem readArguments_value {o : ValueOption} {v : Octets} {s s' : Settled}
    (h : readValue b o v s = .ok s') (rest : List Octets) :
    readArguments b (octetsOf o.name :: v :: rest) s = readArguments b rest s' := by
  rw [readArguments, if_neg o.name_ne_xml, if_neg (by rw [o.startsWith_name]; decide),
    o.ofArgument_name]
  dsimp only
  rw [h]

/-- The loop reads a row of items whose values are accepted. -/
theorem readArguments_argumentsOf {items : List (Item ValueOption)}
    (h : ∀ o v, .value o v ∈ items → o.Accepts b v) (last : ValueOption → Option Octets) :
    readArguments b (argumentsOf items) (.ofLast last) =
      .ok (.ofLast fun k => (lastValue items k).or (last k)) := by
  induction items generalizing last with
  | nil => rfl
  | cons item items ih =>
    have htail : ∀ o v, .value o v ∈ items → o.Accepts b v := by
      intro o v hmem
      exact h o v (List.mem_cons_of_mem _ hmem)
    cases item with
    | xml => exact (readArguments_xml b _ _).trans (ih htail last)
    | value o v =>
      have haccepts : o.Accepts b v := h o v (by simp)
      have hstep : readArguments b (argumentsOf (.value o v :: items)) (.ofLast last) =
          readArguments b (argumentsOf items) (.ofLast (Function.update last o (some v))) :=
        readArguments_value b (readValue_of_accepts b last haccepts) _
      rw [hstep, ih htail]
      congr 2
      funext k
      exact (lastValue_value o v items last k).symm

/-- The loop ends well on a row of items only, with values that are accepted. -/
theorem items_of_readArguments {args : List Octets} {s s' : Settled}
    (h : readArguments b args s = .ok s') :
    ∃ items, args = argumentsOf items ∧ ∀ o v, .value o v ∈ items → o.Accepts b v := by
  fun_induction readArguments b args s with
  | case1 s => exact ⟨[], rfl, by simp⟩
  | case2 s rest ih =>
    obtain ⟨items, rfl, haccepts⟩ := ih h
    exact ⟨.xml :: items, rfl, by simpa using haccepts⟩
  | case3 => cases h
  | case4 => cases h
  | case5 => cases h
  | case6 => cases h
  | case7 s option hxml hdashes o hknown value rest s₁ hread ih =>
    obtain ⟨items, rfl, haccepts⟩ := ih h
    refine ⟨.value o value :: items, ?_, ?_⟩
    · rw [ValueOption.ofArgument_eq_some hknown]
      rfl
    · intro o' v' hmem
      rcases List.mem_cons.1 hmem with heq | hmem
      · obtain ⟨rfl, rfl⟩ := Item.value.inj heq
        exact accepts_of_readValue hread
      · exact haccepts o' v' hmem

end Loop

/-! ## The combination -/

/-- What the chosen data link asks of what was given. -/
structure Settled.Combines (s : Settled) : Prop where
  linkOption : ∀ o, s.given o = true → o.dataLink = s.options.dataLink
  port : s.portGiven = true → s.options.dataLink ≠ .mstp ∧ s.options.dataLink ≠ .sc
  serialPort : s.options.dataLink = .mstp → s.options.mstpPortName ≠ []
  mac : s.options.dataLink = .mstp → s.options.mstpMacAddress ≤ s.options.mstpMaxMaster
  hub : s.options.dataLink = .sc → s.options.scPrimaryHubUri ≠ [] ∨ s.options.importCariZip ≠ []

theorem find_wrongDataLink (s : Settled) :
    (LinkOption.all.find? fun o => s.given o && o.dataLink != s.options.dataLink) = none ↔
      ∀ o, s.given o = true → o.dataLink = s.options.dataLink := by
  rw [List.find?_eq_none]
  constructor
  · intro h o hgiven
    have hnot := h o (LinkOption.mem_all o)
    simpa [hgiven] using hnot
  · intro h o _
    simpa using h o

theorem checkCombination_eq_none_iff (s : Settled) :
    checkCombination s = none ↔ s.Combines := by
  rw [checkCombination]
  cases hfind : LinkOption.all.find? fun o => s.given o && o.dataLink != s.options.dataLink with
  | some o =>
    simp only [reduceCtorEq, false_iff]
    intro h
    rw [(find_wrongDataLink s).2 h.linkOption] at hfind
    cases hfind
  | none =>
    have hlink := (find_wrongDataLink s).1 hfind
    dsimp only
    constructor
    · intro h
      split_ifs at h with hport hserial hmac hhub
      simp only [Bool.and_eq_true, Bool.or_eq_true, beq_iff_eq, List.isEmpty_iff,
        decide_eq_true_eq, not_and, not_or, UInt8.not_lt] at hport hserial hmac hhub
      refine ⟨hlink, hport, hserial, hmac, ?_⟩
      intro hsc
      by_cases huri : s.options.scPrimaryHubUri = []
      · exact .inr (hhub ⟨hsc, huri⟩)
      · exact .inl huri
    · intro h
      rw [if_neg, if_neg, if_neg, if_neg]
      · simp only [Bool.and_eq_true, beq_iff_eq, List.isEmpty_iff, not_and]
        intro hsc hzip
        rcases h.hub hsc.1 with hne | hne
        · exact hne hsc.2
        · exact hne hzip
      · simpa using h.mac
      · simpa using h.serialPort
      · simpa using h.port

/-! ## Run -/

/-- The items give `Run`, with these options. -/
structure Runs (b : Build) (items : List (Item ValueOption)) (options : Options) : Prop where
  notPrinted : ∀ argument ∈ argumentsOf items, printedFor argument = none
  accepted : ∀ o v, .value o v ∈ items → o.Accepts b v
  combines : (Settled.ofLast (lastValue items)).Combines
  options_eq : options = .ofLast (lastValue items)

theorem parseCommandLine_eq_run_iff (b : Build) (args : List Octets) (options : Options) :
    parseCommandLine b args = .run options ↔
      args.findSome? printedFor = none ∧
        ∃ s, readArguments b args {} = .ok s ∧ s.Combines ∧ options = s.options := by
  rw [parseCommandLine]
  cases hprinted : args.findSome? printedFor with
  | some printed => simp
  | none =>
    cases hread : readArguments b args {} with
    | error problem => simp
    | ok s =>
      cases hcheck : checkCombination s with
      | some problem =>
        have hnot : ¬ s.Combines := by
          rw [← checkCombination_eq_none_iff, hcheck]
          exact Option.some_ne_none _
        simp [hcheck, hnot]
      | none =>
        have hcombines := (checkCombination_eq_none_iff s).1 hcheck
        simp [hcheck, hcombines, eq_comm]

/-- **When `ParseCommandLine` returns `Run`.** -/
theorem run_iff (b : Build) (args : List Octets) (options : Options) :
    parseCommandLine b args = .run options ↔
      ∃ items, args = argumentsOf items ∧ Runs b items options := by
  have hread : ∀ items : List (Item ValueOption), (∀ o v, .value o v ∈ items → o.Accepts b v) →
      readArguments b (argumentsOf items) {} = .ok (.ofLast (lastValue items)) := by
    intro items haccepted
    have h := readArguments_argumentsOf b haccepted fun _ => none
    simp only [Option.or_none] at h
    exact h
  rw [parseCommandLine_eq_run_iff]
  constructor
  · intro h
    obtain ⟨hprinted, s, hs, hcombines, rfl⟩ := h
    obtain ⟨items, rfl, haccepted⟩ := items_of_readArguments b hs
    rw [hread items haccepted, Except.ok.injEq] at hs
    subst hs
    exact ⟨items, rfl, List.findSome?_eq_none_iff.1 hprinted, haccepted, hcombines, rfl⟩
  · intro h
    obtain ⟨items, rfl, hruns⟩ := h
    exact ⟨List.findSome?_eq_none_iff.2 hruns.notPrinted, _, hread items hruns.accepted,
      hruns.combines, hruns.options_eq⟩

end BacnetBc.CommandLine
