import BacnetBc.CommandLine.Checked

/-!
# The scans of `main`

After `ParseCommandLine` has returned `Run`, `main` looks through the arguments twice more.
`ParseDeviceNameArg` looks for `--deviceName` and `ParseXmlLogArg` for `--xml` or `--xmlLog`. They
do not read options with their values: every argument may be the one they look for.

**Agreement** (`ScansAgree`). The name is the one `--deviceName` is given last, the logging is on
exactly with an `--xml`, and no scan takes a value for an option.

**Theorem (`scans_agree_iff`).** They agree exactly when no value looks like an option before the
scan has found its own (`ReadAlike`), and the first valid name is the last one given.
-/

namespace BacnetBc.CommandLine

open Memory

/-! ## The scans -/

/-- `DEVICE_NAME`. -/
def defaultDeviceName : Octets := octetsOf "Chipkin Example B-BC"

def maxDeviceNameLength : Nat := 255

/-- A name that `ParseDeviceNameArg` returns: printable, and of a length that fits. -/
def isDeviceName (name : Octets) : Bool :=
  0 < name.length && name.length ≤ maxDeviceNameLength &&
    name.all fun octet => 0x20 ≤ octet && octet != 0x7F

section Scans

variable {α β : Type} (text : α → Octets)

/-- `ParseDeviceNameArg`: the name, and the arguments that were taken for the option. -/
def parseDeviceNameArg (default : Octets) : List α → Octets × List α
  | [] => (default, [])
  | [_] => (default, [])
  | option :: name :: rest =>
    if text option = octetsOf "--deviceName" then
      if isDeviceName (text name) then (text name, [option])
      else
        -- a warning, and the search goes on at the name
        let later := parseDeviceNameArg default (name :: rest)
        (later.1, option :: later.2)
    else parseDeviceNameArg default (name :: rest)

/-- `ParseXmlLogArg`: the argument that turns the logging on. -/
def parseXmlLogArg (args : List α) : Option α :=
  args.find? fun argument =>
    text argument = octetsOf "--xmlLog" ∨ text argument = octetsOf "--xml"

variable {text}

theorem parseDeviceNameArg_cons_of_ne {default : Octets} {argument : α}
    (h : text argument ≠ octetsOf "--deviceName") (rest : List α) :
    parseDeviceNameArg text default (argument :: rest) = parseDeviceNameArg text default rest := by
  cases rest with
  | nil => rfl
  | cons name rest => rw [parseDeviceNameArg, if_neg h]

/-- The name depends on the texts of the arguments alone. -/
theorem parseDeviceNameArg_map (default : Octets) (args : List α) :
    (parseDeviceNameArg id default (args.map text)).1 =
      (parseDeviceNameArg text default args).1 := by
  induction args with
  | nil => rfl
  | cons option rest ih =>
    cases rest with
    | nil => rfl
    | cons name rest =>
      by_cases hoption : text option = octetsOf "--deviceName"
      · by_cases hname : isDeviceName (text name) = true
        · simp [parseDeviceNameArg, hoption, hname]
        · simp only [List.map_cons, parseDeviceNameArg, id, hoption, hname, if_true] at ih ⊢
          exact ih
      · have hid : id (text option) ≠ octetsOf "--deviceName" := hoption
        rw [parseDeviceNameArg_cons_of_ne hoption, ← ih, List.map_cons,
          parseDeviceNameArg_cons_of_ne hid]

end Scans

/-- `g_deviceName` of `main`. -/
def deviceNameOf (args : List Octets) : Octets :=
  (parseDeviceNameArg id defaultDeviceName args).1

/-- `IsXmlFrameLoggingEnabled` of `main`. -/
def isXmlFrameLoggingEnabled (args : List Octets) : Bool := (parseXmlLogArg id args).isSome

/-! ## What they should agree with -/

/-- An argument, and whether `ParseCommandLine` consumes it as the value of an option. -/
structure Token where
  text : Octets
  isValue : Bool
deriving DecidableEq

def Item.tokens : Item ValueOption → List Token
  | xml => [⟨octetsOf "--xml", false⟩]
  | value o v => [⟨octetsOf o.name, false⟩, ⟨v, true⟩]

def tokensOf (items : List (Item ValueOption)) : List Token := items.flatMap Item.tokens

theorem map_text_tokensOf (items : List (Item ValueOption)) :
    (tokensOf items).map Token.text = argumentsOf items := by
  rw [tokensOf, argumentsOf, List.map_flatMap]
  congr
  funext item
  cases item <;> rfl

/-- The names that `ParseCommandLine` reads after `--deviceName`. -/
def namesGiven (items : List (Item ValueOption)) : List Octets :=
  LastWins.values (Item.pairs items) .deviceName

/-- The name it assigns: the last one, if it is valid. -/
def assignedName (items : List (Item ValueOption)) : Octets :=
  ((lastValue items .deviceName).filter isDeviceName).getD defaultDeviceName

structure ScansAgree (items : List (Item ValueOption)) : Prop where
  deviceName : deviceNameOf (argumentsOf items) = assignedName items
  xml : isXmlFrameLoggingEnabled (argumentsOf items) = true ↔ .xml ∈ items
  deviceNameTaken :
    ∀ t ∈ (parseDeviceNameArg Token.text defaultDeviceName (tokensOf items)).2, t.isValue = false
  xmlTaken : ∀ t, parseXmlLogArg Token.text (tokensOf items) = some t → t.isValue = false

/-! ## When they agree -/

/-- Before a valid name, only the last argument of all may be a value `--deviceName`. -/
def NamesApart (items : List (Item ValueOption)) : Prop :=
  ∀ before o after, items = before ++ .value o (octetsOf "--deviceName") :: after →
    o ≠ .deviceName → (∀ v, .value .deviceName v ∈ before → isDeviceName v = false) → after = []

/-- Before the first `--xml` no value looks like it. -/
def XmlApart (items : List (Item ValueOption)) : Prop :=
  ∀ o v, .value o v ∈ items.takeWhile (· ≠ .xml) →
    v ≠ octetsOf "--xmlLog" ∧ v ≠ octetsOf "--xml"

/-- The first valid name is the last one given. It may be the text of the default name instead, when
the last one is not valid. -/
def OneName (items : List (Item ValueOption)) : Prop :=
  ∀ first last, (namesGiven items).find? isDeviceName = some first →
    (namesGiven items).getLast? = some last →
      first = last ∨ isDeviceName last = false ∧ first = defaultDeviceName

/-- The condition for the scans to agree. -/
structure ReadAlike (items : List (Item ValueOption)) : Prop where
  xmlApart : XmlApart items
  namesApart : NamesApart items
  oneName : OneName items

/-! ## The search for the name -/

theorem isDeviceName_deviceName : isDeviceName (octetsOf "--deviceName") = true := by
  decide

theorem name_ne_deviceName {o : ValueOption} (h : o ≠ .deviceName) :
    octetsOf o.name ≠ octetsOf "--deviceName" := by
  intro heq
  exact h (ValueOption.name_injective heq)

theorem namesApart_cons (item : Item ValueOption) (items : List (Item ValueOption)) :
    NamesApart (item :: items) ↔
      (∀ o, item = .value o (octetsOf "--deviceName") → o ≠ .deviceName → items = []) ∧
        ((∀ v, item = .value .deviceName v → isDeviceName v = false) → NamesApart items) := by
  constructor
  · intro h
    refine ⟨?_, ?_⟩
    · intro o heq ho
      exact h [] o items (by rw [heq]; rfl) ho (by simp)
    · intro hitem before o after heq ho hbefore
      refine h (item :: before) o after (by rw [heq]; rfl) ho ?_
      intro v hmem
      rcases List.mem_cons.1 hmem with heq | hmem
      · exact hitem v heq.symm
      · exact hbefore v hmem
  · intro h before o after heq ho hbefore
    cases before with
    | nil =>
      obtain ⟨hitem, hitems⟩ := List.cons.inj heq
      rw [← hitems]
      exact h.1 o hitem ho
    | cons first before =>
      obtain ⟨rfl, hitems⟩ := List.cons.inj heq
      refine h.2 ?_ before o after hitems ho ?_
      · intro v hitem
        exact hbefore v (by simp [hitem])
      · intro v hmem
        exact hbefore v (List.mem_cons_of_mem _ hmem)

section Name

variable (default : Octets)

/-- The search over the arguments of a row of items. -/
def searched (items : List (Item ValueOption)) : Octets × List Token :=
  parseDeviceNameArg Token.text default (tokensOf items)

theorem searched_xml (items : List (Item ValueOption)) :
    searched default (.xml :: items) = searched default items :=
  parseDeviceNameArg_cons_of_ne (by decide) _

/-- An option that is not `--deviceName`, with a value that does not look like it. -/
theorem searched_other {o : ValueOption} {v : Octets} (ho : o ≠ .deviceName)
    (hv : v ≠ octetsOf "--deviceName") (items : List (Item ValueOption)) :
    searched default (.value o v :: items) = searched default items := by
  have hoption : (Token.mk (octetsOf o.name) false).text ≠ octetsOf "--deviceName" :=
    name_ne_deviceName ho
  have hvalue : (Token.mk v true).text ≠ octetsOf "--deviceName" := hv
  exact (parseDeviceNameArg_cons_of_ne hoption _).trans (parseDeviceNameArg_cons_of_ne hvalue _)

/-- A value that looks like `--deviceName` is taken for it, if an argument follows. -/
theorem searched_misread {o : ValueOption} (ho : o ≠ .deviceName)
    {items : List (Item ValueOption)} (hitems : items ≠ []) :
    ⟨octetsOf "--deviceName", true⟩ ∈
      (searched default (.value o (octetsOf "--deviceName") :: items)).2 := by
  have hoption : (Token.mk (octetsOf o.name) false).text ≠ octetsOf "--deviceName" :=
    name_ne_deviceName ho
  obtain ⟨next, rest, hrest⟩ : ∃ next rest, tokensOf items = next :: rest := by
    cases items with
    | nil => exact absurd rfl hitems
    | cons item items => cases item <;> exact ⟨_, _, rfl⟩
  rw [searched, tokensOf, List.flatMap_cons, ← tokensOf, hrest]
  show _ ∈ (parseDeviceNameArg Token.text default
    (⟨octetsOf o.name, false⟩ :: ⟨octetsOf "--deviceName", true⟩ :: next :: rest)).2
  rw [parseDeviceNameArg_cons_of_ne hoption, parseDeviceNameArg, if_pos rfl]
  split <;> simp

theorem searched_last {o : ValueOption} (ho : o ≠ .deviceName) :
    searched default [.value o (octetsOf "--deviceName")] = (default, []) := by
  have hoption : (Token.mk (octetsOf o.name) false).text ≠ octetsOf "--deviceName" :=
    name_ne_deviceName ho
  exact parseDeviceNameArg_cons_of_ne hoption _

theorem searched_valid {v : Octets} (hv : isDeviceName v = true)
    (items : List (Item ValueOption)) :
    searched default (.value .deviceName v :: items) =
      (v, [⟨octetsOf "--deviceName", false⟩]) := by
  show parseDeviceNameArg Token.text default
    (⟨octetsOf "--deviceName", false⟩ :: ⟨v, true⟩ :: tokensOf items) = _
  rw [parseDeviceNameArg, if_pos rfl, if_pos hv]

theorem searched_invalid {v : Octets} (hv : isDeviceName v = false)
    (items : List (Item ValueOption)) :
    searched default (.value .deviceName v :: items) =
      ((searched default items).1,
        ⟨octetsOf "--deviceName", false⟩ :: (searched default items).2) := by
  have hvalue : (Token.mk v true).text ≠ octetsOf "--deviceName" := by
    intro heq
    have hvalid := isDeviceName_deviceName
    rw [← heq] at hvalid
    exact absurd hvalid (by simp [hv])
  show parseDeviceNameArg Token.text default
    (⟨octetsOf "--deviceName", false⟩ :: ⟨v, true⟩ :: tokensOf items) = _
  rw [parseDeviceNameArg, if_pos rfl, if_neg (by simp [hv]), parseDeviceNameArg_cons_of_ne hvalue]
  rfl

/-- **No value is taken for `--deviceName`.** -/
theorem searched_taken_iff (items : List (Item ValueOption)) :
    (∀ t ∈ (searched default items).2, t.isValue = false) ↔ NamesApart items := by
  induction items with
  | nil =>
    refine iff_of_true (by simp [searched, tokensOf, parseDeviceNameArg]) ?_
    intro before o after heq
    simp at heq
  | cons item items ih =>
    rw [namesApart_cons]
    cases item with
    | xml =>
      rw [searched_xml, ih]
      simp
    | value o v =>
      by_cases ho : o = .deviceName
      · subst ho
        by_cases hv : isDeviceName v = true
        · rw [searched_valid default hv]
          simp [hv]
        · rw [searched_invalid default (by simpa using hv)]
          simp [hv, ih]
      · by_cases hv : v = octetsOf "--deviceName"
        · subst hv
          by_cases hitems : items = []
          · subst hitems
            rw [searched_last default ho]
            simp [← ih, searched, tokensOf, parseDeviceNameArg]
          · refine iff_of_false ?_ ?_
            · intro h
              exact absurd (h _ (searched_misread default ho hitems)) (by simp)
            · intro h
              exact hitems (h.1 o rfl ho)
        · rw [searched_other default ho hv, ih]
          simp [ho, hv]

/-- Without a value that looks like the option, the search finds the first valid name. -/
theorem searched_name {items : List (Item ValueOption)} (h : NamesApart items) :
    (searched default items).1 = ((namesGiven items).find? isDeviceName).getD default := by
  induction items with
  | nil => rfl
  | cons item items ih =>
    obtain ⟨hfirst, hrest⟩ := (namesApart_cons item items).1 h
    cases item with
    | xml =>
      rw [searched_xml, ih (hrest (by simp))]
      rfl
    | value o v =>
      by_cases ho : o = .deviceName
      · subst ho
        have hnames : namesGiven (.value .deviceName v :: items) = v :: namesGiven items :=
          LastWins.values_cons_self _ _ _
        rw [hnames]
        by_cases hv : isDeviceName v = true
        · rw [searched_valid default hv, List.find?_cons_of_pos hv]
          rfl
        · rw [searched_invalid default (by simpa using hv), List.find?_cons_of_neg hv]
          exact ih (hrest (by simpa using hv))
      · have hnames : namesGiven (.value o v :: items) = namesGiven items :=
          LastWins.values_cons_of_ne ho _ _
        rw [hnames]
        by_cases hv : v = octetsOf "--deviceName"
        · subst hv
          rw [hfirst o rfl ho, searched_last default ho]
          rfl
        · rw [searched_other default ho hv]
          exact ih (hrest (by simp [ho]))

end Name

/-! ## The search for `--xml` -/

theorem name_ne_xmlLog (o : ValueOption) :
    ¬ (octetsOf o.name = octetsOf "--xmlLog" ∨ octetsOf o.name = octetsOf "--xml") := by
  cases o with
  | link o => cases o <;> decide
  | datalink => decide
  | deviceID => decide
  | deviceName => decide
  | port => decide

theorem parseXmlLogArg_xml (items : List (Item ValueOption)) :
    parseXmlLogArg Token.text (tokensOf (.xml :: items)) = some ⟨octetsOf "--xml", false⟩ := by
  show List.find? _ (⟨octetsOf "--xml", false⟩ :: tokensOf items) = _
  rw [List.find?_cons_of_pos (by simp)]

theorem parseXmlLogArg_value (o : ValueOption) (v : Octets) (items : List (Item ValueOption)) :
    parseXmlLogArg Token.text (tokensOf (.value o v :: items)) =
      if v = octetsOf "--xmlLog" ∨ v = octetsOf "--xml" then some ⟨v, true⟩
      else parseXmlLogArg Token.text (tokensOf items) := by
  show List.find? _ (⟨octetsOf o.name, false⟩ :: ⟨v, true⟩ :: tokensOf items) = _
  rw [List.find?_cons_of_neg (by simpa using name_ne_xmlLog o)]
  by_cases hv : v = octetsOf "--xmlLog" ∨ v = octetsOf "--xml"
  · rw [if_pos hv, List.find?_cons_of_pos (by simpa using hv)]
  · rw [if_neg hv, List.find?_cons_of_neg (by simpa using hv)]
    rfl

theorem xmlApart_value (o : ValueOption) (v : Octets) (items : List (Item ValueOption)) :
    XmlApart (.value o v :: items) ↔
      (v ≠ octetsOf "--xmlLog" ∧ v ≠ octetsOf "--xml") ∧ XmlApart items := by
  have htake : (Item.value o v :: items).takeWhile (· ≠ .xml) =
      .value o v :: items.takeWhile (· ≠ .xml) := List.takeWhile_cons_of_pos (by simp)
  rw [XmlApart, htake]
  constructor
  · intro h
    refine ⟨h o v (by simp), ?_⟩
    intro o' v' hmem
    exact h o' v' (List.mem_cons_of_mem _ hmem)
  · intro h o' v' hmem
    rcases List.mem_cons.1 hmem with heq | hmem
    · rw [(Item.value.inj heq).2]
      exact h.1
    · exact h.2 o' v' hmem

/-- **No value is taken for `--xml`.** -/
theorem xml_taken_iff (items : List (Item ValueOption)) :
    (∀ t, parseXmlLogArg Token.text (tokensOf items) = some t → t.isValue = false) ↔
      XmlApart items := by
  induction items with
  | nil =>
    refine iff_of_true (by simp [parseXmlLogArg, tokensOf]) ?_
    intro o v hmem
    simp at hmem
  | cons item items ih =>
    cases item with
    | xml =>
      rw [parseXmlLogArg_xml]
      simp [XmlApart]
    | value o v =>
      rw [parseXmlLogArg_value]
      by_cases hv : v = octetsOf "--xmlLog" ∨ v = octetsOf "--xml"
      · rw [if_pos hv]
        refine iff_of_false ?_ ?_
        · intro h
          exact absurd (h _ rfl) (by simp)
        · intro h
          exact not_or.2 ((xmlApart_value o v items).1 h).1 hv
      · rw [if_neg hv, ih, xmlApart_value, and_iff_right (not_or.1 hv)]

/-- Without a value that looks like it, the logging is on exactly with an `--xml`. -/
theorem xml_enabled_iff {items : List (Item ValueOption)} (h : XmlApart items) :
    (parseXmlLogArg Token.text (tokensOf items)).isSome = true ↔ .xml ∈ items := by
  induction items with
  | nil => simp [parseXmlLogArg, tokensOf]
  | cons item items ih =>
    cases item with
    | xml =>
      rw [parseXmlLogArg_xml]
      simp
    | value o v =>
      obtain ⟨hv, hrest⟩ := (xmlApart_value o v items).1 h
      rw [parseXmlLogArg_value, if_neg (not_or.2 hv), ih hrest]
      simp

/-! ## The scans of `main` -/

theorem deviceNameOf_argumentsOf (items : List (Item ValueOption)) :
    deviceNameOf (argumentsOf items) = (searched defaultDeviceName items).1 := by
  rw [deviceNameOf, ← map_text_tokensOf, parseDeviceNameArg_map]
  rfl

theorem isXmlFrameLoggingEnabled_argumentsOf (items : List (Item ValueOption)) :
    isXmlFrameLoggingEnabled (argumentsOf items) =
      (parseXmlLogArg Token.text (tokensOf items)).isSome := by
  rw [isXmlFrameLoggingEnabled, ← map_text_tokensOf, parseXmlLogArg, List.find?_map,
    Option.isSome_map]
  rfl

theorem assignedName_of_none {items : List (Item ValueOption)}
    (h : (namesGiven items).find? isDeviceName = none) :
    assignedName items = defaultDeviceName := by
  rw [assignedName]
  cases hlast : lastValue items .deviceName with
  | none => rfl
  | some v =>
    have hv := List.find?_eq_none.1 h v (List.mem_of_getLast? hlast)
    rw [Option.filter_some_neg (by simpa using hv)]
    rfl

/-- The first valid name is the one to assign. -/
theorem oneName_iff (items : List (Item ValueOption)) :
    OneName items ↔
      ∀ first, (namesGiven items).find? isDeviceName = some first → first = assignedName items := by
  have hlast : (namesGiven items).getLast? = lastValue items .deviceName := rfl
  constructor
  · intro h first hfirst
    have hmem : first ∈ namesGiven items := List.mem_of_find?_eq_some hfirst
    obtain ⟨last, hsome⟩ := Option.isSome_iff_exists.1
      (List.getLast?_isSome.2 (List.ne_nil_of_mem hmem))
    rw [assignedName, ← hlast, hsome]
    rcases h first last hfirst hsome with heq | ⟨hinvalid, hdefault⟩
    · subst heq
      rw [Option.filter_some_pos (List.find?_some hfirst)]
      rfl
    · rw [Option.filter_some_neg hinvalid]
      exact hdefault
  · intro h first last hfirst hsome
    have hassigned := h first hfirst
    rw [assignedName, ← hlast, hsome] at hassigned
    by_cases hvalid : isDeviceName last = true
    · rw [Option.filter_some_pos hvalid] at hassigned
      exact .inl hassigned
    · have hinvalid : isDeviceName last = false := by simpa using hvalid
      rw [Option.filter_some_neg hinvalid] at hassigned
      exact .inr ⟨hinvalid, hassigned⟩

theorem scansAgree_iff (items : List (Item ValueOption)) :
    ScansAgree items ↔ ReadAlike items := by
  constructor
  · intro h
    have hnames : NamesApart items :=
      (searched_taken_iff defaultDeviceName items).1 h.deviceNameTaken
    refine ⟨(xml_taken_iff items).1 h.xmlTaken, hnames, (oneName_iff items).2 ?_⟩
    intro first hfirst
    rw [← h.deviceName, deviceNameOf_argumentsOf, searched_name defaultDeviceName hnames, hfirst]
    rfl
  · intro h
    constructor
    case deviceName =>
      rw [deviceNameOf_argumentsOf, searched_name defaultDeviceName h.namesApart]
      cases hfirst : (namesGiven items).find? isDeviceName with
      | none => exact (assignedName_of_none hfirst).symm
      | some first => exact (oneName_iff items).1 h.oneName first hfirst
    case xml =>
      rw [isXmlFrameLoggingEnabled_argumentsOf]
      exact xml_enabled_iff h.xmlApart
    case deviceNameTaken => exact (searched_taken_iff defaultDeviceName items).2 h.namesApart
    case xmlTaken => exact (xml_taken_iff items).2 h.xmlApart

theorem argumentsOf_injective : Function.Injective argumentsOf := by
  intro items items' h
  exact Item.flatMap_arguments_inj ValueOption.name_injective
    (fun o _ _ => o.name_ne_xml) (fun o _ _ => o.name_ne_xml) h

/-- **When the scans of `main` agree with `ParseCommandLine`.** After `Run` the arguments are a row
of items, in one way, and the condition is one on these. -/
theorem scans_agree_iff {b : Build} {args : List Octets} {options : Options}
    (h : parseCommandLine b args = .run options) :
    (∃! items, args = argumentsOf items) ∧
      ∀ items, args = argumentsOf items → (ScansAgree items ↔ ReadAlike items) := by
  obtain ⟨items, hargs, -⟩ := (run_iff b args options).1 h
  refine ⟨⟨items, hargs, ?_⟩, ?_⟩
  · intro items' hargs'
    exact argumentsOf_injective (hargs'.symm.trans hargs)
  · intro items' _
    exact scansAgree_iff items'

theorem scans_agree_iff_mstp :
    (∃! items, mstpArguments = argumentsOf items) ∧
      ∀ items, mstpArguments = argumentsOf items → (ScansAgree items ↔ ReadAlike items) :=
  scans_agree_iff (show parseCommandLine linux mstpArguments = .run mstpOptions by decide)

/-- `--datalink sc --sc-hub wss://h --sc-cert-dir --xml`: the certificates are in a directory of
that name. -/
def xmlDirectory : List (Item ValueOption) :=
  [.value .datalink (octetsOf "sc"), .value (.link .scHub) (octetsOf "wss://h"),
    .value (.link .scCertDir) (octetsOf "--xml")]

theorem scans_disagree :
    ¬ ∀ (b : Build) (args : List Octets) (options : Options),
      parseCommandLine b args = .run options →
        ∀ items, args = argumentsOf items → ScansAgree items := by
  intro h
  have hagree := h linux (argumentsOf xmlDirectory)
    { dataLink := .sc, scPrimaryHubUri := octetsOf "wss://h",
      scCertificateDirectory := octetsOf "--xml" } (by decide) xmlDirectory rfl
  have hon : isXmlFrameLoggingEnabled (argumentsOf xmlDirectory) = true := by decide
  have hmem : Item.xml ∈ xmlDirectory := hagree.xml.1 hon
  exact absurd hmem (by simp [xmlDirectory])

end BacnetBc.CommandLine
