import BacnetBc.CommandLine.Checked

/-!
# The order of the options

A command line is written as a row of items: options with their values, and `--xml` any number of
times (`written`). An option here is any text but `--xml`; the program may not know it.

**Theorem (`order_irrelevant`).** When no option is given twice, every order of the items gives the
same `ParseResult`, and the same options with `Run`.
-/

namespace BacnetBc.CommandLine

open Memory

/-- The arguments of a row of items. -/
def written (items : List (Item Octets)) : List Octets := items.flatMap (Item.arguments id)

/-- The options that are given, in order. -/
def optionsGiven (items : List (Item Octets)) : List Octets := (Item.pairs items).map Prod.fst

/-- An item that the program knows, as it is written. -/
def Item.spelled : Item ValueOption → Item Octets
  | xml => .xml
  | value o v => .value (octetsOf o.name) v

theorem Item.spelled_injective : Function.Injective Item.spelled := by
  intro item item' h
  cases item with
  | xml =>
    cases item' with
    | xml => rfl
    | value o' v' => cases h
  | value o v =>
    cases item' with
    | xml => cases h
    | value o' v' =>
      obtain ⟨hname, rfl⟩ := Item.value.inj h
      rw [ValueOption.name_injective hname]

theorem written_spelled (known : List (Item ValueOption)) :
    written (known.map Item.spelled) = argumentsOf known := by
  rw [written, argumentsOf, List.flatMap_map]
  congr
  funext item
  cases item <;> rfl

theorem optionsGiven_spelled (known : List (Item ValueOption)) :
    optionsGiven (known.map Item.spelled) =
      ((Item.pairs known).map Prod.fst).map fun o => octetsOf o.name := by
  induction known with
  | nil => rfl
  | cons item known ih =>
    cases item with
    | xml => exact ih
    | value o v => exact congrArg (octetsOf o.name :: ·) ih

theorem mem_optionsGiven {items : List (Item Octets)} {o v : Octets}
    (h : .value o v ∈ items) : o ∈ optionsGiven items :=
  List.mem_map.2 ⟨(o, v), Item.mem_pairs.2 h, rfl⟩

/-- Items that the program reads are items that it knows. -/
theorem eq_spelled_of_written {items : List (Item Octets)} {known : List (Item ValueOption)}
    (hxml : octetsOf "--xml" ∉ optionsGiven items) (h : written items = argumentsOf known) :
    items = known.map Item.spelled := by
  rw [← written_spelled] at h
  refine Item.flatMap_arguments_inj Function.injective_id ?_ ?_ h
  · intro o v hmem heq
    exact hxml (heq ▸ mem_optionsGiven hmem)
  · intro o v hmem
    obtain ⟨item, -, hitem⟩ := List.mem_map.1 hmem
    cases item with
    | xml => cases hitem
    | value o' v' =>
      obtain ⟨rfl, -⟩ := Item.value.inj hitem
      exact o'.name_ne_xml

theorem Runs.perm {b : Build} {known known' : List (Item ValueOption)} {options : Options}
    (h : Runs b known options) (hperm : known.Perm known')
    (hnodup : ((Item.pairs known).map Prod.fst).Nodup) : Runs b known' options := by
  have hlast : lastValue known = lastValue known' :=
    LastWins.last_perm (hperm.filterMap Item.pair?) hnodup
  have harguments : (argumentsOf known).Perm (argumentsOf known') := hperm.flatMap_right _
  constructor
  case notPrinted =>
    intro argument hmem
    exact h.notPrinted argument (harguments.mem_iff.2 hmem)
  case accepted =>
    intro o v hmem
    exact h.accepted o v (hperm.mem_iff.2 hmem)
  case combines =>
    rw [← hlast]
    exact h.combines
  case options_eq =>
    rw [← hlast]
    exact h.options_eq

theorem run_of_perm {b : Build} {items items' : List (Item Octets)} {options : Options}
    (hperm : items.Perm items') (hnodup : (optionsGiven items).Nodup)
    (hxml : octetsOf "--xml" ∉ optionsGiven items)
    (h : parseCommandLine b (written items) = .run options) :
    parseCommandLine b (written items') = .run options := by
  obtain ⟨known, hwritten, hruns⟩ := (run_iff b _ options).1 h
  have hitems := eq_spelled_of_written hxml hwritten
  -- the other order is one of known items too
  have hknown' : items' ∈ Set.range (List.map Item.spelled) := by
    rw [Set.range_list_map]
    intro item hmem
    rw [← hperm.mem_iff, hitems] at hmem
    obtain ⟨k, -, hk⟩ := List.mem_map.1 hmem
    exact ⟨k, hk⟩
  obtain ⟨known', rfl⟩ := hknown'
  rw [hitems] at hperm hnodup
  rw [optionsGiven_spelled] at hnodup
  rw [List.map_perm_map_iff Item.spelled_injective] at hperm
  exact (run_iff b _ options).2
    ⟨known', written_spelled known', hruns.perm hperm (List.Nodup.of_map _ hnodup)⟩

theorem result_eq_run_iff {b : Build} {args : List Octets} :
    (parseCommandLine b args).result = .run ↔
      ∃ options, parseCommandLine b args = .run options := by
  cases parseCommandLine b args <;> simp [Parsed.result]

theorem result_eq_exitSuccess_iff {b : Build} {args : List Octets} :
    (parseCommandLine b args).result = .exitSuccess ↔
      ∃ argument ∈ args, printedFor argument ≠ none := by
  have hsome : args.findSome? printedFor ≠ none ↔
      ∃ argument ∈ args, printedFor argument ≠ none := by
    rw [ne_eq, List.findSome?_eq_none_iff]
    push Not
    rfl
  rw [← hsome, parseCommandLine]
  cases args.findSome? printedFor with
  | some printed => simp [Parsed.result]
  | none =>
    cases readArguments b args {} with
    | error problem => simp [Parsed.result]
    | ok s => cases hcheck : checkCombination s <;> simp [Parsed.result, hcheck]

/-- **The order of the options never matters.** -/
theorem order_irrelevant (b : Build) {items items' : List (Item Octets)}
    (hperm : items.Perm items') (hnodup : (optionsGiven items).Nodup)
    (hxml : octetsOf "--xml" ∉ optionsGiven items) :
    (parseCommandLine b (written items)).result = (parseCommandLine b (written items')).result ∧
      ∀ options, parseCommandLine b (written items) = .run options ↔
        parseCommandLine b (written items') = .run options := by
  have hgiven : (optionsGiven items).Perm (optionsGiven items') :=
    (hperm.filterMap Item.pair?).map Prod.fst
  have hrun : ∀ options, parseCommandLine b (written items) = .run options ↔
      parseCommandLine b (written items') = .run options := by
    intro options
    constructor
    · exact run_of_perm hperm hnodup hxml
    · apply run_of_perm hperm.symm
      · exact hgiven.nodup_iff.1 hnodup
      · rwa [← hgiven.mem_iff]
  refine ⟨?_, hrun⟩
  have hwritten : (written items).Perm (written items') := hperm.flatMap_right _
  have hresult : (parseCommandLine b (written items)).result = .run ↔
      (parseCommandLine b (written items')).result = .run := by
    simp only [result_eq_run_iff, hrun]
  have hsuccess : (parseCommandLine b (written items)).result = .exitSuccess ↔
      (parseCommandLine b (written items')).result = .exitSuccess := by
    simp only [result_eq_exitSuccess_iff, hwritten.mem_iff]
  cases h : (parseCommandLine b (written items)).result with
  | run => exact (hresult.1 h).symm
  | exitSuccess => exact (hsuccess.1 h).symm
  | exitError =>
    cases h' : (parseCommandLine b (written items')).result with
    | run => exact h.symm.trans (hresult.2 h')
    | exitSuccess => exact h.symm.trans (hsuccess.2 h')
    | exitError => rfl

/-- `--interface 12 --xml --datalink ipv6`. -/
def interfaceFirst : List (Item Octets) :=
  [.value (octetsOf "--interface") (octetsOf "12"), .xml,
    .value (octetsOf "--datalink") (octetsOf "ipv6")]

theorem order_irrelevant_reverse :
    (parseCommandLine linux (written interfaceFirst)).result =
        (parseCommandLine linux (written interfaceFirst.reverse)).result ∧
      ∀ options, parseCommandLine linux (written interfaceFirst) = .run options ↔
        parseCommandLine linux (written interfaceFirst.reverse) = .run options :=
  order_irrelevant linux (List.reverse_perm _).symm (by decide) (by decide)

end BacnetBc.CommandLine
