import BacnetBc.CommandLine.Checked
import BacnetBc.Hub.Connector
import BacnetBc.Lib.Delimiter

/-!
# The URI of a hub

**The grammar** (`HubAddress.IsWritten`). `wss://`, a host, perhaps a port, perhaps a path. A host
is plain text, or a literal in brackets; a port is a decimal number from 1 to 65535.

**The parser.** `ParseHubUri` cuts the text before the first '/' into a host and a port's text
(`Authority`): at the bracket that closes a literal, else at the last ':'. It reads the port's text
with `strtol` (`PortRead`), and takes an empty one for no port.

**Theorem (`parseHubUri_exact_iff`).** The parser gives what the grammar says for every URI but the
loosely written ones (`LooselyWritten`), which it accepts although the grammar has no place for
them.

**Theorem (`hubs_dialled_iff`).** The command line accepts a hub URI by its scheme and its length.
After `Run` every URI it has stored can be dialled exactly when none is of a kind that the parser
refuses (`Undialable`).
-/

namespace BacnetBc.Hub

open Memory CommandLine

/-! ## The grammar -/

def colon : UInt8 := 0x3A

def openBracket : UInt8 := 0x5B

def closeBracket : UInt8 := 0x5D

def uriSlash : UInt8 := 0x2F

def scheme : Octets := octetsOf "wss://"

/-- The text of a host, and the host. -/
inductive HostText : Octets → Octets → Prop
  | plain (host : Octets) (ne_nil : host ≠ []) (slash : uriSlash ∉ host) (colon : colon ∉ host)
      (bracket : host.head? ≠ some openBracket) : HostText host host
  | literal (literal : Octets) (ne_nil : literal ≠ []) (slash : uriSlash ∉ literal)
      (bracket : closeBracket ∉ literal) :
      HostText (openBracket :: literal ++ [closeBracket]) literal

/-- The text of a port, and the port. -/
inductive PortText : Octets → Nat → Prop
  | absent : PortText [] 443
  | present (digits : Octets) (number : NumberIn 1 65535 digits) :
      PortText (colon :: digits) (Decimal.value digits)

/-- The text of a path, and the path. -/
inductive PathText : Octets → Octets → Prop
  | absent : PathText [] [uriSlash]
  | present (rest : Octets) : PathText (uriSlash :: rest) (uriSlash :: rest)

/-- The URI is one of this address. -/
def HubAddress.IsWritten (address : HubAddress) (uri : Octets) : Prop :=
  ∃ host portText path port, uri = scheme ++ (host ++ portText) ++ path ∧
    HostText host address.host ∧ PortText portText port ∧ address.port = port ∧
    PathText path address.path

/-! ## What the parser reads -/

/-- `hostAndPort` with its host and, behind a ':', the port's text. -/
inductive Authority : Octets → Octets → Option Octets → Prop
  | literal (host : Octets) (first : closeBracket ∉ host) :
      Authority (openBracket :: (host ++ [closeBracket])) host none
  | literalPort (host port : Octets) (first : closeBracket ∉ host) :
      Authority (openBracket :: (host ++ closeBracket :: colon :: port)) host (some port)
  | plain (host : Octets) (bracket : host.head? ≠ some openBracket) (colon : colon ∉ host) :
      Authority host host none
  | plainPort (host port : Octets) (bracket : (host ++ colon :: port).head? ≠ some openBracket)
      (last : colon ∉ port) : Authority (host ++ colon :: port) host (some port)

/-- A text that `strtol` reads as a port: with white space and a plus sign before the digits, and
anything behind a zero octet. -/
def PortLike (text : Octets) (port : Nat) : Prop :=
  ∃ white sign digits rest, text = white ++ sign ++ digits ++ rest ∧
    (∀ octet ∈ white, isSpaceOctet octet = true) ∧ (sign = [] ∨ sign = [0x2B]) ∧
    NumberIn 1 65535 digits ∧ port = Decimal.value digits ∧ (rest = [] ∨ rest.head? = some 0)

/-- The port that is read: an empty text is like none. -/
inductive PortRead : Option Octets → Nat → Prop
  | absent : PortRead none 443
  | empty : PortRead (some []) 443
  | number (text : Octets) (port : Nat) (like : PortLike text port) : PortRead (some text) port

/-- The address is read from the URI, cut into these parts. -/
structure Reads (uri : Octets) (address : HubAddress) (hostAndPort path : Octets)
    (port? : Option Octets) : Prop where
  eq : uri = scheme ++ hostAndPort ++ path
  slash : uriSlash ∉ hostAndPort
  path : PathText path address.path
  authority : Authority hostAndPort address.host port?
  host : address.host ≠ []
  port : ∃ port, PortRead port? port ∧ address.port = port

/-- What the grammar has no place for: an unbracketed host with a ':', or a ':' without a number
behind it. -/
def Loose (hostAndPort host : Octets) (port? : Option Octets) : Prop :=
  hostAndPort.head? ≠ some openBracket ∧ colon ∈ host ∨
    ∃ text, port? = some text ∧ ¬ NumberIn 1 65535 text

/-- A URI that the parser reads, and the grammar has no place for. -/
def LooselyWritten (uri : Octets) : Prop :=
  ∃ address hostAndPort path port?, Reads uri address hostAndPort path port? ∧
    Loose hostAndPort address.host port?

/-! ## strtol -/

theorem isSpaceOctet_not_digit {octet : UInt8} (h : Decimal.isDigit octet = true) :
    isSpaceOctet octet = false := by
  simp only [Decimal.isDigit, Bool.and_eq_true, decide_eq_true_eq, UInt8.le_iff_toNat_le] at h
  have hlow : 48 ≤ octet.toNat := h.1
  have hnot : ¬ octet.toNat ≤ 13 := by omega
  have hne : octet ≠ 32 := by
    intro heq
    subst heq
    exact absurd hlow (by decide)
  simp only [isSpaceOctet, Bool.or_eq_false_iff, Bool.and_eq_false_iff, UInt8.le_iff_toNat_le]
  exact ⟨.inr (decide_eq_false hnot), decide_eq_false hne⟩

theorem ne_zero_of_isSpaceOctet {octet : UInt8} (h : isSpaceOctet octet = true) : octet ≠ 0 := by
  intro heq
  subst heq
  exact absurd h (by decide)

theorem ne_zero_of_isDigit {octet : UInt8} (h : Decimal.isDigit octet = true) : octet ≠ 0 := by
  intro heq
  subst heq
  exact absurd h (by decide)

/-- A text without a zero octet, up to one, is a C string. -/
theorem cString_append {text rest : Octets} (h : ∀ octet ∈ text, octet ≠ 0)
    (hrest : rest = [] ∨ rest.head? = some 0) : cString (text ++ rest) = text := by
  have hnot : (0 : UInt8) ∉ text := fun hmem => h 0 hmem rfl
  rcases hrest with rfl | hhead
  · rw [List.append_nil]
    exact Delimiter.takeWhile_none hnot
  · obtain ⟨tail, rfl⟩ := List.head?_eq_some_iff.1 hhead
    exact Delimiter.takeWhile_first hnot

theorem exists_cString (text : Octets) :
    ∃ rest, text = cString text ++ rest ∧ (rest = [] ∨ rest.head? = some 0) := by
  by_cases hzero : (0 : UInt8) ∈ text
  · obtain ⟨line, tail, rfl, hline⟩ := List.eq_append_cons_of_mem hzero
    have hcString : cString (line ++ 0 :: tail) = line := Delimiter.takeWhile_first hline
    exact ⟨0 :: tail, by rw [hcString], .inr rfl⟩
  · have hcString : cString text = text := Delimiter.takeWhile_none hzero
    exact ⟨[], by rw [hcString, List.append_nil], .inl rfl⟩

/-- Digits, with nothing to skip. -/
theorem strtol_digits {digits : Octets} (h : NumberIn 1 65535 digits) :
    digits.takeWhile isDigitOctet = digits ∧ digits.dropWhile isDigitOctet = [] :=
  ⟨List.takeWhile_eq_self_iff.2 h.digits, List.dropWhile_eq_nil_iff.2 h.digits⟩

theorem strtol_of_portLike {text : Octets} {port : Nat} (h : PortLike text port) :
    strtol (cString text) = ((port : Int), []) ∧ 1 ≤ port ∧ port ≤ 65535 := by
  obtain ⟨white, sign, digits, rest, rfl, hwhite, hsign, hnumber, rfl, hrest⟩ := h
  obtain ⟨htake, hdrop⟩ := strtol_digits hnumber
  obtain ⟨first, others, hfirst⟩ := List.exists_cons_of_ne_nil hnumber.ne_nil
  have hdigit : Decimal.isDigit first = true := hnumber.digits first (by simp [hfirst])
  have hzero : ∀ octet ∈ white ++ sign ++ digits, octet ≠ 0 := by
    intro octet hmem
    rcases List.mem_append.1 hmem with hmem | hmem
    · rcases List.mem_append.1 hmem with hmem | hmem
      · exact ne_zero_of_isSpaceOctet (hwhite octet hmem)
      · rcases hsign with rfl | rfl
        · simp at hmem
        · rw [List.mem_singleton.1 hmem]
          decide
    · exact ne_zero_of_isDigit (hnumber.digits octet hmem)
  rw [cString_append hzero hrest]
  -- the white space ends at the sign, or at the first digit
  have hunspaced : (white ++ sign ++ digits).dropWhile isSpaceOctet = sign ++ digits := by
    rw [List.append_assoc, List.dropWhile_append_of_pos hwhite]
    rcases hsign with rfl | rfl
    · rw [List.nil_append, hfirst, List.dropWhile_cons_of_neg]
      simp [isSpaceOctet_not_digit hdigit]
    · exact List.dropWhile_cons_of_neg (by decide)
  have hminus : (sign ++ digits).head? ≠ some 0x2D := by
    rcases hsign with rfl | rfl
    · rw [List.nil_append, hfirst]
      intro heq
      rw [Option.some.inj heq] at hdigit
      exact absurd hdigit (by decide)
    · simp
  have hunsigned : (if (sign ++ digits).head? = some 0x2D ∨ (sign ++ digits).head? = some 0x2B then
      (sign ++ digits).drop 1 else sign ++ digits) = digits := by
    rcases hsign with rfl | rfl
    · rw [if_neg]
      · rfl
      · rintro (heq | heq)
        · exact hminus heq
        · rw [List.nil_append, hfirst] at heq
          rw [Option.some.inj heq] at hdigit
          exact absurd hdigit (by decide)
    · rw [if_pos (.inr rfl)]
      rfl
  have hvalue : decimal digits = Decimal.value digits := rfl
  have hlow := hnumber.le_value
  have hhigh := hnumber.value_le
  refine ⟨?_, hlow, hhigh⟩
  rw [strtol, hunspaced]
  simp only [hunsigned, htake, hdrop, if_neg hnumber.ne_nil, if_neg hminus, hvalue]
  congr 1
  omega

theorem portLike_of_strtol {text : Octets} (hend : (strtol (cString text)).2 = [])
    (hlow : 1 ≤ (strtol (cString text)).1) (hhigh : (strtol (cString text)).1 ≤ 65535) :
    ∃ port : Nat, (strtol (cString text)).1 = port ∧ PortLike text port := by
  obtain ⟨rest, htext, hrest⟩ := exists_cString text
  generalize cString text = line at *
  simp only [strtol] at hend hlow hhigh ⊢
  have hline : line = line.takeWhile isSpaceOctet ++ line.dropWhile isSpaceOctet :=
    List.takeWhile_append_dropWhile.symm
  have hwhite : ∀ octet ∈ line.takeWhile isSpaceOctet, isSpaceOctet octet = true := by
    intro octet hmem
    exact List.mem_takeWhile_imp hmem
  generalize line.takeWhile isSpaceOctet = white at hline hwhite
  generalize line.dropWhile isSpaceOctet = unspaced at *
  by_cases hminus : unspaced.head? = some 0x2D
  · -- a negative number is no port
    simp only [hminus, true_or, if_true] at hlow
    split_ifs at hlow with hdigits
    · omega
    · omega
  · simp only [hminus, false_or, if_false] at hend hlow hhigh ⊢
    obtain ⟨sign, digits, hsign, hsplit, hunsigned⟩ : ∃ sign digits,
        (sign = [] ∨ sign = [0x2B]) ∧ unspaced = sign ++ digits ∧
          (if unspaced.head? = some 0x2B then unspaced.drop 1 else unspaced) = digits := by
      by_cases hplus : unspaced.head? = some 0x2B
      · obtain ⟨tail, rfl⟩ := List.head?_eq_some_iff.1 hplus
        exact ⟨[0x2B], tail, .inr rfl, rfl, by rw [if_pos hplus]; rfl⟩
      · exact ⟨[], unspaced, .inl rfl, rfl, if_neg hplus⟩
    rw [hunsigned] at hend hlow hhigh ⊢
    split_ifs at hend hlow hhigh ⊢ with hdigits
    · omega
    · have hall : ∀ octet ∈ digits, isDigitOctet octet = true := List.dropWhile_eq_nil_iff.1 hend
      rw [List.takeWhile_eq_self_iff.2 hall] at hdigits hlow hhigh ⊢
      have hvalue : decimal digits = Decimal.value digits := rfl
      rw [hvalue] at hlow hhigh ⊢
      have hfits : min (Decimal.value digits : Int) (2 ^ 63 - 1) = Decimal.value digits := by
        omega
      rw [hfits] at hlow hhigh ⊢
      refine ⟨Decimal.value digits, rfl, white, sign, digits, rest, ?_, hwhite, hsign,
        ⟨hdigits, hall, by omega, by omega⟩, rfl, hrest⟩
      rw [htext, hline, hsplit]
      simp only [List.append_assoc]

/-! ## The host and the port's text -/

/-- What follows the bracket that closes a literal. -/
def afterLiteral (host after : Octets) : Option (Octets × Octets) :=
  if after = [] then some (host, [])
  else if after.head? ≠ some colon then none
  else some (host, after.drop 1)

theorem splitHostAndPort_bracket (literal : Octets) :
    splitHostAndPort (openBracket :: literal) =
      if literal.contains closeBracket = true then
        afterLiteral (literal.takeWhile (· ≠ closeBracket))
          ((literal.dropWhile (· ≠ closeBracket)).drop 1)
      else none := rfl

theorem splitHostAndPort_closed {host : Octets} (h : closeBracket ∉ host) (after : Octets) :
    splitHostAndPort (openBracket :: (host ++ closeBracket :: after)) =
      afterLiteral host after := by
  rw [splitHostAndPort_bracket, if_pos (by simp), Delimiter.takeWhile_first h,
    Delimiter.dropWhile_first h]
  rfl

theorem splitHostAndPort_open {literal : Octets} (h : closeBracket ∉ literal) :
    splitHostAndPort (openBracket :: literal) = none := by
  rw [splitHostAndPort_bracket, if_neg (by simpa using h)]

theorem splitHostAndPort_plain {hostAndPort : Octets} (h : hostAndPort.head? ≠ some openBracket) :
    splitHostAndPort hostAndPort =
      if hostAndPort.contains colon = true then
        some (((hostAndPort.reverse.dropWhile (· ≠ colon)).drop 1).reverse,
          (hostAndPort.reverse.takeWhile (· ≠ colon)).reverse)
      else some (hostAndPort, []) :=
  if_neg h

theorem splitHostAndPort_last {host port : Octets}
    (h : (host ++ colon :: port).head? ≠ some openBracket) (hlast : colon ∉ port) :
    splitHostAndPort (host ++ colon :: port) = some (host, port) := by
  have hreverse : (host ++ colon :: port).reverse = port.reverse ++ colon :: host.reverse := by
    simp
  have hport : colon ∉ port.reverse := by
    simpa using hlast
  rw [splitHostAndPort_plain h, if_pos (by simp), hreverse, Delimiter.takeWhile_first hport,
    Delimiter.dropWhile_first hport, List.drop_succ_cons, List.drop_zero, List.reverse_reverse,
    List.reverse_reverse]

theorem splitHostAndPort_of_authority {hostAndPort host : Octets} {port? : Option Octets}
    (h : Authority hostAndPort host port?) :
    splitHostAndPort hostAndPort = some (host, port?.getD []) := by
  cases h with
  | literal _ first => exact splitHostAndPort_closed first []
  | literalPort _ port first => exact splitHostAndPort_closed first (colon :: port)
  | plain _ bracket hcolon =>
    rw [splitHostAndPort_plain bracket, if_neg (by simpa using hcolon)]
    rfl
  | plainPort _ port bracket last => exact splitHostAndPort_last bracket last

/-- The parser refuses a literal that is not closed, or not followed by a ':' or by nothing. -/
inductive Unfinished : Octets → Prop
  | unclosed (literal : Octets) (none : closeBracket ∉ literal) :
    Unfinished (openBracket :: literal)
  | closed (host after : Octets) (first : closeBracket ∉ host) (ne_nil : after ≠ [])
      (next : after.head? ≠ some colon) :
      Unfinished (openBracket :: (host ++ closeBracket :: after))

theorem splitHostAndPort_of_unfinished {hostAndPort : Octets} (h : Unfinished hostAndPort) :
    splitHostAndPort hostAndPort = none := by
  cases h with
  | unclosed literal none => exact splitHostAndPort_open none
  | closed host after first ne_nil next =>
    rw [splitHostAndPort_closed first, afterLiteral, if_neg ne_nil, if_pos next]

theorem exists_authority (hostAndPort : Octets) :
    Unfinished hostAndPort ∨ ∃ host port?, Authority hostAndPort host port? := by
  by_cases hbracket : hostAndPort.head? = some openBracket
  · obtain ⟨literal, rfl⟩ := List.head?_eq_some_iff.1 hbracket
    by_cases hclose : closeBracket ∈ literal
    · obtain ⟨host, after, rfl, hfirst⟩ := List.eq_append_cons_of_mem hclose
      cases after with
      | nil => exact .inr ⟨host, none, .literal host hfirst⟩
      | cons octet port =>
        by_cases hcolon : octet = colon
        · subst hcolon
          exact .inr ⟨host, some port, .literalPort host port hfirst⟩
        · left
          exact .closed host (octet :: port) hfirst (List.cons_ne_nil _ _)
            fun heq => hcolon (Option.some.inj heq)
    · exact .inl (.unclosed literal hclose)
  · right
    by_cases hcolon : colon ∈ hostAndPort
    · obtain ⟨host, port, rfl, hlast⟩ := Delimiter.exists_last hcolon
      exact ⟨host, some port, .plainPort host port hbracket hlast⟩
    · exact ⟨hostAndPort, none, .plain hostAndPort hbracket hcolon⟩

/-- A ':' without a port behind it is seen. -/
theorem Authority.port_ne_none {hostAndPort host port : Octets}
    (h : Authority hostAndPort host none) (h' : Authority hostAndPort host (some port)) :
      False := by
  generalize htext : hostAndPort = text at h'
  cases h with
  | literal _ first =>
    cases h' with
    | literalPort _ _ first' =>
      have htail := List.append_cancel_left (List.cons.inj htext).2
      simp at htail
    | plainPort _ _ bracket last =>
      rw [← htext] at bracket
      exact bracket rfl
  | plain _ bracket hcolon =>
    cases h' with
    | literalPort _ _ first' =>
      rw [htext] at bracket
      exact bracket rfl
    | plainPort _ _ bracket' last =>
      have hlength := congrArg List.length htext
      simp at hlength

theorem authority_unique {hostAndPort host host' : Octets} {port? port?' : Option Octets}
    (h : Authority hostAndPort host port?) (h' : Authority hostAndPort host' port?') :
    host = host' ∧ port? = port?' := by
  have hsplit := splitHostAndPort_of_authority h
  rw [splitHostAndPort_of_authority h'] at hsplit
  obtain ⟨rfl, hport⟩ := Prod.mk.inj (Option.some.inj hsplit)
  refine ⟨rfl, ?_⟩
  cases port? with
  | none =>
    cases port?' with
    | none => rfl
    | some port => exact absurd h' h.port_ne_none
  | some port =>
    cases port?' with
    | none => exact absurd h h'.port_ne_none
    | some port' => exact congrArg some hport.symm

/-! ## The URI -/

/-- The part before the first '/' is where the path begins. -/
theorem cut_unique {h h' text text' path path' : Octets} (hslash : uriSlash ∉ h)
    (hslash' : uriSlash ∉ h') (hpath : PathText text path) (hpath' : PathText text' path')
    (heq : scheme ++ h ++ text = scheme ++ h' ++ text') : h = h' ∧ path = path' := by
  rw [List.append_assoc, List.append_assoc] at heq
  replace heq := List.append_cancel_left heq
  cases hpath with
  | absent =>
    cases hpath' with
    | absent =>
      rw [List.append_nil, List.append_nil] at heq
      exact ⟨heq, rfl⟩
    | present rest =>
      rw [List.append_nil] at heq
      exact absurd (by simp [heq]) hslash
  | present rest =>
    cases hpath' with
    | absent =>
      rw [List.append_nil] at heq
      exact absurd (by simp [← heq]) hslash'
    | present rest' =>
      obtain ⟨rfl, rfl⟩ := Delimiter.first_unique hslash hslash' heq
      exact ⟨rfl, rfl⟩

theorem exists_cut (rest : Octets) :
    ∃ h text path, rest = h ++ text ∧ uriSlash ∉ h ∧ PathText text path := by
  by_cases hslash : uriSlash ∈ rest
  · obtain ⟨h, tail, rfl, hfirst⟩ := List.eq_append_cons_of_mem hslash
    exact ⟨h, uriSlash :: tail, uriSlash :: tail, rfl, hfirst, .present tail⟩
  · exact ⟨rest, [], [uriSlash], (List.append_nil rest).symm, hslash, .absent⟩

/-- The end of `ParseHubUri`: the port's text behind the host. -/
def readAddress (path : Octets) : Option (Octets × Octets) → Option HubAddress
  | none => none
  | some (host, portText) =>
    if host = [] then none
    else if portText = [] then some ⟨host, 443, path⟩
    else if (strtol (cString portText)).2 ≠ [] ∨ (strtol (cString portText)).1 < 1 ∨
        (strtol (cString portText)).1 > 65535 then none
    else some ⟨host, (strtol (cString portText)).1, path⟩

theorem parseHubUri_cut {h text path : Octets} (hslash : uriSlash ∉ h)
    (hpath : PathText text path) :
    parseHubUri (scheme ++ h ++ text) = readAddress path (splitHostAndPort h) := by
  have htake : (scheme ++ h ++ text).take (octetsOf "wss://").length = octetsOf "wss://" := by
    rw [List.append_assoc]
    exact List.take_left
  have hdrop : (scheme ++ h ++ text).drop (octetsOf "wss://").length = h ++ text := by
    rw [List.append_assoc]
    exact List.drop_left
  have hhost : (h ++ text).takeWhile (· ≠ 0x2F) = h := by
    cases hpath with
    | absent =>
      rw [List.append_nil]
      exact Delimiter.takeWhile_none hslash
    | present rest => exact Delimiter.takeWhile_first hslash
  have hrest : (if (h ++ text).contains 0x2F = true then (h ++ text).dropWhile (· ≠ 0x2F)
      else octetsOf "/") = path := by
    cases hpath with
    | absent =>
      rw [List.append_nil, if_neg]
      · rfl
      · intro hmem
        exact hslash (List.contains_iff_mem.1 hmem)
    | present rest =>
      rw [if_pos (by simp [uriSlash])]
      exact Delimiter.dropWhile_first hslash
  rw [parseHubUri, htake, hdrop]
  dsimp only
  rw [hhost, hrest, if_neg (fun hne => hne rfl)]
  cases splitHostAndPort h with
  | none => rfl
  | some parts => rfl

theorem parseHubUri_of_not_scheme {uri : Octets} (h : ¬ scheme <+: uri) :
    parseHubUri uri = none := by
  rw [parseHubUri]
  apply if_pos
  intro heq
  exact h (List.prefix_iff_eq_take.2 heq.symm)

theorem portRead_text {text : Octets} (hne : text ≠ []) {port : Nat} :
    PortRead (some text) port ↔ PortLike text port := by
  constructor
  · intro h
    cases h with
    | empty => exact absurd rfl hne
    | number _ _ like => exact like
  · exact .number text port

/-- The port that is read from the text behind a host. -/
theorem readAddress_eq_some_iff {path host : Octets} {port? : Option Octets}
    {address : HubAddress} :
    readAddress path (some (host, port?.getD [])) = some address ↔
      host ≠ [] ∧ ∃ port, PortRead port? port ∧ address = ⟨host, port, path⟩ := by
  rw [readAddress]
  by_cases hhost : host = []
  · simp [hhost]
  · rw [if_neg hhost, and_iff_right hhost]
    by_cases htext : port?.getD [] = []
    · -- no port's text
      have hread : ∀ port, PortRead port? port ↔ port = 443 := by
        intro port
        cases port? with
        | none =>
          constructor
          · intro h
            cases h
            rfl
          · rintro rfl
            exact .absent
        | some text =>
          obtain rfl : text = [] := htext
          constructor
          · intro h
            cases h with
            | empty => rfl
            | number _ _ like =>
              obtain ⟨heq, hlow, -⟩ := strtol_of_portLike like
              have hzero : (0 : Int) = port := congrArg Prod.fst heq
              omega
          · rintro rfl
            exact .empty
      rw [if_pos htext]
      simp [hread, eq_comm]
    · obtain ⟨text, rfl⟩ : ∃ text, port? = some text := by
        cases port? with
        | none => exact absurd rfl htext
        | some text => exact ⟨text, rfl⟩
      have hne : text ≠ [] := htext
      simp only [portRead_text hne, Option.getD_some, if_neg hne]
      constructor
      · intro h
        split_ifs at h with hchecks
        rw [not_or, not_or, not_not, not_lt, not_lt] at hchecks
        obtain ⟨hend, hlow, hhigh⟩ := hchecks
        obtain ⟨port, hport, hlike⟩ := portLike_of_strtol hend hlow hhigh
        rw [hport] at h
        exact ⟨port, hlike, (Option.some.inj h).symm⟩
      · rintro ⟨port, hlike, rfl⟩
        obtain ⟨hread, hlow, hhigh⟩ := strtol_of_portLike hlike
        rw [hread, if_neg]
        rw [not_or, not_or, not_not, not_lt, not_lt]
        exact ⟨rfl, by omega, by omega⟩

/-- **What the parser reads.** -/
theorem parseHubUri_eq_some_iff {uri : Octets} {address : HubAddress} :
    parseHubUri uri = some address ↔
      ∃ hostAndPort path port?, Reads uri address hostAndPort path port? := by
  constructor
  · intro h
    by_cases hscheme : scheme <+: uri
    · obtain ⟨rest, rfl⟩ := hscheme
      obtain ⟨hostAndPort, text, path, rfl, hslash, hpath⟩ := exists_cut rest
      rw [← List.append_assoc, parseHubUri_cut hslash hpath] at h
      rcases exists_authority hostAndPort with hopen | ⟨host, port?, hauthority⟩
      · rw [splitHostAndPort_of_unfinished hopen] at h
        cases h
      · rw [splitHostAndPort_of_authority hauthority] at h
        obtain ⟨hhost, port, hport, rfl⟩ := readAddress_eq_some_iff.1 h
        exact ⟨hostAndPort, text, port?, by rw [List.append_assoc], hslash, hpath, hauthority,
          hhost, port, hport, rfl⟩
    · rw [parseHubUri_of_not_scheme hscheme] at h
      cases h
  · rintro ⟨hostAndPort, path, port?, hreads⟩
    obtain ⟨port, hport, heq⟩ := hreads.port
    rw [hreads.eq, parseHubUri_cut hreads.slash hreads.path,
      splitHostAndPort_of_authority hreads.authority]
    exact readAddress_eq_some_iff.2 ⟨hreads.host, port, hport, by rw [← heq]⟩

/-! ## The parser and the grammar -/

theorem colon_not_mem_digits {digits : Octets} (h : NumberIn 1 65535 digits) : colon ∉ digits := by
  intro hmem
  exact absurd (h.digits colon hmem) (by decide)

theorem slash_not_mem_digits {digits : Octets} (h : NumberIn 1 65535 digits) :
    uriSlash ∉ digits := by
  intro hmem
  exact absurd (h.digits uriSlash hmem) (by decide)

theorem portLike_digits {digits : Octets} (h : NumberIn 1 65535 digits) :
    PortLike digits (Decimal.value digits) :=
  ⟨[], [], digits, [], by simp, by simp, .inl rfl, h, rfl, .inl rfl⟩

/-- Digits alone are read as the number they stand for. -/
theorem port_eq_value {digits : Octets} {port : Nat} (h : NumberIn 1 65535 digits)
    (hlike : PortLike digits port) : port = Decimal.value digits := by
  have heq := (strtol_of_portLike hlike).1.symm.trans (strtol_of_portLike (portLike_digits h)).1
  exact Int.ofNat_inj.1 (Prod.mk.inj heq).1

theorem PortText.read {text : Octets} {port : Nat} (h : PortText text port) :
    ∃ port?, PortRead port? port ∧ (∀ digits, port? = some digits → NumberIn 1 65535 digits) ∧
      text = (port?.map (colon :: ·)).getD [] := by
  cases h with
  | absent => exact ⟨none, .absent, by simp, rfl⟩
  | present digits number =>
    refine ⟨some digits, .number digits _ (portLike_digits number), ?_, rfl⟩
    intro digits' heq
    exact Option.some.inj heq ▸ number

theorem HostText.authority {text host : Octets} (h : HostText text host) {port? : Option Octets}
    (hport : ∀ digits, port? = some digits → NumberIn 1 65535 digits) :
    Authority (text ++ (port?.map (colon :: ·)).getD []) host port? := by
  cases h with
  | plain _ ne_nil slash hcolon bracket =>
    cases port? with
    | none =>
      rw [Option.map_none, Option.getD_none, List.append_nil]
      exact .plain _ bracket hcolon
    | some digits =>
      refine .plainPort _ digits ?_ (colon_not_mem_digits (hport digits rfl))
      rw [List.head?_append_of_ne_nil _ ne_nil]
      exact bracket
  | literal _ ne_nil slash bracket =>
    cases port? with
    | none =>
      rw [Option.map_none, Option.getD_none, List.append_nil]
      exact .literal host bracket
    | some digits =>
      have hassoc : (openBracket :: host ++ [closeBracket]) ++
          ((some digits).map (colon :: ·)).getD [] =
          openBracket :: (host ++ closeBracket :: colon :: digits) := by
        simp
      rw [hassoc]
      exact .literalPort host digits bracket

theorem HostText.ne_nil {text host : Octets} (h : HostText text host) : host ≠ [] := by
  cases h with
  | plain _ ne_nil => exact ne_nil
  | literal _ ne_nil => exact ne_nil

theorem HostText.slash {text host : Octets} (h : HostText text host) : uriSlash ∉ text := by
  cases h with
  | plain _ _ slash => exact slash
  | literal _ _ slash =>
    simp only [List.mem_append, List.mem_cons, List.not_mem_nil, or_false, not_or]
    exact ⟨⟨by decide, slash⟩, by decide⟩

/-- A host of the grammar has a ':' in brackets only. -/
theorem HostText.colon {text host rest : Octets} (h : HostText text host)
    (hbracket : (text ++ rest).head? ≠ some openBracket) : colon ∉ host := by
  cases h with
  | plain _ _ _ colon => exact colon
  | literal => exact absurd rfl hbracket

theorem reads_of_isWritten {uri : Octets} {address : HubAddress} (h : address.IsWritten uri) :
    ∃ hostAndPort path port?, Reads uri address hostAndPort path port? ∧
      ¬ Loose hostAndPort address.host port? := by
  obtain ⟨host, portText, path, port, rfl, hhost, hportText, hport, hpath⟩ := h
  obtain ⟨port?, hread, hdigits, rfl⟩ := hportText.read
  refine ⟨host ++ (port?.map (colon :: ·)).getD [], path, port?,
    ⟨rfl, ?_, hpath, hhost.authority hdigits, hhost.ne_nil, port, hread, hport⟩, ?_⟩
  · rw [List.mem_append, not_or]
    refine ⟨hhost.slash, ?_⟩
    cases port? with
    | none => simp
    | some digits =>
      intro hmem
      rcases List.mem_cons.1 hmem with heq | hmem
      · exact absurd heq (by decide)
      · exact slash_not_mem_digits (hdigits digits rfl) hmem
  · rintro (⟨hbracket, hcolon⟩ | ⟨text, rfl, hnot⟩)
    · exact hhost.colon hbracket hcolon
    · exact hnot (hdigits text rfl)

theorem isWritten_of_reads {uri hostAndPort path : Octets} {address : HubAddress}
    {port? : Option Octets} (h : Reads uri address hostAndPort path port?)
    (hstrict : ¬ Loose hostAndPort address.host port?) : address.IsWritten uri := by
  rw [Loose, not_or] at hstrict
  obtain ⟨hhost, hnumber⟩ := hstrict
  obtain ⟨port, hread, hport⟩ := h.port
  have hslash := h.slash
  have hportText : ∃ portText, PortText portText port ∧
      portText = (port?.map (colon :: ·)).getD [] := by
    cases port? with
    | none =>
      cases hread
      exact ⟨[], .absent, rfl⟩
    | some digits =>
      have hdigits : NumberIn 1 65535 digits := by
        by_contra hnot
        exact hnumber ⟨digits, rfl, hnot⟩
      have hlike := (portRead_text hdigits.ne_nil).1 hread
      rw [port_eq_value hdigits hlike]
      exact ⟨colon :: digits, .present digits hdigits, rfl⟩
  obtain ⟨portText, hportText, htext⟩ := hportText
  have hhostText : ∃ host, HostText host address.host ∧ hostAndPort = host ++ portText := by
    rw [htext]
    cases h.authority with
    | literal _ first =>
      have hnone : uriSlash ∉ address.host := by
        intro hmem
        exact hslash (by simp [hmem])
      exact ⟨_, .literal _ h.host hnone first, by simp⟩
    | literalPort _ digits first =>
      have hnone : uriSlash ∉ address.host := by
        intro hmem
        exact hslash (by simp [hmem])
      exact ⟨_, .literal _ h.host hnone first, by simp⟩
    | plain _ bracket hcolon =>
      exact ⟨_, .plain _ h.host hslash hcolon bracket, by simp⟩
    | plainPort _ digits bracket last =>
      have hcolon : colon ∉ address.host := fun hmem => hhost ⟨bracket, hmem⟩
      have hnone : uriSlash ∉ address.host := by
        intro hmem
        exact hslash (by simp [hmem])
      have hhead : address.host.head? ≠ some openBracket := by
        rwa [List.head?_append_of_ne_nil _ h.host] at bracket
      exact ⟨_, .plain _ h.host hnone hcolon hhead, by simp⟩
  obtain ⟨host, hhostText, rfl⟩ := hhostText
  exact ⟨host, portText, path, port, h.eq, hhostText, hportText, hport, h.path⟩

theorem reads_unique {uri hostAndPort hostAndPort' path path' : Octets}
    {address address' : HubAddress} {port? port?' : Option Octets}
    (h : Reads uri address hostAndPort path port?)
    (h' : Reads uri address' hostAndPort' path' port?') :
    hostAndPort = hostAndPort' ∧ address.host = address'.host ∧ port? = port?' := by
  obtain ⟨rfl, -⟩ := cut_unique h.slash h'.slash h.path h'.path (h.eq.symm.trans h'.eq)
  exact ⟨rfl, authority_unique h.authority h'.authority⟩

/-- A loosely written URI is read as an address that it is not one of. -/
theorem LooselyWritten.not_exact {uri : Octets} (h : LooselyWritten uri) :
    ¬ ∀ address, parseHubUri uri = some address ↔ address.IsWritten uri := by
  intro hexact
  obtain ⟨address, hostAndPort, path, port?, hreads, hloose⟩ := h
  have hwritten := (hexact address).1 (parseHubUri_eq_some_iff.2 ⟨_, _, _, hreads⟩)
  obtain ⟨hostAndPort', path', port?', hreads', hstrict⟩ := reads_of_isWritten hwritten
  obtain ⟨rfl, -, rfl⟩ := reads_unique hreads hreads'
  exact hstrict hloose

/-- **When the parser gives what the grammar says.** -/
theorem parseHubUri_exact_iff (uri : Octets) :
    (∀ address, parseHubUri uri = some address ↔ address.IsWritten uri) ↔ ¬ LooselyWritten uri := by
  constructor
  · intro h hloose
    exact hloose.not_exact h
  · intro h address
    rw [parseHubUri_eq_some_iff]
    constructor
    · rintro ⟨hostAndPort, path, port?, hreads⟩
      refine isWritten_of_reads hreads ?_
      intro hloose
      exact h ⟨address, hostAndPort, path, port?, hreads, hloose⟩
    · intro hwritten
      obtain ⟨hostAndPort, path, port?, hreads, -⟩ := reads_of_isWritten hwritten
      exact ⟨hostAndPort, path, port?, hreads⟩

/-- `wss://fd00::1`: the host `fd00:` with port 1. -/
theorem unbracketed_is_read :
    ¬ ∀ (uri : Octets) (address : HubAddress),
      parseHubUri uri = some address ↔ address.IsWritten uri := by
  have hvalue : Decimal.value (octetsOf "1") = 1 := rfl
  have hdigits : (octetsOf "1").all Decimal.isDigit = true := rfl
  have hnumber : NumberIn 1 65535 (octetsOf "1") :=
    ⟨by decide, List.all_eq_true.1 hdigits, hvalue.ge, by omega⟩
  have hloose : LooselyWritten (octetsOf "wss://fd00::1") := by
    refine ⟨⟨octetsOf "fd00:", 1, [uriSlash]⟩, octetsOf "fd00::1", [], some (octetsOf "1"),
      ⟨by decide, by decide, .absent, ?_, by decide, 1, ?_, rfl⟩, .inl ⟨by decide, by decide⟩⟩
    · exact .plainPort (octetsOf "fd00:") (octetsOf "1") (by decide) (by decide)
    · exact .number _ _ (portLike_digits hnumber)
  intro h
  exact hloose.not_exact (h _)

/-! ## The command line and the parser -/

/-- What the parser refuses behind the scheme: a literal that is not finished, no host, or a port's
text that is not a port. -/
def Undialable (uri : Octets) : Prop :=
  ∃ hostAndPort text path, uri = scheme ++ hostAndPort ++ text ∧ uriSlash ∉ hostAndPort ∧
    PathText text path ∧
    (Unfinished hostAndPort ∨ ∃ host port?, Authority hostAndPort host port? ∧
      (host = [] ∨ ∃ portText, port? = some portText ∧ portText ≠ [] ∧
        ∀ port, ¬ PortLike portText port))

theorem undialable_of_refused {uri : Octets} (hscheme : scheme <+: uri)
    (h : parseHubUri uri = none) : Undialable uri := by
  obtain ⟨rest, rfl⟩ := hscheme
  obtain ⟨hostAndPort, text, path, rfl, hslash, hpath⟩ := exists_cut rest
  refine ⟨hostAndPort, text, path, by rw [List.append_assoc], hslash, hpath, ?_⟩
  rcases exists_authority hostAndPort with hopen | ⟨host, port?, hauthority⟩
  · exact .inl hopen
  · right
    refine ⟨host, port?, hauthority, ?_⟩
    by_contra hnot
    rw [not_or] at hnot
    obtain ⟨hhost, htext⟩ := hnot
    -- the port can be read, and so can the URI
    have hport : ∃ port, PortRead port? port := by
      cases port? with
      | none => exact ⟨443, .absent⟩
      | some portText =>
        by_cases hempty : portText = []
        · subst hempty
          exact ⟨443, .empty⟩
        · by_contra hnone
          refine htext ⟨portText, rfl, hempty, ?_⟩
          intro port hlike
          exact hnone ⟨port, .number portText port hlike⟩
    obtain ⟨port, hread⟩ := hport
    have hreads : Reads (scheme ++ (hostAndPort ++ text)) ⟨host, port, path⟩ hostAndPort text
        port? :=
      ⟨by rw [List.append_assoc], hslash, hpath, hauthority, hhost, port, hread, rfl⟩
    rw [parseHubUri_eq_some_iff.2 ⟨_, _, _, hreads⟩] at h
    cases h

theorem Undialable.refused {uri : Octets} (h : Undialable uri) : parseHubUri uri = none := by
  obtain ⟨hostAndPort, text, path, rfl, hslash, hpath, hparts⟩ := h
  rw [parseHubUri_cut hslash hpath]
  rcases hparts with hopen | ⟨host, port?, hauthority, hparts⟩
  · rw [splitHostAndPort_of_unfinished hopen]
    rfl
  · rw [splitHostAndPort_of_authority hauthority]
    cases hread : readAddress path (some (host, port?.getD [])) with
    | none => rfl
    | some address =>
      obtain ⟨hhost, port, hport, -⟩ := readAddress_eq_some_iff.1 hread
      rcases hparts with hnone | ⟨portText, rfl, hne, hnot⟩
      · exact absurd hnone hhost
      · exact absurd ((portRead_text hne).1 hport) (hnot port)

/-- The hub URIs that a command line stores. -/
def storedHubs (options : Options) : List Octets :=
  [options.scPrimaryHubUri, options.scFailoverHubUri].filter (· ≠ [])

theorem scheme_of_isHubUri {uri : Octets} (h : IsHubUri uri) : scheme <+: uri ∧ uri ≠ [] := by
  refine ⟨List.isPrefixOf_iff_prefix.1 h.secure, ?_⟩
  rintro rfl
  exact absurd h.lt_length (by decide)

/-- Both hub options are checked in the same way. -/
theorem isHubUri_of_given {b : Build} {items : List (CommandLine.Item ValueOption)}
    {options : Options} (h : Runs b items options) {uri : Octets}
    (hgiven : lastValue items (.link .scHub) = some uri ∨
      lastValue items (.link .scFailoverHub) = some uri) : IsHubUri uri := by
  rcases hgiven with hlast | hlast
  · exact h.accepted _ _ (lastValue_mem hlast)
  · exact h.accepted _ _ (lastValue_mem hlast)

theorem mem_storedHubs {b : Build} {items : List (CommandLine.Item ValueOption)} {options : Options}
    (h : Runs b items options) {uri : Octets} :
    uri ∈ storedHubs options ↔
      lastValue items (.link .scHub) = some uri ∨
        lastValue items (.link .scFailoverHub) = some uri := by
  have hlast : ∀ o : LinkOption, (o = .scHub ∨ o = .scFailoverHub) → ∀ {uri : Octets},
      (uri = (lastValue items (.link o)).getD [] ∧ uri ≠ []) ↔
        lastValue items (.link o) = some uri := by
    intro o ho uri
    cases hgiven : lastValue items (.link o) with
    | none => simp
    | some given =>
      have hne : given ≠ [] := by
        rcases ho with rfl | rfl
        · exact (scheme_of_isHubUri (isHubUri_of_given h (.inl hgiven))).2
        · exact (scheme_of_isHubUri (isHubUri_of_given h (.inr hgiven))).2
      constructor
      · rintro ⟨heq, -⟩
        rw [heq]
        rfl
      · intro heq
        rw [← Option.some.inj heq]
        exact ⟨rfl, hne⟩
  rw [storedHubs, List.mem_filter, h.options_eq]
  simp only [List.mem_cons, List.not_mem_nil, or_false, decide_eq_true_eq, or_and_right]
  exact or_congr (hlast .scHub (.inl rfl)) (hlast .scFailoverHub (.inr rfl))

/-- **When every hub that the command line stores can be dialled.** -/
theorem hubs_dialled_iff {b : Build} {args : List Octets} {options : Options}
    (h : parseCommandLine b args = .run options) :
    ∃ items, args = argumentsOf items ∧
      ((∀ uri ∈ storedHubs options, (parseHubUri uri).isSome = true) ↔
        ∀ uri, lastValue items (.link .scHub) = some uri ∨
          lastValue items (.link .scFailoverHub) = some uri → ¬ Undialable uri) := by
  obtain ⟨items, hargs, hruns⟩ := (run_iff b args options).1 h
  refine ⟨items, hargs, ?_⟩
  constructor
  · intro hall uri hgiven hnot
    have hsome := hall uri ((mem_storedHubs hruns).2 hgiven)
    rw [hnot.refused] at hsome
    cases hsome
  · intro hall uri hmem
    have hgiven := (mem_storedHubs hruns).1 hmem
    have hscheme : scheme <+: uri := (scheme_of_isHubUri (isHubUri_of_given hruns hgiven)).1
    rw [Option.isSome_iff_ne_none]
    intro hnone
    exact hall uri hgiven (undialable_of_refused hscheme hnone)

/-- `--datalink sc --sc-hub wss://hub`. -/
def hubArguments : List Octets := ["--datalink", "sc", "--sc-hub", "wss://hub"].map octetsOf

theorem hubs_dialled_iff_hub :
    ∃ items, hubArguments = argumentsOf items ∧
      ((∀ uri ∈ storedHubs { dataLink := .sc, scPrimaryHubUri := octetsOf "wss://hub" },
          (parseHubUri uri).isSome = true) ↔
        ∀ uri, lastValue items (.link .scHub) = some uri ∨
          lastValue items (.link .scFailoverHub) = some uri → ¬ Undialable uri) :=
  hubs_dialled_iff (show parseCommandLine linux hubArguments = _ by rfl)

/-- `--datalink sc --sc-hub wss://:4443`: a port, and no host. -/
theorem hub_without_host_runs :
    ¬ ∀ (b : Build) (args : List Octets) (options : Options),
      parseCommandLine b args = .run options → options.dataLink = .sc →
        ∀ uri ∈ storedHubs options, (parseHubUri uri).isSome = true := by
  intro h
  have hrun : parseCommandLine linux
      (["--datalink", "sc", "--sc-hub", "wss://:4443"].map octetsOf) =
        .run { dataLink := .sc, scPrimaryHubUri := octetsOf "wss://:4443" } := by rfl
  have hsome := h _ _ _ hrun rfl (octetsOf "wss://:4443") (by decide)
  exact absurd hsome (by decide)

end BacnetBc.Hub
