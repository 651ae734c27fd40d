import BacnetBc.CommandLine.Checked
import BacnetBc.Lib.Hex
import BacnetBc.Lib.Trajectory

/-!
# The device UUID

A secure-connect device has a UUID that stays the same across restarts. It is made once, at random,
and saved in the certificate folder; every later start-up loads it from there.

**Saving.** The UUID is put into a stream, octet by octet, and the stream is asked whether it failed
before it is closed. What is still in the stream's buffer is written when it closes, and nothing
looks at how that went (`Save`).

**Loading.** The first word of the file has to have 32 octets, and `strtoul` has to read each two of
them to their end. It also reads a sign.

**Theorem (`stable_iff`).** In a run of start-ups, whatever a call returns is what every later one
returns, and only hexadecimal digits are loaded, exactly when every call that makes a UUID and
closes the stream leaves its 32 digits in a file that can be read, and no sign is loaded.
-/

namespace BacnetBc.DeviceUuid

open Memory CommandLine

/-! ## The file -/

/-- `>>` of a string: the octets up to white space, after the white space in front. -/
def firstWord (content : Octets) : Octets :=
  (content.dropWhile isSpace).takeWhile fun octet => !isSpace octet

/-- `strtoul` with base 16. The octets of `0x` are read only before a digit. -/
def strtoul16 (b : Build) (text : Octets) : Strtoul :=
  let unspaced := text.dropWhile isSpace
  let negative := unspaced.head? == some 0x2D
  let signed := negative || unspaced.head? == some 0x2B
  let unsigned := if signed then unspaced.tail else unspaced
  let marked := unsigned.head? == some 0x30 &&
    (unsigned[1]? == some 0x78 || unsigned[1]? == some 0x58) && unsigned[2]?.any Hex.isDigit
  let unmarked := if marked then unsigned.drop 2 else unsigned
  let digits := unmarked.takeWhile Hex.isDigit
  let rest := unmarked.dropWhile Hex.isDigit
  if digits = [] then { value := 0, parseEnd := text, outOfRange := false }
  else if b.ulongMax < Hex.value digits then
    { value := b.ulongMax, parseEnd := rest, outOfRange := true }
  else if negative then
    { value := (b.ulongMax + 1 - Hex.value digits) % (b.ulongMax + 1), parseEnd := rest,
      outOfRange := false }
  else { value := Hex.value digits, parseEnd := rest, outOfRange := false }

/-- One octet, if `parseEnd` is at the end of its text. -/
def readOctet (b : Build) (octetText : Octets) : Option UInt8 :=
  let parsed := strtoul16 b octetText
  if parsed.parseEnd = [] then some (.ofNat parsed.value) else none

/-- The UUID that a file holds, if it is accepted. -/
def readUuid (b : Build) (content : Octets) : Option Octets :=
  let hexText := firstWord content
  if hexText.length = 32 then
    (List.range 16).mapM fun octetIndex => readOctet b (Hex.pairAt hexText octetIndex)
  else none

/-- The text of a UUID in its file. -/
def uuidText (uuid : Octets) : Octets := Hex.text uuid ++ [0x0A]

/-- The octets of the random source, with the version and the variant put into them. -/
def newUuid (random : Vector UInt32 16) : Octets :=
  ((random.toList.map fun value => (value &&& 0xFF).toUInt8).modify 6
    fun octet => (octet &&& 0x0F) ||| 0x40).modify 8 fun octet => (octet &&& 0x3F) ||| 0x80

/-! ## A start-up -/

/-- `sc-device-uuid.txt` in the certificate folder. -/
structure CertFolder where
  file : Option Octets
  /-- Whether the process may read a file there. -/
  readable : Bool
deriving DecidableEq

/-- How the stream fares to which a new UUID is put. -/
inductive Save
  | notOpened
  /-- A `<<` fails, and some octets have reached the file. -/
  | failed (written : Nat)
  /-- No `<<` fails, and this many octets are in the file after the stream has closed. -/
  | closed (written : Nat)
deriving DecidableEq

structure StartUp where
  random : Vector UInt32 16
  save : Save

namespace CertFolder

/-- The UUID that is loaded. -/
def saved (b : Build) (folder : CertFolder) : Option Octets :=
  if folder.readable then folder.file.bind (readUuid b) else none

/-- `LoadOrCreateDeviceUuid`: the UUID, where it returns true, and the folder it leaves. -/
def loadOrCreateDeviceUuid (b : Build) (folder : CertFolder) (startUp : StartUp) :
    Option Octets × CertFolder :=
  match folder.saved b with
  | some uuid => (some uuid, folder)
  | none =>
    let uuid := newUuid startUp.random
    match startUp.save with
    | .notOpened => (none, folder)
    | .failed written => (none, { folder with file := some ((uuidText uuid).take written) })
    -- the stream is closed after it was asked, so that what is lost then is not noticed
    | .closed written => (some uuid, { folder with file := some ((uuidText uuid).take written) })

/-- What one start-up makes of the folder. -/
def step (b : Build) (folder : CertFolder) (startUp : StartUp) : Except Empty CertFolder :=
  .ok (folder.loadOrCreateDeviceUuid b startUp).2

/-- What the calls of a run return. -/
def results (b : Build) (folder : CertFolder) : List StartUp → List (Option Octets)
  | [] => []
  | startUp :: later =>
    (folder.loadOrCreateDeviceUuid b startUp).1 ::
      results b (folder.loadOrCreateDeviceUuid b startUp).2 later

end CertFolder

/-! ## Words -/

theorem isSpace_of_mem_firstWord {content : Octets} {octet : UInt8}
    (h : octet ∈ firstWord content) : isSpace octet = false := by
  have hword := List.mem_takeWhile_imp h
  simpa using hword

/-- White space after a word ends it. -/
theorem firstWord_append {word rest : Octets} (hword : ∀ octet ∈ word, isSpace octet = false)
    (hrest : ∀ octet ∈ rest, isSpace octet = true) : firstWord (word ++ rest) = word := by
  have htake : rest.takeWhile (fun octet => !isSpace octet) = [] := by
    cases rest with
    | nil => rfl
    | cons octet rest =>
      exact List.takeWhile_cons_of_neg (by simp [hrest octet List.mem_cons_self])
  have hpos : ∀ octet ∈ word, (!isSpace octet) = true := by
    intro octet hmem
    rw [hword octet hmem]
    rfl
  rw [firstWord]
  cases word with
  | nil => rw [List.nil_append, List.dropWhile_eq_nil_iff.2 hrest, List.takeWhile_nil]
  | cons octet word =>
    rw [List.cons_append, List.dropWhile_cons_of_neg (by simp [hword octet List.mem_cons_self]),
      ← List.cons_append, List.takeWhile_append_of_pos hpos, htake, List.append_nil]

/-! ## Reading two octets -/

theorem isSpace_of_isDigit {octet : UInt8} (h : Hex.isDigit octet = true) :
    isSpace octet = false := by
  have hlow : 0x30 ≤ octet.toNat := UInt8.le_iff_toNat_le.1 (Hex.le_of_isDigit h)
  have hne : octet ≠ 0x20 := by
    intro heq
    subst heq
    cases h
  have hhigh : ¬ octet ≤ 0x0D := by
    intro hle
    exact absurd (hlow.trans (UInt8.le_iff_toNat_le.1 hle)) (by decide)
  simp [isSpace, hne, hhigh]

theorem ne_sign_of_isDigit {octet : UInt8} (h : Hex.isDigit octet = true) :
    octet ≠ 0x2B ∧ octet ≠ 0x2D := by
  refine ⟨?_, ?_⟩
  · intro heq
    subst heq
    cases h
  · intro heq
    subst heq
    cases h

/-- Two octets that start with no white space and no sign are digits, or they are not read to
their end. -/
theorem parseEnd_pair (b : Build) {first second : UInt8} (hspace : isSpace first = false)
    (hplus : first ≠ 0x2B) (hminus : first ≠ 0x2D) :
    (strtoul16 b [first, second]).parseEnd = [] ↔
      Hex.isDigit first = true ∧ Hex.isDigit second = true := by
  have hunspaced : [first, second].dropWhile isSpace = [first, second] :=
    List.dropWhile_cons_of_neg (by simp [hspace])
  rw [strtoul16, hunspaced]
  by_cases hfirst : Hex.isDigit first = true
  · by_cases hsecond : Hex.isDigit second = true
    · simp [hplus, hminus, hfirst, hsecond]
      split_ifs <;> rfl
    · simp [hplus, hminus, hfirst, hsecond]
      split_ifs <;> simp
  · simp [hplus, hminus, hfirst]

theorem strtoul16_pair (b : Build) {first second : UInt8} (hfirst : Hex.isDigit first = true)
    (hsecond : Hex.isDigit second = true) (hfits : Hex.value [first, second] < 256) :
    strtoul16 b [first, second] =
      { value := Hex.value [first, second], parseEnd := [], outOfRange := false } := by
  obtain ⟨hplus, hminus⟩ := ne_sign_of_isDigit hfirst
  have hunspaced : [first, second].dropWhile isSpace = [first, second] :=
    List.dropWhile_cons_of_neg (by simp [isSpace_of_isDigit hfirst])
  have hrange : ¬ b.ulongMax < Hex.value [first, second] := by
    have hulong := b.le_ulongMax
    omega
  rw [strtoul16, hunspaced]
  simp [hplus, hminus, hfirst, hsecond, hrange]

/-- **An octet is read from its two digits.** -/
theorem readOctet_pair (b : Build) (octet : UInt8) : readOctet b (Hex.pair octet) = some octet := by
  have hread : strtoul16 b (Hex.pair octet) =
      { value := Hex.value (Hex.pair octet), parseEnd := [], outOfRange := false } :=
    strtoul16_pair b (Hex.isDigit_digit (Hex.high_lt octet)) (Hex.isDigit_digit (Hex.low_lt octet))
      ((Hex.value_pair octet).trans_lt octet.toNat_lt)
  rw [readOctet, hread, if_pos rfl, Hex.value_pair, UInt8.ofNat_toNat]

/-! ## Reading a file -/

theorem mapM_of_some {α β : Type} {f : α → Option β} {g : α → β} {l : List α}
    (h : ∀ a ∈ l, f a = some (g a)) : l.mapM f = some (l.map g) := by
  induction l with
  | nil => rfl
  | cons a l ih =>
    obtain ⟨ha, hl⟩ := List.forall_mem_cons.1 h
    rw [List.mapM_cons, ha, ih hl]
    rfl

theorem length_and_isSome_of_mapM {α β : Type} {f : α → Option β} {l : List α} {bs : List β}
    (h : l.mapM f = some bs) : bs.length = l.length ∧ ∀ a ∈ l, (f a).isSome = true := by
  induction l generalizing bs with
  | nil =>
    obtain rfl : [] = bs := Option.some.inj h
    exact ⟨rfl, by simp⟩
  | cons a l ih =>
    rw [List.mapM_cons] at h
    obtain ⟨b, hb, h⟩ := Option.bind_eq_some_iff.1 h
    obtain ⟨bs', hbs, h⟩ := Option.bind_eq_some_iff.1 h
    obtain rfl : b :: bs' = bs := Option.some.inj h
    obtain ⟨hlength, hsome⟩ := ih hbs
    refine ⟨by rw [List.length_cons, List.length_cons, hlength], ?_⟩
    intro a' hmem
    rcases List.mem_cons.1 hmem with rfl | hmem
    · rw [hb]
      rfl
    · exact hsome a' hmem

/-- **A UUID is read from its digits.** -/
theorem readUuid_of_firstWord (b : Build) {content uuid : Octets} (hlength : uuid.length = 16)
    (h : firstWord content = Hex.text uuid) : readUuid b content = some uuid := by
  have hword : (Hex.text uuid).length = 32 := by rw [Hex.length_text, hlength]
  have hoctets : ∀ octetIndex ∈ List.range 16,
      readOctet b (Hex.pairAt (Hex.text uuid) octetIndex) = some (uuid.getD octetIndex 0) := by
    intro octetIndex hmem
    have hlt : octetIndex < uuid.length := by
      rw [hlength]
      exact List.mem_range.1 hmem
    rw [Hex.pairAt_text hlt, readOctet_pair, List.getD_eq_getElem _ _ hlt]
  have huuid : (List.range 16).map (fun octetIndex => uuid.getD octetIndex 0) = uuid := by
    apply List.ext_getElem
    · rw [List.length_map, List.length_range, hlength]
    · intro octetIndex hrange hlt
      rw [List.getElem_map, List.getElem_range, List.getD_eq_getElem _ _ hlt]
  rw [readUuid, h, if_pos hword, mapM_of_some hoctets, huuid]

/-- What a file has to be for its UUID to be accepted. -/
theorem of_readUuid {b : Build} {content uuid : Octets} (h : readUuid b content = some uuid) :
    uuid.length = 16 ∧ (firstWord content).length = 32 ∧ ∀ octetIndex < 16,
      (readOctet b (Hex.pairAt (firstWord content) octetIndex)).isSome = true := by
  rw [readUuid] at h
  split_ifs at h with hword
  obtain ⟨hlength, hsome⟩ := length_and_isSome_of_mapM h
  rw [List.length_range] at hlength
  exact ⟨hlength, hword, fun octetIndex hlt => hsome octetIndex (List.mem_range.2 hlt)⟩

/-- No two of the octets that are read together start with a sign. -/
def Unsigned (text : Octets) : Prop :=
  ∀ octetIndex < 16, text[2 * octetIndex]? ≠ some 0x2B ∧ text[2 * octetIndex]? ≠ some 0x2D

theorem pairAt_eq {text : Octets} {index : Nat} (h : 2 * index + 1 < text.length) :
    Hex.pairAt text index = [text[2 * index], text[2 * index + 1]] := by
  rw [Hex.pairAt, List.drop_eq_getElem_cons (by omega), List.drop_eq_getElem_cons h]
  rfl

/-- **An accepted word is 32 digits** if and only if it has no sign where `strtoul` starts. -/
theorem digits_iff_unsigned {b : Build} {content uuid : Octets}
    (h : readUuid b content = some uuid) :
    (∀ octet ∈ firstWord content, Hex.isDigit octet = true) ↔ Unsigned (firstWord content) := by
  obtain ⟨-, hlength, hsome⟩ := of_readUuid h
  constructor
  · intro hdigits octetIndex hlt
    have hbound : 2 * octetIndex < (firstWord content).length := by omega
    rw [List.getElem?_eq_getElem hbound]
    obtain ⟨hplus, hminus⟩ := ne_sign_of_isDigit (hdigits _ (List.getElem_mem hbound))
    exact ⟨fun heq => hplus (Option.some.inj heq), fun heq => hminus (Option.some.inj heq)⟩
  · intro hunsigned octet hmem
    obtain ⟨index, hindex, rfl⟩ := List.mem_iff_getElem.1 hmem
    have hbound : 2 * (index / 2) + 1 < (firstWord content).length := by omega
    have hread := hsome (index / 2) (by omega)
    obtain ⟨hplus, hminus⟩ := hunsigned (index / 2) (by omega)
    rw [List.getElem?_eq_getElem (by omega)] at hplus hminus
    have hspace := isSpace_of_mem_firstWord
      (List.getElem_mem (show 2 * (index / 2) < (firstWord content).length by omega))
    rw [pairAt_eq hbound, readOctet] at hread
    split_ifs at hread with hend
    · obtain ⟨hfirst, hsecond⟩ := (parseEnd_pair b hspace (fun heq => hplus (congrArg some heq))
        fun heq => hminus (congrArg some heq)).1 hend
      rcases Nat.mod_two_eq_zero_or_one index with heven | hodd
      · have heq : 2 * (index / 2) = index := by omega
        simpa only [heq] using hfirst
      · have heq : 2 * (index / 2) + 1 = index := by omega
        simpa only [heq] using hsecond
    · cases hread

/-! ## Files that were cut off -/

theorem length_newUuid (random : Vector UInt32 16) : (newUuid random).length = 16 := by
  rw [newUuid, List.length_modify, List.length_modify, List.length_map, Vector.length_toList]

/-- What is left of a UUID's text has as many digits as octets, up to 32. -/
theorem firstWord_take_uuidText (uuid : Octets) (written : Nat) :
    firstWord ((uuidText uuid).take written) = (Hex.text uuid).take written := by
  rw [uuidText, List.take_append]
  apply firstWord_append
  · intro octet hmem
    exact isSpace_of_isDigit (Hex.isDigit_of_mem_text (List.mem_of_mem_take hmem))
  · intro octet hmem
    rw [List.mem_singleton.1 (List.mem_of_mem_take hmem)]
    rfl

/-- **A UUID is read back** if and only if none of its digits was cut off. -/
theorem readUuid_take_uuidText (b : Build) {uuid : Octets} (hlength : uuid.length = 16)
    (written : Nat) :
    readUuid b ((uuidText uuid).take written) = some uuid ↔ 32 ≤ written := by
  have htext : (Hex.text uuid).length = 32 := by rw [Hex.length_text, hlength]
  constructor
  · intro h
    obtain ⟨-, hword, -⟩ := of_readUuid h
    rw [firstWord_take_uuidText, List.length_take, htext] at hword
    omega
  · intro h
    apply readUuid_of_firstWord b hlength
    rw [firstWord_take_uuidText, List.take_of_length_le (htext.trans_le h)]

/-! ## Runs -/

namespace CertFolder

variable (b : Build)

theorem load_of_saved {folder : CertFolder} {uuid : Octets} (h : folder.saved b = some uuid)
    (startUp : StartUp) : folder.loadOrCreateDeviceUuid b startUp = (some uuid, folder) := by
  rw [loadOrCreateDeviceUuid, h]

/-- **A saved UUID** is what every call of a run returns, whatever the later start-ups would
make. -/
theorem results_of_saved {folder : CertFolder} {uuid : Octets} (h : folder.saved b = some uuid)
    (startUps : List StartUp) : ∀ result ∈ folder.results b startUps, result = some uuid := by
  induction startUps with
  | nil => simp [results]
  | cons startUp later ih =>
    intro result hmem
    rw [results, load_of_saved b h startUp] at hmem
    rcases List.mem_cons.1 hmem with rfl | hmem
    · rfl
    · exact ih result hmem

/-- **All later calls return a UUID** if and only if it is saved. -/
theorem results_eq_iff (folder : CertFolder) (uuid : Octets) :
    (∀ startUps, ∀ result ∈ folder.results b startUps, result = some uuid) ↔
      folder.saved b = some uuid := by
  constructor
  · intro h
    -- a start-up that cannot save anything returns only what is saved
    have hfirst := h [⟨Vector.replicate 16 0, .notOpened⟩] _ List.mem_cons_self
    cases hsaved : folder.saved b with
    | none =>
      rw [loadOrCreateDeviceUuid, hsaved] at hfirst
      cases hfirst
    | some saved =>
      rwa [load_of_saved b hsaved] at hfirst
  · intro h startUps
    exact results_of_saved b h startUps

/-- The octets that this start-up returns, if it returns true, are those of every later one. -/
def Stable (folder : CertFolder) (startUp : StartUp) : Prop :=
  ∀ uuid, (folder.loadOrCreateDeviceUuid b startUp).1 = some uuid → uuid.length = 16 ∧
    ∀ later, ∀ result ∈ (folder.loadOrCreateDeviceUuid b startUp).2.results b later,
      result = some uuid

/-- The file is accepted only if its first word is 32 digits. -/
def LoadsDigits (folder : CertFolder) : Prop :=
  (folder.saved b).isSome → ∃ content, folder.file = some content ∧
    (firstWord content).length = 32 ∧ ∀ octet ∈ firstWord content, Hex.isDigit octet = true

/-- A stream that closes on a new UUID leaves its digits in a file that can be read. -/
def Lasts (folder : CertFolder) (startUp : StartUp) : Prop :=
  folder.saved b = none → ∀ written, startUp.save = .closed written →
    folder.readable = true ∧ 32 ≤ written

/-- No sign is read in an accepted file. -/
def LoadsUnsigned (folder : CertFolder) : Prop :=
  (folder.saved b).isSome → ∀ content, folder.file = some content → Unsigned (firstWord content)

theorem of_saved {folder : CertFolder} {uuid : Octets} (h : folder.saved b = some uuid) :
    ∃ content, folder.file = some content ∧ readUuid b content = some uuid := by
  rw [saved] at h
  split_ifs at h
  exact Option.bind_eq_some_iff.1 h

theorem loadsDigits_iff (folder : CertFolder) :
    folder.LoadsDigits b ↔ folder.LoadsUnsigned b := by
  unfold LoadsDigits LoadsUnsigned
  apply imp_congr_right
  intro hsome
  obtain ⟨uuid, hsaved⟩ := Option.isSome_iff_exists.1 hsome
  obtain ⟨content, hfile, hread⟩ := of_saved b hsaved
  obtain ⟨-, hlength, -⟩ := of_readUuid hread
  constructor
  · rintro ⟨content', hfile', -, hdigits⟩ content'' hfile''
    obtain rfl : content' = content'' := Option.some.inj (hfile'.symm.trans hfile'')
    obtain rfl : content = content' := Option.some.inj (hfile.symm.trans hfile')
    exact (digits_iff_unsigned hread).1 hdigits
  · intro hunsigned
    exact ⟨content, hfile, hlength, (digits_iff_unsigned hread).2 (hunsigned content hfile)⟩

/-- **One start-up.** -/
theorem stable_start_iff (folder : CertFolder) (startUp : StartUp) :
    folder.Stable b startUp ↔ folder.Lasts b startUp := by
  unfold Stable Lasts
  simp only [results_eq_iff]
  cases hsaved : folder.saved b with
  | some uuid =>
    obtain ⟨content, -, hread⟩ := of_saved b hsaved
    rw [load_of_saved b hsaved]
    constructor
    · intro _ hnone
      cases hnone
    · intro _ uuid' heq
      obtain rfl : uuid = uuid' := Option.some.inj heq
      exact ⟨(of_readUuid hread).1, hsaved⟩
  | none =>
    rw [loadOrCreateDeviceUuid, hsaved]
    cases hsave : startUp.save with
    | notOpened => simp
    | failed written => simp
    | closed written =>
      have hlength := length_newUuid startUp.random
      have hread := readUuid_take_uuidText b hlength written
      simp only [Option.some.injEq, forall_eq', forall_const, Save.closed.injEq, hlength, true_and]
      rw [saved]
      cases hreadable : folder.readable with
      | true => simpa using hread
      | false => simp

end CertFolder

/-- **The UUID is stable** in a run of start-ups, and only digits are loaded, if and only if each
stream that closes on a new UUID leaves its digits in a file that can be read, and no sign is read
in an accepted file. -/
theorem stable_iff (b : Build) (folder : CertFolder) (startUps : List StartUp) :
    (∀ p ∈ Trajectory.steps (CertFolder.step b) folder startUps,
        p.1.Stable b p.2 ∧ p.1.LoadsDigits b) ↔
      ∀ p ∈ Trajectory.steps (CertFolder.step b) folder startUps,
        p.1.Lasts b p.2 ∧ p.1.LoadsUnsigned b := by
  apply forall₂_congr
  intro p _
  exact and_congr (CertFolder.stable_start_iff b p.1 p.2) (CertFolder.loadsDigits_iff b p.1)

/-- A disk that is full when the stream closes. -/
def fullDisk : StartUp := ⟨Vector.replicate 16 0, .closed 0⟩

def nextStart : StartUp := ⟨Vector.replicate 16 1, .closed 33⟩

/-- A file whose first two octets are `+f`. -/
def signedFile : CertFolder := ⟨some (0x2B :: 0x66 :: List.replicate 30 0x30), true⟩

theorem lost_when_closed :
    (¬ ∀ (b : Build) (folder : CertFolder) (startUps : List StartUp),
        ∀ p ∈ Trajectory.steps (CertFolder.step b) folder startUps, p.1.Stable b p.2) ∧
      ¬ ∀ (b : Build) (folder : CertFolder) (startUps : List StartUp),
        ∀ p ∈ Trajectory.steps (CertFolder.step b) folder startUps, p.1.LoadsDigits b := by
  constructor
  · intro h
    have hstable := h linux ⟨none, true⟩ [fullDisk] _ List.mem_cons_self
    obtain ⟨-, hlater⟩ := hstable (newUuid fullDisk.random) rfl
    have hsame := hlater [nextStart] (some (newUuid nextStart.random)) List.mem_cons_self
    exact absurd hsame (by decide)
  · intro h
    have hdigits := h linux signedFile [nextStart] _ List.mem_cons_self
    obtain ⟨content, hfile, -, hdigits⟩ := hdigits (by decide)
    obtain rfl : _ = content := Option.some.inj hfile
    exact absurd (hdigits 0x2B (by decide)) (by decide)

end BacnetBc.DeviceUuid
