import BacnetBc.Cari.Tree
import BacnetBc.Cert.Pem
import BacnetBc.Lib.Decimal
import Mathlib

/-!
# The rules of a CARI file

`validate` checks where every folder and file of a tree is, what it is called and how large it is;
`listCsrs` finds the certificate signing requests, and where the answer to each goes.

Both take a path apart first. Indexing the parts of the empty path is outside of them; no path that
`ReadZip` or `AddFile` gives is empty.

**Theorem (`validate_eq_nil_iff`).** A tree has no problem exactly when each of its paths is where
it may be, and there is a device folder, and every device folder has a port folder.
-/

namespace BacnetBc.Cari

open Memory Path

/-! ## Names -/

/-- `MAX_VENDOR_DATA`. -/
def maxVendorData : Nat := 1024 * 1024

/-- `MAX_NOTES`. -/
def maxNotes : Nat := 10 * 1024

/-- `MAX_PEM`. -/
def maxPem : Nat := 64 * 1024

/-- `StartsWith`. -/
def startsWith (text start : Octets) : Bool := start.isPrefixOf text

/-- `EndsWith`. -/
def endsWith (text ending : Octets) : Bool := ending.isSuffixOf text

/-- `IsValidName`. -/
def isValidName (text : Octets) : Bool :=
  !(text.isEmpty || 128 < text.length) &&
    text.all fun c => !(c < 0x20 || c == 0x7F || (octetsOf "<>:\"/\\|?*").contains c)

/-- `DeviceInstance`: "device-12" is 12. -/
def deviceInstance (folder : Octets) : Option UInt32 :=
  if !startsWith folder (octetsOf "device-") || folder.length == 7 || 14 < folder.length then none
  else
    let digits := folder.drop 7
    if !digits.all Decimal.isDigit then none
    else if 4194302 < Decimal.value digits then none
    else some (UInt32.ofNat (Decimal.value digits))

/-- `FileName`: "csr-abc.pem" with "csr-" is "abc". -/
def fileName (file start : Octets) : Option Octets :=
  if !startsWith file start || !endsWith file (octetsOf ".pem") then none
  else
    let name := (file.drop start.length).take (file.length - start.length - 4)
    if isValidName name then some name else none

/-! ## Validate -/

/-- What `Validate` finds out about a folder. -/
inductive FolderVerdict
  | problem (why : String)
  | allowed
  | device
  | port (device : Octets)
deriving DecidableEq, Repr

def unexpectedDevice : String :=
  "a folder in cert1/ must be device-<instance> (0..4194302) or issuer"

def unexpectedPort : String :=
  "a folder in a device folder must be router or port-<id> (no < > : \" / \\ | ? *)"

/-- A folder, by the first of its parts and the others. -/
def folderVerdict (response : Bool) (root : Octets) (p : List Octets) : FolderVerdict :=
  if root ≠ octetsOf "cert1" then .problem "everything must be inside the cert1/ folder"
  else
    match p with
    | [] => .allowed
    | [device] =>
      if device = octetsOf "issuer" then
        if response then .allowed else .problem "issuer/ belongs in a response, not a request"
      else if (deviceInstance device).isNone then .problem unexpectedDevice
      else .device
    | device :: port :: p =>
      if (deviceInstance device).isNone then .problem unexpectedDevice
      else if p = [] ∧ port = octetsOf "router" then .allowed
      else if !startsWith port (octetsOf "port-") || !isValidName (port.drop 5) then
        .problem unexpectedPort
      else if p = [] then .port device
      else if p = [octetsOf "hub"] then .allowed
      else .problem "unexpected folder (a port folder may only contain hub/)"

/-- What is wrong with a file, by its parts and its size. -/
def fileProblem (response : Bool) (root : Octets) (p : List Octets) (size : Nat) :
    Option String :=
  match p with
  | [] => some "everything must be inside the cert1/ folder"
  | device :: p =>
    if root ≠ octetsOf "cert1" then some "everything must be inside the cert1/ folder"
    else
      match p with
      | [] =>
        if device = octetsOf "vendor-data" then
          if maxVendorData < size then some "larger than 1 MB" else none
        else if device = octetsOf "request-notes.txt" then
          if maxNotes < size then some "larger than 10 kB" else none
        else if response = true ∧
            (device = octetsOf "response-notes.txt" ∨ device = octetsOf "errors.txt") then
          if maxNotes < size ∧ device ≠ octetsOf "errors.txt" then some "larger than 10 kB"
          else none
        else
          some ("not a CARI file name (cert1/ may hold vendor-data, request-notes.txt" ++
            (if response then ", response-notes.txt, errors.txt" else "") ++ ")")
      | [name] =>
        if device = octetsOf "issuer" then
          if !response then some "issuer files belong in a response, not a request"
          else if name ≠ octetsOf "iss-1.pem" ∧ name ≠ octetsOf "iss-2.pem" then
            some "the issuer folder may only hold iss-1.pem and iss-2.pem"
          else none
        else some "not a place a CARI file can be"
      | [port, file] =>
        if (deviceInstance device).isSome = true ∧ startsWith port (octetsOf "port-") = true then
          if (fileName file (octetsOf "csr-")).isNone = true ∧
              (fileName file (octetsOf "key-")).isNone = true ∧
              (response && (fileName file (octetsOf "opr-")).isSome) = false then
            some ("a port folder may only hold csr-<name>.pem, key-<name>.pem" ++
              (if response then ", opr-<name>.pem" else "") ++
              " (no < > : \" / \\ | ? * in <name>)")
          else if maxPem < size then some "larger than 64 kB"
          else none
        else some "not a place a CARI file can be"
      | _ => some "not a place a CARI file can be"

/-- `p[0]` and the parts behind it. -/
def parts (path : Octets) : Access (Octets × List Octets) :=
  match split path with
  | [] => .error (.readOutside 0)
  | root :: p => .ok (root, p)

/-- The loop over the folders. -/
def folderVerdicts (tree : Tree) (response : Bool) : Access (List (Octets × FolderVerdict)) :=
  tree.folders.toList.mapM fun folder => do
    let (root, p) ← parts folder
    return (folder, folderVerdict response root p)

/-- The loop over the files. -/
def fileProblems (tree : Tree) (response : Bool) : Access (List (Octets × Option String)) :=
  tree.files.toList.mapM fun file => do
    let (root, p) ← parts file.1
    return (file.1, fileProblem response root p file.2.length)

/-- A line of `*problems`. -/
def problem (path : Octets) (why : String) : Octets := path ++ octetsOf ": " ++ octetsOf why

def FolderVerdict.problem? : FolderVerdict → Option String
  | .problem why => some why
  | _ => none

def FolderVerdict.port? : FolderVerdict → Option Octets
  | .port deviceFolder => some deviceFolder
  | _ => none

/-- The folder of a device, if it is one. -/
def deviceFolder (folder : Octets) : Option Octets :=
  match split folder with
  | [_, device] => if (deviceInstance device).isSome then some device else none
  | _ => none

/-- The problem of a device folder without a port folder. -/
def withoutPort (devicesWithPort : List Octets) (folder : Octets) : Option Octets :=
  match deviceFolder folder with
  | some device =>
    if device ∈ devicesWithPort then none
    else some (problem folder "a device folder must contain at least one port-<id> folder")
  | none => none

/-- `Validate`: `*problems`. It returns whether there are none. -/
def validate (tree : Tree) (response : Bool) : Access (List Octets) := do
  let folders ← folderVerdicts tree response
  let files ← fileProblems tree response
  let devicesWithPort := folders.filterMap fun folder => folder.2.port?
  return folders.filterMap (fun folder => folder.2.problem?.map (problem folder.1)) ++
    files.filterMap (fun file => file.2.map (problem file.1)) ++
    (if folders.any fun folder => folder.2 == .device then []
    else [octetsOf "cert1/: there is no device-<instance> folder"]) ++
    tree.folders.toList.filterMap (withoutPort devicesWithPort)

/-! ## What is accepted -/

/-- `Validate`'s finding about a folder of a tree. -/
def verdictOf (response : Bool) (folder : Octets) : FolderVerdict :=
  match split folder with
  | [] => .allowed
  | root :: p => folderVerdict response root p

/-- `Validate`'s finding about a file of a tree. -/
def problemOf (response : Bool) (path bytes : Octets) : Option String :=
  match split path with
  | [] => none
  | root :: p => fileProblem response root p bytes.length

/-- Every path is where it may be, there is a device, and every device has a port. -/
structure Accepted (tree : Tree) (response : Bool) : Prop where
  folders : ∀ folder ∈ tree.folders, (verdictOf response folder).problem? = none
  files : ∀ path bytes, tree.files[path]? = some bytes → problemOf response path bytes = none
  device : ∃ folder ∈ tree.folders, verdictOf response folder = .device
  ports : ∀ folder ∈ tree.folders, ∀ device, deviceFolder folder = some device →
    ∃ port ∈ tree.folders, verdictOf response port = .port device

theorem mapM_of_ok {α β : Type} {f : α → Access β} {g : α → β} {l : List α}
    (h : ∀ a ∈ l, f a = .ok (g a)) : l.mapM f = .ok (l.map g) := by
  induction l with
  | nil => rfl
  | cons a l ih =>
    obtain ⟨ha, hl⟩ := List.forall_mem_cons.1 h
    rw [List.mapM_cons, ha, ih hl]
    rfl

theorem exists_parts {path : Octets} (h : path ≠ []) : ∃ root p, split path = root :: p :=
  List.exists_cons_of_ne_nil (split_ne_nil h)

section
variable {tree : Tree} (response : Bool)

theorem folderVerdicts_eq (h : ∀ folder ∈ tree.folders, folder ≠ []) :
    folderVerdicts tree response =
      .ok (tree.folders.toList.map fun folder => (folder, verdictOf response folder)) := by
  refine mapM_of_ok ?_
  intro folder hfolder
  obtain ⟨root, p, hparts⟩ := exists_parts (h folder (Std.ExtTreeSet.mem_toList.1 hfolder))
  rw [verdictOf, parts, hparts]
  rfl

theorem fileProblems_eq (h : ∀ path ∈ tree.files, path ≠ []) :
    fileProblems tree response =
      .ok (tree.files.toList.map fun file => (file.1, problemOf response file.1 file.2)) := by
  refine mapM_of_ok ?_
  intro file hfile
  have hmem : file.1 ∈ tree.files :=
    Tree.mem_of_getElem? (Std.ExtTreeMap.mem_toList_iff_getElem?_eq_some.1 hfile)
  obtain ⟨root, p, hparts⟩ := exists_parts (h file.1 hmem)
  rw [problemOf, parts, hparts]
  rfl

theorem withoutPort_eq_none_iff {devicesWithPort : List Octets} {folder : Octets} :
    withoutPort devicesWithPort folder = none ↔
      ∀ device, deviceFolder folder = some device → device ∈ devicesWithPort := by
  rw [withoutPort]
  cases deviceFolder folder with
  | none => simp
  | some device => simp

theorem port?_eq_some_iff {verdict : FolderVerdict} {device : Octets} :
    verdict.port? = some device ↔ verdict = .port device := by
  cases verdict <;> simp [FolderVerdict.port?]

/-- **A tree is accepted exactly when it keeps the rules.** -/
theorem validate_eq_nil_iff (h : ∀ path, path ∈ tree.files ∨ path ∈ tree.folders → path ≠ []) :
    validate tree response = .ok [] ↔ Accepted tree response := by
  have hfolders := folderVerdicts_eq response fun folder hf => h folder (.inr hf)
  have hfiles := fileProblems_eq response fun path hf => h path (.inl hf)
  have hdevice : (if (tree.folders.toList.map fun folder => (folder, verdictOf response folder)).any
      fun folder => folder.2 == .device then []
      else [octetsOf "cert1/: there is no device-<instance> folder"]) = [] ↔
      ∃ folder ∈ tree.folders, verdictOf response folder = .device := by
    simp [Std.ExtTreeSet.mem_toList]
  rw [validate, hfolders, ok_bind, hfiles, ok_bind]
  simp only [pure, Except.pure, Except.ok.injEq, List.append_eq_nil_iff, hdevice,
    List.filterMap_map, List.filterMap_eq_nil_iff, Function.comp_apply, Option.map_eq_none_iff,
    withoutPort_eq_none_iff, List.mem_filterMap, port?_eq_some_iff, Std.ExtTreeSet.mem_toList,
    Prod.forall, Std.ExtTreeMap.mem_toList_iff_getElem?_eq_some]
  constructor
  · rintro ⟨⟨⟨hfolder, hfile⟩, hdevice⟩, hport⟩
    exact ⟨hfolder, hfile, hdevice, hport⟩
  · intro hall
    exact ⟨⟨⟨hall.folders, hall.files⟩, hall.device⟩, hall.ports⟩

end

/-! ## ListCsrs -/

/-- One CSR in a request, and where its answer goes. -/
structure CsrEntry where
  deviceFolder : Octets
  deviceInstance : UInt32
  portFolder : Octets
  name : Octets
  csrPath : Octets
  oprPath : Octets
  keyPath : Octets
  isHubPort : Bool
  isRouter : Bool
deriving DecidableEq, Repr

/-- `Tree::Has`. -/
def Tree.has (tree : Tree) (path : Octets) : Bool := tree.files.contains path

def csrEntry (tree : Tree) (path : Octets) : Option CsrEntry :=
  match split path with
  | [root, device, port, file] =>
    if root ≠ octetsOf "cert1" then none
    else
      match deviceInstance device, fileName file (octetsOf "csr-") with
      | some instance', some name =>
        if startsWith port (octetsOf "port-") then
          let folder := octetsOf "cert1/" ++ device ++ octetsOf "/" ++ port
          let keyPath := folder ++ octetsOf "/key-" ++ name ++ octetsOf ".pem"
          some {
            deviceFolder := device
            deviceInstance := instance'
            portFolder := port
            name
            csrPath := path
            oprPath := folder ++ octetsOf "/opr-" ++ name ++ octetsOf ".pem"
            keyPath := if tree.has keyPath then keyPath else []
            isHubPort := tree.folders.contains (folder ++ octetsOf "/hub")
            isRouter := tree.folders.contains (octetsOf "cert1/" ++ device ++ octetsOf "/router") }
        else none
      | _, _ => none
  | _ => none

/-- `ListCsrs`. -/
def listCsrs (tree : Tree) : List CsrEntry := tree.files.keys.filterMap (csrEntry tree)

end BacnetBc.Cari
