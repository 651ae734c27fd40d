import BacnetBc.Cert.NodeRequest
import BacnetBc.Lib.Choice

/-!
# Which certificate folder is in use

`resolveNodeCertPaths` looks for the port folders under `cert1/` that hold a file of this node
(`findNodePorts`), in the order in which the directory is enumerated. It takes the last one for the
device's own instance, or else the first one found, and says in a note what it took.

A `Listing` is an enumeration of a directory: its names differ, their order is the file system's.

**Theorem (`resolve_order`).** Every enumeration of the same folders gives the same paths exactly
when at most one folder is found, or exactly one for the device's own instance. When there is one
for its own instance, the chosen folder is for that instance, whatever the order is.
-/

namespace BacnetBc

open Cari Memory

/-! ## The folders -/

/-- An entry of a directory. -/
structure DirEntry where
  name : String
  isDirectory : Bool
deriving DecidableEq, Repr

/-- What an enumeration of a directory gives: each name once, in any order. -/
structure Listing where
  entries : List DirEntry
  nodup : (entries.map DirEntry.name).Nodup

/-- `ParseDeviceFolder`: "device-389005" is 389005. -/
def parseDeviceFolder (name : String) : Option UInt32 :=
  let text := octetsOf name
  let digits := text.drop 7
  if !startsWith text (octetsOf "device-") || text.length == 7 then none
  else if !digits.all Decimal.isDigit || 7 < digits.length then none
  else if 4194302 < Decimal.value digits then none
  else some (UInt32.ofNat (Decimal.value digits))

/-- It reads a folder's name as the rules for a zip do. -/
theorem parseDeviceFolder_eq (name : String) :
    parseDeviceFolder name = Cari.deviceInstance (octetsOf name) := by
  unfold parseDeviceFolder Cari.deviceInstance
  dsimp only
  by_cases h : 14 < (octetsOf name).length
  · have hlong : 7 < (octetsOf name).length - 7 := by omega
    simp [h, hlong]
  · have hshort : ¬ 7 < (octetsOf name).length - 7 := by omega
    simp [h, hshort]

/-- The port folder in a device's folder. -/
def portFolderOf (deviceFolder : String) : String := "cert1/" ++ deviceFolder ++ "/port-4"

/-- A port folder with one of this node's files, and the instance in its name. -/
def nodePort (certDir : String) (fileExists : String → Bool) (device : DirEntry) :
    Option (String × UInt32) :=
  match device.isDirectory, parseDeviceFolder device.name with
  | true, some folderDeviceInstance =>
    let paths := fillCari certDir (portFolderOf device.name)
    if fileExists paths.privateKey || fileExists paths.certificateSigningRequest ||
        fileExists paths.operationalCertificate then
      some (portFolderOf device.name, folderDeviceInstance)
    else none
  | _, _ => none

/-- `FindNodePorts`, of the entries of `cert1/`. -/
def findNodePorts (certDir : String) (fileExists : String → Bool) (entries : List DirEntry) :
    List (String × UInt32) :=
  entries.filterMap (nodePort certDir fileExists)

/-! ## The choice -/

/-- `CertLayout::NodeCertPaths` with all its fields. -/
structure ResolvedPaths extends NodeSetPaths where
  certDir : String
  note : String
deriving DecidableEq, Repr

def isForInstance (deviceInstance : UInt32) (port : String × UInt32) : Bool :=
  port.2 == deviceInstance

/-- The note for the log on the folder that was chosen among `count`. -/
def portNote (port : String × UInt32) (deviceInstance : UInt32) (count : Nat) : String :=
  let other :=
    if port.2 ≠ deviceInstance then
      "the certificate folder " ++ port.1 ++ " is for device instance " ++ toString port.2.toNat ++
        ", but this device is " ++ toString deviceInstance.toNat ++
        "; using it anyway (rename the folder to device-" ++ toString deviceInstance.toNat ++
        " to match)"
    else ""
  if 1 < count then
    other ++ (if other = "" then "" else "; ") ++ toString count ++
      " node port folders found under cert1/, using " ++ port.1
  else other

/-- `ResolveNodeCertPaths`: `cert1` has the entries of `cert1/`, if that is a directory. -/
def resolveNodeCertPaths (certDir : String) (fileExists : String → Bool)
    (cert1 : Option (List DirEntry)) (deviceInstance : UInt32) : ResolvedPaths :=
  let newSet := ⟨newNodeCertPaths certDir deviceInstance, certDir, ""⟩
  match cert1 with
  | none => newSet
  | some entries =>
    let ports := findNodePorts certDir fileExists entries
    match Choice.choose (isForInstance deviceInstance) ports with
    | none => newSet
    | some port => ⟨fillNodeSet certDir port.1 port.2, certDir,
        portNote port deviceInstance ports.length⟩

/-! ## What is found -/

section
variable (certDir : String) (fileExists : String → Bool)

theorem portFolderOf_inj {a b : String} (h : portFolderOf a = portFolderOf b) : a = b := by
  rw [portFolderOf, portFolderOf] at h
  exact String.append_right_inj _ |>.1 (String.append_left_inj _ |>.1 h)

variable {certDir fileExists}

theorem nodePort_fst {device : DirEntry} {port : String × UInt32}
    (h : nodePort certDir fileExists device = some port) : port.1 = portFolderOf device.name := by
  unfold nodePort at h
  split at h
  · dsimp only at h
    split_ifs at h
    exact (congrArg Prod.fst (Option.some.inj h)).symm
  · cases h

/-- **The folders of two entries differ.** -/
theorem nodup_findNodePorts (listing : Listing) :
    (findNodePorts certDir fileExists listing.entries).Nodup := by
  have hentries : listing.entries.Pairwise fun a b => a.name ≠ b.name :=
    List.pairwise_map.1 listing.nodup
  refine List.Pairwise.filterMap _ ?_ hentries
  intro a b hne port hport port' hport' heq
  apply hne
  apply portFolderOf_inj
  rw [← nodePort_fst hport, ← nodePort_fst hport', heq]

theorem resolve_some (entries : List DirEntry) {deviceInstance : UInt32} {port : String × UInt32}
    (h : Choice.choose (isForInstance deviceInstance)
      (findNodePorts certDir fileExists entries) = some port) :
    resolveNodeCertPaths certDir fileExists (some entries) deviceInstance =
      ⟨fillNodeSet certDir port.1 port.2, certDir, portNote port deviceInstance
        (findNodePorts certDir fileExists entries).length⟩ := by
  rw [resolveNodeCertPaths, h]

/-- The paths tell which folder was chosen. -/
theorem choose_eq_of_resolve_eq {entries entries' : List DirEntry} {deviceInstance : UInt32}
    (hperm : entries'.Perm entries)
    (h : resolveNodeCertPaths certDir fileExists (some entries') deviceInstance =
      resolveNodeCertPaths certDir fileExists (some entries) deviceInstance) :
    Choice.choose (isForInstance deviceInstance) (findNodePorts certDir fileExists entries') =
      Choice.choose (isForInstance deviceInstance) (findNodePorts certDir fileExists entries) := by
  have hports : (findNodePorts certDir fileExists entries').Perm
      (findNodePorts certDir fileExists entries) := hperm.filterMap _
  by_cases hnil : findNodePorts certDir fileExists entries = []
  · rw [hnil] at hports ⊢
    rw [hports.eq_nil]
  · have hnil' : findNodePorts certDir fileExists entries' ≠ [] := by
      intro heq
      rw [heq] at hports
      exact hnil hports.symm.eq_nil
    obtain ⟨port, hport⟩ := Option.isSome_iff_exists.1
      (Choice.choose_isSome (isForInstance deviceInstance) hnil)
    obtain ⟨port', hport'⟩ := Option.isSome_iff_exists.1
      (Choice.choose_isSome (isForInstance deviceInstance) hnil')
    rw [resolve_some entries hport, resolve_some entries' hport'] at h
    have hfolder : port'.1 = port.1 :=
      congrArg (fun paths : ResolvedPaths => paths.portFolder) h
    have hinstance : port'.2 = port.2 :=
      congrArg (fun paths : ResolvedPaths => paths.folderDeviceInstance) h
    rw [hport, hport', Prod.ext hfolder hinstance]

theorem resolve_eq_of_choose_eq {entries entries' : List DirEntry} {deviceInstance : UInt32}
    (hperm : entries'.Perm entries)
    (h : Choice.choose (isForInstance deviceInstance) (findNodePorts certDir fileExists entries') =
      Choice.choose (isForInstance deviceInstance) (findNodePorts certDir fileExists entries)) :
    resolveNodeCertPaths certDir fileExists (some entries') deviceInstance =
      resolveNodeCertPaths certDir fileExists (some entries) deviceInstance := by
  have hlength : (findNodePorts certDir fileExists entries').length =
      (findNodePorts certDir fileExists entries).length := (hperm.filterMap _).length_eq
  rw [resolveNodeCertPaths, resolveNodeCertPaths]
  simp only [h, hlength]

end

/-! ## Every enumeration -/

/-- Two enumerations of the same folders. -/
def Listing.SameFolders (listing listing' : Listing) : Prop :=
  listing'.entries.Perm listing.entries

/-- The same entries the other way around. -/
def Listing.reverse (listing : Listing) : Listing where
  entries := listing.entries.reverse
  nodup := by
    rw [List.map_reverse]
    exact List.nodup_reverse.2 listing.nodup

/-- **When the order does not matter, and that the device's own instance goes first.** -/
theorem resolve_order (certDir : String) (fileExists : String → Bool) (deviceInstance : UInt32)
    (listing : Listing) :
    ((∀ listing', listing.SameFolders listing' →
      resolveNodeCertPaths certDir fileExists (some listing'.entries) deviceInstance =
        resolveNodeCertPaths certDir fileExists (some listing.entries) deviceInstance) ↔
      (findNodePorts certDir fileExists listing.entries).length ≤ 1 ∨
        ((findNodePorts certDir fileExists listing.entries).filter
          (isForInstance deviceInstance)).length = 1) ∧
    ((∃ port ∈ findNodePorts certDir fileExists listing.entries, port.2 = deviceInstance) →
      (resolveNodeCertPaths certDir fileExists (some listing.entries)
        deviceInstance).folderDeviceInstance = deviceInstance ∧
      ((resolveNodeCertPaths certDir fileExists (some listing.entries) deviceInstance).portFolder,
        deviceInstance) ∈ findNodePorts certDir fileExists listing.entries) := by
  constructor
  · constructor
    · intro h
      by_contra hnot
      rw [not_or, Nat.not_le] at hnot
      have hreverse := choose_eq_of_resolve_eq (List.reverse_perm listing.entries)
        (h listing.reverse (List.reverse_perm listing.entries))
      have hports : findNodePorts certDir fileExists listing.entries.reverse =
          (findNodePorts certDir fileExists listing.entries).reverse := List.filterMap_reverse
      rw [hports] at hreverse
      exact Choice.choose_reverse_ne _ (nodup_findNodePorts listing) hnot.1 hnot.2 hreverse
    · intro h listing' hsame
      apply resolve_eq_of_choose_eq hsame
      exact Choice.choose_eq_of_perm _ (hsame.filterMap _) h
  · intro ⟨own, hmem, hown⟩
    obtain ⟨port, hport⟩ := Option.isSome_iff_exists.1
      (Choice.choose_isSome (isForInstance deviceInstance) (List.ne_nil_of_mem hmem))
    have hwanted := Choice.wanted_of_choose (isForInstance deviceInstance) hmem
      (beq_iff_eq.2 hown) hport
    have hinstance : port.2 = deviceInstance := beq_iff_eq.1 hwanted
    rw [resolve_some _ hport]
    refine ⟨hinstance, ?_⟩
    have hmem' := Choice.mem_of_choose _ hport
    rw [← hinstance]
    exact hmem'

/-- Two folders for device 3, of which the last one enumerated is taken. -/
theorem resolve_depends_on_order : ¬ ∀ (certDir : String) (fileExists : String → Bool)
    (deviceInstance : UInt32) (listing listing' : Listing), listing.SameFolders listing' →
      resolveNodeCertPaths certDir fileExists (some listing'.entries) deviceInstance =
        resolveNodeCertPaths certDir fileExists (some listing.entries) deviceInstance := by
  intro h
  have heq := h "" (fun _ => true) 3 ⟨[⟨"device-3", true⟩, ⟨"device-03", true⟩], by decide⟩
    ⟨[⟨"device-03", true⟩, ⟨"device-3", true⟩], by decide⟩ (List.Perm.swap _ _ _)
  have hfolder := congrArg (fun paths : ResolvedPaths => paths.portFolder) heq
  revert hfolder
  decide

end BacnetBc
