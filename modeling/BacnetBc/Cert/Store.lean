import BacnetBc.Cert.Layout
import BacnetBc.Lib.FaultyDisk
import BacnetBc.Lib.Memory
import Mathlib

/-!
# The certificate store

What a client writes to a certificate File object is kept in memory, as a staged copy, until it is
activated. `read` and `stat` serve the staged copy, or the file on disk, or another File object in
its place; `write` and `resize` change the staged copy and make one first if there is none.

A `Store` belongs to a layout and carries that only its File objects are staged. The functions here
look at the disk but do not change it.
-/

namespace BacnetBc

open FaultyDisk Memory

/-! ## The state -/

/-- A file on disk. `ownerOnly` is a file that was created for its owner alone. -/
structure DiskFile where
  bytes : Octets
  modified : Int
  ownerOnly : Bool
deriving DecidableEq, Repr

abbrev CertDisk := Disk String DiskFile

structure Staged where
  bytes : Octets
  modified : Int
deriving DecidableEq, Repr

/-- `g_staged` and `g_commitPromotesPendingKey`. -/
structure Store (L : Layout) where
  staged : Std.ExtTreeMap Nat Staged
  commitPromotesPendingKey : Bool
  managed : ∀ i ∈ staged, ∃ p, L.paths i = some p

/-- `MAX_FILE_BYTES`. -/
def maxFileBytes : Nat := 64 * 1024

def errorInvalidFileStartPosition : Nat := 11
def errorFileFull : Nat := 128
def errorValueOutOfRange : Nat := 37

variable {L : Layout}

namespace Store

/-- The store of a process that has just started. -/
def initial (L : Layout) : Store L := ⟨∅, false, fun _ h => absurd h Std.ExtTreeMap.not_mem_empty⟩

/-- The staged copy of a File object that has one is replaced. -/
def restage (s : Store L) (i : Nat) (h : i ∈ s.staged) (copy : Staged) : Store L where
  staged := s.staged.insert i copy
  commitPromotesPendingKey := s.commitPromotesPendingKey
  managed j hj := by
    rcases Std.ExtTreeMap.mem_insert.1 hj with hij | hj
    · exact Std.LawfulEqCmp.eq_of_compare hij ▸ s.managed i h
    · exact s.managed j hj

end Store

/-! ## Reading -/

/-- `ReadDisk`. -/
def readDisk (d : CertDisk) (path : String) : Option Octets := (d path).map DiskFile.bytes

/-- `OwnPath`. -/
def ownPath (L : Layout) (i : Nat) : String := (L.paths i).getD ""

namespace Store

/-- `FallbackInstance`: 0 is no instance. -/
def fallbackInstance (s : Store L) (d : CertDisk) (i : Nat) : Option Nat :=
  if i ∈ s.staged then none
  else if ownPath L i = "" ∨ (d (ownPath L i)).isSome then none
  else (L.readFallbackInstances i).filter (· ≠ 0)

theorem rank_lt_of_fallbackInstance {s : Store L} {d : CertDisk} {i j : Nat}
    (h : s.fallbackInstance d i = some j) : L.rank j < L.rank i := by
  unfold fallbackInstance at h
  split_ifs at h
  exact L.rank_lt (Option.filter_eq_some_iff.1 h).1

/-- `Read`. -/
def read (s : Store L) (d : CertDisk) (i : Nat) : Option Octets :=
  match s.staged[i]? with
  | some copy => some copy.bytes
  | none =>
    match _h : s.fallbackInstance d i with
    | some j => s.read d j
    | none => if ownPath L i = "" then none else readDisk d (ownPath L i)
termination_by L.rank i
decreasing_by exact rank_lt_of_fallbackInstance _h

/-- `Stat`: the size and the modification time. -/
def stat (s : Store L) (d : CertDisk) (i : Nat) : Option (Nat × Int) :=
  match s.staged[i]? with
  | some copy => some (copy.bytes.length, copy.modified)
  | none =>
    match _h : s.fallbackInstance d i with
    | some j => s.stat d j
    | none =>
      if ownPath L i = "" then none
      else (d (ownPath L i)).map fun file => (file.bytes.length, file.modified)
termination_by L.rank i
decreasing_by exact rank_lt_of_fallbackInstance _h

/-- `Effective`: what a File object will hold after a commit. -/
def effective (s : Store L) (d : CertDisk) (i : Nat) : Octets := (s.read d i).getD []

end Store

/-! ## Writing -/

/-- `std::string::resize`, with zero octets. -/
def resizeOctets (bytes : Octets) (size : Nat) : Octets :=
  bytes.take size ++ List.replicate (size - bytes.length) 0

/-- The octets after `data` was written at `start`, which is not behind their end. -/
def writeOctets (bytes : Octets) (start : Nat) (data : Octets) : Octets :=
  let bytes := if start + data.length > bytes.length then resizeOctets bytes (start + data.length)
    else bytes
  splice bytes start data

namespace Store

/-- `Stage`: the store in which the File object has a staged copy, made of its contents if there was
none. -/
def stage (s : Store L) (now : Int) (d : CertDisk) (i : Nat) :
    Option { s' : Store L // i ∈ s'.staged } :=
  if h : i ∈ s.staged then some ⟨s, h⟩
  else if hi : (L.paths i).isSome then
    some ⟨{ staged := s.staged.insert i ⟨s.effective d i, now⟩
            commitPromotesPendingKey := s.commitPromotesPendingKey
            managed := fun j hj => by
              rcases Std.ExtTreeMap.mem_insert.1 hj with hij | hj
              · exact Std.LawfulEqCmp.eq_of_compare hij ▸ Option.isSome_iff_exists.1 hi
              · exact s.managed j hj },
      Std.ExtTreeMap.mem_insert_self⟩
  else none

/-- `Write`: the store, and the position where the write began or the error code. -/
def write (s : Store L) (now : Int) (d : CertDisk) (i : Nat) (fileStart : Int32) (data : Octets) :
    Store L × Except Nat Nat :=
  match s.stage now d i with
  | none => (s, .error errorInvalidFileStartPosition)
  | some ⟨s, hi⟩ =>
    let bytes := s.staged[i].bytes
    if fileStart < -1 then (s, .error errorInvalidFileStartPosition)
    else
      let start := if fileStart = -1 then bytes.length else fileStart.toInt.toNat
      if start > bytes.length then (s, .error errorInvalidFileStartPosition)
      else if start + data.length > maxFileBytes then (s, .error errorFileFull)
      else (s.restage i hi ⟨writeOctets bytes start data, now⟩, .ok start)

/-- `Resize`: the store, and the error code, if there is one, when it returns false. -/
def resize (s : Store L) (now : Int) (d : CertDisk) (i newSize : Nat) :
    Store L × Except (Option Nat) Unit :=
  if newSize > maxFileBytes then (s, .error (some errorValueOutOfRange))
  else
    match s.stage now d i with
    | none => (s, .error none)
    | some ⟨s, hi⟩ => (s.restage i hi ⟨resizeOctets s.staged[i].bytes newSize, now⟩, .ok ())

/-- `HasStagedChanges`. -/
def hasStagedChanges (s : Store L) : Bool := !s.staged.isEmpty

/-- `DiscardStaged`. -/
def discardStaged (_ : Store L) : Store L := initial L

/-! ## What is read -/

section
variable {s : Store L} {d : CertDisk} {i : Nat}

theorem read_of_staged {copy : Staged} (h : s.staged[i]? = some copy) :
    s.read d i = some copy.bytes := by
  rw [read, h]

theorem read_of_not_staged (h : s.staged[i]? = none) :
    s.read d i = match s.fallbackInstance d i with
      | some j => s.read d j
      | none => if ownPath L i = "" then none else readDisk d (ownPath L i) := by
  rw [read, h]
  dsimp only
  split <;> rename_i hf <;> rw [hf]

theorem read_of_disk {path : String} {file : DiskFile} (h : s.staged[i]? = none)
    (hp : L.paths i = some path) (hf : d path = some file) : s.read d i = some file.bytes := by
  have hown : ownPath L i = path := by rw [ownPath, hp]; rfl
  have hnone : s.fallbackInstance d i = none := by
    unfold fallbackInstance
    rw [hown, hf]
    simp
  rw [read_of_not_staged h, hnone, hown, readDisk, hf]
  exact if_neg (L.paths_ne_empty hp)

/-- The contents that a commit leaves in the file of a File object that has one. -/
theorem effective_of_disk {path : String} {file : DiskFile} (hp : L.paths i = some path)
    (hf : d path = some file) :
    s.effective d i = match s.staged[i]? with
      | some copy => copy.bytes
      | none => file.bytes := by
  unfold effective
  cases h : s.staged[i]? with
  | some copy => rw [read_of_staged h]; rfl
  | none => rw [read_of_disk h hp hf]; rfl

end

end Store

end BacnetBc
