import BacnetBc.Cari.Zip

/-!
# The layout of a written zip

`WriteZip` puts a local part for each entry into the file (`locals`), then the central directory
(`directory`), which says where each local part begins, then the end record.

**Theorem (`writeZip_eq`).** What `WriteZip` returns is these three parts, one after the other.
-/

namespace BacnetBc.Cari

open Memory

variable {zlib : Zlib} {stamp : DosStamp}

/-! ## The parts -/

namespace Entry

def isFolder (entry : Entry) : Bool := entry.name.getLast? == some slash

def body (zlib : Zlib) (entry : Entry) : Octets :=
  if entry.isFolder then [] else deflate zlib entry.data

def header (zlib : Zlib) (stamp : DosStamp) (entry : Entry) : EntryHeader where
  method := if entry.isFolder then 0 else 8
  stamp := stamp
  crc := crcOf zlib entry.data
  csize := (entry.body zlib).length.toUInt32
  usize := entry.data.length.toUInt32
  nameLen := entry.name.length.toUInt16

/-- The entry in front of the central directory. -/
def localPart (zlib : Zlib) (stamp : DosStamp) (entry : Entry) : Octets :=
  encode (localHeader (entry.header zlib stamp)) ++ (entry.name ++ entry.body zlib)

/-- The entry in the central directory, for a local part at `offset`. -/
def centralPart (zlib : Zlib) (stamp : DosStamp) (offset : Nat) (entry : Entry) : Octets :=
  encode (centralHeader (entry.header zlib stamp) entry.isFolder offset.toUInt32) ++ entry.name

end Entry

def locals (zlib : Zlib) (stamp : DosStamp) (entries : List Entry) : Octets :=
  entries.flatMap (Entry.localPart zlib stamp)

/-- The central directory, for local parts from `offset` on. -/
def directory (zlib : Zlib) (stamp : DosStamp) (offset : Nat) : List Entry → Octets
  | [] => []
  | entry :: entries =>
    entry.centralPart zlib stamp offset ++
      directory zlib stamp (offset + (entry.localPart zlib stamp).length) entries

theorem locals_append (entries entries' : List Entry) :
    locals zlib stamp (entries ++ entries') =
      locals zlib stamp entries ++ locals zlib stamp entries' := List.flatMap_append

theorem locals_cons (entry : Entry) (entries : List Entry) :
    locals zlib stamp (entry :: entries) =
      entry.localPart zlib stamp ++ locals zlib stamp entries := List.flatMap_cons

theorem directory_append (offset : Nat) (entries entries' : List Entry) :
    directory zlib stamp offset (entries ++ entries') = directory zlib stamp offset entries ++
      directory zlib stamp (offset + (locals zlib stamp entries).length) entries' := by
  induction entries generalizing offset with
  | nil => rfl
  | cons entry entries ih =>
    rw [List.cons_append, directory, ih, directory, List.append_assoc, locals_cons,
      List.length_append, Nat.add_assoc]

theorem length_localHeader (header : EntryHeader) : (encode (localHeader header)).length = 30 := by
  simp [length_encode, localHeader, Field.width]

theorem length_centralHeader (header : EntryHeader) (isFolder : Bool) (offset : UInt32) :
    (encode (centralHeader header isFolder offset)).length = 46 := by
  simp [length_encode, centralHeader, Field.width]

theorem length_endRecord (entries : UInt16) (cdSize cdOffset : UInt32) :
    (encode (endRecord entries cdSize cdOffset)).length = 22 := by
  simp [length_encode, endRecord, Field.width]

/-! ## The loop writes them -/

theorem back_eq {name : Octets} (h : name ≠ []) :
    ∃ last, back name = .ok last ∧ name.getLast? = some last := by
  have hpos : name.length - 1 < name.length :=
    Nat.sub_one_lt (Nat.ne_of_gt (List.length_pos_iff.2 h))
  refine ⟨name[name.length - 1], read_of_lt hpos, ?_⟩
  rw [List.getLast?_eq_getElem?, List.getElem?_eq_getElem hpos]

theorem writeEntries_eq {entries : List Entry} (h : ∀ entry ∈ entries, entry.name ≠ [])
    (zip central : Octets) :
    writeEntries zlib stamp zip central entries = .ok (zip ++ locals zlib stamp entries,
      central ++ directory zlib stamp zip.length entries) := by
  induction entries generalizing zip central with
  | nil => rw [locals, directory, List.flatMap_nil, List.append_nil, List.append_nil]; rfl
  | cons entry entries ih =>
    obtain ⟨hname, hentries⟩ := List.forall_mem_cons.1 h
    obtain ⟨last, hback, hlast⟩ := back_eq hname
    have hfolder : (last == slash) = entry.isFolder := by
      rw [Entry.isFolder, hlast]
      rfl
    have hzip : zip ++ encode (localHeader (entry.header zlib stamp)) ++ entry.name ++
        entry.body zlib = zip ++ entry.localPart zlib stamp := by
      rw [Entry.localPart]
      simp only [List.append_assoc]
    rw [writeEntries, hback, ok_bind, hfolder]
    refine (ih hentries (zip ++ encode (localHeader (entry.header zlib stamp)) ++ entry.name ++
      entry.body zlib) _).trans ?_
    rw [hzip, locals_cons, directory, Entry.centralPart, List.length_append]
    simp only [List.append_assoc]
    rfl

/-- **The layout of the file.** -/
theorem writeZip_eq (zlib : Zlib) (stamp : DosStamp) {tree : Tree}
    (h : ∀ entry ∈ tree.entries, entry.name ≠ []) :
    ∃ zip, writeZip zlib stamp tree = .ok zip ∧ zip = locals zlib stamp tree.entries ++
      (directory zlib stamp 0 tree.entries ++ encode (endRecord tree.entries.length.toUInt16
        (directory zlib stamp 0 tree.entries).length.toUInt32
        (locals zlib stamp tree.entries).length.toUInt32)) := by
  refine ⟨_, ?_, (List.append_assoc _ _ _)⟩
  rw [writeZip, writeEntries_eq h, ok_bind]
  rfl

/-! ## Its length -/

theorem length_locals (entries : List Entry) : (locals zlib stamp entries).length =
    (entries.map fun entry => 30 + entry.name.length + (entry.body zlib).length).sum := by
  induction entries with
  | nil => rfl
  | cons entry entries ih =>
    rw [locals_cons, List.length_append, ih, List.map_cons, List.sum_cons, Entry.localPart,
      List.length_append, List.length_append, length_localHeader]
    omega

theorem length_directory (offset : Nat) (entries : List Entry) :
    (directory zlib stamp offset entries).length =
      (entries.map fun entry => 46 + entry.name.length).sum := by
  induction entries generalizing offset with
  | nil => rfl
  | cons entry entries ih =>
    rw [directory, List.length_append, ih, List.map_cons, List.sum_cons, Entry.centralPart,
      List.length_append, length_centralHeader]

/-- A zip is as long as what its entries take, and the end record. -/
theorem length_writeZip_le {tree : Tree} (h : ∀ entry ∈ tree.entries, entry.name ≠ []) {bound : Nat}
    (hbound : ∀ entry ∈ tree.entries,
      76 + 2 * entry.name.length + (entry.body zlib).length ≤ bound) {zip : Octets}
    (hzip : writeZip zlib stamp tree = .ok zip) :
    zip.length ≤ tree.entries.length * bound + 22 := by
  obtain ⟨zip', hzip', hlayout⟩ := writeZip_eq zlib stamp h
  obtain rfl : zip' = zip := Except.ok.inj (hzip'.symm.trans hzip)
  have hsum (entries : List Entry) (hentries : ∀ entry ∈ entries,
      76 + 2 * entry.name.length + (entry.body zlib).length ≤ bound) :
      (entries.map fun entry => 30 + entry.name.length + (entry.body zlib).length).sum +
        (entries.map fun entry => 46 + entry.name.length).sum ≤ entries.length * bound := by
    induction entries with
    | nil => exact Nat.zero_le _
    | cons entry entries ih =>
      obtain ⟨hentry, hrest⟩ := List.forall_mem_cons.1 hentries
      have hsmall := ih hrest
      rw [List.map_cons, List.map_cons, List.sum_cons, List.sum_cons, List.length_cons,
        Nat.succ_mul]
      omega
  have htotal := hsum tree.entries hbound
  rw [hlayout, List.length_append, List.length_append, length_endRecord, length_locals,
    length_directory]
  omega

end BacnetBc.Cari
