import BacnetBc.Cari.ReadZip
import BacnetBc.Cari.WriteZip

/-!
# A tree written and read again

The reader finds the end record at its first try, whatever the contents of the files look like,
because `WriteZip` writes no comment behind it.

**One entry.** Its part of the central directory and its local part stand in the file with something
before and something after. `readCentralEntry_written` reads the first, `readData_written` the
second, through the offset that the first one carries.

**The loop** (`readEntries_written`). By induction over the entries that are left: the position in
the central directory is what the entries before them take, and the tree is what they have added.

**Theorem (`readZip_writeZip`).** A tree with safe paths, all folders above them, and sizes within
the limits comes back as it was, if inflating undoes deflating for its files.
-/

namespace BacnetBc.Cari

open Memory Path

variable {zlib : Zlib} {stamp : DosStamp}

/-! ## What is read -/

theorem toNat_toUInt16 {n : Nat} (h : n < 2 ^ 16) : n.toUInt16.toNat = n :=
  UInt16.toNat_ofNat_of_lt' h

theorem toNat_toUInt32 {n : Nat} (h : n < 2 ^ 32) : n.toUInt32.toNat = n :=
  UInt32.toNat_ofNat_of_lt' h

/-- **The end record is found at the first try.** -/
theorem readEnd_written {zip before : Octets} {entries : UInt16} {cdSize cdOffset : UInt32}
    (hzip : zip = before ++ (encode (endRecord entries cdSize cdOffset) ++ []))
    (hsize : zip.length ≤ maxZipBytes) (hsig : get32 zip 0 = .ok localHeaderSig)
    (hentries : entries.toNat ≤ maxEntries)
    (hdirectory : cdOffset.toNat + cdSize.toNat ≤ before.length) :
    readEnd zip = .ok (.ok ⟨before.length, entries, cdSize, cdOffset⟩) := by
  have hlength : zip.length = before.length + 22 := by
    rw [hzip, List.append_nil, List.length_append, length_endRecord]
  have hsig' : get32 zip before.length = .ok endOfCentralDirSig :=
    hzip ▸ get32_field before [] 0 rfl rfl
  have hdisk : get16 zip (before.length + 4) = .ok 0 :=
    hzip ▸ get16_field before [] 1 rfl (by simp [endRecord, Field.width])
  have hcdDisk : get16 zip (before.length + 6) = .ok 0 :=
    hzip ▸ get16_field before [] 2 rfl (by simp [endRecord, Field.width])
  have honDisk : get16 zip (before.length + 8) = .ok entries :=
    hzip ▸ get16_field before [] 3 rfl (by simp [endRecord, Field.width])
  have hcount : get16 zip (before.length + 10) = .ok entries :=
    hzip ▸ get16_field before [] 4 rfl (by simp [endRecord, Field.width])
  have hcdSize : get32 zip (before.length + 12) = .ok cdSize :=
    hzip ▸ get32_field before [] 5 rfl (by simp [endRecord, Field.width])
  have hcdOffset : get32 zip (before.length + 16) = .ok cdOffset :=
    hzip ▸ get32_field before [] 6 rfl (by simp [endRecord, Field.width])
  have hfound : findEnd zip (zip.length - 65557) (zip.length - 22 + 1) =
      .ok (some before.length) := by
    have hstart : zip.length - 22 = before.length := by omega
    rw [hstart, findEnd, if_pos (by omega), hsig', ok_bind, if_pos (beq_self_eq_true _)]
    rfl
  rw [readEnd, if_neg (by omega), if_neg (by omega), hsig, ok_bind, if_neg (by simp),
    hfound, ok_bind]
  simp only [hdisk, hcdDisk, honDisk, hcount, hcdSize, hcdOffset, ok_bind]
  rw [if_neg (by simp), if_neg (by omega), if_neg (by omega)]
  rfl

/-- An entry as it is read, with its local part at `offset` and the next entry at `next`. -/
def Entry.central (zlib : Zlib) (offset next : Nat) (entry : Entry) :
    CentralEntry where
  flags := 0x0800
  method := if entry.isFolder then 0 else 8
  crc := crcOf zlib entry.data
  csize := (entry.body zlib).length.toUInt32
  usize := entry.data.length.toUInt32
  localOffset := offset.toUInt32
  name := entry.name
  next := next

theorem Entry.length_centralPart (offset : Nat) (entry : Entry) :
    (entry.centralPart zlib stamp offset).length = 46 + entry.name.length := by
  rw [Entry.centralPart, List.length_append, length_centralHeader]

theorem readCentralEntry_written {zip before after : Octets} {entry : Entry} {offset eocd : Nat}
    (hzip : zip = before ++ (entry.centralPart zlib stamp offset ++ after))
    (hname : entry.name.length < 2 ^ 16)
    (heocd : before.length + (entry.centralPart zlib stamp offset).length ≤ eocd) (i : Nat) :
    readCentralEntry zip eocd i before.length = .ok (.ok (entry.central zlib offset
      (before.length + (entry.centralPart zlib stamp offset).length))) := by
  rw [Entry.length_centralPart] at heocd ⊢
  rw [Entry.centralPart, List.append_assoc] at hzip
  have hnameLen : entry.name.length.toUInt16.toNat = entry.name.length := toNat_toUInt16 hname
  have hsig : get32 zip before.length = .ok centralHeaderSig :=
    hzip ▸ get32_field before _ 0 rfl rfl
  have hflags : get16 zip (before.length + 8) = .ok 0x0800 :=
    hzip ▸ get16_field before _ 3 rfl (by simp [centralHeader, Field.width])
  have hmethod : get16 zip (before.length + 10) = .ok (if entry.isFolder then 0 else 8) :=
    hzip ▸ get16_field before _ 4 rfl (by simp [centralHeader, Field.width])
  have hcrc : get32 zip (before.length + 16) = .ok (crcOf zlib entry.data) :=
    hzip ▸ get32_field before _ 7 rfl (by simp [centralHeader, Field.width])
  have hcsize : get32 zip (before.length + 20) = .ok (entry.body zlib).length.toUInt32 :=
    hzip ▸ get32_field before _ 8 rfl (by simp [centralHeader, Field.width])
  have husize : get32 zip (before.length + 24) = .ok entry.data.length.toUInt32 :=
    hzip ▸ get32_field before _ 9 rfl (by simp [centralHeader, Field.width])
  have hnameField : get16 zip (before.length + 28) = .ok entry.name.length.toUInt16 :=
    hzip ▸ get16_field before _ 10 rfl (by simp [centralHeader, Field.width])
  have hextra : get16 zip (before.length + 30) = .ok 0 :=
    hzip ▸ get16_field before _ 11 rfl (by simp [centralHeader, Field.width])
  have hcomment : get16 zip (before.length + 32) = .ok 0 :=
    hzip ▸ get16_field before _ 12 rfl (by simp [centralHeader, Field.width])
  have hoffset : get32 zip (before.length + 42) = .ok offset.toUInt32 :=
    hzip ▸ get32_field before _ 16 rfl (by simp [centralHeader, Field.width])
  have hslice : slice zip (before.length + 46) entry.name.length = .ok entry.name := by
    have hpart := slice_part (before ++ encode (centralHeader (entry.header zlib stamp)
      entry.isFolder offset.toUInt32)) entry.name after
    rwa [List.length_append, length_centralHeader, List.append_assoc, ← hzip] at hpart
  rw [readCentralEntry, if_neg (by omega), hsig, ok_bind, if_neg (by simp)]
  simp only [hflags, hmethod, hcrc, hcsize, husize, hnameField, hextra, hcomment, hoffset, ok_bind,
    hnameLen, hslice]
  rw [if_neg (by omega)]
  rfl

/-- Inflating what `deflate` makes of `data`, with room for exactly that, gives `data`. Without room
for anything the stream may be reported as unfinished. -/
def Zlib.Undoes (zlib : Zlib) (data : Octets) : Prop :=
  ∃ inflated, zlib.inflate (zlib.deflate data) data.length = .ok inflated ∧
    inflated.output = data ∧
    (inflated.status = .streamEnd ∨ data = [] ∧ inflated.status = .bufError)

/-- Deflating `data` makes it longer by at most 13.5 % and eleven octets. -/
def Zlib.Bounded (zlib : Zlib) (data : Octets) : Prop :=
  (zlib.deflate data).length * 1000 ≤ data.length * 1135 + 11000

theorem inflate_deflate {data : Octets} (h : zlib.Undoes data) (hdata : data.length < 2 ^ 32)
    (hbody : (deflate zlib data).length < 2 ^ 32) :
    inflate zlib (deflate zlib data) data.length = .ok (some data) := by
  obtain ⟨inflated, hinflated, houtput, hstatus⟩ := h
  have hdeflate : deflate zlib data = zlib.deflate data := by rw [deflate, asUInt_of_lt hdata]
  rw [inflate, asUInt_of_lt hbody, Nat.mod_eq_of_lt hdata, hdeflate, hinflated, ok_bind]
  simp only [houtput, Nat.sub_self, List.replicate_zero, List.append_nil, beq_self_eq_true,
    Bool.and_true]
  rcases hstatus with hstatus | ⟨rfl, hstatus⟩
  · rw [hstatus]
    rfl
  · rw [hstatus]
    rfl

theorem readData_written {zip before after : Octets} {entry : Entry}
    (hzip : zip = before ++ (entry.localPart zlib stamp ++ after))
    (hsize : zip.length ≤ maxZipBytes) (hfile : entry.isFolder = false)
    (hname : entry.name.length < 2 ^ 16) (hdata : entry.data.length < 2 ^ 32)
    (hundoes : zlib.Undoes entry.data) (next : Nat) :
    readData zlib zip (entry.central zlib before.length next) = .ok (.ok entry.data) := by
  have hbody : entry.body zlib = deflate zlib entry.data := by rw [Entry.body, hfile]; rfl
  have hlength : before.length + 30 + entry.name.length + (entry.body zlib).length ≤
      zip.length := by
    rw [hzip, Entry.localPart]
    simp only [List.length_append, length_localHeader]
    omega
  have hmax : maxZipBytes < 2 ^ 32 := by decide
  obtain ⟨central, hcentral⟩ : ∃ central, central = entry.central zlib before.length next :=
    ⟨_, rfl⟩
  have hoffset : central.localOffset.toNat = before.length := by
    rw [hcentral]
    exact toNat_toUInt32 (by omega)
  have hcsize : central.csize.toNat = (entry.body zlib).length := by
    rw [hcentral]
    exact toNat_toUInt32 (by omega)
  have husize : central.usize.toNat = entry.data.length := by
    rw [hcentral]
    exact toNat_toUInt32 hdata
  have hmethod : (central.method == 0) = false := by
    rw [hcentral, Entry.central, hfile]
    rfl
  have hdataAt : (central.localOffset + 30 + entry.name.length.toUInt16.toUInt32 +
      (0 : UInt16).toUInt32).toNat = before.length + 30 + entry.name.length := by
    have h30 : (30 : UInt32).toNat = 30 := rfl
    have h0 : (0 : UInt16).toUInt32.toNat = 0 := rfl
    rw [UInt32.toNat_add, UInt32.toNat_add, UInt32.toNat_add, UInt16.toNat_toUInt32, hoffset,
      toNat_toUInt16 hname, h30, h0]
    omega
  have hslice : slice zip (before.length + 30 + entry.name.length) (entry.body zlib).length =
      .ok (entry.body zlib) := by
    have hpart := slice_part (before ++ (encode (localHeader (entry.header zlib stamp)) ++
      entry.name)) (entry.body zlib) after
    rw [Entry.localPart] at hzip
    simp only [List.append_assoc] at hpart hzip
    rwa [← hzip, List.length_append, List.length_append, length_localHeader,
      ← Nat.add_assoc] at hpart
  rw [Entry.localPart, List.append_assoc] at hzip
  have hsig : get32 zip before.length = .ok localHeaderSig := hzip ▸ get32_field before _ 0 rfl rfl
  have hnameField : get16 zip (before.length + 26) = .ok entry.name.length.toUInt16 :=
    hzip ▸ get16_field before _ 9 rfl (by simp [localHeader, Field.width])
  have hextra : get16 zip (before.length + 28) = .ok 0 :=
    hzip ▸ get16_field before _ 10 rfl (by simp [localHeader, Field.width])
  rw [← hcentral, readData]
  simp only [hoffset, hsig, hnameField, hextra, hdataAt, hcsize, hslice, hmethod, husize, ok_bind]
  rw [if_neg (by omega), if_neg (by simp), if_neg (by omega), if_neg (by simp), hbody,
    inflate_deflate hundoes hdata (by rw [← hbody]; omega), ok_bind]
  rfl

/-! ## One entry -/

namespace Entry

/-- The path that the entry is about. -/
def path (entry : Entry) : Octets := if entry.isFolder then entry.name.dropLast else entry.name

/-- What the entry adds to a tree. -/
def addTo (tree : Tree) (entry : Entry) : Tree :=
  if entry.isFolder then tree.addFolder entry.path else tree.addFile entry.path entry.data

/-- An entry that survives being written. -/
structure Writable (zlib : Zlib) (entry : Entry) : Prop where
  safe : isSafeZipPath entry.path = true
  name_lt : entry.name.length < 2 ^ 16
  data_of_folder : entry.isFolder = true → entry.data = []
  undoes : entry.isFolder = false → zlib.Undoes entry.data

end Entry

theorem not_zip64 {v : UInt32} {n : Nat} (h : v.toNat = n) (hn : n ≤ maxTotalUncompressed) :
    (v == 0xFFFFFFFF) = false := by
  rw [beq_eq_false_iff_ne]
  rintro rfl
  have hmax : ¬ (0xFFFFFFFF : UInt32).toNat ≤ maxTotalUncompressed := by decide
  exact hmax (h ▸ hn)

theorem unpack_written {zip before after : Octets} {entry : Entry} {tree : Tree} {total : Nat}
    (hzip : zip = before ++ (entry.localPart zlib stamp ++ after))
    (hsize : zip.length ≤ maxZipBytes) (h : entry.Writable zlib)
    (htotal : total + entry.data.length ≤ maxTotalUncompressed)
    (hnew : entry.isFolder = false → entry.name ∉ tree.files) (next : Nat) :
    unpack zlib zip (entry.central zlib before.length next) tree total =
      .ok (.ok (entry.addTo tree, total + entry.data.length)) := by
  have hlength : before.length + (entry.body zlib).length ≤ zip.length := by
    rw [hzip, Entry.localPart]
    simp only [List.length_append]
    omega
  have hmax : maxZipBytes < 2 ^ 32 ∧ maxZipBytes ≤ maxTotalUncompressed ∧
    maxTotalUncompressed < 2 ^ 32 := by decide
  have husize : entry.data.length.toUInt32.toNat = entry.data.length := toNat_toUInt32 (by omega)
  have hcsize' := not_zip64 (toNat_toUInt32 (by omega : (entry.body zlib).length < 2 ^ 32))
      (by omega)
  have husize' := not_zip64 husize (by omega)
  have hoffset' := not_zip64 (toNat_toUInt32 (by omega : before.length < 2 ^ 32)) (by omega)
  have hflags : ((0x0800 : UInt16) &&& 0x0001 != 0) = false := by decide
  have hmethod : ((if entry.isFolder then 0 else 8 : UInt16) != 0 &&
      (if entry.isFolder then 0 else 8 : UInt16) != 8) = false := by
    cases entry.isFolder <;> rfl
  obtain ⟨central, hcentral⟩ : ∃ central, central = entry.central zlib before.length next :=
    ⟨_, rfl⟩
  have hchecks : unpack zlib zip central tree total =
      if central.isFolder then .ok (.ok (tree.addFolder central.path, total))
      else unpackFile zlib zip central tree (total + central.usize.toNat) := by
    have hsafe : isSafeZipPath central.path = true := hcentral ▸ h.safe
    rw [unpack, hsafe]
    simp only [hcentral, Entry.central, hflags, hcsize', husize', hoffset', hmethod, Bool.or_false,
      Bool.not_true, Bool.false_eq_true, if_false]
  have hpath : central.path = entry.path := by rw [hcentral]; rfl
  have hisFolder : central.isFolder = entry.isFolder := by rw [hcentral]; rfl
  rw [← hcentral, hchecks, hisFolder, hpath, Entry.addTo]
  cases hfolder : entry.isFolder with
  | true =>
    rw [h.data_of_folder hfolder]
    rfl
  | false =>
    have hname : entry.path = entry.name := by rw [Entry.path, hfolder]; rfl
    have hread := readData_written hzip hsize hfolder h.name_lt (by omega) (h.undoes hfolder) next
    have hcrc : central.crc = crcOf zlib entry.data := by rw [hcentral]; rfl
    have hsize' : central.usize.toNat = entry.data.length := by rw [hcentral]; exact husize
    have htwice : tree.files.contains entry.name = false :=
      Bool.eq_false_iff.2 (mt Std.ExtTreeMap.mem_iff_contains.2 (hnew hfolder))
    rw [← hcentral] at hread
    simp only [Bool.false_eq_true, if_false, unpackFile, hsize', hread, ok_bind, hcrc, hpath, hname,
      htwice, bne_self_eq_false]
    rw [if_neg (by omega)]
    rfl

/-! ## All entries -/

theorem Entry.mem_addTo_files {tree : Tree} {entry : Entry} {file : Octets} :
    file ∈ (entry.addTo tree).files ↔
      entry.isFolder = false ∧ file = entry.name ∨ file ∈ tree.files := by
  rw [Entry.addTo, Entry.path]
  cases hfolder : entry.isFolder with
  | true => simp only [if_true, Tree.addFolder_files, Bool.true_eq_false, false_and, false_or]
  | false =>
    simp only [Bool.false_eq_true, if_false, Tree.addFile_files, Tree.mem_insert_files, true_and]

/-- The files among `entries` are neither in the tree nor twice in `entries`. -/
structure Fresh (tree : Tree) (entries : List Entry) : Prop where
  names_nodup : ((entries.filter fun entry => !entry.isFolder).map Entry.name).Nodup
  not_mem : ∀ entry ∈ entries, entry.isFolder = false → entry.name ∉ tree.files

theorem Fresh.step {tree : Tree} {entry : Entry} {entries : List Entry}
    (h : Fresh tree (entry :: entries)) : Fresh (entry.addTo tree) entries := by
  obtain ⟨-, hnew⟩ := List.forall_mem_cons.1 h.not_mem
  have hnames := h.names_nodup
  rw [List.filter_cons] at hnames
  cases hfolder : entry.isFolder with
  | true =>
    rw [hfolder] at hnames
    refine ⟨hnames, fun entry' hmem hfile hadded => ?_⟩
    rcases Entry.mem_addTo_files.1 hadded with ⟨hentry, -⟩ | hadded
    · rw [hfolder] at hentry
      cases hentry
    · exact hnew entry' hmem hfile hadded
  | false =>
    rw [hfolder, Bool.not_false, if_pos rfl, List.map_cons, List.nodup_cons] at hnames
    refine ⟨hnames.2, fun entry' hmem hfile hadded => ?_⟩
    rcases Entry.mem_addTo_files.1 hadded with ⟨-, heq⟩ | hadded
    · refine hnames.1 ?_
      rw [← heq]
      exact List.mem_map_of_mem (List.mem_filter.2 ⟨hmem, by rw [hfile]; rfl⟩)
    · exact hnew entry' hmem hfile hadded

/-- **The loop reads back what was written**, from the entry on that follows `written`. -/
theorem readEntries_written {zip tail : Octets} {all : List Entry} {eocd : Nat}
    (hzip : zip = locals zlib stamp all ++ (directory zlib stamp 0 all ++ tail))
    (hsize : zip.length ≤ maxZipBytes)
    (heocd : eocd = (locals zlib stamp all).length + (directory zlib stamp 0 all).length)
    {written entries : List Entry} (hall : all = written ++ entries) {tree : Tree} {total : Nat}
    (hwritable : ∀ entry ∈ entries, entry.Writable zlib)
    (htotal : total + (entries.map fun entry => entry.data.length).sum ≤ maxTotalUncompressed)
    (hfresh : Fresh tree entries) (i : Nat) :
    readEntries zlib zip eocd entries.length i
        ((locals zlib stamp all).length + (directory zlib stamp 0 written).length) tree total =
      .ok (entries.foldl Entry.addTo tree, .ok ()) := by
  induction entries generalizing written tree total i with
  | nil => rfl
  | cons entry entries ih =>
    obtain ⟨hentry, hentries⟩ := List.forall_mem_cons.1 hwritable
    obtain ⟨hnew, -⟩ := List.forall_mem_cons.1 hfresh.not_mem
    rw [List.map_cons, List.sum_cons] at htotal
    have hlocals : locals zlib stamp all = locals zlib stamp written ++
        (entry.localPart zlib stamp ++ locals zlib stamp entries) := by
      rw [hall, locals_append, locals_cons]
    have hdirectory : directory zlib stamp 0 all = directory zlib stamp 0 written ++
        (entry.centralPart zlib stamp (locals zlib stamp written).length ++
          directory zlib stamp ((locals zlib stamp written).length +
            (entry.localPart zlib stamp).length) entries) := by
      rw [hall, directory_append, Nat.zero_add, directory]
    have hlocal : zip = locals zlib stamp written ++ (entry.localPart zlib stamp ++
        (locals zlib stamp entries ++ (directory zlib stamp 0 all ++ tail))) := by
      rw [hzip, hlocals]
      simp only [List.append_assoc]
    have hcentral : zip = (locals zlib stamp all ++ directory zlib stamp 0 written) ++
        (entry.centralPart zlib stamp (locals zlib stamp written).length ++
          (directory zlib stamp ((locals zlib stamp written).length +
            (entry.localPart zlib stamp).length) entries ++ tail)) := by
      rw [hzip, hdirectory]
      simp only [List.append_assoc]
    have hnext : (directory zlib stamp 0 (written ++ [entry])).length =
        (directory zlib stamp 0 written).length +
          (entry.centralPart zlib stamp (locals zlib stamp written).length).length := by
      rw [directory_append, directory, directory, List.append_nil, Nat.zero_add, List.length_append]
    have hinside : (locals zlib stamp all ++ directory zlib stamp 0 written).length +
        (entry.centralPart zlib stamp (locals zlib stamp written).length).length ≤ eocd := by
      rw [heocd, hdirectory]
      simp only [List.length_append]
      omega
    have hread := readCentralEntry_written hcentral hentry.name_lt hinside i
    have hunpack (next : Nat) := unpack_written hlocal hsize hentry
      (by omega : total + entry.data.length ≤ maxTotalUncompressed) hnew next
    have hall' : all = (written ++ [entry]) ++ entries := by
      rw [hall, List.append_assoc, List.singleton_append]
    have htotal' : total + entry.data.length + (entries.map fun entry => entry.data.length).sum ≤
        maxTotalUncompressed := by omega
    have hrest := ih hall' hentries htotal' hfresh.step (i + 1)
    rw [List.length_append] at hread
    rw [List.length_cons, readEntries, hread, ok_bind]
    dsimp only
    rw [hunpack, ok_bind]
    rw [hnext, ← Nat.add_assoc] at hrest
    exact hrest

/-! ## The tree that comes back -/

theorem mem_foldl_folders {entries : List Entry} (h : ∀ entry ∈ entries, SafePath entry.path)
    {tree : Tree} {folder : Octets} :
    folder ∈ (entries.foldl Entry.addTo tree).folders ↔ folder ∈ tree.folders ∨
      ∃ entry ∈ entries, entry.isFolder = true ∧ folder = entry.path ∨
        IsAncestor slash folder entry.path := by
  induction entries generalizing tree with
  | nil => simp
  | cons entry entries ih =>
    obtain ⟨hentry, hentries⟩ := List.forall_mem_cons.1 h
    have hadd : folder ∈ (entry.addTo tree).folders ↔ folder ∈ tree.folders ∨
        (entry.isFolder = true ∧ folder = entry.path ∨ IsAncestor slash folder entry.path) := by
      rw [Entry.addTo]
      cases hfolder : entry.isFolder with
      | true =>
        have hsplit := split_eq_splitOn hentry.ne_nil hentry.getLast?_ne
        simp only [if_true, true_and]
        exact Tree.mem_addFolder tree hentry hsplit
      | false =>
        simp only [Bool.false_eq_true, if_false, false_and, false_or]
        exact Tree.mem_addFile_folders tree hentry entry.data
    rw [List.foldl_cons, ih hentries, hadd, or_assoc]
    simp only [List.mem_cons, exists_eq_or_imp]

theorem toList_foldl_files {entries : List Entry} {tree : Tree} (h : Fresh tree entries) :
    (entries.foldl Entry.addTo tree).files.toList.Perm (tree.files.toList ++
      (entries.filter fun entry => !entry.isFolder).map fun entry => (entry.name, entry.data)) := by
  induction entries generalizing tree with
  | nil => simp
  | cons entry entries ih =>
    obtain ⟨hnew, -⟩ := List.forall_mem_cons.1 h.not_mem
    refine (ih h.step).trans ?_
    rw [List.filter_cons, Entry.addTo, Entry.path]
    cases hfolder : entry.isFolder with
    | true => simp only [if_true, Tree.addFolder_files, Bool.not_true, Bool.false_eq_true, if_false,
        List.Perm.refl]
    | false =>
      simp only [Bool.false_eq_true, if_false, Tree.addFile_files, Bool.not_false, if_true,
        List.map_cons]
      exact ((Tree.toList_insert (hnew hfolder) entry.data).append_right _).trans
        List.perm_middle.symm

namespace Tree

/-- A tree that the zip format can carry, within the limits of the reader. -/
structure Writable (tree : Tree) : Prop where
  nonempty : tree.files ≠ ∅ ∨ tree.folders ≠ ∅
  safe : ∀ path, path ∈ tree.files ∨ path ∈ tree.folders →
    isSafeZipPath path = true ∧ path.getLast? ≠ some slash ∧ path.length < 65535
  closed : tree.Closed
  entries_le : tree.folders.size + tree.files.size ≤ maxEntries
  content_le : (tree.files.toList.map fun file => file.2.length).sum ≤ maxTotalUncompressed

theorem mem_entries {tree : Tree} {entry : Entry} :
    entry ∈ tree.entries ↔ (∃ folder ∈ tree.folders, ⟨folder ++ [slash], []⟩ = entry) ∨
      ∃ name data, tree.files[name]? = some data ∧ ⟨name, data⟩ = entry := by
  simp only [Tree.entries, List.mem_append, List.mem_map, Std.ExtTreeSet.mem_toList, Prod.exists,
    Std.ExtTreeMap.mem_toList_iff_getElem?_eq_some]

theorem isFolder_append_slash (folder : Octets) :
    Entry.isFolder ⟨folder ++ [slash], []⟩ = true := by
  rw [Entry.isFolder, List.getLast?_concat]
  exact beq_self_eq_true _

theorem path_append_slash (folder : Octets) : Entry.path ⟨folder ++ [slash], []⟩ = folder := by
  rw [Entry.path, isFolder_append_slash, if_pos rfl, List.dropLast_concat]

theorem Writable.isFolder_file {tree : Tree} (h : tree.Writable) {name data : Octets}
    (hfile : tree.files[name]? = some data) : Entry.isFolder ⟨name, data⟩ = false := by
  have hmem : name ∈ tree.files := Tree.mem_of_getElem? hfile
  exact beq_eq_false_iff_ne.2 (h.safe name (.inl hmem)).2.1

/-- An entry of the tree is a folder of it or a file of it. -/
theorem Writable.entry_cases {tree : Tree} (h : tree.Writable) {entry : Entry}
    (hentry : entry ∈ tree.entries) :
    (entry.isFolder = true ∧ entry.path ∈ tree.folders ∧ entry.name = entry.path ++ [slash] ∧
        entry.data = []) ∨
      (entry.isFolder = false ∧ entry.path = entry.name ∧
        tree.files[entry.name]? = some entry.data) := by
  rcases mem_entries.1 hentry with ⟨folder, hfolder, rfl⟩ | ⟨name, data, hfile, rfl⟩
  · have hpath := path_append_slash folder
    exact .inl ⟨isFolder_append_slash folder, by rwa [hpath], by rw [hpath], rfl⟩
  · have hisFolder := h.isFolder_file hfile
    exact .inr ⟨hisFolder, by rw [Entry.path, hisFolder]; rfl, hfile⟩

theorem Writable.files_entries {tree : Tree} (h : tree.Writable) :
    (tree.entries.filter fun entry => !entry.isFolder).map (fun entry => (entry.name, entry.data)) =
      tree.files.toList := by
  have hfolders : (tree.folders.toList.map fun folder => (⟨folder ++ [slash], []⟩ : Entry)).filter
      (fun entry => !entry.isFolder) = [] := by
    refine List.filter_eq_nil_iff.2 fun entry hentry => ?_
    obtain ⟨folder, -, rfl⟩ := List.mem_map.1 hentry
    simp [isFolder_append_slash]
  have hfiles : (tree.files.toList.map fun file => (⟨file.1, file.2⟩ : Entry)).filter
      (fun entry => !entry.isFolder) = tree.files.toList.map fun file => ⟨file.1, file.2⟩ := by
    refine List.filter_eq_self.2 fun entry hentry => ?_
    obtain ⟨⟨name, data⟩, hfile, rfl⟩ := List.mem_map.1 hentry
    rw [Std.ExtTreeMap.mem_toList_iff_getElem?_eq_some] at hfile
    simp [h.isFolder_file hfile]
  rw [Tree.entries, List.filter_append, hfolders, List.nil_append, hfiles, List.map_map]
  exact List.map_id _

theorem length_entries (tree : Tree) :
    tree.entries.length = tree.folders.size + tree.files.size := by
  rw [Tree.entries, List.length_append, List.length_map, List.length_map,
    Std.ExtTreeSet.length_toList, Std.ExtTreeMap.length_toList]

theorem sum_entries (tree : Tree) : (tree.entries.map fun entry => entry.data.length).sum =
    (tree.files.toList.map fun file => file.2.length).sum := by
  have hfolders : ((tree.folders.toList.map fun folder => (⟨folder ++ [slash], []⟩ : Entry)).map
      fun entry => entry.data.length).sum = 0 := by
    rw [List.map_map]
    exact List.sum_eq_zero fun n hn => by
      obtain ⟨folder, -, rfl⟩ := List.mem_map.1 hn
      rfl
  rw [Tree.entries, List.map_append, List.sum_append, hfolders, Nat.zero_add, List.map_map]
  rfl

theorem Writable.fresh {tree : Tree} (h : tree.Writable) : Fresh .empty tree.entries where
  names_nodup := by
    have hnames : (tree.entries.filter fun entry => !entry.isFolder).map Entry.name =
        tree.files.toList.map Prod.fst := by
      rw [← h.files_entries, List.map_map]
      rfl
    rw [hnames, Std.ExtTreeMap.map_fst_toList_eq_keys]
    exact Std.ExtTreeMap.nodup_keys
  not_mem _ _ _ := Std.ExtTreeMap.not_mem_empty

/-- The path of an entry is a path of the tree. -/
theorem Writable.path_mem {tree : Tree} (h : tree.Writable) {entry : Entry}
    (hentry : entry ∈ tree.entries) : entry.path ∈ tree.files ∨ entry.path ∈ tree.folders := by
  rcases h.entry_cases hentry with ⟨-, hfolder, -⟩ | ⟨-, hpath, hfile⟩
  · exact .inr hfolder
  · rw [hpath]
    exact .inl (Tree.mem_of_getElem? hfile)

/-- **Adding the entries of a tree gives the tree.** -/
theorem Writable.foldl_entries {tree : Tree} (h : tree.Writable) :
    tree.entries.foldl Entry.addTo .empty = tree := by
  have hsafe (entry : Entry) (hentry : entry ∈ tree.entries) : SafePath entry.path := by
    obtain ⟨hsafe, hlast, -⟩ := h.safe _ (h.path_mem hentry)
    exact (isSafeZipPath_iff_of_last hlast).1 hsafe
  refine Tree.ext (Std.ExtTreeMap.ext_toList ?_) (Std.ExtTreeSet.ext_mem fun folder => ?_)
  · have hperm := toList_foldl_files h.fresh
    rw [h.files_entries] at hperm
    exact hperm
  · rw [mem_foldl_folders hsafe]
    constructor
    · rintro (hempty | ⟨entry, hentry, ⟨hfolder, rfl⟩ | hancestor⟩)
      · exact absurd hempty Std.ExtTreeSet.not_mem_empty
      · rcases h.entry_cases hentry with ⟨-, hmem, -⟩ | ⟨hfile, -⟩
        · exact hmem
        · rw [hfile] at hfolder
          cases hfolder
      · exact h.closed _ (h.path_mem hentry) folder hancestor
    · intro hfolder
      refine .inr ⟨⟨folder ++ [slash], []⟩, mem_entries.2 (.inl ⟨folder, hfolder, rfl⟩), .inl ?_⟩
      exact ⟨isFolder_append_slash folder, (path_append_slash folder).symm⟩

end Tree

/-! ## The round trip -/

theorem Tree.Writable.entry {tree : Tree} (h : tree.Writable)
    (hzlib : ∀ name data : Octets, tree.files[name]? = some data → zlib.Undoes data) {entry : Entry}
    (hentry : entry ∈ tree.entries) : entry.Writable zlib := by
  obtain ⟨hsafe, -, hlength⟩ := h.safe _ (h.path_mem hentry)
  rcases h.entry_cases hentry with ⟨hfolder, -, hname, hdata⟩ | ⟨hfile, hpath, hget⟩
  · refine ⟨hsafe, ?_, fun _ => hdata, fun hfile => ?_⟩
    · rw [hname, List.length_append, List.length_singleton]
      omega
    · rw [hfolder] at hfile
      cases hfile
  · refine ⟨hsafe, ?_, fun hfolder => ?_, fun _ => hzlib _ _ hget⟩
    · rw [← hpath]
      omega
    · rw [hfile] at hfolder
      cases hfolder

theorem Entry.Writable.name_ne {entry : Entry} (h : entry.Writable zlib) : entry.name ≠ [] := by
  intro hname
  have hpath : entry.path = [] := by
    rw [Entry.path, hname]
    exact ite_self _
  have hsafe := h.safe
  rw [hpath] at hsafe
  exact absurd hsafe (by decide)

theorem Tree.Writable.entries_ne {tree : Tree} (h : tree.Writable) : tree.entries ≠ [] := by
  intro hnil
  have hsizes : tree.folders.size = 0 ∧ tree.files.size = 0 :=
    Nat.add_eq_zero_iff.1 (by rw [← length_entries, hnil]; rfl)
  rcases h.nonempty with hfiles | hfolders
  · exact hfiles (Std.ExtTreeMap.eq_empty_iff_size_eq_zero.2 hsizes.2)
  · exact hfolders (Std.ExtTreeSet.eq_empty_iff_size_eq_zero.2 hsizes.1)

/-- The end record of a whole zip: it says where the central directory is. -/
theorem readEnd_layout {zip : Octets} {entries : List Entry} (hne : entries ≠ [])
    (hzip : zip = locals zlib stamp entries ++ (directory zlib stamp 0 entries ++
      encode (endRecord entries.length.toUInt16 (directory zlib stamp 0 entries).length.toUInt32
        (locals zlib stamp entries).length.toUInt32)))
    (hsize : zip.length ≤ maxZipBytes) (hcount : entries.length ≤ maxEntries) :
    ∃ record, readEnd zip = .ok (.ok record) ∧
      record.eocd = (locals zlib stamp entries).length + (directory zlib stamp 0 entries).length ∧
      record.entries.toNat = entries.length ∧
      record.cdOffset.toNat = (locals zlib stamp entries).length := by
  have hlength : (locals zlib stamp entries).length + (directory zlib stamp 0 entries).length ≤
      zip.length := by
    rw [hzip]
    simp only [List.length_append]
    omega
  have hmax : maxZipBytes < 2 ^ 32 ∧ maxEntries < 2 ^ 16 := by decide
  have hentries := toNat_toUInt16 (by omega : entries.length < 2 ^ 16)
  have hcdOffset := toNat_toUInt32 (by omega : (locals zlib stamp entries).length < 2 ^ 32)
  have hcdSize := toNat_toUInt32 (by omega : (directory zlib stamp 0 entries).length < 2 ^ 32)
  have hsig : get32 zip 0 = .ok localHeaderSig := by
    obtain ⟨entry, entries, rfl⟩ := List.exists_cons_of_ne_nil hne
    rw [locals_cons, Entry.localPart] at hzip
    simp only [List.append_assoc] at hzip
    have hfirst : (localHeader (entry.header zlib stamp))[0]? = some (.u32 localHeaderSig) := rfl
    rw [hzip]
    exact get32_field [] _ 0 hfirst rfl
  rw [← List.append_assoc, ← List.append_nil (encode _)] at hzip
  refine ⟨_, readEnd_written hzip hsize hsig (hentries.trans_le hcount) ?_,
    List.length_append, hentries, hcdOffset⟩
  rw [hcdOffset, hcdSize, List.length_append]

/-- The entries of a whole zip are read back. -/
theorem readZip_layout {zip : Octets} {entries : List Entry} (hne : entries ≠ [])
    (hzip : zip = locals zlib stamp entries ++ (directory zlib stamp 0 entries ++
      encode (endRecord entries.length.toUInt16 (directory zlib stamp 0 entries).length.toUInt32
        (locals zlib stamp entries).length.toUInt32)))
    (hsize : zip.length ≤ maxZipBytes) (hcount : entries.length ≤ maxEntries)
    (hwritable : ∀ entry ∈ entries, entry.Writable zlib)
    (htotal : (entries.map fun entry => entry.data.length).sum ≤ maxTotalUncompressed)
    (hfresh : Fresh .empty entries) :
    readZip zlib zip = .ok (entries.foldl Entry.addTo .empty, .ok ()) := by
  obtain ⟨record, hend, heocd, hentries, hcdOffset⟩ := readEnd_layout hne hzip hsize hcount
  have hread := readEntries_written hzip hsize heocd (List.nil_append _).symm hwritable
    ((Nat.zero_add _).trans_le htotal) hfresh 0
  rw [readZip, hend, ok_bind]
  dsimp only
  rw [hentries, hcdOffset]
  exact hread

theorem Tree.Writable.name_ne {tree : Tree} (h : tree.Writable) :
    ∀ entry ∈ tree.entries, entry.name ≠ [] := by
  intro entry hentry
  rcases Tree.mem_entries.1 hentry with ⟨folder, -, rfl⟩ | ⟨name, data, hfile, rfl⟩
  · exact List.concat_ne_nil _ _
  · intro hnil
    have hsafe := (h.safe name (.inl (Tree.mem_of_getElem? hfile))).1
    have hname : name = [] := hnil
    rw [hname] at hsafe
    cases hsafe

/-- A tree within the limits has a zip. -/
theorem Tree.Writable.exists_zip {tree : Tree} (h : tree.Writable) (zlib : Zlib)
    (stamp : DosStamp) : ∃ zip, writeZip zlib stamp tree = .ok zip := by
  obtain ⟨zip, hwrite, -⟩ := writeZip_eq zlib stamp h.name_ne
  exact ⟨zip, hwrite⟩

/-- A zip that was written and is not too large is read back. -/
theorem Tree.Writable.readZip_eq {tree : Tree} (h : tree.Writable) {stamp : DosStamp}
    {zip : Octets} (hwrite : writeZip zlib stamp tree = .ok zip)
    (hzlib : ∀ name data : Octets, tree.files[name]? = some data → zlib.Undoes data)
    (hlimit : zip.length ≤ maxZipBytes) : readZip zlib zip = .ok (tree, .ok ()) := by
  have hwritable (entry : Entry) (hentry : entry ∈ tree.entries) : entry.Writable zlib :=
    h.entry hzlib hentry
  have hcount : tree.entries.length ≤ maxEntries := Tree.length_entries tree ▸ h.entries_le
  have htotal : (tree.entries.map fun entry => entry.data.length).sum ≤ maxTotalUncompressed := by
    rw [Tree.sum_entries]
    exact h.content_le
  obtain ⟨zip', hwrite', hzip⟩ := writeZip_eq zlib stamp
    fun entry hentry => (hwritable entry hentry).name_ne
  obtain rfl : zip' = zip := Except.ok.inj (hwrite'.symm.trans hwrite)
  have hread := readZip_layout h.entries_ne hzip hlimit hcount hwritable htotal h.fresh
  rwa [h.foldl_entries] at hread

/-- **What `WriteZip` writes, `ReadZip` reads back.** -/
theorem readZip_writeZip (zlib : Zlib) (stamp : DosStamp) (tree : Tree) (h : tree.Writable)
    (hzlib : ∀ name data : Octets, tree.files[name]? = some data → zlib.Undoes data)
    (hsize : ∀ zip, writeZip zlib stamp tree = .ok zip → zip.length ≤ maxZipBytes) :
    ∃ zip, writeZip zlib stamp tree = .ok zip ∧ readZip zlib zip = .ok (tree, .ok ()) := by
  obtain ⟨zip, hwrite⟩ := h.exists_zip zlib stamp
  exact ⟨zip, hwrite, h.readZip_eq hwrite hzlib (hsize zip hwrite)⟩

/-! ### A file and an empty folder -/

/-- cert1/a with "hello" in it, and cert1/hub. -/
def helloTree : Tree :=
  (Tree.empty.addFile (octetsOf "cert1/a") (octetsOf "hello")).addFolder (octetsOf "cert1/hub")

theorem helloTree_writable : helloTree.Writable where
  nonempty := .inl fun h => by
    have hsize : helloTree.files.size = 1 := by decide
    rw [h] at hsize
    cases hsize
  safe path hpath := by
    have hmem : path ∈ helloTree.files.keys ++ helloTree.folders.toList :=
      List.mem_append.2 (hpath.imp Std.ExtTreeMap.mem_keys.2 Std.ExtTreeSet.mem_toList.2)
    have hall : ∀ path ∈ helloTree.files.keys ++ helloTree.folders.toList,
        isSafeZipPath path = true ∧ path.getLast? ≠ some slash ∧ path.length < 65535 := by
      decide
    exact hall path hmem
  closed := by
    have hfile : SafePath (octetsOf "cert1/a") :=
      (isSafeZipPath_iff_of_last (by decide)).1 (by decide)
    have hfolder : SafePath (octetsOf "cert1/hub") :=
      (isSafeZipPath_iff_of_last (by decide)).1 (by decide)
    exact (Tree.closed_empty.addFile hfile _).addFolder hfolder (by decide)
  entries_le := by decide
  content_le := by decide

theorem helloZlib_undoes : helloZlib.Undoes (octetsOf "hello") :=
  ⟨⟨octetsOf "hello", by decide, .streamEnd⟩, by rfl, rfl, .inl rfl⟩

theorem readZip_helloTree : ∃ zip, writeZip helloZlib ⟨0, 0x21⟩ helloTree = .ok zip ∧
    readZip helloZlib zip = .ok (helloTree, .ok ()) := by
  refine readZip_writeZip helloZlib ⟨0, 0x21⟩ helloTree helloTree_writable ?_ ?_
  · intro name data hfile
    have hmem : (name, data) ∈ helloTree.files.toList :=
      Std.ExtTreeMap.mem_toList_iff_getElem?_eq_some.2 hfile
    have hall : ∀ file ∈ helloTree.files.toList, file.2 = octetsOf "hello" := by decide
    have hdata : data = octetsOf "hello" := hall (name, data) hmem
    exact hdata ▸ helloZlib_undoes
  · intro zip hzip
    have hlength : (writeZip helloZlib ⟨0, 0x21⟩ helloTree).map List.length = .ok 303 := by
      decide +kernel
    rw [hzip] at hlength
    have hzipLength : zip.length = 303 := Except.ok.inj hlength
    rw [hzipLength]
    decide

end BacnetBc.Cari
