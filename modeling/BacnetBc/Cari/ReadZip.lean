import BacnetBc.Cari.Zip

/-!
# What the zip reader guarantees

The reader is written for input from anyone. Each offset and length it takes from the file is
checked against the file before it is used.

**Reads.** `readEnd_inside`, `readCentralEntry_inside` and `readData_inside` say that nothing
outside the file is read, one for each part of the file. The end record lies in the file, the
central directory before it, and the data of an entry anywhere in the file.

**The invariant** (`Unpacked`). After any number of entries, all paths in the tree are safe, the
folders above each file are there, and the files are those of the entries, each with the size and
the CRC that its entry declares.

**Theorem (`readZip_safe`).** `ReadZip` comes to an end on every file without a fault, also when
`inflate` may fault on any request for more than the limit. A tree it accepts is what `Extracted`
says.
-/

namespace BacnetBc.Cari

open Memory Path

/-! ## The end record -/

theorem findEnd_inside (zip : Octets) (lowest : Nat) {start : Nat} (h : start + 3 ≤ zip.length) :
    ∃ found, findEnd zip lowest start = .ok found ∧ ∀ eocd ∈ found, eocd < start := by
  induction start with
  | zero => exact ⟨none, rfl, fun _ h => nomatch h⟩
  | succ start ih =>
    rw [findEnd]
    by_cases hlowest : lowest < start + 1
    · obtain ⟨sig, hsig⟩ := get32_of_le (by omega : start + 4 ≤ zip.length)
      obtain ⟨found, hfound, hlt⟩ := ih (by omega)
      rw [if_pos hlowest, hsig]
      simp only [bind, Except.bind]
      split
      · refine ⟨some start, rfl, fun eocd heocd => ?_⟩
        cases heocd
        exact Nat.lt_succ_self start
      · exact ⟨found, hfound, fun eocd heocd => (hlt eocd heocd).trans (Nat.lt_succ_self start)⟩
    · rw [if_neg hlowest]
      exact ⟨none, rfl, fun _ h => nomatch h⟩

/-- The end record is read inside the file, and lies in it. -/
theorem readEnd_inside (zip : Octets) :
    ∃ result, readEnd zip = .ok result ∧
      ∀ record, result = .ok record → record.eocd + 22 ≤ zip.length := by
  unfold readEnd
  by_cases hlarge : maxZipBytes < zip.length
  · exact ⟨_, if_pos hlarge, fun _ h => nomatch h⟩
  rw [if_neg hlarge]
  by_cases hsmall : zip.length < 22
  · exact ⟨_, if_pos hsmall, fun _ h => nomatch h⟩
  obtain ⟨sig, hsig⟩ := get32_of_le (by omega : 0 + 4 ≤ zip.length)
  obtain ⟨found, hfound, hlt⟩ := findEnd_inside zip (zip.length - 65557)
    (by omega : zip.length - 22 + 1 + 3 ≤ zip.length)
  rw [if_neg hsmall, hsig, ok_bind]
  split_ifs with hnotZip
  · exact ⟨_, rfl, fun _ h => nomatch h⟩
  rw [hfound, ok_bind]
  cases found with
  | none => exact ⟨_, rfl, fun _ h => nomatch h⟩
  | some eocd =>
    have heocd := hlt eocd rfl
    obtain ⟨disk, hdisk⟩ := get16_of_le (by omega : eocd + 4 + 2 ≤ zip.length)
    obtain ⟨cdDisk, hcdDisk⟩ := get16_of_le (by omega : eocd + 6 + 2 ≤ zip.length)
    obtain ⟨onDisk, honDisk⟩ := get16_of_le (by omega : eocd + 8 + 2 ≤ zip.length)
    obtain ⟨entries, hentries⟩ := get16_of_le (by omega : eocd + 10 + 2 ≤ zip.length)
    obtain ⟨cdSize, hcdSize⟩ := get32_of_le (by omega : eocd + 12 + 4 ≤ zip.length)
    obtain ⟨cdOffset, hcdOffset⟩ := get32_of_le (by omega : eocd + 16 + 4 ≤ zip.length)
    simp only [hdisk, hcdDisk, honDisk, hentries, hcdSize, hcdOffset, ok_bind]
    split_ifs
    · exact ⟨_, rfl, fun _ h => nomatch h⟩
    · exact ⟨_, rfl, fun _ h => nomatch h⟩
    · exact ⟨_, rfl, fun _ h => nomatch h⟩
    · refine ⟨_, rfl, fun record hrecord => ?_⟩
      cases hrecord
      dsimp only
      omega

/-! ## An entry -/

theorem readCentralEntry_inside {zip : Octets} {eocd : Nat} (h : eocd ≤ zip.length)
    (i position : Nat) : ∃ result, readCentralEntry zip eocd i position = .ok result := by
  unfold readCentralEntry
  by_cases hheader : eocd < position + 46
  · exact ⟨_, if_pos hheader⟩
  obtain ⟨sig, hsig⟩ := get32_of_le (by omega : position + 4 ≤ zip.length)
  obtain ⟨flags, hflags⟩ := get16_of_le (by omega : position + 8 + 2 ≤ zip.length)
  obtain ⟨method, hmethod⟩ := get16_of_le (by omega : position + 10 + 2 ≤ zip.length)
  obtain ⟨crc, hcrc⟩ := get32_of_le (by omega : position + 16 + 4 ≤ zip.length)
  obtain ⟨csize, hcsize⟩ := get32_of_le (by omega : position + 20 + 4 ≤ zip.length)
  obtain ⟨usize, husize⟩ := get32_of_le (by omega : position + 24 + 4 ≤ zip.length)
  obtain ⟨nameLen, hnameLen⟩ := get16_of_le (by omega : position + 28 + 2 ≤ zip.length)
  obtain ⟨extraLen, hextraLen⟩ := get16_of_le (by omega : position + 30 + 2 ≤ zip.length)
  obtain ⟨commentLen, hcommentLen⟩ := get16_of_le (by omega : position + 32 + 2 ≤ zip.length)
  obtain ⟨localOffset, hlocalOffset⟩ := get32_of_le (by omega : position + 42 + 4 ≤ zip.length)
  rw [if_neg hheader, hsig, ok_bind]
  split_ifs with hdamaged
  · exact ⟨_, rfl⟩
  simp only [hflags, hmethod, hcrc, hcsize, husize, hnameLen, hextraLen, hcommentLen,
    hlocalOffset, ok_bind]
  split_ifs with hname
  · exact ⟨_, rfl⟩
  · rw [slice_of_le (by omega)]
    exact ⟨_, rfl⟩

/-! ## The data of a file -/

/-- zlib answers every request for at most `limit` octets. Of larger ones nothing is known: they may
be faults. -/
def Zlib.AnswersUpTo (zlib : Zlib) (limit : Nat) : Prop :=
  ∀ input room, room ≤ limit → ∃ inflated, zlib.inflate input room = .ok inflated

theorem inflate_inside {zlib : Zlib} {limit : Nat} (hzlib : zlib.AnswersUpTo limit) (input : Octets)
    {expected : Nat} (h : expected ≤ limit) :
    ∃ result, inflate zlib input expected = .ok result ∧
      ∀ data ∈ result, data.length = expected := by
  have hroom : expected % 2 ^ 32 ≤ expected := Nat.mod_le _ _
  obtain ⟨inflated, hinflated⟩ := hzlib (asUInt input) (expected % 2 ^ 32) (hroom.trans h)
  have hout := inflated.output_le
  rw [inflate, hinflated, ok_bind]
  dsimp only
  split_ifs
  · refine ⟨_, rfl, fun data hdata => ?_⟩
    cases hdata
    rw [List.length_append, List.length_replicate]
    omega
  · exact ⟨none, rfl, fun _ h => nomatch h⟩

theorem readData_inside {zlib : Zlib} {limit : Nat} (hzlib : zlib.AnswersUpTo limit) (zip : Octets)
    {entry : CentralEntry} (h : entry.usize.toNat ≤ limit) :
    ∃ result, readData zlib zip entry = .ok result ∧
      ∀ data, result = .ok data → data.length = entry.usize.toNat := by
  unfold readData
  dsimp only
  by_cases hheader : zip.length < entry.localOffset.toNat + 30
  · exact ⟨_, if_pos hheader, fun _ h => nomatch h⟩
  obtain ⟨sig, hsig⟩ := get32_of_le (by omega : entry.localOffset.toNat + 4 ≤ zip.length)
  obtain ⟨nameLen, hnameLen⟩ :=
    get16_of_le (by omega : entry.localOffset.toNat + 26 + 2 ≤ zip.length)
  obtain ⟨extraLen, hextraLen⟩ :=
    get16_of_le (by omega : entry.localOffset.toNat + 28 + 2 ≤ zip.length)
  rw [if_neg hheader, hsig, ok_bind, hnameLen, ok_bind, hextraLen, ok_bind]
  generalize (entry.localOffset + 30 + nameLen.toUInt32 + extraLen.toUInt32).toNat = dataAt
  split_ifs with hdamaged hdata hstored hsize
  · exact ⟨_, rfl, fun _ h => nomatch h⟩
  · exact ⟨_, rfl, fun _ h => nomatch h⟩
  all_goals rw [slice_of_le (by omega), ok_bind]
  · exact ⟨_, rfl, fun _ h => nomatch h⟩
  · have hsizes : entry.csize = entry.usize := by simpa using hsize
    refine ⟨_, rfl, fun data hout => ?_⟩
    cases hout
    rw [List.length_take, List.length_drop, ← hsizes]
    omega
  · obtain ⟨result, hresult, hlength⟩ :=
      inflate_inside hzlib ((zip.drop dataAt).take entry.csize.toNat) h
    rw [hresult, ok_bind]
    cases result with
    | none => exact ⟨_, rfl, fun _ h => nomatch h⟩
    | some out =>
      refine ⟨_, rfl, fun data hout => ?_⟩
      cases hout
      exact hlength out rfl

/-! ## One entry -/

/-- What an entry has added to the tree when it was accepted. -/
inductive Adds (zlib : Zlib) (entry : CentralEntry) (tree : Tree) (total : Nat) :
    Tree × Nat → Prop
  | folder : entry.isFolder = true → isSafeZipPath entry.path = true →
      Adds zlib entry tree total (tree.addFolder entry.path, total)
  | file {data : Octets} : entry.isFolder = false → isSafeZipPath entry.name = true →
      total + entry.usize.toNat ≤ maxTotalUncompressed → data.length = entry.usize.toNat →
      zlib.crc32 data = entry.crc → entry.name ∉ tree.files →
      Adds zlib entry tree total (tree.addFile entry.name data, total + entry.usize.toNat)

theorem CentralEntry.path_of_file {entry : CentralEntry} (h : entry.isFolder = false) :
    entry.path = entry.name := by
  rw [CentralEntry.path, h]
  rfl

theorem unpackFile_inside {zlib : Zlib} (hzlib : zlib.AnswersUpTo maxTotalUncompressed)
    (zip : Octets) {entry : CentralEntry} (tree : Tree) {total : Nat}
    (hfolder : entry.isFolder = false) (hsafe : isSafeZipPath entry.name = true) :
    ∃ result, unpackFile zlib zip entry tree (total + entry.usize.toNat) = .ok result ∧
      ∀ out, result = .ok out → Adds zlib entry tree total out := by
  unfold unpackFile
  by_cases htotal : maxTotalUncompressed < total + entry.usize.toNat
  · exact ⟨_, if_pos htotal, fun _ h => nomatch h⟩
  have husize : entry.usize.toNat ≤ maxTotalUncompressed := by omega
  obtain ⟨result, hresult, hlength⟩ := readData_inside hzlib zip husize
  rw [if_neg htotal, hresult, ok_bind, CentralEntry.path_of_file hfolder]
  cases result with
  | error error => exact ⟨_, rfl, fun _ h => nomatch h⟩
  | ok data =>
    dsimp only
    have hdata := hlength data rfl
    split_ifs with hcrc htwice
    · exact ⟨_, rfl, fun _ h => nomatch h⟩
    · exact ⟨_, rfl, fun _ h => nomatch h⟩
    · refine ⟨_, rfl, fun out hout => ?_⟩
      cases hout
      have hshort : data.length < 2 ^ 32 := hdata ▸ entry.usize.toNat_lt
      have hcrc' : zlib.crc32 data = entry.crc := by
        simpa [crcOf, asUInt_of_lt hshort] using hcrc
      have hnew : entry.name ∉ tree.files := by simpa using htwice
      exact .file hfolder hsafe (Nat.le_of_not_lt htotal) hdata hcrc' hnew

theorem unpack_inside {zlib : Zlib} (hzlib : zlib.AnswersUpTo maxTotalUncompressed) (zip : Octets)
    (entry : CentralEntry) (tree : Tree) (total : Nat) :
    ∃ result, unpack zlib zip entry tree total = .ok result ∧
      ∀ out, result = .ok out → Adds zlib entry tree total out := by
  unfold unpack
  split_ifs with hencrypted hzip64 hmethod hsafe hfolder
  · exact ⟨_, rfl, fun _ h => nomatch h⟩
  · exact ⟨_, rfl, fun _ h => nomatch h⟩
  · exact ⟨_, rfl, fun _ h => nomatch h⟩
  · exact ⟨_, rfl, fun _ h => nomatch h⟩
  · have hsafe' : isSafeZipPath entry.path = true := by simpa using hsafe
    refine ⟨_, rfl, fun out hout => ?_⟩
    cases hout
    exact .folder hfolder hsafe'
  · have hfile : entry.isFolder = false := by simpa using hfolder
    have hsafe' : isSafeZipPath entry.name = true := by
      simpa [CentralEntry.path_of_file hfile] using hsafe
    exact unpackFile_inside hzlib zip tree hfile hsafe'

/-! ## The whole directory -/

theorem map_eq_map_of_forall₂ {α β γ : Type} {R : α → β → Prop} {f : α → γ} {g : β → γ}
    {l : List α} {l' : List β} (h : List.Forall₂ R l l') (hR : ∀ a b, R a b → f a = g b) :
    l.map f = l'.map g := by
  induction h with
  | nil => rfl
  | cons hab _ ih => rw [List.map_cons, List.map_cons, hR _ _ hab, ih]

/-- The entries of the central directory from `position` on, number `i` first. -/
inductive CentralDirectory (zip : Octets) (eocd : Nat) :
    (i position : Nat) → List CentralEntry → Prop
  | nil (i position : Nat) : CentralDirectory zip eocd i position []
  | cons {i position : Nat} {entry : CentralEntry} {entries : List CentralEntry} :
      readCentralEntry zip eocd i position = .ok (.ok entry) →
      CentralDirectory zip eocd (i + 1) entry.next entries →
      CentralDirectory zip eocd i position (entry :: entries)

def fileEntries (entries : List CentralEntry) : List CentralEntry :=
  entries.filter fun entry => !entry.isFolder

/-- A file is what its entry declares. -/
structure Declared (zlib : Zlib) (entry : CentralEntry) (file : Octets × Octets) : Prop where
  name : file.1 = entry.name
  size : file.2.length = entry.usize.toNat
  crc : zlib.crc32 file.2 = entry.crc

/-- The tree and the count of octets after `entries`. -/
structure Unpacked (zlib : Zlib) (entries : List CentralEntry) (tree : Tree) (total : Nat) :
    Prop where
  safe_files : ∀ file ∈ tree.files, SafePath file
  safe_folders : ∀ folder ∈ tree.folders, SafePath folder
  ancestors : ∀ file ∈ tree.files, ∀ folder, IsAncestor slash folder file → folder ∈ tree.folders
  declared : ∃ files, List.Forall₂ (Declared zlib) (fileEntries entries) files ∧
    tree.files.toList.Perm files
  total_eq : total = ((fileEntries entries).map fun entry => entry.usize.toNat).sum
  total_le : total ≤ maxTotalUncompressed

theorem unpacked_empty (zlib : Zlib) : Unpacked zlib [] .empty 0 where
  safe_files _ h := absurd h Std.ExtTreeMap.not_mem_empty
  safe_folders _ h := absurd h Std.ExtTreeSet.not_mem_empty
  ancestors _ h := absurd h Std.ExtTreeMap.not_mem_empty
  declared := ⟨[], .nil, by rw [Tree.empty]; simp⟩
  total_eq := rfl
  total_le := Nat.zero_le _

/-- **An entry keeps the invariant.** -/
theorem Unpacked.step {zlib : Zlib} {entries : List CentralEntry} {tree : Tree} {total : Nat}
    (h : Unpacked zlib entries tree total) {entry : CentralEntry} {out : Tree × Nat}
    (hadds : Adds zlib entry tree total out) :
    Unpacked zlib (entries ++ [entry]) out.1 out.2 := by
  cases hadds with
  | folder hfolder hsafe =>
    obtain ⟨path, hpath, hsplit⟩ := exists_safePath hsafe
    have hfiles : fileEntries (entries ++ [entry]) = fileEntries entries := by
      simp [fileEntries, hfolder]
    refine ⟨?_, fun folder hmem => ?_, fun file hmem folder hfolder => ?_, ?_, ?_, h.total_le⟩
    · rw [Tree.addFolder_files]
      exact h.safe_files
    · rcases (Tree.mem_addFolder tree hpath hsplit).1 hmem with hmem | rfl | hmem
      · exact h.safe_folders folder hmem
      · exact hpath
      · exact hpath.of_isAncestor hmem
    · rw [Tree.addFolder_files] at hmem
      exact (Tree.mem_addFolder tree hpath hsplit).2 (.inl (h.ancestors file hmem folder hfolder))
    · rw [hfiles, Tree.addFolder_files]
      exact h.declared
    · rw [hfiles]
      exact h.total_eq
  | @file data hfile hsafe htotal hsize hcrc hnew =>
    have hlast : entry.name.getLast? ≠ some slash := by
      simpa [CentralEntry.isFolder] using hfile
    have hpath : SafePath entry.name := (isSafeZipPath_iff_of_last hlast).1 hsafe
    have hfiles : fileEntries (entries ++ [entry]) = fileEntries entries ++ [entry] := by
      simp [fileEntries, hfile]
    refine ⟨fun file hmem => ?_, fun folder hmem => ?_, fun file hmem folder hfolder => ?_, ?_, ?_,
      htotal⟩
    · rw [Tree.addFile_files] at hmem
      rcases Tree.mem_insert_files.1 hmem with rfl | hmem
      · exact hpath
      · exact h.safe_files file hmem
    · rcases (Tree.mem_addFile_folders tree hpath data).1 hmem with hmem | hmem
      · exact h.safe_folders folder hmem
      · exact hpath.of_isAncestor hmem
    · rw [Tree.addFile_files] at hmem
      refine (Tree.mem_addFile_folders tree hpath data).2 ?_
      rcases Tree.mem_insert_files.1 hmem with rfl | hmem
      · exact .inr hfolder
      · exact .inl (h.ancestors file hmem folder hfolder)
    · obtain ⟨files, hdeclared, hperm⟩ := h.declared
      refine ⟨files ++ [(entry.name, data)], ?_, ?_⟩
      · rw [hfiles]
        exact List.rel_append hdeclared (.cons ⟨rfl, hsize, hcrc⟩ .nil)
      · rw [Tree.addFile_files]
        exact (Tree.toList_insert hnew data).trans
          ((hperm.cons _).trans (List.perm_append_singleton _ _).symm)
    · rw [hfiles, List.map_append, List.sum_append, ← h.total_eq]
      simp

/-- **The loop keeps the invariant**, and reads the entries one after the other. -/
theorem readEntries_spec {zlib : Zlib} (hzlib : zlib.AnswersUpTo maxTotalUncompressed)
    {zip : Octets} {eocd : Nat} (heocd : eocd ≤ zip.length) (remaining i position : Nat)
    {before : List CentralEntry} {tree : Tree} {total : Nat}
    (h : Unpacked zlib before tree total) :
    ∃ out, readEntries zlib zip eocd remaining i position tree total = .ok out ∧
      (out.2 = .ok () → ∃ entries total', CentralDirectory zip eocd i position entries ∧
        entries.length = remaining ∧ Unpacked zlib (before ++ entries) out.1 total') := by
  induction remaining generalizing i position before tree total with
  | zero => exact ⟨_, rfl, fun _ => ⟨[], total, .nil i position, rfl, by rwa [List.append_nil]⟩⟩
  | succ remaining ih =>
    obtain ⟨read, hread⟩ := readCentralEntry_inside heocd i position
    rw [readEntries, hread, ok_bind]
    cases read with
    | error error => exact ⟨_, rfl, fun h => nomatch h⟩
    | ok entry =>
      obtain ⟨result, hresult, hadds⟩ := unpack_inside hzlib zip entry tree total
      dsimp only
      rw [hresult, ok_bind]
      cases result with
      | error error => exact ⟨_, rfl, fun h => nomatch h⟩
      | ok out =>
        obtain ⟨final, hfinal, hrun⟩ := ih (i + 1) entry.next (h.step (hadds out rfl))
        refine ⟨final, hfinal, fun hok => ?_⟩
        obtain ⟨entries, total', hdirectory, hlength, hunpacked⟩ := hrun hok
        refine ⟨entry :: entries, total', .cons hread hdirectory, by rw [List.length_cons, hlength],
          ?_⟩
        rwa [List.append_assoc, List.singleton_append] at hunpacked

/-! ### Without assumptions on zlib -/

/-- What an entry that is accepted adds to the tree. -/
theorem unpack_eq_ok {zlib : Zlib} {zip : Octets} {entry : CentralEntry} {tree : Tree} {total : Nat}
    {out : Tree × Nat} (h : unpack zlib zip entry tree total = .ok (.ok out)) :
    isSafeZipPath entry.path = true ∧
      (entry.isFolder = true ∧ out.1 = tree.addFolder entry.path ∨
        entry.isFolder = false ∧ ∃ data, out.1 = tree.addFile entry.path data) := by
  unfold unpack at h
  split_ifs at h with hencrypted hzip64 hmethod hpath hfolder
  · cases h
  · cases h
  · cases h
  · cases h
  · cases h
    exact ⟨by simpa using hpath, .inl ⟨hfolder, rfl⟩⟩
  · have hsafe : isSafeZipPath entry.path = true := by simpa using hpath
    have hfile : entry.isFolder = false := by simpa using hfolder
    unfold unpackFile at h
    by_cases htotal : maxTotalUncompressed < total + entry.usize.toNat
    · rw [if_pos htotal] at h
      cases h
    rw [if_neg htotal] at h
    obtain ⟨result, -, h⟩ := bind_eq_ok.1 h
    cases result with
    | error error => cases h
    | ok data =>
      dsimp only at h
      split_ifs at h
      · cases h
      · cases h
      · cases h
        exact ⟨hsafe, .inr ⟨hfile, data, rfl⟩⟩

/-- The entries are accepted one after the other. -/
inductive Unpacks (zlib : Zlib) (zip : Octets) : List CentralEntry → Tree × Nat → Tree × Nat → Prop
  | nil (state : Tree × Nat) : Unpacks zlib zip [] state state
  | cons {entry : CentralEntry} {entries : List CentralEntry} {state state' state'' : Tree × Nat}
      (unpack : unpack zlib zip entry state.1 state.2 = .ok (.ok state'))
      (rest : Unpacks zlib zip entries state' state'') :
      Unpacks zlib zip (entry :: entries) state state''

/-- **A loop that ends well** has accepted the entries of the directory. -/
theorem readEntries_eq_ok {zlib : Zlib} {zip : Octets} {eocd : Nat} (remaining : Nat)
    {i position total : Nat} {tree tree' : Tree}
    (h : readEntries zlib zip eocd remaining i position tree total = .ok (tree', .ok ())) :
    ∃ entries total', CentralDirectory zip eocd i position entries ∧ entries.length = remaining ∧
      Unpacks zlib zip entries (tree, total) (tree', total') := by
  induction remaining generalizing i position total tree with
  | zero =>
    cases h
    exact ⟨[], total, .nil i position, rfl, .nil _⟩
  | succ remaining ih =>
    rw [readEntries] at h
    obtain ⟨read, hread, h⟩ := bind_eq_ok.1 h
    cases read with
    | error error => cases h
    | ok entry =>
      obtain ⟨result, hunpack, h⟩ := bind_eq_ok.1 h
      cases result with
      | error error => cases h
      | ok out =>
        obtain ⟨entries, total', hdirectory, hlength, hrest⟩ := ih h
        refine ⟨entry :: entries, total', .cons hread hdirectory, ?_, .cons hunpack hrest⟩
        rw [List.length_cons, hlength]

theorem readZip_eq_ok {zlib : Zlib} {zip : Octets} {tree : Tree}
    (h : readZip zlib zip = .ok (tree, .ok ())) :
    ∃ record entries total, readEnd zip = .ok (.ok record) ∧
      CentralDirectory zip record.eocd 0 record.cdOffset.toNat entries ∧
      entries.length = record.entries.toNat ∧
      Unpacks zlib zip entries (.empty, 0) (tree, total) := by
  obtain ⟨result, hend, h⟩ := bind_eq_ok.1 h
  cases result with
  | error error => cases h
  | ok record =>
    obtain ⟨entries, total, hdirectory, hlength, hunpacks⟩ := readEntries_eq_ok _ h
    exact ⟨record, entries, total, hend, hdirectory, hlength, hunpacks⟩

/-! ## What is extracted -/

/-- What the tree of an accepted file is, for the entries of its central directory. -/
structure Extracted (zlib : Zlib) (entries : List CentralEntry) (tree : Tree) : Prop where
  /-- Every path is made of plain names, and so leads below any folder it is joined to. -/
  safe : ∀ path, path ∈ tree.files ∨ path ∈ tree.folders →
    SafePath path ∧ ∀ base, base <+: follow slash dot dotdot base path
  ancestors : ∀ file ∈ tree.files, ∀ folder, IsAncestor slash folder file → folder ∈ tree.folders
  /-- No file name is given twice. -/
  names_nodup : ((fileEntries entries).map CentralEntry.name).Nodup
  /-- The files are those of the entries, with the size and the CRC declared there. -/
  declared : ∃ files, List.Forall₂ (Declared zlib) (fileEntries entries) files ∧
    tree.files.toList.Perm files
  total_le : (tree.files.toList.map fun file => file.2.length).sum ≤ maxTotalUncompressed

theorem Unpacked.extracted {zlib : Zlib} {entries : List CentralEntry} {tree : Tree} {total : Nat}
    (h : Unpacked zlib entries tree total) : Extracted zlib entries tree := by
  obtain ⟨files, hdeclared, hperm⟩ := h.declared
  have hnames : (fileEntries entries).map CentralEntry.name = files.map Prod.fst :=
    map_eq_map_of_forall₂ hdeclared fun _ _ hfile => hfile.name.symm
  have hsizes : (fileEntries entries).map (fun entry => entry.usize.toNat) =
      files.map fun file => file.2.length :=
    map_eq_map_of_forall₂ hdeclared fun _ _ hfile => hfile.size.symm
  refine ⟨fun path hpath => ?_, h.ancestors, ?_, h.declared, ?_⟩
  · have hsafe : SafePath path := hpath.elim (h.safe_files path) (h.safe_folders path)
    exact ⟨hsafe, fun base => hsafe.follow base ▸ List.prefix_append _ _⟩
  · rw [hnames, ← (hperm.map Prod.fst).nodup_iff, Std.ExtTreeMap.map_fst_toList_eq_keys]
    exact Std.ExtTreeMap.nodup_keys
  · rw [(hperm.map _).sum_eq, ← hsizes, ← h.total_eq]
    exact h.total_le

/-- **Reading a zip is safe, and what is accepted is well formed.** -/
theorem readZip_safe (zlib : Zlib) (hzlib : zlib.AnswersUpTo maxTotalUncompressed) (zip : Octets) :
    ∃ tree result, readZip zlib zip = .ok (tree, result) ∧
      (result = .ok () → ∃ record entries, readEnd zip = .ok (.ok record) ∧
        CentralDirectory zip record.eocd 0 record.cdOffset.toNat entries ∧
        entries.length = record.entries.toNat ∧ Extracted zlib entries tree) := by
  obtain ⟨result, hresult, heocd⟩ := readEnd_inside zip
  rw [readZip, hresult, ok_bind]
  cases result with
  | error error => exact ⟨_, _, rfl, fun h => nomatch h⟩
  | ok record =>
    obtain ⟨⟨tree, result⟩, hout, hrun⟩ := readEntries_spec hzlib
      (by have := heocd record rfl; omega : record.eocd ≤ zip.length) record.entries.toNat 0
      record.cdOffset.toNat (unpacked_empty zlib)
    refine ⟨tree, result, hout, fun hok => ?_⟩
    obtain ⟨entries, total, hdirectory, hlength, hunpacked⟩ := hrun hok
    exact ⟨record, entries, rfl, hdirectory, hlength, hunpacked.extracted⟩

/-! ### A file of five octets -/

/-- "hello" as a raw deflate stream. -/
def helloDeflated : Octets := [0xCB, 0x48, 0xCD, 0xC9, 0xC9, 0x07, 0x00]

/-- zlib on "hello" and on nothing. -/
def helloZlib : Zlib where
  inflate input room :=
    if input = helloDeflated then
      .ok ⟨(octetsOf "hello").take room, List.length_take_le _ _,
        if 5 ≤ room then .streamEnd else .bufError⟩
    else if input = [0x03, 0x00] then .ok ⟨[], Nat.zero_le _, .streamEnd⟩
    else .ok ⟨[], Nat.zero_le _, .other⟩
  deflate data := if data = octetsOf "hello" then helloDeflated else [0x03, 0x00]
  crc32 data := if data = octetsOf "hello" then 0x3610A686 else 0

theorem helloZlib_answersUpTo (limit : Nat) : helloZlib.AnswersUpTo limit := by
  intro input room _
  unfold helloZlib
  dsimp only
  split_ifs <;> exact ⟨_, rfl⟩

/-- cert1/a with "hello" in it, as another program writes it. -/
def helloZip : Octets :=
  [0x50, 0x4B, 0x03, 0x04, 0x14, 0x00, 0x00, 0x00, 0x08, 0x00, 0x00, 0x00, 0x21, 0x00, 0x86, 0xA6,
    0x10, 0x36, 0x07, 0x00, 0x00, 0x00, 0x05, 0x00, 0x00, 0x00, 0x07, 0x00, 0x00, 0x00, 0x63, 0x65,
    0x72, 0x74, 0x31, 0x2F, 0x61, 0xCB, 0x48, 0xCD, 0xC9, 0xC9, 0x07, 0x00, 0x50, 0x4B, 0x01, 0x02,
    0x14, 0x03, 0x14, 0x00, 0x00, 0x00, 0x08, 0x00, 0x00, 0x00, 0x21, 0x00, 0x86, 0xA6, 0x10, 0x36,
    0x07, 0x00, 0x00, 0x00, 0x05, 0x00, 0x00, 0x00, 0x07, 0x00, 0x00, 0x00, 0x00, 0x00, 0x00, 0x00,
    0x00, 0x00, 0x00, 0x00, 0x80, 0x01, 0x00, 0x00, 0x00, 0x00, 0x63, 0x65, 0x72, 0x74, 0x31, 0x2F,
    0x61, 0x50, 0x4B, 0x05, 0x06, 0x00, 0x00, 0x00, 0x00, 0x01, 0x00, 0x01, 0x00, 0x35, 0x00, 0x00,
    0x00, 0x2C, 0x00, 0x00, 0x00, 0x00, 0x00]

theorem readZip_hello : ∃ tree record entries, readZip helloZlib helloZip = .ok (tree, .ok ()) ∧
    readEnd helloZip = .ok (.ok record) ∧
    CentralDirectory helloZip record.eocd 0 record.cdOffset.toNat entries ∧
    entries.length = record.entries.toNat ∧ Extracted helloZlib entries tree := by
  obtain ⟨tree, result, hread, hrun⟩ :=
    readZip_safe helloZlib (helloZlib_answersUpTo maxTotalUncompressed) helloZip
  have haccepted : (readZip helloZlib helloZip).map Prod.snd = .ok (.ok ()) := by decide +kernel
  rw [hread] at haccepted
  have hresult : result = .ok () := Except.ok.inj haccepted
  obtain ⟨record, entries, hfound⟩ := hrun hresult
  exact ⟨tree, record, entries, hresult ▸ hread, hfound⟩

end BacnetBc.Cari
