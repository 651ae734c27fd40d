import BacnetBc.Cari.RoundTrip

/-!
# The size of a tree

`MAX_ENTRIES` limits the entries of the central directory. Each entry adds its path to the tree and
the folders above it, so the tree may have more files and folders than the zip has entries.

**Theorem (`readZip_size`).** The tree of an accepted zip has at most as many files and folders as
the names of its entries have parts, and that is at most half the octets of the zip.
-/

namespace BacnetBc.Cari

open Memory
open Path hiding split

/-- Folders and files together. -/
def Tree.size (tree : Tree) : Nat := tree.files.size + tree.folders.size

/-- The parts of an entry's name. -/
def CentralEntry.depth (entry : CentralEntry) : Nat := (split entry.path).length

/-! ## What an entry adds -/

namespace Tree

theorem size_addParts_le (tree : Tree) (path : Octets) (parts : List Octets) :
    (tree.addParts path parts).folders.size ≤ tree.folders.size + parts.length := by
  induction parts generalizing tree path with
  | nil => exact Nat.le_refl _
  | cons part parts ih =>
    rw [addParts, List.length_cons]
    refine (ih _ _).trans ?_
    have hinsert (added : Octets) :
        (tree.folders.insert added).size ≤ tree.folders.size + 1 := Std.ExtTreeSet.size_insert_le
    exact (Nat.add_le_add_right (hinsert _) _).trans (by omega)

theorem size_addFolder_le (tree : Tree) (path : Octets) :
    (tree.addFolder path).size ≤ tree.size + (split path).length := by
  have hfolders : (tree.addFolder path).folders.size ≤
      tree.folders.size + (split path).length := size_addParts_le tree [] (split path)
  rw [size, size, addFolder_files]
  omega

theorem size_addFile_le (tree : Tree) {path : Octets} (h : SafePath path) (bytes : Octets) :
    (tree.addFile path bytes).size ≤ tree.size + (split path).length := by
  have hfiles (files : Std.ExtTreeMap Octets Octets) :
      (files.insert path bytes).size ≤ files.size + 1 := Std.ExtTreeMap.size_insert_le
  have hsplit : (split path).length = (path.splitOn slash).length := by rw [h.split_eq]
  rw [addFile]
  cases hparent : parentOf path with
  | none =>
    have hpos : 0 < (path.splitOn slash).length :=
      List.length_pos_iff.2 (List.splitOn_ne_nil slash path)
    have hone := hfiles tree.files
    simp only [size]
    omega
  | some parent =>
    obtain ⟨name, rfl, hname⟩ := parentOf_eq_some hparent
    have hsafe : SafePath parent := h.of_isAncestor ⟨name, rfl⟩
    have hparts : ((parent ++ slash :: name).splitOn slash).length =
        (split parent).length + 1 := by
      rw [List.splitOn_append_cons_self, List.splitOn_eq_singleton hname, hsafe.split_eq,
        List.length_append, List.length_singleton]
    have hfolder := size_addFolder_le tree parent
    have hone := hfiles (tree.addFolder parent).files
    simp only [size] at hfolder ⊢
    omega

end Tree

/-- **An accepted entry** adds at most the parts of its name. -/
theorem size_unpack_le {zlib : Zlib} {zip : Octets} {entry : CentralEntry} {tree : Tree}
    {total : Nat} {out : Tree × Nat}
    (h : unpack zlib zip entry tree total = .ok (.ok out)) :
    out.1.size ≤ tree.size + entry.depth := by
  obtain ⟨hsafe, ⟨-, htree⟩ | ⟨hfile, data, htree⟩⟩ := unpack_eq_ok h
  · rw [htree]
    exact tree.size_addFolder_le entry.path
  · have hlast : entry.path.getLast? ≠ some slash := by
      rw [CentralEntry.path_of_file hfile]
      simpa [CentralEntry.isFolder] using hfile
    rw [htree]
    exact tree.size_addFile_le ((isSafeZipPath_iff_of_last hlast).1 hsafe) data

theorem Unpacks.size_le {zlib : Zlib} {zip : Octets} {entries : List CentralEntry}
    {state state' : Tree × Nat} (h : Unpacks zlib zip entries state state') :
    state'.1.size ≤ state.1.size + (entries.map CentralEntry.depth).sum := by
  induction h with
  | nil _ => exact Nat.le_add_right _ _
  | cons hunpack _ ih =>
    have hentry := size_unpack_le hunpack
    rw [List.map_cons, List.sum_cons]
    omega

/-! ## How many parts there can be -/

/-- A path of `n` parts that are not empty has at least `2 * n - 1` octets. -/
theorem two_mul_length_le {parts : List Octets} (h : ∀ part ∈ parts, part ≠ []) :
    2 * parts.length ≤ ([slash].intercalate parts).length + 1 := by
  induction parts with
  | nil => exact Nat.zero_le _
  | cons part parts ih =>
    obtain ⟨hpart, hparts⟩ := List.forall_mem_cons.1 h
    have hpos : 0 < part.length := List.length_pos_iff.2 hpart
    by_cases hnil : parts = []
    · rw [hnil, List.intercalate_singleton, List.length_singleton]
      omega
    · have hrest := ih hparts
      rw [List.intercalate_cons_of_ne_nil hnil, List.length_append, List.length_append,
        List.length_cons, List.length_singleton]
      omega

theorem two_mul_length_split_le {path : Octets} (h : isSafeZipPath path = true) :
    2 * (split path).length ≤ path.length + 1 := by
  obtain ⟨hne, hparts⟩ := isSafeZipPath_iff.1 h
  have hsplit : ∃ rest, path = [slash].intercalate (split path) ++ rest := by
    by_cases hlast : path.getLast? = some slash
    · obtain ⟨before, rfl⟩ := List.getLast?_eq_some_iff.1 hlast
      have heq : split (before ++ [slash]) = before.splitOn slash := split_append_separator before
      exact ⟨[slash], by rw [heq, List.intercalate_splitOn]⟩
    · have heq : split path = path.splitOn slash := split_eq_splitOn hne hlast
      exact ⟨[], by rw [heq, List.intercalate_splitOn, List.append_nil]⟩
  obtain ⟨rest, hrest⟩ := hsplit
  have hlength := congrArg List.length hrest
  rw [List.length_append] at hlength
  have hle := two_mul_length_le fun part hpart => (hparts part hpart).ne_nil
  omega

theorem CentralEntry.length_path_le (entry : CentralEntry) :
    entry.path.length ≤ entry.name.length := by
  rw [CentralEntry.path]
  split_ifs
  · rw [List.length_dropLast]
    exact Nat.sub_le _ _
  · exact Nat.le_refl _

/-- An entry takes 46 octets of the central directory, and its name. -/
theorem readCentralEntry_eq_ok {zip : Octets} {eocd i position : Nat} {entry : CentralEntry}
    (h : readCentralEntry zip eocd i position = .ok (.ok entry)) :
    position + 46 + entry.name.length ≤ eocd ∧ position + 46 + entry.name.length ≤ entry.next := by
  unfold readCentralEntry at h
  by_cases hheader : eocd < position + 46
  · rw [if_pos hheader] at h
    cases h
  rw [if_neg hheader] at h
  obtain ⟨sig, -, h⟩ := bind_eq_ok.1 h
  split_ifs at h
  · cases h
  obtain ⟨flags, -, h⟩ := bind_eq_ok.1 h
  obtain ⟨method, -, h⟩ := bind_eq_ok.1 h
  obtain ⟨crc, -, h⟩ := bind_eq_ok.1 h
  obtain ⟨csize, -, h⟩ := bind_eq_ok.1 h
  obtain ⟨usize, -, h⟩ := bind_eq_ok.1 h
  obtain ⟨nameLen, -, h⟩ := bind_eq_ok.1 h
  obtain ⟨extraLen, -, h⟩ := bind_eq_ok.1 h
  obtain ⟨commentLen, -, h⟩ := bind_eq_ok.1 h
  obtain ⟨localOffset, -, h⟩ := bind_eq_ok.1 h
  split_ifs at h with hname
  · cases h
  obtain ⟨name, hslice, h⟩ := bind_eq_ok.1 h
  cases h
  unfold slice at hslice
  split_ifs at hslice with hinside
  have hlength : name.length = nameLen.toNat := by
    rw [← Except.ok.inj hslice, List.length_take, List.length_drop]
    omega
  dsimp only
  omega

theorem CentralDirectory.sum_le {zip : Octets} {eocd i position : Nat}
    {entries : List CentralEntry} (h : CentralDirectory zip eocd i position entries) :
    entries = [] ∨
      position + (entries.map fun entry => 46 + entry.name.length).sum ≤ eocd := by
  induction h with
  | nil _ _ => exact .inl rfl
  | cons hread _ ih =>
    obtain ⟨heocd, hnext⟩ := readCentralEntry_eq_ok hread
    right
    rw [List.map_cons, List.sum_cons]
    rcases ih with rfl | hrest
    · rw [List.map_nil, List.sum_nil]
      omega
    · omega

/-- The names of accepted entries are safe. -/
theorem Unpacks.safe {zlib : Zlib} {zip : Octets} {entries : List CentralEntry}
    {state state' : Tree × Nat} (h : Unpacks zlib zip entries state state') :
    ∀ entry ∈ entries, isSafeZipPath entry.path = true := by
  induction h with
  | nil _ => exact fun entry hmem => absurd hmem List.not_mem_nil
  | cons hunpack _ ih => exact List.forall_mem_cons.2 ⟨(unpack_eq_ok hunpack).1, ih⟩

theorem sum_depth_le {entries : List CentralEntry}
    (h : ∀ entry ∈ entries, isSafeZipPath entry.path = true) :
    2 * (entries.map CentralEntry.depth).sum ≤
      (entries.map fun entry => 46 + entry.name.length).sum := by
  induction entries with
  | nil => exact Nat.le_refl _
  | cons entry entries ih =>
    obtain ⟨hentry, hentries⟩ := List.forall_mem_cons.1 h
    have hdepth : 2 * entry.depth ≤ entry.path.length + 1 := two_mul_length_split_le hentry
    have hpath := entry.length_path_le
    have hrest := ih hentries
    rw [List.map_cons, List.map_cons, List.sum_cons, List.sum_cons]
    omega

theorem readEnd_entries_le {zip : Octets} {record : EndRecord}
    (h : readEnd zip = .ok (.ok record)) :
    record.entries.toNat ≤ maxEntries ∧ record.eocd ≤ zip.length := by
  refine ⟨?_, ?_⟩
  · unfold readEnd at h
    by_cases hlarge : maxZipBytes < zip.length
    · rw [if_pos hlarge] at h
      cases h
    rw [if_neg hlarge] at h
    by_cases hsmall : zip.length < 22
    · rw [if_pos hsmall] at h
      cases h
    rw [if_neg hsmall] at h
    obtain ⟨sig, -, h⟩ := bind_eq_ok.1 h
    split_ifs at h
    · cases h
    obtain ⟨found, -, h⟩ := bind_eq_ok.1 h
    cases found with
    | none => cases h
    | some eocd =>
      obtain ⟨entries, -, h⟩ := bind_eq_ok.1 h
      obtain ⟨cdSize, -, h⟩ := bind_eq_ok.1 h
      obtain ⟨cdOffset, -, h⟩ := bind_eq_ok.1 h
      obtain ⟨disk, -, h⟩ := bind_eq_ok.1 h
      obtain ⟨cdDisk, -, h⟩ := bind_eq_ok.1 h
      obtain ⟨onDisk, -, h⟩ := bind_eq_ok.1 h
      split_ifs at h with hparts hentries hdirectory
      · cases h
      · cases h
      · cases h
      · cases h
        exact Nat.le_of_not_lt hentries
  · obtain ⟨result, hresult, hinside⟩ := readEnd_inside zip
    have heocd := hinside record (Except.ok.inj (hresult.symm.trans h))
    omega

/-- **The size of an accepted zip's tree.** -/
theorem readZip_size {zlib : Zlib} {zip : Octets} {tree : Tree}
    (h : readZip zlib zip = .ok (tree, .ok ())) :
    ∃ record entries, readEnd zip = .ok (.ok record) ∧
      CentralDirectory zip record.eocd 0 record.cdOffset.toNat entries ∧
      entries.length = record.entries.toNat ∧ entries.length ≤ maxEntries ∧
      tree.size ≤ (entries.map CentralEntry.depth).sum ∧
      2 * (entries.map CentralEntry.depth).sum ≤ zip.length := by
  obtain ⟨record, entries, total, hend, hdirectory, hlength, hunpacks⟩ := readZip_eq_ok h
  obtain ⟨hentries, heocd⟩ := readEnd_entries_le hend
  refine ⟨record, entries, hend, hdirectory, hlength, hlength.trans_le hentries, ?_, ?_⟩
  · have hempty : Tree.empty.size = 0 := rfl
    have hsize := hunpacks.size_le
    rwa [hempty, Nat.zero_add] at hsize
  · have hdepth := sum_depth_le hunpacks.safe
    rcases hdirectory.sum_le with rfl | hsum
    · exact Nat.zero_le _
    · omega

/-- `cert1/a` with five octets in it. -/
theorem readZip_size_hello :
    ∃ record entries, readEnd helloZip = .ok (.ok record) ∧
      CentralDirectory helloZip record.eocd 0 record.cdOffset.toNat entries ∧
      entries.length = record.entries.toNat ∧ entries.length ≤ maxEntries ∧
      (Tree.empty.addFile (octetsOf "cert1/a") (octetsOf "hello")).size ≤
        (entries.map CentralEntry.depth).sum ∧
      2 * (entries.map CentralEntry.depth).sum ≤ helloZip.length :=
  readZip_size (show readZip helloZlib helloZip = .ok (_, .ok ()) by rfl)

/-! ## A deep folder -/

/-- A path of `n` parts. -/
def deepPath (n : Nat) : Octets := [slash].intercalate (List.replicate n [0x61])

theorem splitOn_deepPath (n : Nat) :
    (deepPath (n + 1)).splitOn slash = List.replicate (n + 1) [0x61] := by
  apply List.splitOn_intercalate
  · intro part hpart
    rw [List.eq_of_mem_replicate hpart]
    decide
  · exact List.cons_ne_nil _ _

theorem length_deepPath (n : Nat) : (deepPath (n + 1)).length = 2 * n + 1 := by
  induction n with
  | zero => rfl
  | succ n ih =>
    have hne : List.replicate (n + 1) [(0x61 : UInt8)] ≠ [] := List.cons_ne_nil _ _
    rw [deepPath, List.replicate_succ, List.intercalate_cons_of_ne_nil hne, List.length_append,
      List.length_append, ← deepPath, ih]
    simp only [List.length_singleton]
    omega

theorem safePath_deepPath (n : Nat) : SafePath (deepPath (n + 1)) := by
  have hpart : SafePart [0x61] := by
    have hsafe : isSafeZipPath [0x61] = true := by rfl
    exact (isSafeZipPath_iff.1 hsafe).2 _ (by decide)
  intro part hmem
  rw [splitOn_deepPath] at hmem
  rwa [List.eq_of_mem_replicate hmem]

/-- The folder and those above it are as many as it has parts. -/
theorem le_size_deepPath (n : Nat) : n + 1 ≤ (Tree.empty.addFolder (deepPath (n + 1))).size := by
  have hsafe := safePath_deepPath n
  have hnodup : ((List.range (n + 1)).map fun k => deepPath (k + 1)).Nodup := by
    apply List.Nodup.map _ List.nodup_range
    intro k k' heq
    have hlength := congrArg List.length heq
    rw [length_deepPath, length_deepPath] at hlength
    omega
  have hsubset : (List.range (n + 1)).map (fun k => deepPath (k + 1)) ⊆
      (Tree.empty.addFolder (deepPath (n + 1))).folders.toList := by
    intro folder hfolder
    obtain ⟨k, hk, rfl⟩ := List.mem_map.1 hfolder
    rw [List.mem_range] at hk
    rw [Std.ExtTreeSet.mem_toList, Tree.mem_addFolder _ hsafe hsafe.split_eq,
      eq_or_isAncestor_iff]
    refine .inr ⟨List.replicate (k + 1) [0x61], List.cons_ne_nil _ _, ?_, rfl⟩
    rw [splitOn_deepPath]
    refine ⟨List.replicate (n - k) [0x61], ?_⟩
    rw [List.replicate_append_replicate]
    congr 1
    omega
  have hle := (List.subperm_of_subset hnodup hsubset).length_le
  rw [List.length_map, List.length_range, Std.ExtTreeSet.length_toList] at hle
  rw [Tree.size]
  omega

/-- The only entry of a zip: a folder with more parts than `MAX_ENTRIES`. -/
def deepEntry : Entry := ⟨deepPath (maxEntries + 1) ++ [slash], []⟩

theorem deepEntry_writable (zlib : Zlib) : deepEntry.Writable zlib where
  safe := by
    have hsafe := safePath_deepPath maxEntries
    rw [deepEntry, Tree.path_append_slash]
    exact (isSafeZipPath_iff_of_last hsafe.getLast?_ne).2 hsafe
  name_lt := by
    rw [deepEntry, List.length_append, length_deepPath, List.length_singleton, maxEntries]
    omega
  data_of_folder _ := rfl
  undoes hfile := by
    rw [deepEntry, Tree.isFolder_append_slash] at hfile
    cases hfile

/-- A zip of one entry, with more than `MAX_ENTRIES` folders. -/
theorem deep_zip_is_read :
    ¬ ∀ (zlib : Zlib) (zip : Octets) (tree : Tree), zip.length ≤ maxZipBytes →
      readZip zlib zip = .ok (tree, .ok ()) → tree.size ≤ maxEntries := by
  intro h
  let zip := locals helloZlib ⟨0, 0x21⟩ [deepEntry] ++
    (directory helloZlib ⟨0, 0x21⟩ 0 [deepEntry] ++
      encode (endRecord [deepEntry].length.toUInt16
        (directory helloZlib ⟨0, 0x21⟩ 0 [deepEntry]).length.toUInt32
        (locals helloZlib ⟨0, 0x21⟩ [deepEntry]).length.toUInt32))
  have hfolder : deepEntry.isFolder = true := Tree.isFolder_append_slash _
  have hname : deepEntry.name.length = 2 * maxEntries + 2 := by
    rw [deepEntry, List.length_append, length_deepPath, List.length_singleton]
  have hsize : zip.length ≤ maxZipBytes := by
    have hbody : (deepEntry.body helloZlib).length = 0 := by
      rw [Entry.body, if_pos hfolder, List.length_nil]
    rw [List.length_append, List.length_append, length_locals, length_directory, length_endRecord]
    simp only [List.map_cons, List.map_nil, List.sum_cons, List.sum_nil, hname, hbody, maxEntries,
      maxZipBytes]
    omega
  have hread : readZip helloZlib zip = .ok ([deepEntry].foldl Entry.addTo .empty, .ok ()) := by
    refine readZip_layout (List.cons_ne_nil _ _) rfl hsize (by decide) ?_ (by decide) ?_
    · intro entry hmem
      rw [List.mem_singleton.1 hmem]
      exact deepEntry_writable helloZlib
    · refine ⟨?_, ?_⟩
      · simp [hfolder]
      · intro entry hmem hfile
        rw [List.mem_singleton.1 hmem, hfolder] at hfile
        cases hfile
  have hle := h helloZlib zip _ hsize hread
  have htree : [deepEntry].foldl Entry.addTo .empty =
      Tree.empty.addFolder (deepPath (maxEntries + 1)) := by
    rw [List.foldl_cons, List.foldl_nil, Entry.addTo, if_pos hfolder, deepEntry,
      Tree.path_append_slash]
  have hlarge := le_size_deepPath maxEntries
  rw [htree] at hle
  omega

end BacnetBc.Cari
