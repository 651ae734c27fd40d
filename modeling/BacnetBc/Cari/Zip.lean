import BacnetBc.Cari.Tree
import BacnetBc.Cert.Pem
import BacnetBc.Lib.LittleEndian

/-!
# The zip reader and writer

`readZip` reads a zip from anyone: the end record is searched from the end of the file, the central
directory it points to is read entry by entry, and each file is unpacked from where its entry says.
`writeZip` writes a tree: a local header and the data for each entry, the central directory, and the
end record.

zlib is a parameter (`Zlib`). Sizes are 64-bit numbers of the source, and all that is added to them
is far below that; what the source narrows to 16 or 32 bits is narrowed here.

Reading outside the file is a fault. A request for more than zlib is known to answer can be one too.
-/

namespace BacnetBc.Cari

open Memory

/-! ## Limits and signatures -/

/-- `MAX_ZIP_BYTES`. -/
def maxZipBytes : Nat := 4 * 1024 * 1024

/-- `MAX_ENTRIES`. -/
def maxEntries : Nat := 4096

/-- `MAX_TOTAL_UNCOMPRESSED`. -/
def maxTotalUncompressed : Nat := 16 * 1024 * 1024

def localHeaderSig : UInt32 := 0x04034b50

def centralHeaderSig : UInt32 := 0x02014b50

def endOfCentralDirSig : UInt32 := 0x06054b50

/-! ## zlib -/

/-- What a call of `inflate` returns: `Z_STREAM_END`, `Z_BUF_ERROR` or anything else. -/
inductive InflateStatus
  | streamEnd
  | bufError
  | other
deriving DecidableEq, Repr

/-- What `inflate` has done with room for `room` octets of output. -/
structure Inflated (room : Nat) where
  output : Octets
  output_le : output.length ≤ room
  status : InflateStatus

/-- zlib, for raw deflate streams. -/
structure Zlib where
  /-- One call of `inflate` with `Z_FINISH`. -/
  inflate : Octets → (room : Nat) → Access (Inflated room)
  /-- `deflate` with `Z_FINISH` into a buffer of `deflateBound` octets. -/
  deflate : Octets → Octets
  crc32 : Octets → UInt32

/-- A buffer whose length is passed on as `uInt`. -/
def asUInt (octets : Octets) : Octets := octets.take (octets.length % 2 ^ 32)

theorem asUInt_of_lt {octets : Octets} (h : octets.length < 2 ^ 32) : asUInt octets = octets := by
  rw [asUInt, Nat.mod_eq_of_lt h, List.take_length]

/-- `Inflate`: the output, or `none` for false. -/
def inflate (zlib : Zlib) (input : Octets) (expected : Nat) : Access (Option Octets) := do
  let inflated ← zlib.inflate (asUInt input) (expected % 2 ^ 32)
  let out := inflated.output ++ List.replicate (expected - inflated.output.length) 0
  if (inflated.status == .streamEnd && inflated.output.length == expected) ||
      (expected == 0 && inflated.status == .bufError) then
    return some out
  else return none

/-- `Deflate`. -/
def deflate (zlib : Zlib) (input : Octets) : Octets := zlib.deflate (asUInt input)

/-- `crc32(0L, …)`. -/
def crcOf (zlib : Zlib) (data : Octets) : UInt32 := zlib.crc32 (asUInt data)

/-! ## Texts -/

def quoted (name : Octets) : Octets := octetsOf "\"" ++ name ++ octetsOf "\""

def damaged (what : Octets) : Octets := octetsOf "the zip file is damaged (" ++ what ++ octetsOf ")"

def notZip : Octets :=
  octetsOf "not a zip file (a CARI file is a .zip with a cert1/ folder in it)"

/-! ## The end record -/

/-- What `ReadZip` takes from the end-of-central-directory record, and where it is. -/
structure EndRecord where
  eocd : Nat
  entries : UInt16
  cdSize : UInt32
  cdOffset : UInt32

/-- The search for the end record: below `start`, down to `lowest`. -/
def findEnd (zip : Octets) (lowest : Nat) : Nat → Access (Option Nat)
  | 0 => return none
  | start + 1 =>
    if lowest < start + 1 then do
      if (← get32 zip start) == endOfCentralDirSig then return some start
      else findEnd zip lowest start
    else return none

/-- `ReadZip` up to the first entry. -/
def readEnd (zip : Octets) : Access (Except Octets EndRecord) :=
  if maxZipBytes < zip.length then
    .ok (.error (octetsOf ("the file is " ++ toString zip.length ++ " bytes; the limit is " ++
      toString maxZipBytes)))
  else if zip.length < 22 then .ok (.error notZip)
  else do
    if (← get32 zip 0) != localHeaderSig then return .error notZip
    else
      match ← findEnd zip (zip.length - 65557) (zip.length - 22 + 1) with
      | none => return .error (damaged (octetsOf "no end-of-central-directory record"))
      | some eocd =>
        let entries ← get16 zip (eocd + 10)
        let cdSize ← get32 zip (eocd + 12)
        let cdOffset ← get32 zip (eocd + 16)
        if (← get16 zip (eocd + 4)) != 0 || (← get16 zip (eocd + 6)) != 0 ||
            entries != (← get16 zip (eocd + 8)) then
          return .error (octetsOf "multi-part zip files are not supported")
        else if maxEntries < entries.toNat then
          return .error (octetsOf ("the zip has " ++ toString entries.toNat ++
            " entries; the limit is " ++ toString maxEntries))
        else if eocd < cdOffset.toNat + cdSize.toNat then
          return .error (damaged (octetsOf "central directory out of range"))
        else return .ok ⟨eocd, entries, cdSize, cdOffset⟩

/-! ## The central directory -/

/-- What `ReadZip` takes from an entry of the central directory. -/
structure CentralEntry where
  flags : UInt16
  method : UInt16
  crc : UInt32
  csize : UInt32
  usize : UInt32
  localOffset : UInt32
  name : Octets
  /-- Where the next entry begins. -/
  next : Nat

/-- The entry number `i`, at `position`. -/
def readCentralEntry (zip : Octets) (eocd i position : Nat) : Access (Except Octets CentralEntry) :=
  let damagedEntry := damaged (octetsOf ("central directory entry " ++ toString i))
  if eocd < position + 46 then .ok (.error damagedEntry)
  else do
    if (← get32 zip position) != centralHeaderSig then return .error damagedEntry
    else
      let flags ← get16 zip (position + 8)
      let method ← get16 zip (position + 10)
      let crc ← get32 zip (position + 16)
      let csize ← get32 zip (position + 20)
      let usize ← get32 zip (position + 24)
      let nameLen ← get16 zip (position + 28)
      let extraLen ← get16 zip (position + 30)
      let commentLen ← get16 zip (position + 32)
      let localOffset ← get32 zip (position + 42)
      if eocd < position + 46 + nameLen.toNat then
        return .error (damaged (octetsOf "entry name out of range"))
      else
        let name ← slice zip (position + 46) nameLen.toNat
        return .ok ⟨flags, method, crc, csize, usize, localOffset, name,
          position + (46 + nameLen.toNat + extraLen.toNat + commentLen.toNat)⟩

namespace CentralEntry

/-- A name with '/' at its end is a folder. -/
def isFolder (entry : CentralEntry) : Bool := entry.name.getLast? == some slash

/-- The name without that '/'. -/
def path (entry : CentralEntry) : Octets :=
  if entry.isFolder then entry.name.dropLast else entry.name

end CentralEntry

/-! ## Entries -/

/-- The data of a file entry: its local header is skipped, what follows is stored or inflated. -/
def readData (zlib : Zlib) (zip : Octets) (entry : CentralEntry) : Access (Except Octets Octets) :=
  let damagedHeader := damaged (octetsOf "local header for " ++ quoted entry.path)
  let localOffset := entry.localOffset
  if zip.length < localOffset.toNat + 30 then .ok (.error damagedHeader)
  else do
    if (← get32 zip localOffset.toNat) != localHeaderSig then return .error damagedHeader
    else
      -- 32-bit sum
      let dataAt := (localOffset + 30 + (← get16 zip (localOffset.toNat + 26)).toUInt32 +
        (← get16 zip (localOffset.toNat + 28)).toUInt32).toNat
      if zip.length < dataAt + entry.csize.toNat then
        return .error (damaged (octetsOf "data for " ++ quoted entry.path ++
          octetsOf " out of range"))
      else
        let compressed ← slice zip dataAt entry.csize.toNat
        if entry.method == 0 then
          if entry.csize != entry.usize then
            return .error (damaged (octetsOf "size of " ++ quoted entry.path))
          else return .ok compressed
        else
          match ← inflate zlib compressed entry.usize.toNat with
          | none => return .error (octetsOf "could not decompress " ++ quoted entry.path)
          | some data => return .ok data

/-- A file entry; `total` counts this file already. -/
def unpackFile (zlib : Zlib) (zip : Octets) (entry : CentralEntry) (tree : Tree) (total : Nat) :
    Access (Except Octets (Tree × Nat)) :=
  if maxTotalUncompressed < total then
    .ok (.error (octetsOf ("the zip unpacks to more than " ++ toString maxTotalUncompressed ++
      " bytes")))
  else do
    match ← readData zlib zip entry with
    | .error error => return .error error
    | .ok data =>
      if crcOf zlib data != entry.crc then
        return .error (quoted entry.path ++ octetsOf " is damaged (CRC mismatch)")
      else if tree.files.contains entry.path then
        return .error (quoted entry.path ++ octetsOf " appears twice in the zip")
      else return .ok (tree.addFile entry.path data, total)

/-- One entry, with the tree and the count of octets so far. -/
def unpack (zlib : Zlib) (zip : Octets) (entry : CentralEntry) (tree : Tree) (total : Nat) :
    Access (Except Octets (Tree × Nat)) :=
  if entry.flags &&& 0x0001 != 0 then
    .ok (.error (quoted entry.name ++ octetsOf " is encrypted; CARI files are not"))
  else if entry.csize == 0xFFFFFFFF || entry.usize == 0xFFFFFFFF ||
      entry.localOffset == 0xFFFFFFFF then
    .ok (.error (octetsOf "zip64 files are not supported"))
  else if entry.method != 0 && entry.method != 8 then
    .ok (.error (quoted entry.name ++ octetsOf (" uses compression method " ++
      toString entry.method.toNat ++ "; only stored (0) and deflate (8) are supported")))
  else if !isSafeZipPath entry.path then
    .ok (.error (octetsOf "unsafe path in the zip: " ++ quoted entry.path))
  else if entry.isFolder then .ok (.ok (tree.addFolder entry.path, total))
  else unpackFile zlib zip entry tree (total + entry.usize.toNat)

/-- The loop over the entries from number `i` on. -/
def readEntries (zlib : Zlib) (zip : Octets) (eocd : Nat) : (remaining i position : Nat) → Tree →
    (total : Nat) → Access (Tree × Except Octets Unit)
  | 0, _, _, tree, _ => return (tree, .ok ())
  | remaining + 1, i, position, tree, total => do
    match ← readCentralEntry zip eocd i position with
    | .error error => return (tree, .error error)
    | .ok entry =>
      match ← unpack zlib zip entry tree total with
      | .error error => return (tree, .error error)
      | .ok (tree, total) => readEntries zlib zip eocd remaining (i + 1) entry.next tree total

/-- `ReadZip`: the tree that is left in `*out`, and true or the text in `*error`. -/
def readZip (zlib : Zlib) (zip : Octets) : Access (Tree × Except Octets Unit) := do
  match ← readEnd zip with
  | .error error => return (.empty, .error error)
  | .ok record =>
    readEntries zlib zip record.eocd record.entries.toNat 0 record.cdOffset.toNat .empty 0

/-! ## WriteZip -/

/-- An entry to write: a folder has a '/' at the end of its name. -/
structure Entry where
  name : Octets
  data : Octets
deriving DecidableEq, Repr

/-- Every folder, then every file, each in the order of the paths. -/
def Tree.entries (tree : Tree) : List Entry :=
  tree.folders.toList.map (fun folder => ⟨folder ++ [slash], []⟩) ++
    tree.files.toList.map fun file => ⟨file.1, file.2⟩

/-- The date and time of an entry, as MS-DOS counts them. -/
structure DosStamp where
  time : UInt16
  date : UInt16

/-- The fields that both headers of an entry have. -/
structure EntryHeader where
  method : UInt16
  stamp : DosStamp
  crc : UInt32
  csize : UInt32
  usize : UInt32
  nameLen : UInt16

def localHeader (header : EntryHeader) : List Field :=
  [.u32 localHeaderSig, .u16 20, .u16 0x0800, .u16 header.method, .u16 header.stamp.time,
    .u16 header.stamp.date, .u32 header.crc, .u32 header.csize, .u32 header.usize,
    .u16 header.nameLen, .u16 0]

def centralHeader (header : EntryHeader) (isFolder : Bool) (offset : UInt32) : List Field :=
  [.u32 centralHeaderSig, .u16 20, .u16 20, .u16 0x0800, .u16 header.method,
    .u16 header.stamp.time, .u16 header.stamp.date, .u32 header.crc, .u32 header.csize,
    .u32 header.usize, .u16 header.nameLen,
    .u16 0, .u16 0, .u16 0, .u16 0, -- extra, comment, disk, internal attributes
    .u32 (if isFolder then 0x10 else 0), .u32 offset]

def endRecord (entries : UInt16) (cdSize cdOffset : UInt32) : List Field :=
  [.u32 endOfCentralDirSig, .u16 0, .u16 0, .u16 entries, .u16 entries, .u32 cdSize,
    .u32 cdOffset, .u16 0]

/-- `name.back()`: the string must not be empty. -/
def back (name : Octets) : Access UInt8 := read name (name.length - 1)

/-- The loop over the entries: the zip and the central directory so far. -/
def writeEntries (zlib : Zlib) (stamp : DosStamp) (zip central : Octets) :
    List Entry → Access (Octets × Octets)
  | [] => return (zip, central)
  | entry :: entries => do
    let isFolder := (← back entry.name) == slash
    let body := if isFolder then [] else deflate zlib entry.data
    let header : EntryHeader := {
      method := if isFolder then 0 else 8
      stamp
      crc := crcOf zlib entry.data
      csize := body.length.toUInt32
      usize := entry.data.length.toUInt32
      nameLen := entry.name.length.toUInt16 }
    writeEntries zlib stamp (zip ++ encode (localHeader header) ++ entry.name ++ body)
      (central ++ encode (centralHeader header isFolder zip.length.toUInt32) ++ entry.name) entries

/-- `WriteZip`, at the local time that `stamp` gives. -/
def writeZip (zlib : Zlib) (stamp : DosStamp) (tree : Tree) : Access Octets := do
  let (zip, central) ← writeEntries zlib stamp [] [] tree.entries
  return zip ++ central ++ encode (endRecord tree.entries.length.toUInt16
    central.length.toUInt32 zip.length.toUInt32)

end BacnetBc.Cari
