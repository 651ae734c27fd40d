import BacnetBc.Cert.Refusal
import BacnetBc.Lib.Fallback

/-!
# The contents of the File objects

What a store and a disk hold is, for a client, the contents of each File object: its own, or those
of the File object that it falls back to.

**The reference** (`Update.apply`). A File object's own contents are its staged copy or its file. An
accepted `Write` or `Resize` gives its File object new own contents, made of those that it serves;
it knows no staged copies and no files.

**Theorem (`updates_read`).** After any run of accepted updates, what is read is what the reference
serves. Each `Write` is acknowledged with the position where it began, at or before the end of the
contents, and ends within `maxFileBytes`; and a text that is written in order, in whatever chunks,
to a File object that was emptied is what is read then.
-/

namespace BacnetBc

open FaultyDisk Memory Trajectory

variable {L : Layout}

/-! ## Own contents -/

/-- What each File object has for itself. -/
abbrev Contents := Nat → Option Octets

/-- The fallbacks of the File objects that have a file. -/
def Layout.fallback (L : Layout) : FallbackChain Nat where
  next i := if (L.paths i).isSome then (L.readFallbackInstances i).filter (· ≠ 0) else none
  rank := L.rank
  rank_lt := fun {i j} h => by
    split_ifs at h
    exact L.rank_lt (Option.filter_eq_some_iff.1 h).1

namespace Store

/-- The staged copy, or the file on disk. -/
def own (s : Store L) (d : CertDisk) : Contents := fun i =>
  match s.staged[i]? with
  | some copy => some copy.bytes
  | none => (L.paths i).bind (readDisk d)

section
variable {s : Store L} {d : CertDisk} {i : Nat}

theorem own_of_staged {copy : Staged} (h : s.staged[i]? = some copy) :
    s.own d i = some copy.bytes := by
  rw [own, h]

theorem own_of_not_staged (h : s.staged[i]? = none) :
    s.own d i = (L.paths i).bind (readDisk d) := by
  rw [own, h]

/-- `FallbackInstance`, of the own contents. -/
theorem fallbackInstance_eq (s : Store L) (d : CertDisk) (i : Nat) :
    s.fallbackInstance d i = match s.own d i with
      | some _ => none
      | none => L.fallback.next i := by
  unfold fallbackInstance
  cases hi : s.staged[i]? with
  | some copy =>
    have hmem : i ∈ s.staged := by
      rw [Std.ExtTreeMap.mem_iff_isSome_getElem?, hi]
      rfl
    rw [if_pos hmem, own_of_staged hi]
  | none =>
    have hmem : i ∉ s.staged := by
      rw [Std.ExtTreeMap.mem_iff_isSome_getElem?, hi]
      exact Bool.false_ne_true
    rw [if_neg hmem, own_of_not_staged hi]
    cases hp : L.paths i with
    | none => simp [ownPath, hp, Layout.fallback]
    | some path =>
      cases hf : d path with
      | some file => simp [ownPath, hp, hf, readDisk]
      | none => simp [ownPath, hp, hf, readDisk, L.paths_ne_empty hp, Layout.fallback]

/-- What a File object that has no fallback now is read as. -/
theorem read_of_no_fallback (h : s.fallbackInstance d i = none) : s.read d i = s.own d i := by
  cases hi : s.staged[i]? with
  | some copy => rw [read_of_staged hi, own_of_staged hi]
  | none =>
    rw [read_of_not_staged hi, h, own_of_not_staged hi]
    cases hp : L.paths i with
    | none => simp [ownPath, hp]
    | some path => simp [ownPath, hp, L.paths_ne_empty hp]

theorem read_of_fallback {j : Nat} (h : s.fallbackInstance d i = some j) :
    s.read d i = s.read d j := by
  cases hi : s.staged[i]? with
  | some copy =>
    rw [fallbackInstance_eq, own_of_staged hi] at h
    cases h
  | none => rw [read_of_not_staged hi, h]

/-- **What is read** is served of the own contents. -/
theorem read_eq_serve (s : Store L) (d : CertDisk) (i : Nat) :
    s.read d i = L.fallback.serve (s.own d) i := by
  induction i using L.fallback.chain_induction with
  | step i ih =>
    have hfallback := s.fallbackInstance_eq d i
    cases hown : s.own d i with
    | some bytes =>
      rw [hown] at hfallback
      rw [read_of_no_fallback hfallback, hown, FallbackChain.serve_of_own hown]
    | none =>
      rw [hown] at hfallback
      cases hnext : L.fallback.next i with
      | none =>
        rw [hnext] at hfallback
        rw [read_of_no_fallback hfallback, hown, FallbackChain.serve_of_end hown hnext]
      | some j =>
        rw [hnext] at hfallback
        rw [read_of_fallback hfallback, FallbackChain.serve_of_next hown hnext, ih j hnext]

theorem effective_eq_serve (s : Store L) (d : CertDisk) (i : Nat) :
    s.effective d i = (L.fallback.serve (s.own d) i).getD [] := by
  rw [effective, read_eq_serve]

end

end Store

/-! ## The reference -/

/-- Where a `Write` begins: -1 is at the end. -/
def startOf (before : Octets) (fileStart : Int32) : Nat :=
  if fileStart = -1 then before.length else fileStart.toInt.toNat

namespace Update

/-- The File object that is written. -/
def fileInstance : Update → Nat
  | write i _ _ => i
  | resize i _ => i

/-- The contents that an update makes of those before it. -/
def result (before : Octets) : Update → Octets
  | write _ fileStart fileData => overwrite 0 before (startOf before fileStart) fileData
  | resize _ newSize => resizeOctets before newSize

/-- The update of the own contents. -/
def apply (L : Layout) (own : Contents) (u : Update) : Contents :=
  Function.update own u.fileInstance
    (some (u.result ((L.fallback.serve own u.fileInstance).getD [])))

end Update

/-! ## One update -/

theorem writeOctets_eq {bytes data : Octets} {start : Nat} (h : start ≤ bytes.length) :
    writeOctets bytes start data = overwrite 0 bytes start data := by
  rw [overwrite_of_le h, writeOctets]
  split_ifs with hlong
  · have htake : (resizeOctets bytes (start + data.length)).take start = bytes.take start := by
      rw [resizeOctets, List.take_of_length_le (Nat.le_of_lt hlong),
        List.take_append_of_le_length h]
    have hdrop : (resizeOctets bytes (start + data.length)).drop (start + data.length) = [] :=
      List.drop_eq_nil_of_le (by simp [resizeOctets]; omega)
    rw [splice, splice, htake, hdrop, List.drop_eq_nil_of_le (Nat.le_of_lt hlong)]
  · rfl

namespace Store

variable {s : Store L} {now : Int} {d : CertDisk} {i : Nat}

theorem update_own_self {own : Contents} {c : Option Octets} (h : own i = c) :
    Function.update own i c = own := by
  rw [← h, Function.update_eq_self]

/-- A File object that has a file can be staged, with the contents that it serves. -/
theorem stage_spec {t : Store L} {hi : i ∈ t.staged} (h : s.stage now d i = some ⟨t, hi⟩) :
    t.staged[i].bytes = s.effective d i ∧
      t.own d = Function.update (s.own d) i (some (s.effective d i)) ∧
      (L.paths i).isSome = true := by
  unfold stage at h
  split_ifs at h with hmem hpath
  · obtain rfl : s = t := congrArg Subtype.val (Option.some.inj h)
    have hcopy : s.staged[i]? = some s.staged[i] := Std.ExtTreeMap.getElem?_eq_some_getElem hmem
    have heff : s.effective d i = s.staged[i].bytes := by
      rw [effective, read_of_staged hcopy]
      rfl
    refine ⟨heff.symm, ?_, ?_⟩
    · rw [update_own_self]
      rw [own_of_staged hcopy, heff]
    · obtain ⟨p, hp⟩ := s.managed i hmem
      rw [hp]
      rfl
  · obtain rfl := congrArg Subtype.val (Option.some.inj h)
    refine ⟨by simp, ?_, hpath⟩
    funext j
    by_cases hj : j = i
    · subst hj
      simp [own]
    · simp [own, Function.update_of_ne hj, Std.ExtTreeMap.getElem?_insert, Ne.symm hj]

theorem own_restage (h : i ∈ s.staged) (copy : Staged) :
    (s.restage i h copy).own d = Function.update (s.own d) i (some copy.bytes) := by
  funext j
  by_cases hj : j = i
  · subst hj
    simp [own, restage]
  · simp [own, restage, Function.update_of_ne hj, Std.ExtTreeMap.getElem?_insert, Ne.symm hj]

theorem write_of_stage {t : Store L} {hi : i ∈ t.staged} (h : s.stage now d i = some ⟨t, hi⟩)
    (fileStart : Int32) (fileData : Octets) :
    s.write now d i fileStart fileData =
      let start := startOf t.staged[i].bytes fileStart
      if fileStart < -1 then (t, .error errorInvalidFileStartPosition)
      else if start > t.staged[i].bytes.length then (t, .error errorInvalidFileStartPosition)
      else if start + fileData.length > maxFileBytes then (t, .error errorFileFull)
      else (t.restage i hi ⟨writeOctets t.staged[i].bytes start fileData, now⟩, .ok start) := by
  rw [write, h]
  rfl

/-- What an accepted `Write` has done. -/
theorem write_ok {fileStart : Int32} {fileData : Octets} {start : Nat}
    (h : (s.write now d i fileStart fileData).2 = .ok start) :
    (L.paths i).isSome = true ∧ start = startOf (s.effective d i) fileStart ∧
      start ≤ (s.effective d i).length ∧ start + fileData.length ≤ maxFileBytes ∧
      (s.write now d i fileStart fileData).1.own d = Function.update (s.own d) i
        (some (overwrite 0 (s.effective d i) start fileData)) := by
  cases hstage : s.stage now d i with
  | none =>
    rw [write, hstage] at h
    cases h
  | some s' =>
    obtain ⟨t, hi⟩ := s'
    obtain ⟨hbytes, hown, hpath⟩ := stage_spec hstage
    rw [write_of_stage hstage, hbytes] at h ⊢
    dsimp only at h ⊢
    split_ifs at h ⊢ with hneg hhole hfull
    -- the three refusals are none
    obtain rfl := Except.ok.inj h
    have hstart : startOf (s.effective d i) fileStart ≤ (s.effective d i).length :=
      Nat.le_of_not_lt hhole
    refine ⟨hpath, rfl, hstart, Nat.le_of_not_lt hfull, ?_⟩
    dsimp only
    rw [own_restage, hown, writeOctets_eq hstart, Function.update_idem]

/-- A `Write` that is not refused for its position or its length is accepted. -/
theorem write_accepted (hp : (L.paths i).isSome = true) {fileStart : Int32} {fileData : Octets}
    (hneg : ¬ fileStart < -1)
    (hstart : startOf (s.effective d i) fileStart ≤ (s.effective d i).length)
    (hfull : startOf (s.effective d i) fileStart + fileData.length ≤ maxFileBytes) :
    (s.write now d i fileStart fileData).2 = .ok (startOf (s.effective d i) fileStart) := by
  obtain ⟨⟨t, hi⟩, hstage⟩ := exists_stage s now d hp
  obtain ⟨hbytes, -, -⟩ := stage_spec hstage
  rw [write_of_stage hstage, hbytes]
  dsimp only
  rw [if_neg hneg, if_neg (Nat.not_lt.2 hstart), if_neg (Nat.not_lt.2 hfull)]

/-- What an accepted `Resize` has done. -/
theorem resize_ok {newSize : Nat} (h : (s.resize now d i newSize).2.isOk = true) :
    (L.paths i).isSome = true ∧ newSize ≤ maxFileBytes ∧
      (s.resize now d i newSize).1.own d = Function.update (s.own d) i
        (some (resizeOctets (s.effective d i) newSize)) := by
  unfold resize at h ⊢
  split_ifs at h ⊢ with hsize
  · cases h
  · cases hstage : s.stage now d i with
    | none =>
      rw [hstage] at h
      cases h
    | some s' =>
      obtain ⟨t, hi⟩ := s'
      obtain ⟨hbytes, hown, hpath⟩ := stage_spec hstage
      refine ⟨hpath, Nat.le_of_not_lt hsize, ?_⟩
      dsimp only
      rw [own_restage, hown, hbytes, Function.update_idem]

theorem resize_accepted (hp : (L.paths i).isSome = true) {newSize : Nat}
    (hsize : newSize ≤ maxFileBytes) : (s.resize now d i newSize).2 = .ok () := by
  obtain ⟨⟨t, hi⟩, hstage⟩ := exists_stage s now d hp
  rw [resize, if_neg (Nat.not_lt.2 hsize), hstage]

/-- **An accepted update** gives its File object the reference's contents. -/
theorem update_own {u : Update} (h : (s.update now d u).2 = true) :
    (s.update now d u).1.own d = u.apply L (s.own d) := by
  unfold Update.apply
  rw [← effective_eq_serve]
  cases u with
  | write i fileStart fileData =>
    cases hresult : (s.write now d i fileStart fileData).2 with
    | error code =>
      rw [update, hresult] at h
      cases h
    | ok start =>
      obtain ⟨-, rfl, -, -, hown⟩ := write_ok hresult
      exact hown
  | resize i newSize => exact (resize_ok h).2.2

/-- What the File objects serve after an accepted update. -/
theorem update_read {u : Update} (h : (s.update now d u).2 = true) (j : Nat) :
    (s.update now d u).1.read d j = L.fallback.serve (u.apply L (s.own d)) j := by
  rw [read_eq_serve, update_own h]

/-- `j` is served `i`, now, or falls back, once or more than once, to `i`. -/
inductive ServedThrough (s : Store L) (d : CertDisk) (i : Nat) : Nat → Prop
  | self : ServedThrough s d i i
  | fallback {j k : Nat} (h : s.fallbackInstance d j = some k) (hk : ServedThrough s d i k) :
      ServedThrough s d i j

theorem servedThrough_iff {i j : Nat} :
    s.ServedThrough d i j ↔ L.fallback.Through (s.own d) i j := by
  constructor
  · intro h
    induction h with
    | self => exact .self
    | @fallback j k h _ ih =>
      rw [fallbackInstance_eq] at h
      cases hown : s.own d j with
      | some bytes =>
        rw [hown] at h
        cases h
      | none =>
        rw [hown] at h
        exact .next hown h ih
  · intro h
    induction h with
    | self => exact .self
    | next hown hnext _ ih =>
      refine .fallback ?_ ih
      rw [fallbackInstance_eq, hown, hnext]

/-- **All that is served through the File object** has the new contents. -/
theorem update_read_of_through {u : Update} (h : (s.update now d u).2 = true) {j : Nat}
    (hj : s.ServedThrough d u.fileInstance j) :
    (s.update now d u).1.read d j = some (u.result (s.effective d u.fileInstance)) := by
  rw [update_read h, Update.apply,
    FallbackChain.serve_update_of_through (servedThrough_iff.1 hj), effective_eq_serve]

/-- **What is served otherwise stays.** -/
theorem update_read_of_not_through {u : Update} (h : (s.update now d u).2 = true) {j : Nat}
    (hj : ¬ s.ServedThrough d u.fileInstance j) :
    (s.update now d u).1.read d j = s.read d j := by
  rw [servedThrough_iff] at hj
  rw [update_read h, read_eq_serve, Update.apply, FallbackChain.serve_update_of_not_through hj]

end Store

/-! ## Runs of updates -/

/-- An update at a time, if it is accepted. -/
def acceptedUpdate (d : CertDisk) (s : Store L) (call : Int × Update) : Except Unit (Store L) :=
  if (s.update call.1 d call.2).2 = true then .ok (s.update call.1 d call.2).1 else .error ()

/-- What an accepted update returns, and the bounds it keeps. -/
def Update.Acknowledged (s : Store L) (now : Int) (d : CertDisk) : Update → Prop
  | .write i fileStart fileData =>
    (s.write now d i fileStart fileData).2 = .ok (startOf (s.effective d i) fileStart) ∧
      startOf (s.effective d i) fileStart ≤ (s.effective d i).length ∧
      startOf (s.effective d i) fileStart + fileData.length ≤ maxFileBytes
  | .resize _ newSize => newSize ≤ maxFileBytes

/-- What an accepted update does, and what it does not do. -/
structure UpdateEffect (s : Store L) (now : Int) (d : CertDisk) (u : Update) : Prop where
  acknowledged : u.Acknowledged s now d
  length : (u.result (s.effective d u.fileInstance)).length ≤
    max (s.effective d u.fileInstance).length maxFileBytes
  through : ∀ j, s.ServedThrough d u.fileInstance j →
    (s.update now d u).1.read d j = some (u.result (s.effective d u.fileInstance))
  others : ∀ j, ¬ s.ServedThrough d u.fileInstance j →
    (s.update now d u).1.read d j = s.read d j

theorem updateEffect {s : Store L} {now : Int} {d : CertDisk} {u : Update}
    (h : (s.update now d u).2 = true) : UpdateEffect s now d u := by
  refine ⟨?_, ?_, fun j hj => Store.update_read_of_through h hj,
    fun j hj => Store.update_read_of_not_through h hj⟩
  · cases u with
    | write i fileStart fileData =>
      cases hresult : (s.write now d i fileStart fileData).2 with
      | error code =>
        rw [Store.update, hresult] at h
        cases h
      | ok start =>
        obtain ⟨-, rfl, hstart, hfull, -⟩ := Store.write_ok hresult
        exact ⟨hresult, hstart, hfull⟩
    | resize i newSize => exact (Store.resize_ok h).2.1
  · cases u with
    | write i fileStart fileData =>
      cases hresult : (s.write now d i fileStart fileData).2 with
      | error code =>
        rw [Store.update, hresult] at h
        cases h
      | ok start =>
        obtain ⟨-, rfl, -, hfull, -⟩ := Store.write_ok hresult
        rw [Update.result, length_overwrite]
        exact max_le_max_left _ hfull
    | resize i newSize =>
      have hsize : newSize ≤ maxFileBytes := (Store.resize_ok h).2.1
      have hlength : (resizeOctets (s.effective d i) newSize).length = newSize := by
        simp only [resizeOctets, List.length_append, List.length_take, List.length_replicate]
        omega
      exact le_max_of_le_right (hlength.trans_le hsize)

/-- A part of a text, written behind the part before it: with an explicit position, or at the
end. -/
structure Chunk where
  now : Int
  append : Bool
  fileData : Octets

def chunksText (chunks : List Chunk) : Octets := (chunks.map Chunk.fileData).flatten

/-- The `Write`s of a text whose first octet has the given position. -/
def chunkWrites (i : Nat) : Nat → List Chunk → List (Int × Update)
  | _, [] => []
  | position, chunk :: chunks =>
    (chunk.now, .write i (if chunk.append then -1 else Int32.ofNat position) chunk.fileData) ::
      chunkWrites i (position + chunk.fileData.length) chunks

/-- At the end of the contents, -1 and the explicit position are the same. -/
theorem startOf_end (before : Octets) (h : before.length ≤ maxFileBytes) (append : Bool) :
    startOf before (if append then -1 else Int32.ofNat before.length) = before.length ∧
      ¬ (if append then -1 else Int32.ofNat before.length : Int32) < -1 := by
  cases append with
  | true =>
    rw [if_pos rfl]
    exact ⟨rfl, by decide⟩
  | false =>
    have hint : (Int32.ofNat before.length).toInt = before.length := by
      apply Int32.toInt_ofNat_of_lt
      exact Nat.lt_of_le_of_lt h (by decide)
    have hminus : (-1 : Int32).toInt = -1 := by decide
    have hne : Int32.ofNat before.length ≠ -1 := by
      rw [Ne, ← Int32.toInt_inj, hint, hminus]
      omega
    rw [if_neg Bool.false_ne_true, startOf, if_neg hne, hint, Int32.lt_iff_toInt_lt, hint,
      hminus]
    exact ⟨Int.toNat_natCast _, by omega⟩

theorem overwrite_end (before fileData : Octets) :
    overwrite 0 before before.length fileData = before ++ fileData := by
  rw [overwrite_of_le (Nat.le_refl _), splice, List.take_length,
    List.drop_eq_nil_of_le (Nat.le_add_right _ _), List.append_nil]

/-- Writes in order, whatever the chunks are, add their text. -/
theorem chunkWrites_own {d : CertDisk} {i : Nat} (hp : (L.paths i).isSome = true)
    (chunks : List Chunk) {s : Store L} {before : Octets} (hown : s.own d i = some before)
    (hfits : before.length + (chunksText chunks).length ≤ maxFileBytes) :
    ∃ s', final (acceptedUpdate d) s (chunkWrites i before.length chunks) = .ok s' ∧
      s'.own d i = some (before ++ chunksText chunks) := by
  induction chunks generalizing s before with
  | nil => exact ⟨s, rfl, by simpa [chunksText] using hown⟩
  | cons chunk chunks ih =>
    have htext : chunksText (chunk :: chunks) = chunk.fileData ++ chunksText chunks := rfl
    rw [htext, List.length_append] at hfits
    have heff : s.effective d i = before := by
      rw [Store.effective_eq_serve, FallbackChain.serve_of_own hown]
      rfl
    obtain ⟨hstart, hneg⟩ := startOf_end before (by omega) chunk.append
    set u := Update.write i (if chunk.append then -1 else Int32.ofNat before.length)
      chunk.fileData with hu
    have haccepted : (s.update chunk.now d u).2 = true := by
      rw [hu, Store.update, Store.write_accepted hp hneg (by rw [heff, hstart])
        (by rw [heff, hstart]; omega)]
      rfl
    have hafter : (s.update chunk.now d u).1.own d i = some (before ++ chunk.fileData) := by
      rw [Store.update_own haccepted, Update.apply, ← Store.effective_eq_serve, hu,
        Update.fileInstance, Function.update_self, Update.result, heff, hstart, overwrite_end]
    have hstep : acceptedUpdate d s (chunk.now, u) = .ok (s.update chunk.now d u).1 :=
      if_pos haccepted
    obtain ⟨s', hfinal, hs'⟩ := ih hafter (by rw [List.length_append]; omega)
    refine ⟨s', ?_, ?_⟩
    · rw [chunkWrites, final_cons_ok hstep, ← List.length_append]
      exact hfinal
    · rw [hs', htext, List.append_assoc]

/-- The contents at the end of a run are those of the reference. -/
theorem final_own {d : CertDisk} {calls : List (Int × Update)} {s s' : Store L}
    (h : final (acceptedUpdate d) s calls = .ok s') :
    s'.own d = calls.foldl (fun own call => call.2.apply L own) (s.own d) := by
  induction calls generalizing s with
  | nil =>
    obtain rfl : s = s' := Except.ok.inj h
    rfl
  | cons call calls ih =>
    cases hstep : acceptedUpdate d s call with
    | error _ =>
      rw [final, hstep] at h
      cases h
    | ok t =>
      rw [final_cons_ok hstep] at h
      rw [ih h, List.foldl_cons]
      unfold acceptedUpdate at hstep
      split_ifs at hstep with haccepted
      obtain rfl := Except.ok.inj hstep
      rw [Store.update_own haccepted]

/-- **What is read after a run of accepted updates.** -/
theorem updates_read {d : CertDisk} {calls : List (Int × Update)} {s s' : Store L}
    (h : final (acceptedUpdate d) s calls = .ok s') :
    (∀ i, s'.read d i = L.fallback.serve
      (calls.foldl (fun own call => call.2.apply L own) (s.own d)) i) ∧
    (∀ p ∈ steps (acceptedUpdate d) s calls, UpdateEffect p.1 p.2.1 d p.2.2) ∧
    ∀ i, (L.paths i).isSome = true → ∀ (now : Int) (chunks : List Chunk),
      (chunksText chunks).length ≤ maxFileBytes →
      ∃ s'', final (acceptedUpdate d) s' ((now, .resize i 0) :: chunkWrites i 0 chunks) = .ok s'' ∧
        s''.read d i = some (chunksText chunks) := by
  refine ⟨?_, ?_, ?_⟩
  · intro i
    rw [Store.read_eq_serve, final_own h]
  · intro p hp
    obtain ⟨t, hstep⟩ := exists_step_of_final h p hp
    unfold acceptedUpdate at hstep
    split_ifs at hstep with haccepted
    exact updateEffect haccepted
  · intro i hi now chunks hfits
    have haccepted : (s'.update now d (.resize i 0)).2 = true := by
      rw [Store.update, Store.resize_accepted hi (Nat.zero_le _)]
      rfl
    have hempty : (s'.update now d (.resize i 0)).1.own d i = some [] := by
      rw [Store.update_own haccepted, Update.apply, Update.fileInstance, Function.update_self,
        Update.result]
      simp [resizeOctets]
    obtain ⟨s'', hfinal, hown⟩ := chunkWrites_own hi chunks hempty (by simpa using hfits)
    have hstep : acceptedUpdate d s' (now, .resize i 0) =
        .ok (s'.update now d (.resize i 0)).1 := if_pos haccepted
    refine ⟨s'', ?_, ?_⟩
    · rw [final_cons_ok hstep]
      exact hfinal
    · rw [Store.read_eq_serve, FallbackChain.serve_of_own hown]
      rfl

/-- The second issuer's File object, which falls back to the first one's, is written to, and then
that of the first one. -/
def issuerUpdates : List (Int × Update) :=
  [(7, .write 4 0 [1, 2]), (8, .write 3 (-1) [3]), (9, .resize 3 1)]

theorem updates_read_issuers :
    ∃ s', final (acceptedUpdate exampleDisk) (.initial exampleLayout.toLayout) issuerUpdates =
        .ok s' ∧
      ∀ i, s'.read exampleDisk i = exampleLayout.fallback.serve
        (issuerUpdates.foldl (fun own call => call.2.apply exampleLayout.toLayout own)
          ((Store.initial exampleLayout.toLayout).own exampleDisk)) i := by
  have hok : (final (acceptedUpdate exampleDisk) (.initial exampleLayout.toLayout)
      issuerUpdates).isOk = true := by decide +kernel
  cases h : final (acceptedUpdate exampleDisk) (.initial exampleLayout.toLayout) issuerUpdates with
  | error _ =>
    rw [h] at hok
    cases hok
  | ok s' => exact ⟨s', rfl, (updates_read h).1⟩

/-- A disk on which the operational certificate's file is longer than a `Write` can make it. -/
def oversizedDisk : CertDisk :=
  Function.update exampleDisk (ownPath exampleLayout.toLayout 2)
    (some ⟨List.replicate (maxFileBytes + 1) 0, 0, false⟩)

/-- A `Write` of its first octet is accepted, and leaves contents that are too long. -/
theorem oversized_write :
    ∃ s', final (acceptedUpdate oversizedDisk) (.initial exampleLayout.toLayout)
        [(7, .write 2 0 [1])] = .ok s' ∧
      maxFileBytes < (s'.effective oversizedDisk 2).length := by
  set s := Store.initial exampleLayout.toLayout
  set u := Update.write 2 0 [1] with hu
  have hpath : exampleLayout.paths 2 = some (ownPath exampleLayout.toLayout 2) := rfl
  have hown : s.own oversizedDisk 2 = some (List.replicate (maxFileBytes + 1) 0) := by
    rw [Store.own_of_not_staged Std.ExtTreeMap.getElem?_empty, hpath, Option.bind_some, readDisk,
      oversizedDisk, Function.update_self]
    rfl
  have heff : s.effective oversizedDisk 2 = List.replicate (maxFileBytes + 1) 0 := by
    rw [Store.effective_eq_serve, FallbackChain.serve_of_own hown]
    rfl
  have hstart (before : Octets) : startOf before 0 = 0 := by
    rw [startOf, if_neg (by decide)]
    rfl
  have haccepted : (s.update 7 oversizedDisk u).2 = true := by
    rw [hu, Store.update, Store.write_accepted rfl (by decide)
      (by rw [hstart]; exact Nat.zero_le _) (by rw [hstart]; decide)]
    rfl
  refine ⟨(s.update 7 oversizedDisk u).1, ?_, ?_⟩
  · exact final_cons_ok (if_pos haccepted) []
  · have hread : (s.update 7 oversizedDisk u).1.read oversizedDisk 2 =
        some (u.result (s.effective oversizedDisk 2)) :=
      Store.update_read_of_through haccepted .self
    rw [Store.effective, hread, hu, Update.result, Option.getD_some, length_overwrite, heff,
      List.length_replicate]
    exact Nat.lt_of_lt_of_le (Nat.lt_succ_self _) (le_max_left _ _)

end BacnetBc
