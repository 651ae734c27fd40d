import Mathlib.Data.List.Basic

/-!
# Messages in fragments

A message comes in fragments, the last one marked; it is binary or text. `progress` is what a
sequence of fragments has completed, and what is pending.

An `Assembler` puts the binary messages together in a buffer that never holds more than a limit. It
drops a message that grows over the limit, and ignores text.

**Theorem (`holds_receive`, `receive_final`).** If the fragments of a message are all of one kind,
the assembler delivers a message with its last fragment, exactly if it is binary, not empty and
within the limit, and nothing of a message is left behind in the next one.
-/

namespace Reassembly

variable {α : Type}

structure Fragment (α : Type) where
  isBinary : Bool
  isFinal : Bool
  data : List α
deriving DecidableEq, Repr

def content (message : List (Fragment α)) : List α := message.flatMap Fragment.data

/-- All the fragments of a message: the last one is the final one. -/
def Whole (message : List (Fragment α)) : Prop :=
  ∃ before last, message = before ++ [last] ∧ (∀ f ∈ before, f.isFinal = false) ∧
    last.isFinal = true

/-! ## What the fragments so far make -/

structure Progress (α : Type) where
  complete : List (List (Fragment α))
  pending : List (Fragment α)

def Progress.push (p : Progress α) (f : Fragment α) : Progress α :=
  if f.isFinal then ⟨p.complete ++ [p.pending ++ [f]], []⟩ else ⟨p.complete, p.pending ++ [f]⟩

def progressFrom (p : Progress α) (fs : List (Fragment α)) : Progress α := fs.foldl Progress.push p

def progress (fs : List (Fragment α)) : Progress α := progressFrom ⟨[], []⟩ fs

@[simp] theorem progress_nil : progress ([] : List (Fragment α)) = ⟨[], []⟩ := rfl

theorem progress_concat (fs : List (Fragment α)) (f : Fragment α) :
    progress (fs ++ [f]) = (progress fs).push f := by
  simp [progress, progressFrom]

theorem progressFrom_pending {fs : List (Fragment α)} (h : ∀ f ∈ fs, f.isFinal = false)
    (p : Progress α) : progressFrom p fs = ⟨p.complete, p.pending ++ fs⟩ := by
  induction fs generalizing p with
  | nil => simp [progressFrom]
  | cons f fs ih =>
    have hf : f.isFinal = false := h f List.mem_cons_self
    have hpush : p.push f = ⟨p.complete, p.pending ++ [f]⟩ := by simp [Progress.push, hf]
    change progressFrom (p.push f) fs = _
    rw [ih (fun g hg => h g (List.mem_cons_of_mem _ hg)), hpush, List.append_assoc]
    rfl

theorem progressFrom_append (p : Progress α) (fs gs : List (Fragment α)) :
    progressFrom p (fs ++ gs) = progressFrom (progressFrom p fs) gs :=
  List.foldl_append

theorem progressFrom_whole {message : List (Fragment α)} (h : Whole message)
    (complete : List (List (Fragment α))) :
    progressFrom ⟨complete, []⟩ message = ⟨complete ++ [message], []⟩ := by
  obtain ⟨before, last, rfl, hbefore, hlast⟩ := h
  rw [progressFrom_append, progressFrom_pending hbefore]
  simp [progressFrom, Progress.push, hlast]

/-- **Whole messages, and the beginning of one, are told apart.** -/
theorem progress_messages {messages : List (List (Fragment α))} {rest : List (Fragment α)}
    (hmessages : ∀ m ∈ messages, Whole m) (hrest : ∀ f ∈ rest, f.isFinal = false) :
    progress (messages.flatten ++ rest) = ⟨messages, rest⟩ := by
  have hwhole : ∀ complete, progressFrom (α := α) ⟨complete, []⟩ messages.flatten =
      ⟨complete ++ messages, []⟩ := by
    induction messages with
    | nil => simp [progressFrom]
    | cons message messages ih =>
      intro complete
      rw [List.flatten_cons, progressFrom_append,
        progressFrom_whole (hmessages message List.mem_cons_self),
        ih fun m hm => hmessages m (List.mem_cons_of_mem _ hm), List.append_assoc]
      rfl
  rw [progress, progressFrom_append, hwhole, progressFrom_pending hrest]
  rfl

/-! ## The assembler -/

structure Assembler (α : Type) where
  assembly : List α
  overflow : Bool
deriving DecidableEq, Repr

namespace Assembler

def empty : Assembler α := ⟨[], false⟩

variable (limit : Nat)

/-- The data is put to what came before it, unless there is too much of it. -/
def add (a : Assembler α) (data : List α) : Assembler α :=
  if a.overflow then a
  else if a.assembly.length + data.length > limit then ⟨[], true⟩
  else ⟨a.assembly ++ data, false⟩

/-- A fragment: what is assembled, and the message that is delivered. -/
def receive (a : Assembler α) (f : Fragment α) : Assembler α × Option (List α) :=
  if f.isBinary then
    let a := a.add limit f.data
    if f.isFinal then
      (empty, if !a.overflow && !a.assembly.isEmpty then some a.assembly else none)
    else (a, none)
  else (a, none)

/-- The octets of the fragments that are binary. -/
def binaryContent (fs : List (Fragment α)) : List α := content (fs.filter Fragment.isBinary)

/-- What the assembler holds of the fragments that are pending. -/
def Holds (a : Assembler α) (pending : List (Fragment α)) : Prop :=
  a = if (binaryContent pending).length ≤ limit then ⟨binaryContent pending, false⟩ else ⟨[], true⟩

/-- The message is delivered. -/
def deliverable (message : List (Fragment α)) : Bool :=
  message.all Fragment.isBinary && 1 ≤ (content message).length && (content message).length ≤ limit

variable {limit} {a : Assembler α} {pending : List (Fragment α)} {f : Fragment α}

theorem holds_empty : (empty : Assembler α).Holds limit [] := by
  simp [Holds, binaryContent, content, empty]

theorem holds_add (h : a.Holds limit pending) (hf : f.isBinary = true) :
    (a.add limit f.data).Holds limit (pending ++ [f]) := by
  have hcontent : binaryContent (pending ++ [f]) = binaryContent pending ++ f.data := by
    simp [binaryContent, content, hf]
  unfold Holds at h ⊢
  rw [hcontent, List.length_append, h]
  by_cases hshort : (binaryContent pending).length ≤ limit
  · rw [if_pos hshort, add, if_neg Bool.false_ne_true]
    by_cases hfits : (binaryContent pending).length + f.data.length ≤ limit
    · rw [if_neg (Nat.not_lt.2 hfits), if_pos hfits]
    · rw [if_pos (Nat.lt_of_not_le hfits), if_neg hfits]
  · have hlong : ¬ (binaryContent pending).length + f.data.length ≤ limit := by omega
    rw [if_neg hshort, if_neg hlong]
    rfl

/-- A fragment that is not final is pending, and no message is delivered. -/
theorem holds_receive (h : a.Holds limit pending) (hf : f.isFinal = false) :
    (a.receive limit f).1.Holds limit (pending ++ [f]) ∧ (a.receive limit f).2 = none := by
  cases hb : f.isBinary with
  | true => simp [receive, hb, hf, holds_add h hb]
  | false =>
    have hsame : binaryContent (pending ++ [f]) = binaryContent pending := by
      simp [binaryContent, hb]
    refine ⟨?_, by simp [receive, hb]⟩
    rw [receive, hb, Holds, hsame]
    exact h

/-- **The final fragment** delivers the message, if it can be, and leaves nothing of it. -/
theorem receive_final (h : a.Holds limit pending) (hf : f.isFinal = true)
    (hkind : ∀ g ∈ pending, g.isBinary = f.isBinary) :
    (a.receive limit f).1.Holds limit [] ∧
      (a.receive limit f).2 =
        if deliverable limit (pending ++ [f]) then some (content (pending ++ [f])) else none := by
  cases hb : f.isBinary with
  | false =>
    have htext : pending.filter Fragment.isBinary = [] := by
      rw [List.filter_eq_nil_iff]
      intro g hg
      rw [hkind g hg, hb]
      exact Bool.false_ne_true
    have hempty : a = empty := by simpa [Holds, binaryContent, htext, content, empty] using h
    simp [receive, hb, hempty, holds_empty, deliverable]
  | true =>
    have hall : (pending ++ [f]).filter Fragment.isBinary = pending ++ [f] := by
      rw [List.filter_eq_self]
      intro g hg
      rcases List.mem_append.1 hg with hg | hg
      · rw [hkind g hg, hb]
      · rw [List.mem_singleton.1 hg, hb]
    have hbinary : (pending ++ [f]).all Fragment.isBinary = true := by
      rw [List.all_eq_true]
      exact List.filter_eq_self.1 hall
    have hadd := holds_add h hb
    rw [Holds, binaryContent, hall] at hadd
    have hreceive : a.receive limit f = (empty,
        if !(a.add limit f.data).overflow && !(a.add limit f.data).assembly.isEmpty then
          some (a.add limit f.data).assembly
        else none) := by
      rw [receive, if_pos hb]
      dsimp only
      rw [if_pos hf]
    rw [hreceive]
    refine ⟨holds_empty, ?_⟩
    dsimp only
    rw [hadd, deliverable, hbinary]
    by_cases hfits : (content (pending ++ [f])).length ≤ limit
    · rw [if_pos hfits]
      cases hcontent : content (pending ++ [f]) with
      | nil => simp
      | cons x xs =>
        rw [hcontent] at hfits
        simpa using hfits
    · rw [if_neg hfits]
      simp [hfits]

end Assembler

end Reassembly
