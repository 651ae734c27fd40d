import Mathlib.Logic.Function.Basic
import Mathlib.Data.List.Basic
import Mathlib.Data.List.GetD

/-!
# File actions that fail, and processes that stop

A disk gives each path the content of its file, if there is one. A program acts on it through
`write`, `rename` and `remove`, and the environment decides, for each path, whether a write or a
rename succeeds (`Faults`). A write that fails, or that a stop of the process cuts off, leaves
something else at its path; a rename is atomic.

The outcome of a program holds its value, the disk it leaves, and all its **moments**: the disk
before, between and after its actions. Whatever holds at every moment holds wherever the process
stops.

* `Throughout I o`: the outcome `o` has `I` at every moment and at its end.
* `Spares m S`: throughout every run of `m`, the paths in `S` are what they were (`SparesAt`: in one
  run).

The rules follow the program's structure (`Throughout.bind`, `Spares.bind`), and
`SparesAt.throughout` gives a program that spares `S` every condition that looks at `S` only.
-/

namespace FaultyDisk

variable {P C α β : Type}

/-- The content at each path. -/
abbrev Disk (P C : Type) := P → Option C

/-- What the environment does to the file actions of a program: which writes and renames succeed,
and what a write that was cut off leaves behind. -/
structure Faults (P C : Type) where
  write : P → Bool
  torn : P → Option C
  rename : P → P → Bool

/-- Nothing fails. -/
def Faults.none : Faults P C := ⟨fun _ => true, fun _ => Option.none, fun _ _ => true⟩

structure Outcome (P C α : Type) where
  value : α
  disk : Disk P C
  moments : List (Disk P C)

/-- A program that acts on the disk. -/
def Action (P C α : Type) := Faults P C → Disk P C → Outcome P C α

namespace Action

def pure (a : α) : Action P C α := fun _ d => ⟨a, d, [d]⟩

def bind (m : Action P C α) (f : α → Action P C β) : Action P C β := fun e d =>
  let o := m e d
  let o' := f o.value e o.disk
  ⟨o'.value, o'.disk, o.moments ++ o'.moments⟩

instance : Monad (Action P C) where
  pure := Action.pure
  bind := Action.bind

end Action

/-- The disk as it is. -/
def look : Action P C (Disk P C) := fun _ d => ⟨d, d, [d]⟩

section
variable (e : Faults P C) (d : Disk P C)

@[simp] theorem pure_run (a : α) : (Pure.pure a : Action P C α) e d = ⟨a, d, [d]⟩ := rfl

@[simp] theorem look_run : (look : Action P C (Disk P C)) e d = ⟨d, d, [d]⟩ := rfl

theorem bind_run (m : Action P C α) (f : α → Action P C β) :
    (m >>= f) e d = ⟨(f (m e d).value e (m e d).disk).value,
      (f (m e d).value e (m e d).disk).disk,
      (m e d).moments ++ (f (m e d).value e (m e d).disk).moments⟩ := rfl

@[simp] theorem bind_value (m : Action P C α) (f : α → Action P C β) :
    ((m >>= f) e d).value = (f (m e d).value e (m e d).disk).value := rfl

@[simp] theorem bind_disk (m : Action P C α) (f : α → Action P C β) :
    ((m >>= f) e d).disk = (f (m e d).value e (m e d).disk).disk := rfl

@[simp] theorem bind_moments (m : Action P C α) (f : α → Action P C β) :
    ((m >>= f) e d).moments = (m e d).moments ++ (f (m e d).value e (m e d).disk).moments := rfl

end

/-! ## Paths a program leaves alone -/

/-- The two disks agree on the paths in `S`. -/
def Agree (S : P → Prop) (d d' : Disk P C) : Prop := ∀ p, S p → d' p = d p

theorem Agree.refl (S : P → Prop) (d : Disk P C) : Agree S d d := fun _ _ => rfl

theorem Agree.symm {S : P → Prop} {d d' : Disk P C} (h : Agree S d d') : Agree S d' d :=
  fun p hp => (h p hp).symm

theorem Agree.trans {S : P → Prop} {d d' d'' : Disk P C} (h₁ : Agree S d d') (h₂ : Agree S d' d'') :
    Agree S d d'' := fun p hp => (h₂ p hp).trans (h₁ p hp)

/-- At every moment, and at the end. -/
def Throughout (I : Disk P C → Prop) (o : Outcome P C α) : Prop :=
  (∀ d' ∈ o.moments, I d') ∧ I o.disk

namespace Throughout

variable {I : Disk P C → Prop} {e : Faults P C} {d : Disk P C}

theorem pure (h : I d) (a : α) : Throughout I ((Pure.pure a : Action P C α) e d) :=
  ⟨fun _ hd' => (List.mem_singleton.1 hd') ▸ h, h⟩

theorem look (h : I d) : Throughout I ((look : Action P C (Disk P C)) e d) :=
  ⟨fun _ hd' => (List.mem_singleton.1 hd') ▸ h, h⟩

theorem bind {m : Action P C α} {f : α → Action P C β} (hm : Throughout I (m e d))
    (hf : Throughout I (f (m e d).value e (m e d).disk)) : Throughout I ((m >>= f) e d) := by
  refine ⟨fun d' h => ?_, hf.2⟩
  rcases List.mem_append.1 h with h | h
  · exact hm.1 d' h
  · exact hf.1 d' h

/-- Wherever the process stops. -/
theorem stop {o : Outcome P C α} (h : Throughout I o) (moment : Nat) :
    I (o.moments.getD moment o.disk) := by
  rw [List.getD_eq_getElem?_getD]
  cases hm : o.moments[moment]? with
  | none => exact h.2
  | some d' => exact h.1 d' (List.mem_of_getElem? hm)

end Throughout

/-- An outcome as far as a moment at which the process stops. -/
def Outcome.upTo (o : Outcome P C α) (moment : Nat) : Outcome P C α :=
  ⟨o.value, o.moments.getD moment o.disk, o.moments.take (moment + 1)⟩

theorem Throughout.upTo {I : Disk P C → Prop} {o : Outcome P C α} (h : Throughout I o)
    (moment : Nat) : Throughout I (o.upTo moment) :=
  ⟨fun d' hd' => h.1 d' (List.mem_of_mem_take hd'), h.stop moment⟩

/-- What holds at the first moments holds up to any of them. -/
theorem Throughout.upTo_of_append {I : Disk P C → Prop} {o : Outcome P C α}
    {before after : List (Disk P C)} (ho : o.moments = before ++ after) (h : ∀ d' ∈ before, I d')
    {moment : Nat} (hm : moment < before.length) : Throughout I (o.upTo moment) := by
  constructor
  · intro d' hd'
    rw [Outcome.upTo, ho, List.take_append_of_le_length hm] at hd'
    exact h d' (List.mem_of_mem_take hd')
  · show I (o.moments.getD moment o.disk)
    rw [ho, List.getD_eq_getElem?_getD, List.getElem?_append_left hm,
      List.getElem?_eq_getElem hm]
    exact h _ (List.getElem_mem hm)

theorem upTo_bind_of_lt {m : Action P C α} {f : α → Action P C β} {e : Faults P C} {d : Disk P C}
    {moment : Nat} (h : moment < (m e d).moments.length) :
    (((m >>= f) e d).upTo moment).disk = ((m e d).upTo moment).disk := by
  show ((m e d).moments ++ _).getD moment _ = (m e d).moments.getD moment _
  rw [List.getD_eq_getElem _ _ h, List.getD_eq_getElem _ _ (by rw [List.length_append]; omega),
    List.getElem_append_left h]

theorem upTo_bind_of_le {m : Action P C α} {f : α → Action P C β} {e : Faults P C} {d : Disk P C}
    {moment : Nat} (h : (m e d).moments.length ≤ moment) :
    (((m >>= f) e d).upTo moment).disk =
      ((f (m e d).value e (m e d).disk).upTo (moment - (m e d).moments.length)).disk := by
  show ((m e d).moments ++ _).getD moment _ = List.getD _ (moment - (m e d).moments.length) _
  rw [List.getD_append_right _ _ _ _ h]
  rfl

/-- What comes after a program and spares `S` does not show in a stop. -/
theorem agree_upTo_bind {S : P → Prop} {m : Action P C α} {f : α → Action P C β} {e : Faults P C}
    {d : Disk P C}
    (h : Throughout (Agree S (m e d).disk) (f (m e d).value e (m e d).disk)) (moment : Nat) :
    Agree S ((m e d).upTo moment).disk (((m >>= f) e d).upTo moment).disk := by
  by_cases hlt : moment < (m e d).moments.length
  · rw [upTo_bind_of_lt hlt]
    exact Agree.refl S _
  · have hle := Nat.le_of_not_lt hlt
    have hend : ((m e d).upTo moment).disk = (m e d).disk := List.getD_eq_default _ _ hle
    rw [upTo_bind_of_le hle, hend]
    exact h.stop _

/-- Where a program ends, or where the process stops. -/
def Outcome.diskAt (o : Outcome P C α) : Option Nat → Disk P C
  | none => o.disk
  | some moment => (o.upTo moment).disk

/-- In this run, the paths in `S` are throughout what they were. -/
def SparesAt (m : Action P C α) (S : P → Prop) (e : Faults P C) (d : Disk P C) : Prop :=
  Throughout (Agree S d) (m e d)

/-- In every run. -/
def Spares (m : Action P C α) (S : P → Prop) : Prop := ∀ e d, SparesAt m S e d

variable {S : P → Prop}

theorem SparesAt.bind {m : Action P C α} {f : α → Action P C β} {e : Faults P C} {d : Disk P C}
    (hm : SparesAt m S e d) (hf : SparesAt (f (m e d).value) S e (m e d).disk) :
    SparesAt (m >>= f) S e d :=
  Throughout.bind hm ⟨fun d' h => hm.2.trans (hf.1 d' h), hm.2.trans hf.2⟩

/-- **The frame rule.** A run that spares `S` keeps a condition that looks at `S` only. -/
theorem SparesAt.throughout {m : Action P C α} {e : Faults P C} {d : Disk P C}
    (h : SparesAt m S e d) {I : Disk P C → Prop} (hI : ∀ d', Agree S d d' → I d') :
    Throughout I (m e d) :=
  ⟨fun d' hd' => hI d' (h.1 d' hd'), hI _ h.2⟩

namespace Spares

theorem pure (a : α) : Spares (Pure.pure a : Action P C α) S := fun _ d =>
  Throughout.pure (Agree.refl S d) a

theorem look : Spares (look : Action P C (Disk P C)) S := fun _ d =>
  Throughout.look (Agree.refl S d)

theorem bind {m : Action P C α} {f : α → Action P C β} (hm : Spares m S)
    (hf : ∀ a, Spares (f a) S) : Spares (m >>= f) S := fun e d =>
  (hm e d).bind (hf _ e _)

end Spares

/-! ## The actions -/

variable [DecidableEq P]

/-- Make the file at `path` hold `content`. -/
def write (path : P) (content : C) : Action P C Bool := fun e d =>
  let torn := Function.update d path (e.torn path)
  let done := Function.update d path (some content)
  if e.write path then ⟨true, done, [d, torn, done]⟩ else ⟨false, torn, [d, torn]⟩

/-- Move the file at `source` over `target` in one step. -/
def rename (source target : P) : Action P C Bool := fun e d =>
  match d source with
  | some c =>
    if e.rename source target then
      let done := Function.update (Function.update d source none) target (some c)
      ⟨true, done, [d, done]⟩
    else ⟨false, d, [d]⟩
  | none => ⟨false, d, [d]⟩

def remove (path : P) : Action P C Unit := fun _ d =>
  let done := Function.update d path none
  ⟨(), done, [d, done]⟩

section
variable (e : Faults P C) (d : Disk P C)

@[simp] theorem remove_disk (path : P) : (remove path e d).disk = Function.update d path none := rfl

theorem write_run_ok {path : P} (h : e.write path = true) (content : C) :
    write path content e d = ⟨true, Function.update d path (some content),
      [d, Function.update d path (e.torn path), Function.update d path (some content)]⟩ := by
  simp [write, h]

theorem write_run_fail {path : P} (h : e.write path = false) (content : C) :
    write path content e d = ⟨false, Function.update d path (e.torn path),
      [d, Function.update d path (e.torn path)]⟩ := by
  simp [write, h]

theorem rename_run_ok {source target : P} {c : C} (hs : d source = some c)
    (h : e.rename source target = true) :
    rename source target e d =
      ⟨true, Function.update (Function.update d source none) target (some c),
        [d, Function.update (Function.update d source none) target (some c)]⟩ := by
  simp [rename, hs, h]

theorem rename_run_fail {source target : P} (h : d source = none ∨ e.rename source target = false) :
    rename source target e d = ⟨false, d, [d]⟩ := by
  unfold rename
  rcases h with h | h
  · simp [h]
  · cases d source <;> simp [h]

end

theorem agree_update {S : P → Prop} {path : P} (h : ¬ S path) (d : Disk P C) (c : Option C) :
    Agree S d (Function.update d path c) := fun p hp =>
  Function.update_of_ne (by rintro rfl; exact h hp) _ _

namespace Spares

theorem write {path : P} (h : ¬ S path) (content : C) : Spares (write path content) S := by
  intro e d
  have hpath (c : Option C) : Agree S d (Function.update d path c) := agree_update h d c
  unfold SparesAt Throughout
  cases hw : e.write path with
  | true =>
    rw [write_run_ok e d hw]
    simp only [List.mem_cons, List.not_mem_nil, or_false, forall_eq_or_imp, forall_eq]
    exact ⟨⟨Agree.refl S d, hpath _, hpath _⟩, hpath _⟩
  | false =>
    rw [write_run_fail e d hw]
    simp only [List.mem_cons, List.not_mem_nil, or_false, forall_eq_or_imp, forall_eq]
    exact ⟨⟨Agree.refl S d, hpath _⟩, hpath _⟩

theorem rename {source target : P} (hs : ¬ S source) (ht : ¬ S target) :
    Spares (rename source target : Action P C Bool) S := by
  intro e d
  have stay : SparesAt (Pure.pure false : Action P C Bool) S e d := pure false e d
  unfold SparesAt at stay ⊢
  cases hd : d source with
  | none => rw [rename_run_fail e d (Or.inl hd)]; exact stay
  | some c =>
    cases hr : e.rename source target with
    | false => rw [rename_run_fail e d (Or.inr hr)]; exact stay
    | true =>
      rw [rename_run_ok e d hd hr]
      have moved := (agree_update hs d none).trans (agree_update ht _ (some c))
      unfold Throughout
      simp only [List.mem_cons, List.not_mem_nil, or_false, forall_eq_or_imp, forall_eq]
      exact ⟨⟨Agree.refl S d, moved⟩, moved⟩

theorem remove {path : P} (h : ¬ S path) : Spares (remove path : Action P C Unit) S := by
  intro e d
  have gone := agree_update h d none
  refine ⟨fun d' hd' => ?_, gone⟩
  simp only [FaultyDisk.remove, List.mem_cons, List.not_mem_nil, or_false] at hd'
  rcases hd' with rfl | rfl
  · exact Agree.refl S d'
  · exact gone

end Spares

end FaultyDisk
