import BacnetBc.Lib.Trajectory
import Mathlib.Order.Bounds.Basic

/-!
# One deadline for many promises

A promise has a deadline and a kind. A timer that has one deadline and one kind takes a further
promise by the earlier of the two deadlines and the join of the two kinds (`arm`); a look at it when
the deadline has come fires it, and then it is idle (`look`).

**The specification** (`Keeps`). The timer is idle when no promise is open. Otherwise its deadline
is the first of the open promises, and its kind is the least that covers them all.

**Theorem (`keeps_of_final`).** In every run the timer keeps the promises that were made since it
was last cleared (`openPromises`). So a look fires it exactly when an open promise is due
(`Keeps.look_isSome_iff`), and with a kind that covers all of them (`Keeps.isLUB_of_look`).
-/

namespace Deadline

open Trajectory

/-- What is to happen, and from when on. -/
structure Promise (T K : Type) where
  dueAt : T
  kind : K
deriving DecidableEq, Repr

variable {T K : Type} {promises : List (Promise T K)}

/-! ## Open promises -/

variable {S E F : Type} {step : S → E → Except F S}

/-- The promises that are open at the end of a run: `clears` says which steps clear the timer,
`promised` which ones promise something. -/
def openPromises (step : S → E → Except F S) (clears : S → E → Bool)
    (promised : S → E → Option (Promise T K)) :
    List (Promise T K) → S → List E → List (Promise T K)
  | promises, _, [] => promises
  | promises, s, e :: es =>
    match step s e with
    | .ok s' =>
      openPromises step clears promised
        (if clears s e then [] else promises ++ (promised s e).toList) s' es
    | .error _ => promises

variable {clears : S → E → Bool} {promised : S → E → Option (Promise T K)}

theorem openPromises_cons_ok {s s' : S} {e : E} (h : step s e = .ok s') (es : List E) :
    openPromises step clears promised promises s (e :: es) =
      openPromises step clears promised
        (if clears s e then [] else promises ++ (promised s e).toList) s' es := by
  rw [openPromises, h]

/-- A promise stays open as long as nothing clears the timer. -/
theorem mem_openPromises {p : Promise T K} (hp : p ∈ promises) {s : S} {es : List E}
    (hkeep : ∀ q ∈ steps step s es, clears q.1 q.2 = false) :
    p ∈ openPromises step clears promised promises s es := by
  induction es generalizing s promises with
  | nil => exact hp
  | cons e es ih =>
    cases hse : step s e with
    | error f =>
      rw [openPromises, hse]
      exact hp
    | ok s' =>
      rw [steps, hse] at hkeep
      rw [openPromises_cons_ok hse, hkeep (s, e) List.mem_cons_self]
      refine ih ?_ ?_
      · simp [hp]
      · intro q hq
        exact hkeep q (List.mem_cons_of_mem _ hq)

theorem openPromises_append {s t : S} {es : List E} (h : final step s es = .ok t) (fs : List E) :
    openPromises step clears promised promises s (es ++ fs) =
      openPromises step clears promised (openPromises step clears promised promises s es) t fs := by
  induction es generalizing s promises with
  | nil =>
    obtain rfl : s = t := Except.ok.inj h
    rfl
  | cons e es ih =>
    cases hse : step s e with
    | error f =>
      rw [final, hse] at h
      cases h
    | ok s' =>
      rw [final_cons_ok hse] at h
      rw [List.cons_append, openPromises_cons_ok hse, openPromises_cons_ok hse]
      exact ih h

theorem setOf_append_singleton {V : Type} (f : Promise T K → V) (p : Promise T K) :
    {v | ∃ q ∈ promises ++ [p], f q = v} = insert (f p) {v | ∃ q ∈ promises, f q = v} := by
  ext v
  simp only [List.mem_append, List.mem_singleton, Set.mem_ofPred_eq, Set.mem_insert_iff]
  constructor
  · rintro ⟨q, hq | rfl, rfl⟩
    · exact Or.inr ⟨q, hq, rfl⟩
    · exact Or.inl rfl
  · rintro (rfl | ⟨q, hq, rfl⟩)
    · exact ⟨p, Or.inr rfl, rfl⟩
    · exact ⟨q, Or.inl hq, rfl⟩

/-! ## The timer -/

variable [LinearOrder T] {timer : Option (Promise T K)} {now : T}

/-- A look at the timer: the kind that fires, and the timer afterwards. -/
def look (timer : Option (Promise T K)) (now : T) : Option K × Option (Promise T K) :=
  match timer with
  | none => (none, none)
  | some q => if q.dueAt ≤ now then (some q.kind, none) else (none, some q)

theorem look_some (q : Promise T K) (now : T) :
    look (some q) now = if q.dueAt ≤ now then (some q.kind, none) else (none, some q) := rfl

/-- A look that does not fire the timer leaves it as it is. -/
theorem look_of_none (hnone : (look timer now).1 = none) : (look timer now).2 = timer := by
  cases timer with
  | none => rfl
  | some r =>
    rw [look_some] at hnone ⊢
    split_ifs at hnone ⊢
    rfl

theorem look_of_isSome (hsome : (look timer now).1.isSome) : (look timer now).2 = none := by
  cases timer with
  | none => rfl
  | some r =>
    rw [look_some] at hsome ⊢
    split_ifs at hsome ⊢
    · rfl
    · cases hsome

variable [SemilatticeSup K]

/-- A further promise. -/
def arm : Option (Promise T K) → Promise T K → Promise T K
  | none, p => p
  | some q, p => ⟨min q.dueAt p.dueAt, q.kind ⊔ p.kind⟩

/-- A promise that is due no later than another one, and does all that the other one does. -/
def Promise.Covers (p q : Promise T K) : Prop := p.dueAt ≤ q.dueAt ∧ q.kind ≤ p.kind

theorem Promise.covers_refl (p : Promise T K) : p.Covers p := ⟨le_rfl, le_rfl⟩

/-- A further promise does not put off the one before, nor weaken it. -/
theorem covers_arm (q p : Promise T K) : (arm (some q) p).Covers q :=
  ⟨min_le_left q.dueAt p.dueAt, le_sup_left⟩

/-- The timer keeps these promises. -/
structure Keeps (timer : Option (Promise T K)) (promises : List (Promise T K)) : Prop where
  idle : timer = none → promises = []
  deadline : ∀ q ∈ timer, IsLeast {t | ∃ p ∈ promises, p.dueAt = t} q.dueAt
  kind : ∀ q ∈ timer, IsLUB {k | ∃ p ∈ promises, p.kind = k} q.kind

theorem keeps_nil : Keeps (none : Option (Promise T K)) [] := by
  refine ⟨fun _ => rfl, ?_, ?_⟩ <;> simp

/-- **A further promise is kept beside the others.** -/
theorem Keeps.arm (h : Keeps timer promises) (p : Promise T K) :
    Keeps (some (arm timer p)) (promises ++ [p]) := by
  cases timer with
  | none =>
    have hnil : promises = [] := h.idle rfl
    subst hnil
    refine ⟨by simp, ?_, ?_⟩
    · intro q hq
      obtain rfl : p = q := Option.some.inj hq
      simp [isLeast_singleton]
    · intro q hq
      obtain rfl : p = q := Option.some.inj hq
      simp [isLUB_singleton]
  | some r =>
    refine ⟨by simp, ?_, ?_⟩
    · intro q hq
      obtain rfl : Deadline.arm (some r) p = q := Option.some.inj hq
      rw [setOf_append_singleton Promise.dueAt]
      show IsLeast _ (min r.dueAt p.dueAt)
      rw [min_comm]
      exact (h.deadline r rfl).insert p.dueAt
    · intro q hq
      obtain rfl : Deadline.arm (some r) p = q := Option.some.inj hq
      rw [setOf_append_singleton Promise.kind]
      show IsLUB _ (r.kind ⊔ p.kind)
      rw [sup_comm]
      exact (h.kind r rfl).insert p.kind

/-- **A look fires the timer exactly when an open promise is due.** -/
theorem Keeps.look_isSome_iff (h : Keeps timer promises) :
    (look timer now).1.isSome ↔ ∃ p ∈ promises, p.dueAt ≤ now := by
  cases timer with
  | none => simp [look, h.idle rfl]
  | some r =>
    obtain ⟨⟨first, hfirst, hdue⟩, hleast⟩ := h.deadline r rfl
    have hiff : r.dueAt ≤ now ↔ ∃ p ∈ promises, p.dueAt ≤ now := by
      constructor
      · intro hle
        exact ⟨first, hfirst, hdue ▸ hle⟩
      · rintro ⟨p, hp, hle⟩
        exact (hleast ⟨p, hp, rfl⟩).trans hle
    rw [← hiff, look_some]
    split_ifs with hle <;> simp [hle]

/-- **What fires covers every open promise, and no more than is needed for that.** -/
theorem Keeps.isLUB_of_look (h : Keeps timer promises) {k : K} (hk : (look timer now).1 = some k) :
    IsLUB {k | ∃ p ∈ promises, p.kind = k} k := by
  cases timer with
  | none => cases hk
  | some r =>
    rw [look_some] at hk
    split_ifs at hk
    obtain rfl : r.kind = k := Option.some.inj hk
    exact h.kind r rfl

/-- **At the end of a run the timer keeps the open promises.** -/
theorem keeps_of_final (reg : S → Option (Promise T K))
    (hstep : ∀ s e s', step s e = .ok s' →
      reg s' = if clears s e then none else
        (promised s e).elim (reg s) fun p => some (arm (reg s) p))
    {s t : S} {es : List E} (hs : Keeps (reg s) promises) (h : final step s es = .ok t) :
    Keeps (reg t) (openPromises step clears promised promises s es) := by
  induction es generalizing s promises with
  | nil =>
    obtain rfl : s = t := Except.ok.inj h
    exact hs
  | cons e es ih =>
    cases hse : step s e with
    | error f =>
      rw [final, hse] at h
      cases h
    | ok s' =>
      rw [final_cons_ok hse] at h
      rw [openPromises_cons_ok hse]
      refine ih ?_ h
      rw [hstep s e s' hse]
      cases clears s e with
      | true => exact keeps_nil
      | false =>
        cases promised s e with
        | none => simpa using hs
        | some p => exact hs.arm p

end Deadline
