import BacnetBc.Lib.FaultyDisk

/-!
# Replacing many files, one after the other

`install es d` is the disk `d` with the contents `es` in place. A program that replaces files one
after the other, each by one rename, is at every moment at `install` of a first part of its list.

`Agree S` is the comparison: temp files are outside `S` and do not count.
-/

namespace FaultyDisk

variable {P C : Type} [DecidableEq P]

/-- The disk with every content of `es` at its path. -/
def install (es : List (P × C)) (d : Disk P C) : Disk P C :=
  es.foldl (fun d e => Function.update d e.1 (some e.2)) d

@[simp] theorem install_nil (d : Disk P C) : install [] d = d := rfl

@[simp] theorem install_cons (x : P × C) (es : List (P × C)) (d : Disk P C) :
    install (x :: es) d = install es (Function.update d x.1 (some x.2)) := rfl

theorem install_of_not_mem {es : List (P × C)} {d : Disk P C} {p : P} (h : p ∉ es.map Prod.fst) :
    install es d p = d p := by
  induction es generalizing d with
  | nil => rfl
  | cons x es ih =>
    simp only [List.map_cons, List.mem_cons, not_or] at h
    rw [install_cons, ih h.2, Function.update_of_ne h.1]

theorem install_of_mem {es : List (P × C)} (hn : (es.map Prod.fst).Nodup) {d : Disk P C} {x : P × C}
    (h : x ∈ es) : install es d x.1 = some x.2 := by
  induction es generalizing d with
  | nil => cases h
  | cons y es ih =>
    rw [List.map_cons, List.nodup_cons] at hn
    rcases List.mem_cons.1 h with rfl | h
    · rw [install_cons, install_of_not_mem hn.1, Function.update_self]
    · rw [install_cons, ih hn.2 h]

/-- Each path has what it had, or what was installed there. -/
theorem install_eq_or (es : List (P × C)) (d : Disk P C) (p : P) :
    install es d p = d p ∨ ∃ c, (p, c) ∈ es ∧ install es d p = some c := by
  induction es generalizing d with
  | nil => exact Or.inl rfl
  | cons x es ih =>
    rw [install_cons]
    rcases ih (Function.update d x.1 (some x.2)) with h | ⟨c, hc, h⟩
    · by_cases hp : p = x.1
      · subst hp
        rw [Function.update_self] at h
        exact Or.inr ⟨x.2, List.mem_cons_self, h⟩
      · rw [Function.update_of_ne hp] at h
        exact Or.inl h
    · exact Or.inr ⟨c, List.mem_cons_of_mem _ hc, h⟩

/-- Installing changes nothing in `S` if each path had what it gets. -/
theorem agree_install_iff {S : P → Prop} {es : List (P × C)} (hn : (es.map Prod.fst).Nodup)
    (hS : ∀ x ∈ es, S x.1) {d : Disk P C} :
    Agree S d (install es d) ↔ ∀ x ∈ es, d x.1 = some x.2 := by
  constructor
  · intro h x hx
    rw [← h x.1 (hS x hx)]
    exact install_of_mem hn hx
  · intro h p _
    rcases install_eq_or es d p with hsame | ⟨c, hc, hnew⟩
    · exact hsame
    · exact hnew.trans (h (p, c) hc).symm

theorem Agree.update {S : P → Prop} {d d' : Disk P C} (h : Agree S d d') (p : P) (c : Option C) :
    Agree S (Function.update d p c) (Function.update d' p c) := fun q hq => by
  by_cases hqp : q = p
  · subst hqp
    rw [Function.update_self, Function.update_self]
  · rw [Function.update_of_ne hqp, Function.update_of_ne hqp, h q hq]

theorem Agree.install {S : P → Prop} {d d' : Disk P C} (h : Agree S d d') (es : List (P × C)) :
    Agree S (install es d) (install es d') := by
  induction es generalizing d d' with
  | nil => exact h
  | cons x es ih => exact ih (h.update x.1 (some x.2))

/-- What `S` sees of a rename from outside `S`. -/
theorem agree_rename {S : P → Prop} {source target : P} (hs : ¬ S source) (d : Disk P C) (c : C) :
    Agree S (Function.update d target (some c))
      (Function.update (Function.update d source none) target (some c)) :=
  (agree_update hs d none).update target (some c)

end FaultyDisk
