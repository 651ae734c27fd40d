import Mathlib.Logic.Function.Basic
import Mathlib.Data.Option.Basic

/-!
# Contents that stand in for others

Each key may have contents of its own. A key that has none is served the contents of the next key
of its chain, and a chain comes to an end.

**Theorem (`serve_update_of_not_through`, `serve_update_of_through`).** A key that gets new contents
is served them, and so is every key that was served through it; all others are served what they
were.
-/

/-- For some keys, the key that is served in their place; its rank is lower. -/
structure FallbackChain (K : Type) where
  next : K → Option K
  rank : K → Nat
  rank_lt : ∀ {i j}, next i = some j → rank j < rank i

namespace FallbackChain

variable {K V : Type} (c : FallbackChain K)

/-- What a key is served, of the contents `own`. -/
def serve (own : K → Option V) (i : K) : Option V :=
  match own i with
  | some v => some v
  | none =>
    match _h : c.next i with
    | some j => serve own j
    | none => none
termination_by c.rank i
decreasing_by exact c.rank_lt _h

/-- The chain of `j` gets as far as `i`, whose contents or whose next key it is served. -/
inductive Through (own : K → Option V) (i : K) : K → Prop
  | self : Through own i i
  | next {j k : K} (hown : own j = none) (hnext : c.next j = some k) (hk : Through own i k) :
      Through own i j

variable {c} {own : K → Option V} {i j : K} {v : V}

theorem serve_of_own (h : own i = some v) : c.serve own i = some v := by
  rw [serve, h]

theorem serve_of_next (h : own i = none) (hj : c.next i = some j) :
    c.serve own i = c.serve own j := by
  rw [serve, h]
  dsimp only
  split <;> rename_i hnext
  · rw [hj] at hnext
    rw [Option.some.inj hnext]
  · rw [hj] at hnext
    cases hnext

theorem serve_of_end (h : own i = none) (hj : c.next i = none) : c.serve own i = none := by
  rw [serve, h]
  dsimp only
  split <;> rename_i hnext
  · rw [hj] at hnext
    cases hnext
  · rfl

/-- An induction along the chain. -/
theorem chain_induction {motive : K → Prop}
    (step : ∀ i, (∀ j, c.next i = some j → motive j) → motive i) (i : K) : motive i := by
  induction i using (measure c.rank).wf.induction with
  | _ i ih => exact step i fun j hj => ih j (c.rank_lt hj)

section
variable [DecidableEq K]

/-- **A key is served the new contents of one that it is served through.** -/
theorem serve_update_of_through (h : c.Through own i j) :
    c.serve (Function.update own i (some v)) j = some v := by
  induction h with
  | self => exact serve_of_own (Function.update_self i (some v) own)
  | @next j k hown hnext hk ih =>
    by_cases hij : j = i
    · subst hij
      exact serve_of_own (Function.update_self j (some v) own)
    · have hkeep : Function.update own i (some v) j = none := by
        rw [Function.update_of_ne hij, hown]
      rw [serve_of_next hkeep hnext, ih]

/-- **All other keys are served what they were.** -/
theorem serve_update_of_not_through (h : ¬ c.Through own i j) (w : Option V) :
    c.serve (Function.update own i w) j = c.serve own j := by
  induction j using c.chain_induction with
  | step j ih =>
    have hij : j ≠ i := by
      intro hij
      subst hij
      exact h .self
    have hkeep : Function.update own i w j = own j := Function.update_of_ne hij w own
    cases hown : own j with
    | some b => rw [serve_of_own (hkeep.trans hown), serve_of_own hown]
    | none =>
      rw [hown] at hkeep
      cases hnext : c.next j with
      | none => rw [serve_of_end hkeep hnext, serve_of_end hown hnext]
      | some k =>
        rw [serve_of_next hkeep hnext, serve_of_next hown hnext]
        exact ih k hnext fun hk => h (.next hown hnext hk)

end

end FallbackChain
