import BacnetBc.Lib.Trajectory

/-!
# Queues along a run

`outputs` is what the steps of a run put out, one after the other. A queue is filled at its end and
emptied from its front.

**Theorem (`queue_run`).** What a run takes out of a queue, followed by what is left in it, is what
was in it at first, followed by what the run has put in: nothing is lost, doubled or reordered.

**Theorem (`flatten_segments`).** The segments of a run together are all it puts out.
-/

namespace Fifo

open Trajectory

variable {S E F α β : Type} {step : S → E → Except F S}

/-- What the steps of a run put out. -/
def outputs (step : S → E → Except F S) (out : S → E → List α) : S → List E → List α
  | _, [] => []
  | s, e :: es =>
    out s e ++ match step s e with
      | .ok s' => outputs step out s' es
      | .error _ => []

theorem outputs_cons_ok {out : S → E → List α} {s s' : S} {e : E} (h : step s e = .ok s')
    (es : List E) : outputs step out s (e :: es) = out s e ++ outputs step out s' es := by
  simp [outputs, h]

theorem outputs_append {out : S → E → List α} {s t : S} {es : List E} (h : final step s es = .ok t)
    (fs : List E) : outputs step out s (es ++ fs) = outputs step out s es ++
      outputs step out t fs := by
  induction es generalizing s with
  | nil =>
    obtain rfl : s = t := Except.ok.inj h
    rfl
  | cons e es ih =>
    cases hse : step s e with
    | error _ =>
      rw [final, hse] at h
      cases h
    | ok s' =>
      rw [final_cons_ok hse] at h
      rw [List.cons_append, outputs_cons_ok hse, outputs_cons_ok hse, ih h, List.append_assoc]

/-- What a map that goes through the appends makes of the outputs. -/
theorem map_outputs {f : List α → List β} (hnil : f [] = [])
    (happend : ∀ l m, f (l ++ m) = f l ++ f m) (out : S → E → List α) (s : S) (es : List E) :
    f (outputs step out s es) = outputs step (fun s e => f (out s e)) s es := by
  induction es generalizing s with
  | nil => exact hnil
  | cons e es ih =>
    rw [outputs, outputs, happend]
    cases step s e with
    | ok s' => exact congrArg (_ ++ ·) (ih s')
    | error _ => exact congrArg (_ ++ ·) hnil

/-- Two machines that put out the same in every state of a run. -/
theorem outputs_congr {out out' : S → E → List α} {Inv : S → Prop}
    (hinv : ∀ s e s', Inv s → step s e = .ok s' → Inv s')
    (h : ∀ s e, Inv s → out s e = out' s e) {s : S} (hs : Inv s) (es : List E) :
    outputs step out s es = outputs step out' s es := by
  induction es generalizing s with
  | nil => rfl
  | cons e es ih =>
    rw [outputs, outputs, h s e hs]
    cases hse : step s e with
    | ok s' => exact congrArg (_ ++ ·) (ih (hinv s e s' hs hse))
    | error _ => rfl

/-- **What holds of a state together with all that was put out before.** -/
theorem outputs_invariant {out : S → E → List α} {Inv : S → List α → Prop}
    (h : ∀ s e s' l, Inv s l → step s e = .ok s' → Inv s' (l ++ out s e)) {s t : S} {l : List α}
    (hs : Inv s l) {es : List E} (hfinal : final step s es = .ok t) :
    Inv t (l ++ outputs step out s es) := by
  induction es generalizing s l with
  | nil =>
    obtain rfl : s = t := Except.ok.inj hfinal
    rwa [outputs, List.append_nil]
  | cons e es ih =>
    cases hse : step s e with
    | error _ =>
      rw [final, hse] at hfinal
      cases hfinal
    | ok s' =>
      rw [final_cons_ok hse] at hfinal
      rw [outputs_cons_ok hse, ← List.append_assoc]
      exact ih (h s e s' l hs hse) hfinal

/-- **A queue gives back what was put in**, in this order. -/
theorem queue_run {Inv : S → Prop} (queue : S → List α) {pushes pops : S → E → List α}
    (hinv : ∀ s e s', Inv s → step s e = .ok s' → Inv s')
    (h : ∀ s e s', Inv s → step s e = .ok s' → pops s e ++ queue s' = queue s ++ pushes s e)
    {s t : S} (hs : Inv s) {es : List E} (hfinal : final step s es = .ok t) :
    outputs step pops s es ++ queue t = queue s ++ outputs step pushes s es := by
  induction es generalizing s with
  | nil =>
    obtain rfl : s = t := Except.ok.inj hfinal
    simp [outputs]
  | cons e es ih =>
    cases hse : step s e with
    | error _ =>
      rw [final, hse] at hfinal
      cases hfinal
    | ok s' =>
      rw [final_cons_ok hse] at hfinal
      rw [outputs_cons_ok hse, outputs_cons_ok hse, List.append_assoc,
        ih (hinv s e s' hs hse) hfinal, ← List.append_assoc, h s e s' hs hse, List.append_assoc]

theorem flatten_segments {out : S → E → List α} {starts : S → E → Bool} {s t : S} {es : List E}
    (h : final step s es = .ok t) :
    (segments step starts out s es).flatten = outputs step out s es := by
  have hhead : ∀ (l : List α) (gs : List (List α)), gs ≠ [] →
      (gs.modifyHead (l ++ ·)).flatten = l ++ gs.flatten := by
    intro l gs hgs
    cases gs with
    | nil => exact absurd rfl hgs
    | cons g gs => simp
  have hne : ∀ (s : S) (es : List E), segments step starts out s es ≠ [] := by
    intro s es
    induction es generalizing s with
    | nil => exact List.cons_ne_nil _ _
    | cons e es ih =>
      rw [segments]
      cases step s e with
      | error _ => exact List.cons_ne_nil _ _
      | ok s' =>
        dsimp only
        split_ifs
        · exact List.cons_ne_nil _ _
        · exact fun hc => ih s' (List.modifyHead_eq_nil_iff.1 hc)
  induction es generalizing s with
  | nil => rfl
  | cons e es ih =>
    cases hse : step s e with
    | error _ =>
      rw [final, hse] at h
      cases h
    | ok s' =>
      rw [final_cons_ok hse] at h
      rw [outputs_cons_ok hse, ← ih h, segments, hse]
      dsimp only
      split_ifs
      · rw [List.flatten_cons, List.nil_append, hhead _ _ (hne s' es)]
      · exact hhead _ _ (hne s' es)

end Fifo
