import Mathlib.Data.List.Basic
import Mathlib.Tactic.Tauto

/-!
# Runs of a state machine

A machine takes its state through a list of events. A step may have no outcome (`Except.error`),
and the run ends there.

* `states` are the states of a run, the first one included.
* `steps` are its steps, each as the state before it and the event.
* `final` is the state at its end.

**Theorem (`invariant_of_guard`).** An invariant that every guarded step keeps holds in every state
of a run whose steps are all guarded.

**Theorem (`good_iff_guard`).** If moreover every unguarded step leaves the good states, then a run
stays in the good states exactly when all its steps are guarded.

**Theorem (`last_touch`).** At the end of a run a register holds what the last step that touched it
has put there, or what it held at the beginning.

**Theorem (`flag_iff_setSince`).** A flag that every step sets, clears or leaves alone is up where a
step has set it and none has cleared it since.

**Theorem (`good_segments`).** A run is cut where certain steps start a new segment. What is shown
of a segment while it grows, together with the state, holds of every segment.
-/

namespace Trajectory

variable {S E F : Type}

/-- The states a run visits. -/
def states (step : S → E → Except F S) : S → List E → List S
  | s, [] => [s]
  | s, e :: es =>
    s :: match step s e with
      | .ok s' => states step s' es
      | .error _ => []

/-- The steps a run takes: the state before each, and its event. -/
def steps (step : S → E → Except F S) : S → List E → List (S × E)
  | _, [] => []
  | s, e :: es =>
    (s, e) :: match step s e with
      | .ok s' => steps step s' es
      | .error _ => []

/-- The state after all events. -/
def final (step : S → E → Except F S) : S → List E → Except F S
  | s, [] => .ok s
  | s, e :: es =>
    match step s e with
    | .ok s' => final step s' es
    | .error f => .error f

variable {step : S → E → Except F S}

@[simp] theorem final_nil (s : S) : final step s [] = .ok s := rfl

theorem final_cons_ok {s s' : S} {e : E} (h : step s e = .ok s') (es : List E) :
    final step s (e :: es) = final step s' es := by
  simp [final, h]

theorem final_append {s t : S} {es : List E} (h : final step s es = .ok t) (fs : List E) :
    final step s (es ++ fs) = final step t fs := by
  induction es generalizing s with
  | nil =>
    simp only [final_nil, Except.ok.injEq] at h
    rw [h, List.nil_append]
  | cons e es ih =>
    unfold final at h
    split at h
    · rename_i s' hs
      rw [List.cons_append, final_cons_ok hs]
      exact ih h
    · cases h

theorem exists_final_of_append {s t : S} {es fs : List E} (h : final step s (es ++ fs) = .ok t) :
    ∃ u, final step s es = .ok u ∧ final step u fs = .ok t := by
  induction es generalizing s with
  | nil => exact ⟨s, rfl, h⟩
  | cons e es ih =>
    cases hs : step s e with
    | error f =>
      rw [List.cons_append, final, hs] at h
      cases h
    | ok s' =>
      rw [List.cons_append, final_cons_ok hs] at h
      obtain ⟨u, hu, ht⟩ := ih h
      exact ⟨u, by rw [final_cons_ok hs, hu], ht⟩

/-- A machine whose steps all have an outcome. -/
theorem final_eq_foldl {next : S → E → S} (h : ∀ s e, step s e = .ok (next s e)) (s : S)
    (es : List E) : final step s es = .ok (es.foldl next s) := by
  induction es generalizing s with
  | nil => rfl
  | cons e es ih => rw [final_cons_ok (h s e), ih, List.foldl_cons]

theorem mem_states_self (s : S) (es : List E) : s ∈ states step s es := by
  cases es <;> simp [states]

/-- The state after a prefix of the events is one the run visits. -/
theorem mem_states_of_final {s t : S} {es : List E} (h : final step s es = .ok t) (fs : List E) :
    t ∈ states step s (es ++ fs) := by
  induction es generalizing s with
  | nil =>
    simp only [final_nil, Except.ok.injEq] at h
    exact h ▸ mem_states_self s fs
  | cons e es ih =>
    unfold final at h
    split at h
    · rename_i s' hs
      simp only [List.cons_append, states, hs]
      exact List.mem_cons_of_mem _ (ih h)
    · cases h

/-- A step is taken from a state the run visits. -/
theorem mem_states_of_mem_steps {s : S} {es : List E} {p : S × E} (h : p ∈ steps step s es) :
    p.1 ∈ states step s es := by
  induction es generalizing s with
  | nil => simp [steps] at h
  | cons e es ih =>
    rcases List.mem_cons.1 h with rfl | h
    · exact mem_states_self _ _
    · cases hse : step s e with
      | error f => simp [hse] at h
      | ok s' =>
        simp only [hse] at h
        simp only [states, hse]
        exact List.mem_cons_of_mem _ (ih h)

/-- A step taken right after a prefix of the events is one of the run's steps. -/
theorem mem_steps_of_final {s t : S} {es : List E} (h : final step s es = .ok t) (e : E)
    (fs : List E) : (t, e) ∈ steps step s (es ++ e :: fs) := by
  induction es generalizing s with
  | nil =>
    simp only [final_nil, Except.ok.injEq] at h
    simp [steps, h]
  | cons e' es ih =>
    unfold final at h
    split at h
    · rename_i s' hs
      simp only [List.cons_append, steps, hs]
      exact List.mem_cons_of_mem _ (ih h)
    · cases h

/-- A run gets to each of its steps by the events before it. -/
theorem exists_final_of_mem_steps {s : S} {es : List E} {p : S × E} (h : p ∈ steps step s es) :
    ∃ before after, es = before ++ p.2 :: after ∧ final step s before = .ok p.1 := by
  induction es generalizing s with
  | nil => simp [steps] at h
  | cons e es ih =>
    rcases List.mem_cons.1 h with rfl | h
    · exact ⟨[], es, rfl, rfl⟩
    · cases hse : step s e with
      | error f => simp [hse] at h
      | ok s' =>
        simp only [hse] at h
        obtain ⟨before, after, rfl, hfinal⟩ := ih h
        exact ⟨e :: before, after, rfl, by rw [final_cons_ok hse, hfinal]⟩

/-- In a run that comes to its end every step has an outcome. -/
theorem exists_step_of_final {s t : S} {es : List E} (h : final step s es = .ok t) :
    ∀ p ∈ steps step s es, ∃ s', step p.1 p.2 = .ok s' := by
  induction es generalizing s with
  | nil => simp [steps]
  | cons e es ih =>
    intro p hp
    cases hse : step s e with
    | error f => simp [final, hse] at h
    | ok s' =>
      rw [final_cons_ok hse] at h
      rcases List.mem_cons.1 hp with rfl | hp
      · exact ⟨s', hse⟩
      · simp only [hse] at hp
        exact ih h p hp

/-! ## Invariants -/

variable {Inv Good : S → Prop} {Guard : S → E → Prop}

theorem invariant_of_guard
    (hstep : ∀ s e s', Inv s → Guard s e → step s e = .ok s' → Inv s') {s : S} (hs : Inv s)
    (es : List E) (hg : ∀ p ∈ steps step s es, Guard p.1 p.2) : ∀ t ∈ states step s es, Inv t := by
  induction es generalizing s with
  | nil =>
    intro t ht
    simp only [states, List.mem_singleton] at ht
    exact ht ▸ hs
  | cons e es ih =>
    intro t ht
    have hge : Guard s e := hg (s, e) (by simp [steps])
    rcases List.mem_cons.1 ht with rfl | ht
    · exact hs
    · cases hse : step s e with
      | error f => simp [hse] at ht
      | ok s' =>
        simp only [hse] at ht
        refine ih (hstep s e s' hs hge hse) (fun p hp => hg p ?_) t ht
        simp only [steps, hse]
        exact List.mem_cons_of_mem _ hp

/-- What a guarded step from the invariant ends in, every step of a guarded run ends in. -/
theorem post_of_guard (Post : S → E → S → Prop)
    (hstep : ∀ s e s', Inv s → Guard s e → step s e = .ok s' → Inv s')
    (hpost : ∀ s e s', Inv s → Guard s e → step s e = .ok s' → Post s e s') {s : S} (hs : Inv s)
    (es : List E) (hg : ∀ p ∈ steps step s es, Guard p.1 p.2) :
    ∀ p ∈ steps step s es, ∀ s', step p.1 p.2 = .ok s' → Post p.1 p.2 s' := fun p hp s' h =>
  hpost p.1 p.2 s' (invariant_of_guard hstep hs es hg p.1 (mem_states_of_mem_steps hp)) (hg p hp) h

/-- An invariant that every step keeps. -/
theorem invariant (Inv : S → Prop) (hstep : ∀ s e s', Inv s → step s e = .ok s' → Inv s') {s : S}
    (hs : Inv s) (es : List E) : ∀ t ∈ states step s es, Inv t := by
  have hguarded : ∀ s e s', Inv s → True → step s e = .ok s' → Inv s' :=
    fun s e s' h _ => hstep s e s' h
  exact invariant_of_guard hguarded hs es fun _ _ => trivial

theorem mem_events_of_mem_steps {s : S} {es : List E} {p : S × E} (h : p ∈ steps step s es) :
    p.2 ∈ es := by
  induction es generalizing s with
  | nil => simp [steps] at h
  | cons e es ih =>
    rcases List.mem_cons.1 h with rfl | h
    · exact List.mem_cons_self
    · cases hse : step s e with
      | error f => simp [hse] at h
      | ok s' =>
        rw [hse] at h
        exact List.mem_cons_of_mem e (ih h)

/-- **A run stays good exactly when its steps are guarded**, if guarded steps keep the invariant,
the invariant is good, and an unguarded step ends in a state that is not good. -/
theorem good_iff_guard (hgood : ∀ s, Inv s → Good s)
    (hstep : ∀ s e s', Inv s → Guard s e → step s e = .ok s' → Inv s')
    (hbad : ∀ s e, Inv s → ¬ Guard s e → ∃ s', step s e = .ok s' ∧ ¬ Good s') {s : S} (hs : Inv s)
    (es : List E) :
    (∀ t ∈ states step s es, Good t) ↔ ∀ p ∈ steps step s es, Guard p.1 p.2 := by
  constructor
  · intro h
    induction es generalizing s with
    | nil => simp [steps]
    | cons e es ih =>
      have hge : Guard s e := by
        by_contra hng
        obtain ⟨s', hse, hnot⟩ := hbad s e hs hng
        refine hnot (h s' ?_)
        simp only [states, hse]
        exact List.mem_cons_of_mem _ (mem_states_self s' es)
      intro p hp
      rcases List.mem_cons.1 hp with rfl | hp
      · exact hge
      · cases hse : step s e with
        | error f => simp [hse] at hp
        | ok s' =>
          simp only [hse] at hp
          refine ih (hstep s e s' hs hge hse) (fun t ht => h t ?_) p hp
          simp only [states, hse]
          exact List.mem_cons_of_mem _ ht
  · intro hg t ht
    exact hgood t (invariant_of_guard hstep hs es hg t ht)

/-! ## Registers -/

/-- **A register holds what touched it last.** `touch` is what a step puts into the register, if
anything. -/
theorem last_touch {V : Type} {reg : S → V} {touch : S → E → Option V}
    (hstep : ∀ s e s', step s e = .ok s' → reg s' = (touch s e).getD (reg s)) {s t : S}
    {es : List E} (h : final step s es = .ok t) :
    ((∀ p ∈ steps step s es, touch p.1 p.2 = none) ∧ reg t = reg s) ∨
      ∃ before e after u w, es = before ++ e :: after ∧ final step s before = .ok u ∧
        step u e = .ok w ∧ touch u e = some (reg t) ∧
        ∀ p ∈ steps step w after, touch p.1 p.2 = none := by
  induction es generalizing s with
  | nil =>
    obtain rfl : s = t := Except.ok.inj h
    exact Or.inl ⟨by simp [steps], rfl⟩
  | cons e es ih =>
    cases hse : step s e with
    | error f =>
      rw [final, hse] at h
      cases h
    | ok s' =>
      rw [final_cons_ok hse] at h
      have hreg := hstep s e s' hse
      rcases ih h with ⟨huntouched, hsame⟩ |
        ⟨before, e', after, u, w, rfl, hbefore, hu, htouch, hafter⟩
      · cases htouch : touch s e with
        | none =>
          rw [htouch, Option.getD_none] at hreg
          refine Or.inl ⟨?_, hsame.trans hreg⟩
          intro p hp
          rw [steps, hse] at hp
          rcases List.mem_cons.1 hp with rfl | hp
          · exact htouch
          · exact huntouched p hp
        | some v =>
          rw [htouch, Option.getD_some] at hreg
          rw [← hreg, ← hsame] at htouch
          exact Or.inr ⟨[], e, es, s, s', rfl, rfl, hse, htouch, huntouched⟩
      · refine Or.inr ⟨e :: before, e', after, u, w, rfl, ?_, hu, htouch, hafter⟩
        rw [final_cons_ok hse]
        exact hbefore

/-! ## Flags -/

/-- A step that sets, and no step after it that clears. -/
def SetSince (Set Clear : S → E → Prop) (run : List (S × E)) : Prop :=
  ∃ before p after, run = before ++ p :: after ∧ Set p.1 p.2 ∧ ∀ q ∈ after, ¬ Clear q.1 q.2

theorem setSince_cons {Set Clear : S → E → Prop} {p : S × E} {run : List (S × E)} :
    SetSince Set Clear (p :: run) ↔
      SetSince Set Clear run ∨ Set p.1 p.2 ∧ ∀ q ∈ run, ¬ Clear q.1 q.2 := by
  constructor
  · rintro ⟨_ | ⟨first, before⟩, q, after, hrun, hset, hafter⟩
    · obtain ⟨rfl, rfl⟩ := List.cons.inj hrun
      exact Or.inr ⟨hset, hafter⟩
    · obtain ⟨rfl, rfl⟩ := List.cons.inj hrun
      exact Or.inl ⟨before, q, after, rfl, hset, hafter⟩
  · rintro (⟨before, q, after, rfl, hset, hafter⟩ | ⟨hset, hafter⟩)
    · exact ⟨p :: before, q, after, rfl, hset, hafter⟩
    · exact ⟨[], p, run, rfl, hset, hafter⟩

/-- **A flag is up if it was set and not cleared since**, or was up from the start and has not been
cleared. -/
theorem flag_iff_setSince {Flag : S → Prop} {Set Clear : S → E → Prop}
    (hinv : ∀ s e s', Inv s → step s e = .ok s' → Inv s')
    (hflag : ∀ s e s', Inv s → step s e = .ok s' → (Flag s' ↔ Set s e ∨ Flag s ∧ ¬ Clear s e))
    {s t : S} (hs : Inv s) {es : List E} (h : final step s es = .ok t) :
    Flag t ↔ SetSince Set Clear (steps step s es) ∨
      Flag s ∧ ∀ q ∈ steps step s es, ¬ Clear q.1 q.2 := by
  induction es generalizing s with
  | nil =>
    obtain rfl : s = t := Except.ok.inj h
    have hnone : ¬ SetSince Set Clear ([] : List (S × E)) := by
      rintro ⟨before, p, after, hrun, -⟩
      simp at hrun
    simp [steps, hnone]
  | cons e es ih =>
    cases hse : step s e with
    | error f =>
      rw [final, hse] at h
      cases h
    | ok s' =>
      rw [final_cons_ok hse] at h
      rw [ih (hinv s e s' hs hse) h, hflag s e s' hs hse]
      simp only [steps, hse, setSince_cons, List.forall_mem_cons]
      tauto

/-! ## Segments -/

variable {α : Type} {starts : S → E → Bool} {out : S → E → List α}

/-- What the steps of a run put out, cut where a step starts a new segment. -/
def segments (step : S → E → Except F S) (starts : S → E → Bool) (out : S → E → List α) :
    S → List E → List (List α)
  | _, [] => [[]]
  | s, e :: es =>
    match step s e with
    | .ok s' =>
      let rest := (segments step starts out s' es).modifyHead (out s e ++ ·)
      if starts s e then [] :: rest else rest
    | .error _ => [[]]

theorem good_segments_from {Inv : S → List α → Prop} {Good : List α → Prop}
    (hgood : ∀ s seg, Inv s seg → Good seg)
    (hgrow : ∀ s e s' seg, Inv s seg → step s e = .ok s' → starts s e = false →
      Inv s' (seg ++ out s e))
    (hstart : ∀ s e s' seg, Inv s seg → step s e = .ok s' → starts s e = true → Inv s' (out s e))
    (es : List E) {s : S} {seg : List α} (hs : Inv s seg) :
    ∀ g ∈ (segments step starts out s es).modifyHead (seg ++ ·), Good g := by
  induction es generalizing s seg with
  | nil =>
    intro g hg
    obtain rfl : g = seg := by simpa [segments] using hg
    exact hgood s g hs
  | cons e es ih =>
    intro g hg
    cases hse : step s e with
    | error f =>
      obtain rfl : g = seg := by simpa [segments, hse] using hg
      exact hgood s g hs
    | ok s' =>
      simp only [segments, hse] at hg
      cases hst : starts s e with
      | true =>
        rw [hst, if_pos rfl, List.modifyHead_cons, List.append_nil] at hg
        rcases List.mem_cons.1 hg with rfl | hg
        · exact hgood s g hs
        · exact ih (hstart s e s' seg hs hse hst) g hg
      | false =>
        rw [hst, if_neg Bool.false_ne_true, List.modifyHead_modifyHead] at hg
        refine ih (hgrow s e s' seg hs hse hst) g ?_
        simpa [Function.comp_def, List.append_assoc] using hg

/-- **What holds of every segment** of a run. -/
theorem good_segments {Inv : S → List α → Prop} {Good : List α → Prop}
    (hgood : ∀ s seg, Inv s seg → Good seg)
    (hgrow : ∀ s e s' seg, Inv s seg → step s e = .ok s' → starts s e = false →
      Inv s' (seg ++ out s e))
    (hstart : ∀ s e s' seg, Inv s seg → step s e = .ok s' → starts s e = true → Inv s' (out s e))
    (es : List E) {s : S} (hs : Inv s []) : ∀ g ∈ segments step starts out s es, Good g := by
  have hfrom := good_segments_from hgood hgrow hstart es hs
  have hnil (gs : List (List α)) : gs.modifyHead ([] ++ ·) = gs := by
    cases gs <;> rfl
  rwa [hnil] at hfrom

end Trajectory
