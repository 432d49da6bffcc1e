import Mathlib.Data.List.Infix

/-!
# Event loops

A component that lives in an event loop is a state and a handler. The loop picks one event at a
time and runs its handler to completion, so a run is a list of events and an *event boundary* is a
state between two of them. This module knows nothing about any particular component. It holds

* `Machine` and `History`: the handler, and the state together with the events handled and the
  outputs produced so far, so that a property of a boundary may speak about the past;
* `Machine.Admits`: every step of a run meets a condition on the history before it. The assumptions
  about the environment and the conditions on single steps are both of this shape;
* `Machine.count` and `Machine.observe`: how many steps of a run meet a condition, and what one
  sees of its steps;
* `Machine.Always`: a property holds at every event boundary of a run;
* the induction rules: `invariant`, `always_of_admits` for a property that holds as long as the
  steps meet a condition, `always_iff_admits` for a condition that is exact, `always_iff_always` for
  a property that holds with what it says of the past, and `exists_begin` for what has been begun by
  a step of the past and not been ended since;
* `run_filter`: a run next to the run without the events that the others take no notice of.
-/

namespace EventLoop

variable {σ ε ω : Type}

/-- A handler takes the state and an event to the next state and what is put out on the way. -/
structure Machine (σ ε ω : Type) where
  handle : σ → ε → σ × List ω

/-- An event boundary, with the past that led to it. -/
structure History (σ ε ω : Type) where
  state : σ
  /-- The events that have been handled, the first one in front. -/
  inputs : List ε := []
  /-- Everything that has been put out so far. -/
  outputs : List ω := []

/-- A component that has handled nothing yet. -/
def History.init (s : σ) : History σ ε ω := { state := s }

namespace Machine

variable (M : Machine σ ε ω)

/-- One event is handled, and remembered together with its outputs. -/
def step (h : History σ ε ω) (e : ε) : History σ ε ω where
  state := (M.handle h.state e).1
  inputs := h.inputs ++ [e]
  outputs := h.outputs ++ (M.handle h.state e).2

/-- The events are handled one after the other. -/
def run (h : History σ ε ω) (es : List ε) : History σ ε ω :=
  es.foldl M.step h

/-- No events, no change. -/
@[simp] theorem run_nil (h : History σ ε ω) : M.run h [] = h := rfl

@[simp] theorem run_cons (h : History σ ε ω) (e : ε) (es : List ε) :
    M.run h (e :: es) = M.run (M.step h e) es := rfl

/-- Runs compose. -/
theorem run_append (h : History σ ε ω) (es fs : List ε) :
    M.run h (es ++ fs) = M.run (M.run h es) fs := by
  simp [run, List.foldl_append]

@[simp] theorem step_inputs (h : History σ ε ω) (e : ε) :
    (M.step h e).inputs = h.inputs ++ [e] := rfl

@[simp] theorem step_outputs (h : History σ ε ω) (e : ε) :
    (M.step h e).outputs = h.outputs ++ (M.handle h.state e).2 := rfl

@[simp] theorem step_state (h : History σ ε ω) (e : ε) :
    (M.step h e).state = (M.handle h.state e).1 := rfl

/-- A run remembers its events. -/
theorem run_inputs (h : History σ ε ω) (es : List ε) : (M.run h es).inputs = h.inputs ++ es := by
  induction es generalizing h with
  | nil => simp
  | cons e es ih => simp [ih]

/-- A run only adds to the outputs. -/
theorem outputs_prefix_run (h : History σ ε ω) (es : List ε) :
    h.outputs <+: (M.run h es).outputs := by
  induction es generalizing h with
  | nil => exact List.prefix_refl _
  | cons e es ih => exact (List.prefix_append _ _).trans (ih (M.step h e))

/-! ## Runs all of whose steps meet a condition

`Admits` is used for guards on the environment and for conditions on single steps. It can be
decided if the condition can. -/

/-- Every event of `es` meets `C` in the history it is handled in. -/
def Admits (C : History σ ε ω → ε → Prop) : History σ ε ω → List ε → Prop
  | _, [] => True
  | h, e :: es => C h e ∧ Admits C (M.step h e) es

/-- A condition that can be decided at each step can be decided for a run. -/
instance decidableAdmits (C : History σ ε ω → ε → Prop) [∀ h e, Decidable (C h e)] :
    ∀ h es, Decidable (M.Admits C h es)
  | _, [] => .isTrue trivial
  | h, e :: es =>
    have := decidableAdmits C (M.step h e) es
    inferInstanceAs (Decidable (C h e ∧ M.Admits C (M.step h e) es))

/-- A condition on the steps splits where the run is split. -/
theorem admits_append {C : History σ ε ω → ε → Prop} {h : History σ ε ω} {es fs : List ε} :
    M.Admits C h (es ++ fs) ↔ M.Admits C h es ∧ M.Admits C (M.run h es) fs := by
  induction es generalizing h with
  | nil => simp [Admits]
  | cons e es ih => simp [Admits, ih, and_assoc]

/-- Every run meets the condition that excludes nothing. -/
theorem admits_true (h : History σ ε ω) (es : List ε) : M.Admits (fun _ _ => True) h es := by
  induction es generalizing h with
  | nil => trivial
  | cons e es ih => exact ⟨trivial, ih _⟩

variable {M}

/-- A weaker condition is met by the same runs. -/
theorem Admits.mono {C D : History σ ε ω → ε → Prop} (hCD : ∀ h e, C h e → D h e)
    {h : History σ ε ω} {es : List ε} (hC : M.Admits C h es) : M.Admits D h es := by
  induction es generalizing h with
  | nil => trivial
  | cons e es ih => exact ⟨hCD h e hC.1, ih hC.2⟩

/-! ## Counting steps

A count over a run, and the rule that ties it to a quantity of the state. -/

/-- How many events of `es` meet `C` in the history they are handled in. -/
def count (M : Machine σ ε ω) (C : History σ ε ω → ε → Bool) : History σ ε ω → List ε → Nat
  | _, [] => 0
  | h, e :: es => (if C h e then 1 else 0) + M.count C (M.step h e) es

/-- Steps of the second part are counted from where the first part has ended. -/
theorem count_append (M : Machine σ ε ω) (C : History σ ε ω → ε → Bool) (h : History σ ε ω)
    (es fs : List ε) : M.count C h (es ++ fs) = M.count C h es + M.count C (M.run h es) fs := by
  induction es generalizing h with
  | nil => exact (Nat.zero_add _).symm
  | cons e es ih =>
    show (if C h e then 1 else 0) + M.count C (M.step h e) (es ++ fs) = _
    rw [ih, ← Nat.add_assoc]
    rfl

/-- A quantity that each step with `C` increases by one, and that no other step changes. -/
theorem counted_run {C : History σ ε ω → ε → Bool} {n : σ → Nat}
    (hstep : ∀ h e, n (M.step h e).state = n h.state + if C h e then 1 else 0)
    (h : History σ ε ω) (es : List ε) : n (M.run h es).state = n h.state + M.count C h es := by
  induction es generalizing h with
  | nil => rfl
  | cons e es ih =>
    show n (M.run (M.step h e) es).state = n h.state + ((if C h e then 1 else 0) + _)
    rw [ih, hstep, Nat.add_assoc]

/-- Steps that agree in the states that meet an invariant are counted alike. -/
theorem count_congr {I : History σ ε ω → Prop} {C D : History σ ε ω → ε → Bool}
    (hstep : ∀ h e, I h → I (M.step h e)) (hCD : ∀ h e, I h → C h e = D h e)
    {h : History σ ε ω} (h₀ : I h) (es : List ε) : M.count C h es = M.count D h es := by
  induction es generalizing h with
  | nil => rfl
  | cons e es ih =>
    show (if C h e then 1 else 0) + _ = (if D h e then 1 else 0) + _
    rw [hCD h e h₀, ih (hstep h e h₀)]

/-- A condition that looks at the event alone is counted in the list of events. -/
theorem count_eq_countP (p : ε → Bool) (h : History σ ε ω) (es : List ε) :
    M.count (fun _ e => p e) h es = es.countP p := by
  induction es generalizing h with
  | nil => rfl
  | cons e es ih =>
    show (if p e then 1 else 0) + _ = _
    rw [ih, List.countP_cons, Nat.add_comm]

/-! ## What a run shows

A list that is collected over a run, from the state and the event of each step. -/

/-- What `f` sees of the steps of a run, each together with the state it is made in. -/
def observe (M : Machine σ ε ω) {α : Type} (f : σ → ε → Option α) : History σ ε ω → List ε → List α
  | _, [] => []
  | h, e :: es => (f h.state e).toList ++ M.observe f (M.step h e) es

/-- What one more step shows comes last. -/
theorem observe_concat {α : Type} (f : σ → ε → Option α) (h : History σ ε ω) (es : List ε) (e : ε) :
    M.observe f h (es ++ [e]) = M.observe f h es ++ (f (M.run h es).state e).toList := by
  induction es generalizing h with
  | nil => exact List.append_nil _
  | cons e' es ih =>
    show (f h.state e').toList ++ M.observe f (M.step h e') (es ++ [e]) = _
    rw [ih, ← List.append_assoc]
    rfl

/-- A history that is the run of its inputs is so after one more step. -/
theorem run_inputs_step {h₀ h : History σ ε ω} (hrun : M.run h₀ h.inputs = h) (e : ε) :
    M.run h₀ (M.step h e).inputs = M.step h e := by
  rw [step_inputs, run_append, hrun]
  rfl

/-- The same for a history that has been reached from an initial one. -/
theorem observe_step {α : Type} (f : σ → ε → Option α) {h₀ h : History σ ε ω}
    (hrun : M.run h₀ h.inputs = h) (e : ε) :
    M.observe f h₀ (M.step h e).inputs = M.observe f h₀ h.inputs ++ (f h.state e).toList := by
  rw [step_inputs, observe_concat, hrun]

/-! ## Properties of every event boundary

`Always` is defined along the run. That it is about all of its beginnings is a theorem. -/

/-- `P` holds at every event boundary of the run `es`, the first and the last included. -/
def Always (M : Machine σ ε ω) (P : History σ ε ω → Prop) : History σ ε ω → List ε → Prop
  | h, [] => P h
  | h, e :: es => P h ∧ Always M P (M.step h e) es

/-- What holds always holds after every beginning of the run. -/
theorem always_iff_boundaries {P : History σ ε ω → Prop} {h : History σ ε ω} {es : List ε} :
    M.Always P h es ↔ ∀ fs, fs <+: es → P (M.run h fs) := by
  induction es generalizing h with
  | nil => simp [Always]
  | cons e es ih =>
    simp only [Always, ih]
    constructor
    · rintro ⟨hP, hall⟩ fs hfs
      rcases List.prefix_cons_iff.mp hfs with rfl | ⟨gs, rfl, hgs⟩
      · exact hP
      · exact hall gs hgs
    · intro hall
      exact ⟨hall [] (List.nil_prefix),
        fun fs hfs => hall (e :: fs) (List.cons_prefix_cons.mpr ⟨rfl, hfs⟩)⟩

/-- What holds always holds in the end. -/
theorem Always.last {P : History σ ε ω → Prop} {h : History σ ε ω} {es : List ε}
    (hP : M.Always P h es) : P (M.run h es) :=
  always_iff_boundaries.mp hP es (List.prefix_refl es)

/-- What follows from a property holds when that property does. -/
theorem Always.mono {P Q : History σ ε ω → Prop} {h : History σ ε ω} {es : List ε}
    (hP : M.Always P h es) (hPQ : ∀ h, P h → Q h) : M.Always Q h es :=
  always_iff_boundaries.mpr fun fs hfs => hPQ _ (always_iff_boundaries.mp hP fs hfs)

/-! ## Induction rules

The inductions over runs are done here, once for each shape. Whoever uses a rule has to prove a
step and a start. -/

section Induction

variable {E : History σ ε ω → ε → Prop} {I P : History σ ε ω → Prop}
  {C : History σ ε ω → ε → Prop}

/-- The invariant rule: what holds at first and is kept by every admitted step holds after every
admitted run. -/
theorem invariant (hstep : ∀ h e, I h → E h e → I (M.step h e)) {h : History σ ε ω}
    (h₀ : I h) {es : List ε} (hes : M.Admits E h es) : I (M.run h es) := by
  induction es generalizing h with
  | nil => exact h₀
  | cons e es ih => exact ih (hstep h e h₀ hes.1) hes.2

/-- A guard that follows from another one in the states that meet an invariant. -/
theorem Admits.of_invariant (hstep : ∀ h e, I h → E h e → I (M.step h e))
    (hC : ∀ h e, I h → E h e → C h e) {h : History σ ε ω} (h₀ : I h) {es : List ε}
    (hes : M.Admits E h es) : M.Admits C h es := by
  induction es generalizing h with
  | nil => trivial
  | cons e es ih => exact ⟨hC h e h₀ hes.1, ih (hstep h e h₀ hes.1) hes.2⟩

/-- Two guards that agree in the states that meet an invariant admit the same runs. -/
theorem admits_congr (hstep : ∀ h e, I h → E h e → I (M.step h e)) {D : History σ ε ω → ε → Prop}
    (hCD : ∀ h e, I h → E h e → (C h e ↔ D h e)) {h : History σ ε ω} (h₀ : I h) {es : List ε}
    (hes : M.Admits E h es) : M.Admits C h es ↔ M.Admits D h es := by
  induction es generalizing h with
  | nil => exact Iff.rfl
  | cons e es ih => exact and_congr (hCD h e h₀ hes.1) (ih (hstep h e h₀ hes.1) hes.2)

/-- Two guards that agree in the states that meet `I` admit the same runs, also if `I` is kept only
by the steps that meet them. -/
theorem admits_congr_of_step {D : History σ ε ω → ε → Prop}
    (hstep : ∀ h e, I h → C h e → I (M.step h e)) (hCD : ∀ h e, I h → (C h e ↔ D h e))
    {h : History σ ε ω} (h₀ : I h) (es : List ε) : M.Admits C h es ↔ M.Admits D h es := by
  induction es generalizing h with
  | nil => exact Iff.rfl
  | cons e es ih =>
    constructor
    · rintro ⟨hC, hCs⟩
      exact ⟨(hCD h e h₀).mp hC, (ih (hstep h e h₀ hC)).mp hCs⟩
    · rintro ⟨hD, hDs⟩
      have hC := (hCD h e h₀).mpr hD
      exact ⟨hC, (ih (hstep h e h₀ hC)).mpr hDs⟩

/-- The rule for a property that the admitted steps preserve. -/
theorem always_of_admits (hstep : ∀ h e, I h → E h e → I (M.step h e)) {h : History σ ε ω}
    (h₀ : I h) {es : List ε} (hes : M.Admits E h es) : M.Always I h es := by
  induction es generalizing h with
  | nil => exact h₀
  | cons e es ih => exact ⟨h₀, ih (hstep h e h₀ hes.1) hes.2⟩

/-- The exactness rule. `I` is an invariant of the runs the environment admits; if each admitted
step from a state with `P` keeps `P` exactly when it meets `C`, then `P` holds at every event
boundary exactly when every step meets `C`. -/
theorem always_iff_admits (hinv : ∀ h e, I h → E h e → I (M.step h e))
    (hexact : ∀ h e, I h → P h → E h e → (P (M.step h e) ↔ C h e))
    {h : History σ ε ω} (hI : I h) (hP : P h) {es : List ε} (hes : M.Admits E h es) :
    M.Always P h es ↔ M.Admits C h es := by
  induction es generalizing h with
  | nil => exact ⟨fun _ => trivial, fun _ => hP⟩
  | cons e es ih =>
    have hI' := hinv h e hI hes.1
    have hiff := hexact h e hI hP hes.1
    constructor
    · rintro ⟨-, hall⟩
      have hP' : P (M.step h e) := by
        cases es with
        | nil => exact hall
        | cons f fs => exact hall.1
      exact ⟨hiff.mp hP', (ih hI' hP' hes.2).mp hall⟩
    · rintro ⟨hC, hCs⟩
      exact ⟨hP, (ih hI' (hiff.mpr hC) hes.2).mpr hCs⟩

/-- The exactness rule for an invariant that lasts as long as `C` does. `I` says more than `P`; if
an admitted step keeps `I` when it meets `C`, and leaves `P` only then, then `P` holds at every
event boundary exactly when every step meets `C`. -/
theorem always_iff_admits_of_step (hIP : ∀ h, I h → P h)
    (hinv : ∀ h e, I h → E h e → C h e → I (M.step h e))
    (hexact : ∀ h e, I h → E h e → P (M.step h e) → C h e) {h : History σ ε ω} (hI : I h)
    {es : List ε} (hes : M.Admits E h es) : M.Always P h es ↔ M.Admits C h es := by
  induction es generalizing h with
  | nil => exact ⟨fun _ => trivial, fun _ => hIP h hI⟩
  | cons e es ih =>
    constructor
    · rintro ⟨-, hall⟩
      have hP' : P (M.step h e) := by
        cases es with
        | nil => exact hall
        | cons f fs => exact hall.1
      have hC := hexact h e hI hes.1 hP'
      exact ⟨hC, (ih (hinv h e hI hes.1 hC) hes.2).mp hall⟩
    · rintro ⟨hC, hCs⟩
      exact ⟨hIP h hI, (ih (hinv h e hI hes.1 hC) hes.2).mpr hCs⟩

/-- The strengthening rule. `Q` says more than `P`, of the past as well; if a step from a boundary
with `Q` that keeps `P` keeps `Q`, then `P` holds at every event boundary exactly when `Q` does. -/
theorem always_iff_always {Q : History σ ε ω → Prop} (hQP : ∀ h, Q h → P h)
    (hstep : ∀ h e, Q h → P (M.step h e) → Q (M.step h e)) {h : History σ ε ω} (h₀ : Q h)
    (es : List ε) : M.Always P h es ↔ M.Always Q h es := by
  refine ⟨fun hall => ?_, fun hall => hall.mono hQP⟩
  induction es generalizing h with
  | nil => exact h₀
  | cons e es ih =>
    have hP : P (M.step h e) := by
      cases es with
      | nil => exact hall.2
      | cons f fs => exact hall.2.1
    exact ⟨h₀, ih (hstep h e h₀ hP) hall.2⟩

/-- What lasts from one step to another: if `P` holds after a step only because the step begins it,
or because it held before and the step does not end it, then after a run in which `P` has come to
hold some step has begun it, and none has ended it since. -/
theorem exists_begin {B : History σ ε ω → ε → Prop}
    (hinv : ∀ h e, I h → E h e → I (M.step h e))
    (hstep : ∀ h e, I h → E h e → P (M.step h e) → B h e ∨ P h ∧ C h e) {h : History σ ε ω}
    (hI : I h) (h₀ : ¬ P h) {es : List ε} (hes : M.Admits E h es) (hP : P (M.run h es)) :
    ∃ fs e gs, es = fs ++ e :: gs ∧ B (M.run h fs) e ∧ M.Admits C (M.run h (fs ++ [e])) gs := by
  induction es using List.reverseRecOn with
  | nil => exact absurd hP h₀
  | append_singleton es e ih =>
    obtain ⟨hes, he, -⟩ := M.admits_append.mp hes
    rw [run_append, run_cons, run_nil] at hP
    rcases hstep _ e (invariant hinv hI hes) he hP with hB | ⟨hP, hC⟩
    · exact ⟨es, e, [], rfl, hB, trivial⟩
    · obtain ⟨fs, e', gs, rfl, hB, hgs⟩ := ih hes hP
      refine ⟨fs, e', gs ++ [e], by simp, hB, M.admits_append.mpr ⟨hgs, ?_⟩⟩
      have hsplit : fs ++ e' :: gs = fs ++ [e'] ++ gs := by simp
      rw [hsplit, run_append] at hC
      exact ⟨hC, trivial⟩

end Induction

/-! ## Events that the others take no notice of

A simulation between a run and the same run without some of its events. -/

/-- `R` relates the states of a run to those of the run without the events that are `hidden`. If a
hidden event keeps `R` by itself and gives no output but `silent` ones, and any other event keeps
`R` and gives the same outputs on both sides, then so do the runs. -/
theorem run_filter {R : σ → σ → Prop} {hidden : ε → Bool} {silent : ω → Bool} {E : ε → Prop}
    (hhidden : ∀ s t e, R s t → E e → hidden e = true →
      R (M.handle s e).1 t ∧ ∀ o ∈ (M.handle s e).2, silent o = true)
    (hshown : ∀ s t e, R s t → E e → hidden e = false →
      R (M.handle s e).1 (M.handle t e).1 ∧ (M.handle s e).2 = (M.handle t e).2)
    {h k : History σ ε ω} (hstate : R h.state k.state)
    (houtputs : h.outputs.filter (!silent ·) = k.outputs.filter (!silent ·)) {es : List ε}
    (hes : ∀ e ∈ es, E e) :
    R (M.run h es).state (M.run k (es.filter (!hidden ·))).state ∧
      (M.run h es).outputs.filter (!silent ·) =
        (M.run k (es.filter (!hidden ·))).outputs.filter (!silent ·) := by
  induction es generalizing h k with
  | nil => exact ⟨hstate, houtputs⟩
  | cons e es ih =>
    obtain ⟨he, hes⟩ := List.forall_mem_cons.mp hes
    rw [run_cons]
    by_cases hid : hidden e = true
    · obtain ⟨hstate', hsilent⟩ := hhidden _ _ e hstate he hid
      rw [List.filter_cons_of_neg (by simp [hid])]
      refine ih hstate' ?_ hes
      have hnone : (M.handle h.state e).2.filter (!silent ·) = [] :=
        List.filter_eq_nil_iff.mpr fun o ho => by simp [hsilent o ho]
      rw [step_outputs, List.filter_append, hnone, List.append_nil, houtputs]
    · obtain ⟨hstate', hsame⟩ := hshown _ _ e hstate he (by simpa using hid)
      rw [List.filter_cons_of_pos (by simpa using hid), run_cons]
      refine ih hstate' ?_ hes
      rw [step_outputs, step_outputs, List.filter_append, List.filter_append, houtputs, hsame]

end Machine

end EventLoop
