import Mathlib.Data.List.Nodup
import WebosFramework.Lib.EventLoop

/-!
# Queues of an event loop

A component that takes requests in, keeps some of them waiting and serves them later. Which requests
an event brings, which ones an output serves and which ones wait in a state are three functions, so
the component needs no particular shape.

* `Machine.conserved`: if each step keeps requests, up to a relation on lists, so does each run.
  With `List.Perm` for the relation no request is lost or served twice, and with equality the
  requests are also served in the order they came in.
* `Precedes`: one request is before another one in a list. `precedes_of_cut` reads a prefix as
  first come, first served.
-/

namespace EventLoop

variable {σ ε ω α : Type}

section Conservation

variable (M : Machine σ ε ω) (accepted : ε → List α) (served : ω → List α) (waiting : σ → List α)

/-- **Conservation along a run.** `r` relates what came in to what went out and what waits; it is
kept by appending and composes. Induction on the run, with the history as the invariant: what each
step brings is appended on both sides. -/
theorem Machine.conserved {r : List α → List α → Prop} (hrefl : ∀ l, r l l)
    (htrans : ∀ {k l m}, r k l → r l m → r k m)
    (happend : ∀ {k l m n}, r k l → r m n → r (k ++ m) (l ++ n))
    {E : History σ ε ω → ε → Prop} {I : History σ ε ω → Prop}
    (hI : ∀ h e, I h → E h e → I (M.step h e))
    (hstep : ∀ h e, I h → E h e → r (waiting h.state ++ accepted e)
      ((M.handle h.state e).2.flatMap served ++ waiting (M.handle h.state e).1))
    {h : History σ ε ω} (h₀ : I h)
    (hbalance : r (h.inputs.flatMap accepted) (h.outputs.flatMap served ++ waiting h.state))
    {es : List ε} (hes : M.Admits E h es) :
    r ((M.run h es).inputs.flatMap accepted)
      ((M.run h es).outputs.flatMap served ++ waiting (M.run h es).state) := by
  induction es generalizing h with
  | nil => exact hbalance
  | cons e es ih =>
    refine ih (hI h e h₀ hes.1) ?_ hes.2
    have hin := happend hbalance (hrefl (accepted e))
    have hout := happend (hrefl (h.outputs.flatMap served)) (hstep h e h₀ hes.1)
    simp only [Machine.step_inputs, Machine.step_outputs, Machine.step_state, List.flatMap_append,
      List.flatMap_cons, List.flatMap_nil, List.append_nil, List.append_assoc] at hin hout ⊢
    exact htrans hin hout

end Conservation

/-! ## Order

What it means that requests are served in the order they came in. -/

/-- `a` occurs before some `b` in `l`. -/
def Precedes (l : List α) (a b : α) : Prop := [a, b].Sublist l

/-- In a prefix of a list without duplicates, what precedes a member is a member too. -/
theorem precedes_of_cut {k l : List α} (hcut : k <+: l) (hl : l.Nodup) {a b : α}
    (hab : Precedes l a b) (hb : b ∈ k) : Precedes k a b := by
  obtain ⟨r, rfl⟩ := hcut
  obtain ⟨u, v, huv, hu, hv⟩ := List.sublist_append_iff.mp hab
  rcases List.eq_nil_or_concat v with rfl | ⟨v', b', rfl⟩
  · rw [List.append_nil] at huv
    rwa [Precedes, huv]
  · -- the last of the two would be `b`, which is on the left of the cut
    have hlast : b' = b := by
      have := congrArg List.getLast? huv
      simpa using this.symm
    have hbr : b ∈ r := hv.subset (by simp [hlast])
    exact absurd rfl ((List.nodup_append.mp hl).2.2 b hb b hbr)

end EventLoop
