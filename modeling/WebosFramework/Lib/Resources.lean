import Mathlib.Data.Set.Insert
import Mathlib.Order.BooleanAlgebra.Set
import WebosFramework.Lib.EventLoop

/-!
# Resources that are taken and given back

A component takes resources and gives them back, one output at a time. `Balanced` keeps the books of
a list of outputs: it relates what is held before to what is held afterwards, and has no room for a
resource that is taken while it is held, or given back while it is not. `Balanced.run` is the rule
for runs: books that are balanced in each step are balanced in the end. `Balanced.frame` adds what
somebody else holds in the meantime. This module knows nothing about the resources.
-/

namespace Resources

open EventLoop

variable {σ ε ω ι : Type}

/-- What an output means to the books. -/
inductive Use (ι : Type) where
  | take (i : ι)
  | giveBack (i : ι)

/-- The books of a list of outputs, from what is held before to what is held afterwards. -/
inductive Balanced (use : ω → Option (Use ι)) : Set ι → List ω → Set ι → Prop where
  /-- Nothing happens. -/
  | nil {s : Set ι} : Balanced use s [] s
  /-- A resource is taken that was free. -/
  | take {s t : Set ι} {out : ω} {outs : List ω} {i : ι} (huse : use out = some (.take i))
      (hfree : i ∉ s) (hrest : Balanced use (insert i s) outs t) : Balanced use s (out :: outs) t
  /-- A resource is given back that was held. -/
  | giveBack {s t : Set ι} {out : ω} {outs : List ω} {i : ι} (huse : use out = some (.giveBack i))
      (hheld : i ∈ s) (hrest : Balanced use (s \ {i}) outs t) : Balanced use s (out :: outs) t
  /-- The output has nothing to do with resources. -/
  | other {s t : Set ι} {out : ω} {outs : List ω} (huse : use out = none)
      (hrest : Balanced use s outs t) : Balanced use s (out :: outs) t

variable {use : ω → Option (Use ι)} {s t u : Set ι} {outs outs' : List ω}

/-- Books go on where they have stopped. -/
theorem Balanced.append (h : Balanced use s outs t) (h' : Balanced use t outs' u) :
    Balanced use s (outs ++ outs') u := by
  induction h with
  | nil => exact h'
  | take huse hfree _ ih => exact .take huse hfree (ih h')
  | giveBack huse hheld _ ih => exact .giveBack huse hheld (ih h')
  | other huse _ ih => exact .other huse (ih h')

/-- Without takes and returns what is held stays the same. -/
theorem Balanced.of_none (h : ∀ out ∈ outs, use out = none) : Balanced use s outs s := by
  induction outs with
  | nil => exact .nil
  | cons out outs ih =>
    exact .other (h out List.mem_cons_self)
      (ih fun out' hout => h out' (List.mem_cons_of_mem _ hout))

/-- What is neither taken nor given back may be held besides. -/
theorem Balanced.frame {f : Set ι} (h : Balanced use s outs t)
    (hframe : ∀ out ∈ outs, ∀ i ∈ f, use out ≠ some (.take i) ∧ use out ≠ some (.giveBack i)) :
    Balanced use (s ∪ f) outs (t ∪ f) := by
  induction h with
  | nil => exact .nil
  | @take s t out outs i huse hfree _ ih =>
    have hother : i ∉ f := fun hi => (hframe out List.mem_cons_self i hi).1 huse
    have hrest := ih fun out' hout => hframe out' (List.mem_cons_of_mem _ hout)
    rw [Set.insert_union] at hrest
    exact .take huse (fun hi => hi.elim hfree hother) hrest
  | @giveBack s t out outs i huse hheld _ ih =>
    have hother : i ∉ f := fun hi => (hframe out List.mem_cons_self i hi).2 huse
    have hrest := ih fun out' hout => hframe out' (List.mem_cons_of_mem _ hout)
    have hsplit : s \ {i} ∪ f = (s ∪ f) \ {i} := by
      rw [Set.union_sdiff_distrib, Set.sdiff_singleton_eq_self hother]
    exact .giveBack huse (.inl hheld) (hsplit ▸ hrest)
  | @other s t out outs huse _ ih =>
    exact .other huse (ih fun out' hout => hframe out' (List.mem_cons_of_mem _ hout))

/-- The books of a run, from the books of its steps. -/
theorem Balanced.run {M : Machine σ ε ω} {held : σ → Set ι} {I : History σ ε ω → Prop}
    (hinv : ∀ h e, I h → I (M.step h e))
    (hstep : ∀ h e, I h → Balanced use (held h.state) (M.handle h.state e).2
      (held (M.handle h.state e).1))
    {h : History σ ε ω} (hI : I h) (hbooks : Balanced use s h.outputs (held h.state))
    (es : List ε) : Balanced use s (M.run h es).outputs (held (M.run h es).state) := by
  induction es generalizing h with
  | nil => exact hbooks
  | cons e es ih => exact ih (hinv h e hI) (hbooks.append (hstep h e hI))

end Resources
