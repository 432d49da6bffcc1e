import Mathlib.Data.List.Basic

/-!
# Published values

A component publishes a value whenever it has changed, to whoever has joined. In the list of what it
puts out some elements are publications, and others let somebody join. This module knows nothing
about the component. `Informed` says that all who have joined have been told the current value since
then; `Informed.append` is the rule for one more step, whose outputs meet `Publishes`.
-/

namespace Publication

variable {ω β : Type} {joins : ω → Prop} {post : ω → Option β}

/-- Everybody who has joined has been told `current` last. -/
def Informed (joins : ω → Prop) (post : ω → Option β) (current : β) (outs : List ω) : Prop :=
  ∀ before out after, outs = before ++ out :: after → joins out →
    (after.filterMap post).getLast? = some current

/-- The outputs of a step from `old` to `current`: nothing but `current` is published, it is
published if it is new, and after somebody has joined. -/
structure Publishes (joins : ω → Prop) (post : ω → Option β) (old current : β) (outs : List ω) :
    Prop where
  /-- Nothing but the current value is published. -/
  only : ∀ value ∈ outs.filterMap post, value = current
  /-- A change is published. -/
  changed : current ≠ old → outs.filterMap post ≠ []
  /-- Whoever joins is told afterwards. -/
  joined : ∀ before out after, outs = before ++ out :: after → joins out →
    after.filterMap post ≠ []

/-- Nobody has joined. -/
theorem Informed.nil (current : β) : Informed joins post current [] :=
  fun before _ _ h => absurd h.symm (List.append_ne_nil_of_right_ne_nil before nofun)

/-- What is published last, if nothing but one value is. -/
theorem getLast?_of_forall {values : List β} {current : β}
    (honly : ∀ value ∈ values, value = current) (hne : values ≠ []) :
    values.getLast? = some current := by
  rw [List.getLast?_eq_some_getLast hne, honly _ (List.getLast_mem hne)]

/-- A step that publishes keeps everybody informed. Whoever has joined before has the last value
unless the step posts another one, and whoever joins in the step is posted to after that. -/
theorem Informed.append {old current : β} {outs more : List ω}
    (h : Informed joins post old outs) (hmore : Publishes joins post old current more) :
    Informed joins post current (outs ++ more) := by
  intro before out after hsplit hjoins
  rcases List.append_eq_append_iff.mp hsplit with ⟨rest, hbefore, hafter⟩ | ⟨rest, hbefore, hafter⟩
  · -- joined in this step
    refine getLast?_of_forall (fun value hvalue => hmore.only value ?_)
      (hmore.joined rest out after hafter hjoins)
    rw [hafter, List.filterMap_append, List.filterMap_cons]
    cases post out with
    | none => exact List.mem_append_right _ hvalue
    | some _ => exact List.mem_append_right _ (List.mem_cons_of_mem _ hvalue)
  · -- joined in an earlier step
    cases rest with
    -- it was the last one to join before this step
    | nil =>
      refine getLast?_of_forall (fun value hvalue => hmore.only value ?_)
        (hmore.joined [] out after hafter.symm hjoins)
      have hmore' : more = out :: after := hafter.symm
      rw [hmore', List.filterMap_cons]
      cases post out with
      | none => exact hvalue
      | some _ => exact List.mem_cons_of_mem _ hvalue
    -- others were published to after it: their last one counts, unless this step publishes again
    | cons out' rest =>
      obtain ⟨rfl, hrest⟩ := List.cons.inj hafter
      have hafter' : after = rest ++ more := hrest
      rw [hafter', List.filterMap_append, List.getLast?_append]
      by_cases hnone : more.filterMap post = []
      · have hsame : current = old := by
          by_contra hne
          exact hmore.changed hne hnone
        rw [hnone, hsame, h before out rest hbefore hjoins]
        rfl
      · rw [getLast?_of_forall hmore.only hnone]
        rfl

end Publication
