import WebosFramework.Items.RibbonPresses

/-!
# Key presses that are postponed

A press that waits for the ribbon to come to rest is carried out when the animation that runs has
come to its end, and may start the next one. `goal` is the place where all this leads, and an
operation is measured by what it does to the goal.

**`nothing_postponed_iff`**: a ribbon that does not scroll has no presses waiting, just in case no
animation is stopped before its end for good while presses wait for it, nor ends in a state of
automatic scrolling.

**`rests_at_goal`**: the presses are carried out one by one, as if the ribbon went there at once.

The argument is in three layers. A press is a step of the index (`KeyDirection.advance`), and
presses that wait are steps still to be made, so the goal is found by making them all. Running
what is postponed keeps the goal, by induction on the actions that wait (`carried_runPostponed`).
Every operation keeps the invariant and says what becomes of the presses that wait (`performed`),
and both theorems follow by induction on the run.
-/

namespace Eos

open EventLoop

/-! ## Where the presses lead

A press is a step of the index, and presses that wait are steps that are still to be made. This
part is about indexes only: where steps lead, when they are in vain, and when a step goes away
from where the others lead. -/

namespace KeyDirection

/-- One place further, if there is one. The two conditions are those of `scrollToPrevIndex` and
`scrollToNextIndex`, so that a place beyond the ends is treated as the source does. -/
def advance (count : Int) : KeyDirection → Int → Int
  | .prev, index => if index ≤ 0 then index else index - 1
  | .next, index => if index = count - 1 then index else index + 1

/-- Several steps, one after the other. -/
def advances (count : Int) (actions : List KeyDirection) (index : Int) : Int :=
  actions.foldl (fun index action => action.advance count index) index

/-- A step in this direction leads away from the goal, which is on the other side of the index. -/
def turns : KeyDirection → Int → Int → Bool
  | .prev, index, goal => index < goal
  | .next, index, goal => goal < index

variable {count index goal : Int}

theorem advance_prev :
    prev.advance count index = if index ≤ 0 then index else index - 1 := rfl

theorem advance_next :
    next.advance count index = if index = count - 1 then index else index + 1 := rfl

/-- A step that does not lead away from the goal has the goal before it or is there, so a step in
the other direction turns, unless the ribbon is at the goal. -/
theorem turns_of_ne {action direction : KeyDirection} (hne : action ≠ direction)
    (h : action.turns index goal = false) : direction.turns index goal = true ∨ goal = index := by
  cases action <;> cases direction <;>
    simp only [turns, decide_eq_false_iff_not, decide_eq_true_eq, ne_eq, not_true_eq_false]
      at h hne ⊢ <;> omega

/-- If a step does not overshoot the goal, the goal was before it or there. -/
theorem turns_advance {action : KeyDirection}
    (h : action.turns (action.advance count index) goal = false) :
    action.turns index goal = false := by
  cases action with
  | prev =>
    have hle : ¬ (if index ≤ 0 then index else index - 1) < goal := of_decide_eq_false h
    refine decide_eq_false ?_
    split at hle <;> omega
  | next =>
    have hle : ¬ goal < (if index = count - 1 then index else index + 1) := of_decide_eq_false h
    refine decide_eq_false ?_
    split at hle <;> omega

/-- Going on does not turn: after any number of steps in one direction the goal lies in that
direction. By induction on the steps, of which the first is undone by `turns_advance`. -/
theorem turns_advances (action : KeyDirection) (n : Nat) (index : Int) :
    action.turns index (advances count (List.replicate n action) index) = false := by
  induction n generalizing index with
  | zero => cases action <;> exact decide_eq_false (Int.lt_irrefl index)
  | succ n ih => exact turns_advance (ih (action.advance count index))

/-- At an end, going on is in vain, however often the key is pressed. -/
theorem advances_of_advance_eq {action : KeyDirection} (h : action.advance count index = index)
    (n : Nat) : advances count (List.replicate n action) index = index := by
  induction n with
  | zero => rfl
  | succ n ih =>
    show advances count (List.replicate n action) (action.advance count index) = index
    rw [h, ih]

/-- A press that joins the others is the last step. -/
theorem advances_concat (actions : List KeyDirection) (action : KeyDirection) (index : Int) :
    advances count (actions ++ [action]) index =
      action.advance count (advances count actions index) := by
  unfold advances
  rw [List.foldl_append]
  rfl

section

variable {α : Type} {r : Ribbon α} {s : ScrollState} {direction : KeyDirection}
  (hcurrent : -1 ≤ r.currentIndex ∧ r.currentIndex < r.count)

/-- A step back is in vain just where `scrollToPrevIndex` returns early. -/
theorem advance_prev_eq_iff : prev.advance count index = index ↔ index ≤ 0 := by
  rw [advance_prev]
  split <;> omega

/-- A step forward is in vain just where `scrollToNextIndex` returns early. -/
theorem advance_next_eq_iff : next.advance count index = index ↔ index = count - 1 := by
  rw [advance_next]
  split <;> omega

/-- The early return, for a step in vain or while the ribbon scrolls by itself: the presses that
wait are called off, and nothing else happens but that the event may not be accepted. -/
theorem callback_vain (hasEvent : Bool)
    (h : s.autoScrolling = true ∨ direction.advance r.count r.currentIndex = r.currentIndex) :
    ∃ actions, (actions = [] ∨ actions = [.notAccepted]) ∧
      direction.callback r s hasEvent = (r, actions ++ [.clearPostponed]) := by
  cases direction with
  | prev =>
    rw [advance_prev_eq_iff] at h
    refine ⟨if hasEvent = true ∧ r.currentIndex ≤ 0 then [.notAccepted] else [],
      (ite_eq_or_eq _ _ _).symm, ?_⟩
    exact if_pos (.inr h.symm)
  | next =>
    rw [advance_next_eq_iff] at h
    refine ⟨if hasEvent = true ∧ r.currentIndex = r.count - 1 then [.notAccepted] else [],
      (ite_eq_or_eq _ _ _).symm, ?_⟩
    exact if_pos (.inr h.symm)

include hcurrent

/-- Steps stay within the rows. The index -1 of an empty view stays what it is. -/
theorem advance_mem (direction : KeyDirection) :
    -1 ≤ direction.advance r.count r.currentIndex ∧
      direction.advance r.count r.currentIndex < r.count := by
  cases direction with
  | prev =>
    rw [advance_prev]
    split <;> omega
  | next =>
    rw [advance_next]
    split <;> omega

/-- A step that is not in vain waits while an animation runs. -/
theorem callback_postponed (hasEvent : Bool) (hauto : s.autoScrolling = false)
    (hgoes : direction.advance r.count r.currentIndex ≠ r.currentIndex)
    (hactive : s.scrollingActive = true) :
    direction.callback r s hasEvent = (r, [.addPostponed]) := by
  cases direction with
  | prev =>
    rw [ne_eq, advance_prev_eq_iff] at hgoes
    have hearly : ¬ (r.count = 0 ∨ r.currentIndex ≤ 0 ∨ s.autoScrolling = true) := by
      rw [hauto]
      simp only [Bool.false_eq_true, or_false]
      omega
    exact (if_neg hearly).trans (if_pos hactive)
  | next =>
    rw [ne_eq, advance_next_eq_iff] at hgoes
    have hearly : ¬ (r.count = 0 ∨ r.currentIndex = r.count - 1 ∨ s.autoScrolling = true) := by
      rw [hauto]
      simp only [Bool.false_eq_true, or_false]
      omega
    exact (if_neg hearly).trans (if_pos hactive)

/-- A step that is not in vain and need not wait is made, and the view is asked to show the new
current item. The range of the index is needed as the view itself counts up and down, with
conditions of its own. -/
theorem callback_goes (hasEvent : Bool) (hauto : s.autoScrolling = false)
    (hgoes : direction.advance r.count r.currentIndex ≠ r.currentIndex)
    (hactive : s.scrollingActive = false) :
    direction.callback r s hasEvent =
      ({ r with currentIndex := direction.advance r.count r.currentIndex },
        [.ensureItemVisible]) := by
  have hstands : ¬ s.scrollingActive = true := Bool.eq_false_iff.mp hactive
  -- the two directions differ in which end of the list holds the index back
  cases direction with
  | prev =>
    rw [ne_eq, advance_prev_eq_iff] at hgoes
    have hearly : ¬ (r.count = 0 ∨ r.currentIndex ≤ 0 ∨ s.autoScrolling = true) := by
      rw [hauto]
      simp only [Bool.false_eq_true, or_false]
      omega
    -- the view decrements the index by itself, as there is a place before it
    have hdecrement : r.decrementCurrentIndex = { r with currentIndex := r.currentIndex - 1 } :=
      if_pos ⟨by omega, by omega⟩
    rw [advance_prev, if_neg hgoes, ← hdecrement]
    exact (if_neg hearly).trans ((if_neg hstands).trans rfl)
  | next =>
    rw [ne_eq, advance_next_eq_iff] at hgoes
    have hearly : ¬ (r.count = 0 ∨ r.currentIndex = r.count - 1 ∨ s.autoScrolling = true) := by
      rw [hauto]
      simp only [Bool.false_eq_true, or_false]
      omega
    have hincrement : r.incrementCurrentIndex = { r with currentIndex := r.currentIndex + 1 } := by
      refine (if_pos ⟨by omega, by omega⟩).trans ?_
      rw [if_pos (by omega)]
      rfl
    rw [advance_next, if_neg hgoes, ← hincrement]
    exact (if_neg hearly).trans ((if_neg hstands).trans rfl)

end

end KeyDirection

namespace RibbonPresses

variable {α : Type}

/-- Where the ribbon will be when no more keys are pressed: the presses that wait, made from where
it is. -/
def goal (s : RibbonPresses α) : Int :=
  KeyDirection.advances s.ribbon.count s.postponedActions s.ribbon.currentIndex

/-- What holds of the ribbon after each event. -/
structure Inv (s : RibbonPresses α) : Prop where
  /-- All presses that wait have one direction, as `addPostponed` sees to it. -/
  uniform : ∃ action n, s.postponedActions = List.replicate n action
  /-- That a key is to stop the animation is remembered only until it has been stopped. -/
  stopByKey : s.running = true → s.stopByKey = false
  /-- The current item exists, or there is none. -/
  current : -1 ≤ s.ribbon.currentIndex ∧ s.ribbon.currentIndex < s.ribbon.count

/-- The step is made. -/
def setCurrentIndex (s : RibbonPresses α) (index : Int) : RibbonPresses α :=
  { s with ribbon := { s.ribbon with currentIndex := index } }

/-- What becomes of a press: it is in vain, it waits, or it is carried out. This is all that is
used of `scrollToPrevIndex` and `scrollToNextIndex` from here on. -/
theorem scrollToIndex_eq {s : RibbonPresses α} (v : KeySurroundings) (direction : KeyDirection)
    (hasEvent : Bool) (k : RibbonPresses α → RibbonPresses α)
    (hcurrent : -1 ≤ s.ribbon.currentIndex ∧ s.ribbon.currentIndex < s.ribbon.count) :
    s.scrollToIndex v direction hasEvent k =
      if s.state ≠ .idle ∨
          direction.advance s.ribbon.count s.ribbon.currentIndex = s.ribbon.currentIndex then
        s.setPostponedActions []
      else if s.running then s.addPostponed direction
      else ensureItemVisible v
        (s.setCurrentIndex (direction.advance s.ribbon.count s.ribbon.currentIndex)) k := by
  unfold scrollToIndex
  split
  · rename_i hvain
    obtain ⟨actions, hactions, heq⟩ := KeyDirection.callback_vain (s := s.scrollState)
      hasEvent (hvain.imp_left decide_eq_true)
    rw [heq]
    rcases hactions with rfl | rfl <;> rfl
  · rename_i hgoes
    obtain ⟨hidle, hgoes⟩ := not_or.mp hgoes
    have hauto : s.scrollState.autoScrolling = false := decide_eq_false hidle
    split
    · rename_i hrunning
      rw [KeyDirection.callback_postponed hcurrent hasEvent hauto hgoes hrunning]
      rfl
    · rename_i hstands
      rw [KeyDirection.callback_goes hcurrent hasEvent hauto hgoes (Bool.not_eq_true _ ▸ hstands)]
      rfl

/-! ## Carrying out what has been postponed

`runPostponed` makes one step after the other as long as the item that comes can be seen without
scrolling. It ends when there are no more presses, when a step is in vain, which calls off those
that are left, or when it has started an animation, the end of which will run it again. -/

/-- What stays when the postponed actions are run, with the conditions on `scrollAni`. -/
structure Carried (v : KeySurroundings) (s s' : RibbonPresses α) : Prop where
  state : s'.state = s.state
  model : s'.ribbon.model = s.ribbon.model
  goal : s'.goal = s.goal
  inv : s'.Inv
  /-- Either nothing waits, or an animation runs that will see to it. -/
  finished : v.refuses = false → s'.running = true ∨ s'.postponedActions = []
  /-- An animation has been started by one of the steps, which is made and does not wait any more.
  -/
  shorter : s'.running = true → s'.postponedActions.length < s.postponedActions.length

/-- Running what is postponed keeps the goal: each step moves the index by what it takes from the
list. A step in vain calls off the steps that are left, which are in vain as well, since all of
them go in one direction. By induction on the number of steps, for any index the ribbon is at. -/
theorem carried_runPostponed (v : KeySurroundings) (action : KeyDirection) (n : Nat)
    (s : RibbonPresses α) (hinv : s.Inv) (hstands : s.running = false) (hidle : s.state = .idle)
    (hpostponed : s.postponedActions = List.replicate n action) :
    Carried v s (runPostponed v (List.replicate n action) s) := by
  -- nothing waits any more
  induction n generalizing s with
  | zero =>
    exact ⟨rfl, rfl, rfl, hinv, fun _ => .inr hpostponed,
      fun hrunning => absurd hrunning (Bool.eq_false_iff.mp hstands)⟩
  | succ n ih =>
    show Carried v s ((s.setPostponedActions (List.replicate n action)).scrollToIndex v action false
      (runPostponed v (List.replicate n action)))
    have hgoal : s.goal = KeyDirection.advances s.ribbon.count (List.replicate (n + 1) action)
        s.ribbon.currentIndex := by
      unfold goal
      rw [hpostponed]
    have hlength : s.postponedActions.length = n + 1 := by simp [hpostponed]
    rw [scrollToIndex_eq (s := s.setPostponedActions (List.replicate n action)) v action false _
      hinv.current]
    split
    · rename_i hvain
      -- the steps that are called off would not have moved the index either
      have hfixed := hvain.resolve_left (not_not.mpr hidle)
      refine ⟨rfl, rfl, ?_, ⟨⟨action, 0, rfl⟩, hinv.stopByKey, hinv.current⟩, fun _ => .inr rfl,
        fun hrunning => absurd hrunning (Bool.eq_false_iff.mp hstands)⟩
      rw [hgoal]
      exact (KeyDirection.advances_of_advance_eq hfixed (n + 1)).symm
    · have hnot : ¬ (s.setPostponedActions (List.replicate n action)).running = true :=
        Bool.eq_false_iff.mp hstands
      rw [if_neg hnot]
      -- the action is carried out
      generalize hnext : (s.setPostponedActions (List.replicate n action)).setCurrentIndex _ = next
      have hinv' : next.Inv := by
        rw [← hnext]
        exact ⟨⟨action, n, rfl⟩, hinv.stopByKey, KeyDirection.advance_mem hinv.current action⟩
      have hgoal' : next.goal = s.goal := by
        rw [hgoal, ← hnext]
        rfl
      have hsame : next.state = s.state ∧ next.ribbon.model = s.ribbon.model ∧
          next.running = s.running ∧ next.postponedActions = List.replicate n action := by
        rw [← hnext]
        exact ⟨rfl, rfl, rfl, rfl⟩
      obtain ⟨hstate, hmodel, hrunning, hrest⟩ := hsame
      -- the item can be seen and the run goes on, or an animation is started and it ends
      unfold ensureItemVisible
      split
      · have hcarried := ih next hinv' (hrunning.trans hstands) (hstate.trans hidle) hrest
        refine ⟨hcarried.state.trans hstate, hcarried.model.trans hmodel,
          hcarried.goal.trans hgoal', hcarried.inv, hcarried.finished, fun h => ?_⟩
        have hshorter := hcarried.shorter h
        rw [hrest, List.length_replicate] at hshorter
        omega
      · unfold scrollTo
        split
        · rename_i hrefuses
          exact ⟨hstate, hmodel, hgoal', hinv',
            fun h => absurd hrefuses (Bool.eq_false_iff.mp h),
            fun h => absurd (hrunning ▸ h) (Bool.eq_false_iff.mp hstands)⟩
        · refine ⟨hstate, hmodel, hgoal', ⟨hinv'.uniform, fun _ => rfl, hinv'.current⟩,
            fun _ => .inl rfl, fun _ => ?_⟩
          show next.postponedActions.length < _
          rw [hrest, List.length_replicate, hlength]
          exact Nat.lt_succ_self n

/-- The same for the actions that wait in the state, which have one direction by the invariant. -/
theorem Inv.carried {v : KeySurroundings} {s : RibbonPresses α} (hinv : s.Inv)
    (hstands : s.running = false) (hidle : s.state = .idle) :
    Carried v s (runPostponed v s.postponedActions s) := by
  obtain ⟨action, n, huniform⟩ := hinv.uniform
  rw [huniform]
  exact carried_runPostponed v action n s hinv hstands hidle huniform

/-! ## Stopping

When an animation stops, what waits is run or is left. It is left when the animation has been
stopped before its end, and when the ribbon was scrolling by itself; this is what the condition of
`nothing_postponed_iff` is about. -/

/-- Presses wait only while an animation runs. -/
def Served (s : RibbonPresses α) : Prop := s.running = true ∨ s.postponedActions = []

/-- The postponed actions are run when the animation stops. -/
def RunsPostponed (v : KeySurroundings) (s : RibbonPresses α) : Prop :=
  s.state = .idle ∧ (v.arrived = true ∨ s.stopByKey = true ∧ v.targetVisible = true)

/-- What a stop keeps, and what is left waiting after it. -/
structure Stopped (v : KeySurroundings) (s s' : RibbonPresses α) : Prop where
  inv : s'.Inv
  model : s'.ribbon.model = s.ribbon.model
  goal : s'.goal = s.goal
  served : v.refuses = false → (s'.Served ↔ s.RunsPostponed v ∨ s.postponedActions = [])
  state : s'.state = if v.arrived then .idle else s.state
  shorter : s'.running = true → s'.postponedActions.length < s.postponedActions.length

/-- `scrollAni` does not run any more. -/
def halt (s : RibbonPresses α) : RibbonPresses α := { s with running := false }

section

variable {v : KeySurroundings} {s : RibbonPresses α}

/-- A stop that runs the presses that wait does nothing else. -/
theorem onStopped_of_runs (h : s.RunsPostponed v) :
    s.onStopped v = { runPostponed v s.postponedActions s.halt with stopByKey := false } := by
  obtain ⟨hidle, hruns⟩ := h
  unfold onStopped
  cases harrived : v.arrived with
  | true =>
    simp only [if_pos hidle]
    rfl
  | false =>
    obtain ⟨hkey, hvisible⟩ := hruns.resolve_left (Bool.eq_false_iff.mp harrived)
    simp only [forceItemVisible, if_pos hkey, if_pos hvisible]
    rfl

/-- A stop that does not run them only leaves the state of scrolling, if the animation has
arrived. -/
theorem onStopped_of_not_runs (h : ¬ s.RunsPostponed v)
    (hkey : s.stopByKey = true → s.state = .idle) :
    s.onStopped v =
      { s.halt with state := if v.arrived then .idle else s.state, stopByKey := false } := by
  unfold onStopped
  cases harrived : v.arrived with
  | true =>
    have hauto : ¬ s.state = .idle := fun hidle => h ⟨hidle, .inl harrived⟩
    simp only [if_neg hauto]
    rfl
  | false =>
    by_cases hstop : s.stopByKey = true
    · have hhidden : ¬ v.targetVisible = true := fun hvisible =>
        h ⟨hkey hstop, .inr ⟨hstop, hvisible⟩⟩
      simp only [forceItemVisible, if_pos hstop, if_neg hhidden]
      rfl
    · simp only [if_neg hstop]
      rfl

/-- The animation stops. -/
theorem stopped_onStopped (hinv : s.halt.Inv) (hkey : s.stopByKey = true → s.state = .idle) :
    Stopped v s (s.onStopped v) := by
  by_cases hruns : s.RunsPostponed v
  · have hcarried : Carried v s.halt (runPostponed v s.postponedActions s.halt) :=
      hinv.carried rfl hruns.1
    rw [onStopped_of_runs hruns]
    refine ⟨⟨hcarried.inv.uniform, fun _ => rfl, hcarried.inv.current⟩, hcarried.model,
      hcarried.goal, fun hrefuses => iff_of_true (hcarried.finished hrefuses) (.inl hruns), ?_,
      hcarried.shorter⟩
    refine hcarried.state.trans ?_
    rw [hruns.1, ite_self]
    exact hruns.1
  · rw [onStopped_of_not_runs hruns hkey]
    refine ⟨⟨hinv.uniform, fun _ => rfl, hinv.current⟩, rfl, rfl, fun _ => ?_, rfl,
      fun hrunning => Bool.noConfusion hrunning⟩
    constructor
    · exact fun hserved => .inr (hserved.resolve_left Bool.false_ne_true)
    · exact fun hserved => .inr (hserved.resolve_left hruns)

/-- An animation that does not run is not waiting for a key to be noticed. -/
theorem Inv.halt (hinv : s.Inv) : s.halt.Inv :=
  ⟨hinv.uniform, fun hrunning => Bool.noConfusion hrunning, hinv.current⟩

/-- What `scrollAni.stop()` keeps. -/
theorem inv_stop (hinv : s.Inv) : (s.stop v).Inv ∧ (s.stop v).ribbon.model = s.ribbon.model ∧
    (s.stop v).goal = s.goal := by
  unfold stop
  split
  · rename_i hrunning
    have hstopped : Stopped v s (s.onStopped v) := stopped_onStopped hinv.halt fun hkey =>
      absurd hkey (Bool.eq_false_iff.mp (hinv.stopByKey hrunning))
    exact ⟨hstopped.inv, hstopped.model, hstopped.goal⟩
  · exact ⟨hinv, rfl, rfl⟩

/-- Starting an animation changes neither the presses nor the index. -/
theorem inv_start (hinv : s.Inv) : s.start.Inv := ⟨hinv.uniform, fun _ => rfl, hinv.current⟩

/-- Going over to automatic scrolling stops the animation that runs, which may run what waits, and
starts another. The presses are served as before, since an animation runs in any case. -/
theorem inv_autoscroll (hinv : s.Inv) {newState : RibbonState} (hauto : newState ≠ .idle) :
    (s.gotoState v newState).Inv ∧ (s.gotoState v newState).ribbon.model = s.ribbon.model ∧
      (s.gotoState v newState).goal = s.goal ∧
      (v.refuses = false → s.Served → (s.gotoState v newState).Served) := by
  unfold gotoState
  split
  · exact ⟨hinv, rfl, rfl, fun _ h => h⟩
  · obtain ⟨hstop, hmodel, hgoal⟩ := inv_stop (v := v) hinv
    have hset : ({ s.stop v with state := newState } : RibbonPresses α).Inv :=
      ⟨hstop.uniform, hstop.stopByKey, hstop.current⟩
    unfold scrollTo
    split
    · rename_i hrefuses
      exact ⟨hset, hmodel, hgoal, fun h => absurd hrefuses (Bool.eq_false_iff.mp h)⟩
    · exact ⟨inv_start hset, hmodel, hgoal, fun _ _ => .inl rfl⟩

/-- An automatic scrolling is stopped. As the state is left first, the end of the animation runs
what waits if the animation has arrived, or if a key has stopped it with the item in sight. -/
theorem inv_stopScrolling (hinv : s.halt.Inv) (hauto : s.state ≠ .idle) :
    (s.gotoState v .idle).Inv ∧ (s.gotoState v .idle).ribbon.model = s.ribbon.model ∧
      (s.gotoState v .idle).goal = s.goal ∧
      (v.refuses = false → ((s.gotoState v .idle).Served ↔ s.postponedActions = [] ∨
        s.running = true ∧ (v.arrived = true ∨ s.stopByKey = true ∧ v.targetVisible = true))) := by
  unfold gotoState stop
  rw [if_neg (Ne.symm hauto), if_pos rfl]
  split
  · rename_i hrunning
    have hset : ({ s with state := .idle } : RibbonPresses α).halt.Inv :=
      ⟨hinv.uniform, hinv.stopByKey, hinv.current⟩
    have hstopped := stopped_onStopped (v := v) hset fun _ => rfl
    refine ⟨hstopped.inv, hstopped.model, hstopped.goal, fun hrefuses => ?_⟩
    rw [hstopped.served hrefuses, or_comm]
    refine or_congr_right ⟨fun hruns => ⟨hrunning, hruns.2⟩, fun hruns => ⟨rfl, hruns.2⟩⟩
  · rename_i hstands
    have hstands : s.running = false := Bool.eq_false_iff.mpr hstands
    refine ⟨⟨hinv.uniform, fun hrunning => ?_, hinv.current⟩, rfl, rfl, fun _ => ?_⟩
    · exact absurd hrunning (Bool.eq_false_iff.mp hstands)
    · unfold Served
      simp [hstands]

/-! ## Pressing

A press changes the goal, and it is the only operation on the presses themselves that does. The
goal moves by one step from where it was; if the step leads away from it, the presses that wait
are called off and it moves from where the ribbon is. -/

/-- After a step that has been made at once the current item is shown, or an animation to it runs.
-/
theorem inv_ensureItemVisible (hinv : s.Inv) (hstands : s.running = false)
    (hidle : s.state = .idle) :
    let s' := ensureItemVisible v s fun s => runPostponed v s.postponedActions s
    s'.Inv ∧ s'.ribbon.model = s.ribbon.model ∧ s'.goal = s.goal ∧
      (v.refuses = false → s'.Served) := by
  intro s'
  by_cases hvisible : v.visible s.ribbon.currentIndex = true
  · have hs' : s' = runPostponed v s.postponedActions s := if_pos hvisible
    have hcarried : Carried v s s' := hs' ▸ hinv.carried hstands hidle
    exact ⟨hcarried.inv, hcarried.model, hcarried.goal, hcarried.finished⟩
  · have hs' : s' = s.scrollTo v := if_neg hvisible
    rw [hs']
    unfold scrollTo
    split
    · rename_i hrefuses
      exact ⟨hinv, rfl, rfl, fun h => absurd hrefuses (Bool.eq_false_iff.mp h)⟩
    · exact ⟨inv_start hinv, rfl, rfl, fun _ => .inl rfl⟩

/-- An action that joins others or takes their place leaves actions of one kind. -/
theorem uniform_addPostponed (hinv : s.Inv) (direction : KeyDirection) :
    ∃ action n, (s.addPostponed direction).postponedActions = List.replicate n action := by
  obtain ⟨action, n, huniform⟩ := hinv.uniform
  unfold addPostponed
  split
  · rename_i hsame
    refine ⟨direction, n + 1, ?_⟩
    show s.postponedActions ++ [direction] = _
    cases n with
    | zero =>
      rw [huniform]
      rfl
    | succ n =>
      rw [huniform] at hsame ⊢
      have hhead := hsame.resolve_left (List.cons_ne_nil _ _)
      rw [Option.some.inj hhead, ← List.replicate_succ']
  · exact ⟨direction, 1, rfl⟩

/-- The goal after a press that waits. If the press is of the kind that waits, it adds a step to
the goal; if it is not, it turns, and the goal is one step from where the ribbon is. If nothing
waits, both are the same. -/
theorem goal_addPostponed (hinv : s.Inv) (direction : KeyDirection) :
    (s.addPostponed direction).goal = direction.advance s.ribbon.count
      (if direction.turns s.ribbon.currentIndex s.goal then s.ribbon.currentIndex else s.goal) := by
  obtain ⟨action, n, huniform⟩ := hinv.uniform
  have hgoal : s.goal = KeyDirection.advances s.ribbon.count (List.replicate n action)
      s.ribbon.currentIndex := by
    unfold goal
    rw [huniform]
  have hturns : action.turns s.ribbon.currentIndex s.goal = false :=
    hgoal ▸ KeyDirection.turns_advances action n _
  -- the action joins the others, or takes their place
  by_cases hsame : s.postponedActions = [] ∨ s.postponedActions.head? = some direction
  · have hadd : s.addPostponed direction =
        s.setPostponedActions (s.postponedActions ++ [direction]) := by
      unfold addPostponed
      rw [if_pos hsame]
    have hnot : direction.turns s.ribbon.currentIndex s.goal = false := by
      cases n with
      | zero =>
        rw [hgoal]
        exact KeyDirection.turns_advances direction 0 _
      | succ n =>
        rw [huniform] at hsame
        have hhead := hsame.resolve_left (List.cons_ne_nil _ _)
        exact Option.some.inj hhead ▸ hturns
    rw [hadd, hnot]
    exact KeyDirection.advances_concat _ _ _
  · have hadd : s.addPostponed direction = s.setPostponedActions [direction] := by
      unfold addPostponed
      rw [if_neg hsame]
    have hne : action ≠ direction := by
      rintro rfl
      rw [huniform] at hsame
      cases n with
      | zero => exact hsame (.inl rfl)
      | succ n => exact hsame (.inr rfl)
    rw [hadd]
    rcases KeyDirection.turns_of_ne hne hturns with hturn | hhere
    · rw [hturn]
      rfl
    · rw [hhere, ite_self]
      rfl

/-- At an end the goal is there, or it is in the other direction: in both cases a press that is in
vain calls off the presses that wait and makes where the ribbon is the goal. -/
theorem goal_vain (hinv : s.Inv) {direction : KeyDirection}
    (hfixed : direction.advance s.ribbon.count s.ribbon.currentIndex = s.ribbon.currentIndex) :
    s.ribbon.currentIndex = direction.advance s.ribbon.count
      (if direction.turns s.ribbon.currentIndex s.goal then s.ribbon.currentIndex else s.goal) := by
  obtain ⟨action, n, huniform⟩ := hinv.uniform
  have hgoal : s.goal = KeyDirection.advances s.ribbon.count (List.replicate n action)
      s.ribbon.currentIndex := by
    unfold goal
    rw [huniform]
  have hhere : (if direction.turns s.ribbon.currentIndex s.goal then s.ribbon.currentIndex
      else s.goal) = s.ribbon.currentIndex := by
    split
    · rfl
    · rename_i hturns
      by_cases hne : action = direction
      · rw [hgoal, hne]
        exact KeyDirection.advances_of_advance_eq hfixed n
      · have hsame : action.turns s.ribbon.currentIndex s.goal = false :=
          hgoal ▸ KeyDirection.turns_advances action n _
        exact (KeyDirection.turns_of_ne hne hsame).resolve_left hturns
  rw [hhere, hfixed]

/-- The goal after a press. It moves one place, from where the ribbon is if the press turns; while
the ribbon scrolls by itself a press only calls off the presses that wait. -/
def pressed (s : RibbonPresses α) (direction : KeyDirection) : Int :=
  if s.state = .idle then
    direction.advance s.ribbon.count
      (if direction.turns s.ribbon.currentIndex s.goal then s.ribbon.currentIndex else s.goal)
  else s.ribbon.currentIndex

/-- A press keeps the invariant and moves the goal as `pressed` says, whether it is in vain, waits
or is carried out at once. -/
theorem inv_press (hinv : s.Inv) (direction : KeyDirection) :
    (s.press v direction).Inv ∧ (s.press v direction).ribbon.model = s.ribbon.model ∧
      (s.Served → (s.press v direction).goal = s.pressed direction) ∧
      (v.refuses = false → s.Served → (s.press v direction).Served) := by
  unfold press
  rw [scrollToIndex_eq (s := { s with scrollByKey := false }) v direction true _ hinv.current]
  split
  · -- the press has no effect but to call the waiting ones off
    rename_i hvain
    refine ⟨⟨⟨direction, 0, rfl⟩, hinv.stopByKey, hinv.current⟩, rfl, fun _ => ?_,
      fun _ _ => .inr rfl⟩
    show s.ribbon.currentIndex = s.pressed direction
    unfold pressed
    split
    · rename_i hidle
      exact goal_vain hinv (hvain.resolve_left (not_not.mpr hidle))
    · rfl
  · rename_i hgoes
    have hidle : s.state = .idle := not_not.mp fun hauto => hgoes (.inl hauto)
    have hpressed : s.pressed direction = direction.advance s.ribbon.count
        (if direction.turns s.ribbon.currentIndex s.goal then s.ribbon.currentIndex else s.goal) :=
      if_pos hidle
    split
    -- it waits, or it is carried out at once
    · rename_i hrunning
      refine ⟨⟨uniform_addPostponed hinv direction, hinv.stopByKey, hinv.current⟩, rfl, fun _ => ?_,
        fun _ _ => .inl hrunning⟩
      rw [hpressed]
      exact goal_addPostponed hinv direction
    · rename_i hrunning
      have hstands : s.running = false := Bool.eq_false_iff.mpr hrunning
      generalize hnext : RibbonPresses.setCurrentIndex _ _ = next
      have hinv' : next.Inv := by
        rw [← hnext]
        exact ⟨hinv.uniform, hinv.stopByKey, KeyDirection.advance_mem hinv.current direction⟩
      have hsame : next.state = s.state ∧ next.ribbon.model = s.ribbon.model ∧
          next.running = s.running := by
        rw [← hnext]
        exact ⟨rfl, rfl, rfl⟩
      obtain ⟨hstate, hmodel, hrun⟩ := hsame
      obtain ⟨hensured, hmodel', hgoal', hserved⟩ :=
        inv_ensureItemVisible (v := v) hinv' (hrun.trans hstands) (hstate.trans hidle)
      refine ⟨hensured, hmodel'.trans hmodel, fun h => ?_, fun hrefuses _ => hserved hrefuses⟩
      -- nothing waits, so the ribbon is at its goal
      have hempty : s.postponedActions = [] := h.resolve_left hrunning
      have hgoal : s.goal = s.ribbon.currentIndex := by
        unfold goal
        rw [hempty]
        rfl
      rw [hgoal', hpressed, hgoal, ite_self, ← hnext]
      show KeyDirection.advances _ s.postponedActions _ = _
      rw [hempty]
      rfl

/-! ## Operations

Every event is one operation, so the conditions on events are stated for operations. `Serves` is
the condition that no animation ends for good while presses wait. -/

/-- No animation ends for good while presses wait, or they are carried out then. For each
operation that can stop an animation this says when the stop runs what waits, and it is a
condition on the state before the operation and on what the handler finds. -/
def Operation.Serves (v : KeySurroundings) (s : RibbonPresses α) : Operation → Prop
  | .stop => s.running = true → ¬ (s.state = .idle ∧ v.arrived = true) → s.postponedActions = []
  | .stopScrolling => s.running = true → s.state ≠ .idle → v.arrived = false →
      s.postponedActions = []
  | .release isAutoRepeat => isAutoRepeat = false → s.running = true → s.state ≠ .idle →
      v.arrived = false → v.targetVisible = false → s.postponedActions = []
  | _ => True

/-- What an operation keeps, and whether presses are served after it. -/
structure Performed (v : KeySurroundings) (s s' : RibbonPresses α) (serves : Prop) : Prop where
  inv : s'.Inv
  model : s'.ribbon.model = s.ribbon.model
  served : v.refuses = false → s.Served → (s'.Served ↔ serves)

/-- A stop from outside, or the end of an animation. A key is not what stops it here, by the
invariant. -/
theorem performed_stop (hinv : s.Inv) :
    Performed v s (s.stop v) (Operation.stop.Serves v s) ∧ (s.stop v).goal = s.goal := by
  obtain ⟨hstop, hmodel, hgoal⟩ := inv_stop (v := v) hinv
  refine ⟨⟨hstop, hmodel, fun hrefuses hserved => ?_⟩, hgoal⟩
  unfold stop Operation.Serves
  split
  · rename_i hrunning
    have hkey := hinv.stopByKey hrunning
    have hstopped : Stopped v s (s.onStopped v) := stopped_onStopped hinv.halt fun h =>
      absurd h (Bool.eq_false_iff.mp hkey)
    rw [hstopped.served hrefuses]
    unfold RunsPostponed
    simp only [hkey, Bool.false_eq_true, false_and, or_false, hrunning, forall_const]
    exact or_iff_not_imp_left
  · rename_i hstands
    exact iff_of_true hserved fun hrunning => absurd hrunning hstands

/-- Stopping an automatic scrolling, with what `stopByKey` is then. The case that a key stops it
while the item to be shown is visible is left out of the condition, since what waits is served then.
-/
theorem performed_gotoState (hinv : s.halt.Inv) (hauto : s.state ≠ .idle) :
    Performed v s (s.gotoState v .idle) (s.running = true → v.arrived = false →
        (s.stopByKey = true → v.targetVisible = false) → s.postponedActions = []) ∧
      (s.gotoState v .idle).goal = s.goal := by
  obtain ⟨hstop, hmodel, hgoal, hserves⟩ := inv_stopScrolling (v := v) hinv hauto
  refine ⟨⟨hstop, hmodel, fun hrefuses hserved => ?_⟩, hgoal⟩
  rw [hserves hrefuses]
  constructor
  · rintro (hempty | ⟨-, harrived | ⟨hkey, hvisible⟩⟩) - hnot hhidden
    · exact hempty
    · exact absurd harrived (Bool.eq_false_iff.mp hnot)
    · exact absurd hvisible (Bool.eq_false_iff.mp (hhidden hkey))
  · intro hempty
    by_cases hrunning : s.running = true
    · by_contra hnot
      obtain ⟨hwaits, hruns⟩ := not_or.mp hnot
      obtain ⟨harrived, hhidden⟩ := not_or.mp fun h => hruns ⟨hrunning, h⟩
      exact hwaits (hempty hrunning (Bool.eq_false_iff.mpr harrived) fun hkey =>
        Bool.eq_false_iff.mpr fun hvisible => hhidden ⟨hkey, hvisible⟩)
    · exact .inl (hserved.resolve_left hrunning)

/-- `stopScrolling` from outside, which does not say that a key has stopped the ribbon. -/
theorem performed_stopScrolling (hinv : s.Inv) :
    Performed v s (s.stopScrolling v) (Operation.stopScrolling.Serves v s) ∧
      (s.stopScrolling v).goal = s.goal := by
  by_cases hidle : s.state = .idle
  · have hsame : s.stopScrolling v = s := if_pos hidle.symm
    rw [hsame]
    exact ⟨⟨hinv, rfl, fun _ hserved => iff_of_true hserved fun _ hauto => absurd hidle hauto⟩, rfl⟩
  · obtain ⟨⟨hstop, hmodel, hserves⟩, hgoal⟩ := performed_gotoState (v := v) hinv.halt hidle
    refine ⟨⟨hstop, hmodel, fun hrefuses hserved => ?_⟩, hgoal⟩
    refine (hserves hrefuses hserved).trans
      ⟨fun h hrunning _ hnot => ?_, fun h hrunning hnot _ => ?_⟩
    · exact h hrunning hnot fun hkey => absurd hkey (Bool.eq_false_iff.mp (hinv.stopByKey hrunning))
    · exact h hrunning hidle hnot

/-- A key that stops the ribbon says so first, and so what waits is run with the item in sight as
well. -/
theorem performed_release (hinv : s.Inv) (isAutoRepeat : Bool) :
    Performed v s (s.stopScrollingByKey v isAutoRepeat)
        ((Operation.release isAutoRepeat).Serves v s) ∧
      (s.stopScrollingByKey v isAutoRepeat).goal = s.goal := by
  by_cases hstops : isAutoRepeat = false ∧ s.state ≠ .idle
  · have heq : s.stopScrollingByKey v isAutoRepeat =
        ({ s with scrollByKey := false, stopByKey := true } : RibbonPresses α).gotoState v .idle :=
      if_pos hstops
    have hhalt : ({ s with scrollByKey := false, stopByKey := true } : RibbonPresses α).halt.Inv :=
      ⟨hinv.uniform, fun hrunning => Bool.noConfusion hrunning, hinv.current⟩
    obtain ⟨⟨hstop, hmodel, hserves⟩, hgoal⟩ := performed_gotoState (v := v) hhalt hstops.2
    rw [heq]
    refine ⟨⟨hstop, hmodel, fun hrefuses hserved => ?_⟩, hgoal⟩
    refine (hserves hrefuses hserved).trans ⟨fun h _ hrunning _ hnot hhidden => ?_,
      fun h hrunning hnot hhidden => ?_⟩
    · exact h hrunning hnot fun _ => hhidden
    · exact h hstops.1 hrunning hstops.2 hnot (hhidden rfl)
  · have heq : s.stopScrollingByKey v isAutoRepeat = { s with scrollByKey := false } :=
      if_neg hstops
    rw [heq]
    exact ⟨⟨⟨hinv.uniform, hinv.stopByKey, hinv.current⟩, rfl, fun _ hserved =>
      iff_of_true hserved fun hrelease _ hauto => absurd ⟨hrelease, hauto⟩ hstops⟩, rfl⟩

/-- Automatic scrolling, by a key or from outside: the goal stays, and the presses wait for its
end. -/
theorem performed_autoscroll (hinv : s.Inv) (newState : RibbonState) (hauto : newState ≠ .idle)
    (byKey : Bool) :
    Performed v s ((s.gotoState v newState).setScrollByKey byKey) True ∧
      ((s.gotoState v newState).setScrollByKey byKey).goal = s.goal := by
  obtain ⟨hinv', hmodel, hgoal, hserved⟩ := inv_autoscroll (v := v) hinv hauto
  unfold setScrollByKey
  split
  · exact ⟨⟨⟨hinv'.uniform, hinv'.stopByKey, hinv'.current⟩, hmodel,
      fun hrefuses h => iff_of_true (hserved hrefuses h) trivial⟩, hgoal⟩
  · exact ⟨⟨hinv', hmodel, fun hrefuses h => iff_of_true (hserved hrefuses h) trivial⟩, hgoal⟩

/-- **One operation** keeps the invariant, and presses are served after it as `Serves` says. An
index that is assigned has to be that of a row, as those are that the view finds. -/
theorem performed (hinv : s.Inv) (op : Operation)
    (hassigned : ∀ index, op = .assignCurrentIndex index → 0 ≤ index ∧ index < s.ribbon.count) :
    Performed v s (s.perform v op) (op.Serves v s) := by
  cases op with
  | press direction =>
    obtain ⟨hpress, hmodel, -, hserves⟩ := inv_press (v := v) hinv direction
    exact ⟨hpress, hmodel, fun hrefuses hserved => iff_of_true (hserves hrefuses hserved) trivial⟩
  | autoscrollLeft byKey =>
    exact (performed_autoscroll hinv .autoscrollingLeft (by decide) byKey).1
  | autoscrollRight byKey =>
    exact (performed_autoscroll hinv .autoscrollingRight (by decide) byKey).1
  | release isAutoRepeat => exact (performed_release hinv isAutoRepeat).1
  | stopScrolling => exact (performed_stopScrolling hinv).1
  | scrollBy =>
    obtain ⟨hstop, hmodel, -⟩ := inv_stop (v := v) hinv
    exact ⟨inv_start hstop, hmodel, fun _ _ => iff_of_true (.inl rfl) trivial⟩
  | stop => exact (performed_stop hinv).1
  | assignCurrentIndex index =>
    obtain ⟨hleast, hlast⟩ := hassigned index rfl
    exact ⟨⟨hinv.uniform, hinv.stopByKey, Int.le_trans (by decide) hleast, hlast⟩, rfl,
      fun _ hserved => iff_of_true hserved trivial⟩
  | nothing => exact ⟨hinv, rfl, fun _ hserved => iff_of_true hserved trivial⟩

/-- The goal after an operation. -/
def goalAfter (s : RibbonPresses α) : Operation → Int
  | .press direction => s.pressed direction
  | .assignCurrentIndex index =>
    KeyDirection.advances s.ribbon.count s.postponedActions index
  | _ => s.goal

/-- Every operation moves the goal as `goalAfter` says. Apart from presses and assigned indexes
all of them leave it where it is. -/
theorem goal_perform (hinv : s.Inv) (hserved : s.Served) (op : Operation) :
    (s.perform v op).goal = s.goalAfter op := by
  cases op with
  | press direction => exact (inv_press hinv direction).2.2.1 hserved
  | autoscrollLeft byKey =>
    exact (performed_autoscroll hinv .autoscrollingLeft (by decide) byKey).2
  | autoscrollRight byKey =>
    exact (performed_autoscroll hinv .autoscrollingRight (by decide) byKey).2
  | release isAutoRepeat => exact (performed_release hinv isAutoRepeat).2
  | stopScrolling => exact (performed_stopScrolling hinv).2
  | scrollBy => exact (inv_stop (v := v) hinv).2.2
  | stop => exact (performed_stop hinv).2
  | assignCurrentIndex index => rfl
  | nothing => rfl

end

/-! ## Runs

By induction over the run, with one operation for each event. -/

abbrev KeyHistory (α : Type) := History (RibbonPresses α) Event Empty

/-- The list view does not refuse to scroll. -/
def Scrolls (_ : KeyHistory α) (e : Event) : Prop := e.surroundings.refuses = false

/-- The condition of `nothing_postponed_iff` on one event, in terms of the operation that it comes
to. -/
def ServesPresses (h : KeyHistory α) (e : Event) : Prop :=
  (h.state.operation e).Serves e.surroundings h.state

/-- One event keeps the invariant. An index that it assigns is that of a row, as the view has
found it. -/
theorem step_keys (h : KeyHistory α) (e : Event) (hinv : h.state.Inv) :
    Performed e.surroundings h.state ((keys α).step h e).state (ServesPresses h e) := by
  rw [Machine.step_state]
  show Performed _ _ (h.state.handle e) _
  rw [handle_eq]
  exact performed hinv _ fun _ hop => h.state.operation_assignCurrentIndex hop

/-- A ribbon that stands still and has no presses waiting. -/
structure AtRest (s : RibbonPresses α) : Prop where
  running : s.running = false
  postponedActions : s.postponedActions = []
  current : -1 ≤ s.ribbon.currentIndex ∧ s.ribbon.currentIndex < s.ribbon.count

theorem AtRest.inv {s : RibbonPresses α} (h : s.AtRest) : s.Inv where
  uniform := ⟨.prev, 0, h.postponedActions⟩
  stopByKey hrunning := absurd hrunning (Bool.eq_false_iff.mp h.running)
  current := h.current

/-- **Nothing is postponed for good**: at every event boundary at which the ribbon does not scroll
no presses wait, just in case each animation that is stopped while presses wait is at its end, or
is one of an automatic scrolling that a key stops when the item to be shown is visible.

By `Machine.always_iff_admits`: as long as the presses are served, an event serves them in turn
just in case it meets the condition. -/
theorem nothing_postponed_iff (s : RibbonPresses α) (hs : s.AtRest) {es : List Event}
    (hes : (keys α).Admits Scrolls (.init s) es) :
    (keys α).Always (fun h => h.state.running = false → h.state.postponedActions = [])
        (.init s) es ↔
      (keys α).Admits ServesPresses (.init s) es := by
  have hserved : ∀ h : KeyHistory α, h.state.Served ↔
      (h.state.running = false → h.state.postponedActions = []) := by
    intro h
    unfold Served
    rw [or_iff_not_imp_left, Bool.not_eq_true]
  simp only [← hserved]
  exact Machine.always_iff_admits (fun h e hinv _ => (step_keys h e hinv).inv)
    (fun h e hinv hserved hscrolls => (step_keys h e hinv).served hscrolls hserved)
    hs.inv (.inr hs.postponedActions) hes

/-- The second of five places. -/
def fiveWide : RibbonPresses Char := { ribbon := ⟨['a', 'b', 'c', 'd', 'e'], 1, []⟩ }

/-- It has a current item, does not scroll, and no key has been pressed. -/
theorem atRest_fiveWide : fiveWide.AtRest := ⟨rfl, rfl, by decide⟩

/-- Three presses to the right, the first of which scrolls the ribbon, and one to the left. -/
def turnedPresses : List Event :=
  [.rightPressed { visible := fun _ => false } false, .rightPressed {} false,
    .rightPressed {} false, .leftPressed {} false]

/-- The first animation comes to its end while the press to the left waits; the press is carried
out, and the animation that it starts comes to its end as well, with nothing waiting for it. -/
theorem nothing_postponed_iff_turnedPresses :
    (keys Char).Always (fun h => h.state.running = false → h.state.postponedActions = [])
      (.init fiveWide) (turnedPresses ++
        [.stopped { arrived := true, visible := fun _ => false }, .stopped {}]) := by
  have hscrolls : (keys Char).Admits Scrolls (.init fiveWide) (turnedPresses ++
      [.stopped { arrived := true, visible := fun _ => false }, .stopped {}]) :=
    ⟨rfl, rfl, rfl, rfl, rfl, rfl, trivial⟩
  refine (nothing_postponed_iff fiveWide atRest_fiveWide hscrolls).mpr
    ⟨trivial, trivial, trivial, trivial, fun _ hearly => ?_, fun _ _ => rfl, trivial⟩
  exact absurd ⟨rfl, rfl⟩ hearly

/-! ## Following the presses

The goal is computed by a ribbon that goes at once where it is told to go. That the ribbon gets
there is an induction on the number of presses that wait. -/

/-- What moves the goal. -/
inductive Followed where
  /-- A key is pressed at an index. -/
  | press (direction : KeyDirection) (index : Int)
  | jump (index : Int)
  deriving DecidableEq

/-- A ribbon that goes at once to where it is told to go. -/
def Followed.after (count goal : Int) : Followed → Int
  | .press direction index =>
    direction.advance count (if direction.turns index goal then index else goal)
  | .jump index => index

/-- A press while the ribbon scrolls by itself only calls off the presses that wait. -/
def followed (s : RibbonPresses α) (e : Event) : Option Followed :=
  match s.operation e with
  | .press direction =>
    some (if s.state = .idle then .press direction s.ribbon.currentIndex
      else .jump s.ribbon.currentIndex)
  | .assignCurrentIndex index => some (.jump index)
  | _ => none

/-- The mouse does not change the index while presses wait. -/
def FollowsPresses (h : KeyHistory α) (e : Event) : Prop :=
  ServesPresses h e ∧
    ∀ index, h.state.operation e = .assignCurrentIndex index → h.state.postponedActions = []

/-- An event moves the goal as it moves a ribbon that goes there at once. For an index that is
assigned this needs that nothing waits, as the steps that wait would be made from the new index. -/
theorem goalAfter_eq (s : RibbonPresses α) (e : Event)
    (hjump : ∀ index, s.operation e = .assignCurrentIndex index → s.postponedActions = []) :
    s.goalAfter (s.operation e) =
      (s.followed e).toList.foldl (Followed.after s.ribbon.count) s.goal := by
  unfold followed
  cases hop : s.operation e with
  | press direction =>
    show s.pressed direction = Followed.after s.ribbon.count s.goal (if _ then _ else _)
    rw [apply_ite (Followed.after s.ribbon.count s.goal)]
    rfl
  | assignCurrentIndex index =>
    show KeyDirection.advances _ s.postponedActions _ = _
    rw [hjump index hop]
    rfl
  | autoscrollLeft | autoscrollRight | release | stopScrolling | scrollBy | stop | nothing => rfl

/-- Over a run the goal is where a ribbon is that goes at once to where it is told to go. By
induction on the run, with the invariant and that the presses are served. -/
theorem goal_run {h : KeyHistory α} (hinv : h.state.Inv) (hserved : h.state.Served)
    {es : List Event} (hes : (keys α).Admits (fun h e => Scrolls h e ∧ FollowsPresses h e) h es) :
    ((keys α).run h es).state.Inv ∧ ((keys α).run h es).state.Served ∧
      ((keys α).run h es).state.goal =
        ((keys α).observe followed h es).foldl (Followed.after h.state.ribbon.count)
          h.state.goal := by
  induction es generalizing h with
  | nil => exact ⟨hinv, hserved, rfl⟩
  | cons e es ih =>
    obtain ⟨⟨hscrolls, hserves, hjump⟩, hes⟩ := hes
    have hstep := step_keys h e hinv
    have hgoal : ((keys α).step h e).state.goal =
        (h.state.followed e).toList.foldl (Followed.after h.state.ribbon.count) h.state.goal := by
      rw [Machine.step_state]
      show (h.state.handle e).goal = _
      rw [handle_eq, goal_perform hinv hserved, goalAfter_eq h.state e hjump]
    have hcount : ((keys α).step h e).state.ribbon.count = h.state.ribbon.count :=
      congrArg (fun model => (model.length : Int)) hstep.model
    obtain ⟨hinv', hserved', hrun⟩ :=
      ih hstep.inv ((hstep.served hscrolls hserved).mpr hserves) hes
    refine ⟨hinv', hserved', hrun.trans ?_⟩
    show _ = ((h.state.followed e).toList ++ (keys α).observe followed ((keys α).step h e) es).foldl
      _ _
    rw [List.foldl_append, ← hgoal, hcount]

/-- A ribbon that stands still cannot be stopped. -/
theorem run_stopped_of_stands {h : KeyHistory α} (hstands : h.state.running = false)
    (vs : List KeySurroundings) : ((keys α).run h (vs.map .stopped)).state = h.state := by
  induction vs generalizing h with
  | nil => rfl
  | cons v vs ih =>
    have hsame : ((keys α).step h (.stopped v)).state = h.state :=
      if_neg (Bool.eq_false_iff.mp hstands)
    show ((keys α).run ((keys α).step h (.stopped v)) (vs.map .stopped)).state = h.state
    rw [ih (hsame ▸ hstands), hsame]

/-- Each animation that comes to its end leaves fewer presses waiting, so that a ribbon which gets
as many ends as it has presses waiting, and one for the animation that runs, comes to rest. By
induction on the ends of animations; the goal stays where it is all along. -/
theorem run_stopped {h : KeyHistory α} (hinv : h.state.Inv) (hserved : h.state.Served)
    (hidle : h.state.state = .idle) {vs : List KeySurroundings}
    (hvs : ∀ v ∈ vs, v.arrived = true ∧ v.refuses = false)
    (hlength : h.state.postponedActions.length < vs.length) :
    let s' := ((keys α).run h (vs.map .stopped)).state
    s'.running = false ∧ s'.postponedActions = [] ∧ s'.ribbon.currentIndex = h.state.goal := by
  induction vs generalizing h with
  | nil => exact absurd hlength (Nat.not_lt_zero _)
  | cons v vs ih =>
    intro s'
    have hgoal : ∀ {s : RibbonPresses α}, s.postponedActions = [] →
        s.goal = s.ribbon.currentIndex := by
      intro s hempty
      unfold goal
      rw [hempty]
      rfl
    by_cases hrunning : h.state.running = true
    · obtain ⟨harrived, hrefuses⟩ := hvs v List.mem_cons_self
      have hstep : ((keys α).step h (.stopped v)).state = h.state.onStopped v := if_pos hrunning
      have hstopped : Stopped v h.state ((keys α).step h (.stopped v)).state := by
        rw [hstep]
        exact stopped_onStopped hinv.halt fun hkey =>
          absurd hkey (Bool.eq_false_iff.mp (hinv.stopByKey hrunning))
      have hserved' := (hstopped.served hrefuses).mpr (.inl ⟨hidle, .inl harrived⟩)
      have hidle' : ((keys α).step h (.stopped v)).state.state = .idle := by
        rw [hstopped.state, if_pos harrived]
      -- the stop has started the next animation, or the ribbon stands and nothing waits
      by_cases hrunning' : ((keys α).step h (.stopped v)).state.running = true
      · have hshorter := hstopped.shorter hrunning'
        rw [List.length_cons] at hlength
        have hrest := ih hstopped.inv hserved' hidle'
          (fun w hw => hvs w (List.mem_cons_of_mem v hw)) (by omega)
        rw [hstopped.goal] at hrest
        exact hrest
      · have hempty := hserved'.resolve_left hrunning'
        have hsame : s' = ((keys α).step h (.stopped v)).state :=
          run_stopped_of_stands (Bool.eq_false_iff.mpr hrunning') vs
        rw [hsame]
        exact ⟨Bool.eq_false_iff.mpr hrunning', hempty, (hgoal hempty).symm.trans hstopped.goal⟩
    · have hempty := hserved.resolve_left hrunning
      have hsame : s' = h.state :=
        run_stopped_of_stands (Bool.eq_false_iff.mpr hrunning) (v :: vs)
      rw [hsame]
      exact ⟨Bool.eq_false_iff.mpr hrunning, hempty, (hgoal hempty).symm⟩

/-- **The ribbon comes to rest at its goal**: whatever has been pressed, after as many animations as
presses wait, and one for the animation that runs, the ribbon stands where a ribbon would be that
goes there at once.

The presses are conserved up to the goal: `goal_run` says that the goal after the run is where an
immediate ribbon stands, and `run_stopped` that the animations left bring the ribbon there. -/
theorem rests_at_goal (s : RibbonPresses α) (hs : s.AtRest) {es : List Event}
    (hes : (keys α).Admits (fun h e => Scrolls h e ∧ FollowsPresses h e) (.init s) es)
    (hidle : ((keys α).run (.init s) es).state.state = .idle) {vs : List KeySurroundings}
    (hvs : ∀ v ∈ vs, v.arrived = true ∧ v.refuses = false)
    (hlength : ((keys α).run (.init s) es).state.postponedActions.length < vs.length) :
    let s' := ((keys α).run (.init s) (es ++ vs.map .stopped)).state
    s'.running = false ∧ s'.postponedActions = [] ∧
      s'.ribbon.currentIndex = ((keys α).observe followed (.init s) es).foldl
        (Followed.after s.ribbon.count) s.ribbon.currentIndex := by
  intro s'
  obtain ⟨hinv, hserved, hgoal⟩ :=
    goal_run (h := .init s) hs.inv (.inr hs.postponedActions) hes
  have hrest := run_stopped hinv hserved hidle hvs hlength
  have hstart : s.goal = s.ribbon.currentIndex := by
    unfold goal
    rw [hs.postponedActions]
    rfl
  have hs' : s' = ((keys α).run ((keys α).run (.init s) es) (vs.map .stopped)).state :=
    congrArg History.state (Machine.run_append _ _ _ _)
  rw [hs', ← hstart]
  exact ⟨hrest.1, hrest.2.1, hrest.2.2.trans hgoal⟩

theorem rests_at_goal_turnedPresses :
    let s' := ((keys Char).run (.init fiveWide)
      (turnedPresses ++ [{ arrived := true }, { arrived := true }].map .stopped)).state
    s'.running = false ∧ s'.postponedActions = [] ∧ s'.ribbon.currentIndex = 1 := by
  have hpress : ∀ {h : KeyHistory Char} {e : Event} (direction : KeyDirection),
      h.state.operation e = .press direction → FollowsPresses h e := by
    intro h e direction hop
    refine ⟨?_, fun index hjump => ?_⟩
    · unfold ServesPresses
      rw [hop]
      trivial
    · cases hop.symm.trans hjump
  have hfollows : (keys Char).Admits (fun h e => Scrolls h e ∧ FollowsPresses h e)
      (.init fiveWide) turnedPresses :=
    ⟨⟨rfl, hpress .next rfl⟩, ⟨rfl, hpress .next rfl⟩, ⟨rfl, hpress .next rfl⟩,
      ⟨rfl, hpress .prev rfl⟩, trivial⟩
  exact rests_at_goal fiveWide atRest_fiveWide hfollows rfl (by simp) (by decide)

end RibbonPresses

end Eos
