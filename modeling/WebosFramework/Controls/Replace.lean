import WebosFramework.Controls.Popping

/-!
# Replacing a page

`replace` of `Eos/Controls/PageStack.qml` puts another page in the place of the current one. It has
two near-identical paths, for a page that is ready at once and for one that is incubated, and each
of them ends in two ways: with the `replaceTransition` of the delegate, whose `stopped` handler
writes the new page into the array, or without one, when the old page is destroyed and the array is
left as it is.

* `completed_replacement`: the array is written only when an animation runs.
* `replaced_iff`: a replacement does what it is there for exactly when the delegate has a transition
  that the path can use, and the stack agrees with itself.

The object of the new page is what the component creates, so it comes with the call. A replacement
remembers what its callback closes over.
-/

namespace Eos

open EventLoop

/-- `delegate.replaceTransition`: all that matters of the animations that it creates is whether they
have the property `scheduleDestruction`, for assigning one that is not there throws. -/
structure ReplaceTransition where
  scheduleDestruction : Bool
  deriving DecidableEq

/-- A replacement whose page is being incubated. -/
structure Replacement where
  index : Nat
  theObject : PageId
  status : Status
  deriving DecidableEq

/-- A page stack with what `replace` needs besides. -/
structure ReplacingStack extends PageStack where
  replaceTransition : Option ReplaceTransition := none
  replacements : List Replacement := []
  /-- How many animations of replacements are running. -/
  replaceAnimations : Nat := 0
  deriving DecidableEq

/-- The entry of the array for `container.currentPage`. -/
def Entry.ofItem : Option PageId → Entry
  | none => .null
  | some object => .page object

namespace ReplacingStack

/-- `destroy()` of a page. -/
def destroy (s : ReplacingStack) (object : PageId) : ReplacingStack × List PageStackOutput :=
  let result := s.toPageStack.destroy object
  ({ s with toPageStack := result.1 }, result.2)

/-- `replaceAnimation.restart()` -/
def restart (s : ReplacingStack) : ReplacingStack :=
  { s with busy := true, replaceAnimations := s.replaceAnimations + 1 }

/-- The branch of `replace` for a page that is ready at once. -/
def replaceReady (s : ReplacingStack) (index : Nat) (theObject : PageId) :
    ReplacingStack × List PageStackOutput :=
  let s := { s with
    currentPage := some theObject
    delegate := { s.delegate with enterItem := some theObject } }
  match (s.pageStack.getD index .undefined).toItem with
  | none => (s, [.exception])
  | some exitItem =>
    let s := { s with delegate := { s.delegate with exitItem } }
    match exitItem with
    | none => (s, [])
    | some exitItem =>
      match s.replaceTransition with
      | some transition =>
        -- assigned before the animation is started
        if transition.scheduleDestruction then (s.restart, []) else (s, [.exception])
      | none => s.destroy exitItem

/-- The callback of a page that becomes ready later. -/
def replacementReady (s : ReplacingStack) (index : Nat) (theObject : PageId) :
    ReplacingStack × List PageStackOutput :=
  match s.pageStack.getD index .undefined with
  -- neither has a `__wrapper`
  | .undefined | .null => (s, [.exception])
  | .page exitItem =>
    let s := { s with
      currentPage := some theObject
      delegate := { s.delegate with enterItem := some theObject, exitItem := some exitItem } }
    match s.replaceTransition with
    | some _ => (s.restart, [])
    | none => s.destroy exitItem

/-- `replace`, with what `createComponent` returns, the object that the component creates and the
status that the incubator has at once. A component in error does not incubate. -/
def replace (s : ReplacingStack) (pageUrl : String) (component : Component) (theObject : PageId)
    (incubation : Status) : ReplacingStack × List PageStackOutput :=
  if s.length = 0 then (s, [])
  else
    let s := { s with currentPageUrl := pageUrl }
    let index := s.length - 1
    if component.status = .error then (s, [.exception])
    else if incubation = .ready then s.replaceReady index theObject
    else
      ({ s with replacements := s.replacements ++ [{ index, theObject, status := incubation }] }, [])

/-- An incubator that is loading gets another status and calls back. -/
def replacementStatusChanged (s : ReplacingStack) (n : Nat) (status : Status) :
    ReplacingStack × List PageStackOutput :=
  match s.replacements[n]? with
  | none => (s, [])
  | some replacement =>
    if replacement.status = .loading then
      let s := { s with replacements := s.replacements.set n { replacement with status } }
      if status = .ready then s.replacementReady replacement.index replacement.theObject
      else (s, [])
    else (s, [])

/-- The animation of a replacement has stopped. -/
def replaceStopped (s : ReplacingStack) : ReplacingStack × List PageStackOutput :=
  if s.replaceAnimations = 0 then (s, [])
  else
    let s := { s with replaceAnimations := s.replaceAnimations - 1 }
    -- with length 0 the assignment goes to no entry
    let s := if s.length = 0 then s else
      { s with
        pageStack := assign .undefined s.pageStack (s.length - 1) (.ofItem s.currentPage) }
    match s.delegate.exitItem with
    | none => (s, [.exception])
    | some exitItem =>
      let result := s.destroy exitItem
      ({ result.1 with busy := false }, result.2)

end ReplacingStack

/-- A call of `replace`, and what comes after it. -/
inductive ReplaceEvent where
  | replace (pageUrl : String) (component : Component) (theObject : PageId) (incubation : Status)
  | statusChanged (n : Nat) (status : Status)
  | stopped
  deriving DecidableEq

/-- A stack reacting to one event after the other. -/
def replaceMachine : Machine ReplacingStack ReplaceEvent PageStackOutput where
  handle s
    | .replace pageUrl component theObject incubation =>
      s.replace pageUrl component theObject incubation
    | .statusChanged n status => s.replacementStatusChanged n status
    | .stopped => s.replaceStopped

/-- A stack, the events so far, and what it has done. -/
abbrev ReplaceHistory := History ReplacingStack ReplaceEvent PageStackOutput

/-! ## A whole replacement

A replacement takes several events: the call, the end of the incubation and the end of the
animation. Either path leads to one of two outcomes, and the `stopped` handler completes it. -/

namespace ReplacingStack

/-- No replacement is going on. -/
structure Idle (s : ReplacingStack) : Prop where
  /-- No page is being incubated for a replacement. -/
  replacements : s.replacements = []
  /-- No animation is running. -/
  replaceAnimations : s.replaceAnimations = 0

/-- The run of a replacement with no other operation in between: the call, the page becomes ready if
it was not, and the animation stops if there is one. -/
def replacement (s : ReplacingStack) (pageUrl : String) (component : Component)
    (theObject : PageId) (incubation : Status) : ReplaceHistory :=
  replaceMachine.run (.init s)
    [.replace pageUrl component theObject incubation, .statusChanged 0 .ready, .stopped]

/-- The replacement exchanges the page `p` by means of an animation. -/
def Animates (s : ReplacingStack) (incubation : Status) (p : PageId) : Prop :=
  s.length ≠ 0 ∧ s.pageStack[s.length - 1]? = some (.page p) ∧
    ∃ transition, s.replaceTransition = some transition ∧
      (incubation = .ready → transition.scheduleDestruction = true)

/-- What holds while the animation is running. -/
structure Animating (s s' : ReplacingStack) (theObject p : PageId) : Prop where
  /-- The array is as before. -/
  pageStack : s'.pageStack = s.pageStack
  length : s'.length = s.length
  /-- The new page is the current one. -/
  currentPage : s'.currentPage = some theObject
  /-- The old page is the one that leaves. -/
  exitItem : s'.delegate.exitItem = some p
  replaceAnimations : s'.replaceAnimations = s.replaceAnimations + 1

/-- How either path of `replace` leaves the stack: with an animation running, or with the array as
it was. -/
inductive Outcome (s : ReplacingStack) (incubation : Status) (theObject : PageId)
    (result : ReplacingStack × List PageStackOutput) : Prop where
  /-- An animation runs, and the rest is left to its `stopped` handler. -/
  | animating (p : PageId) (can : s.Animates incubation p)
      (state : Animating s result.1 theObject p) (out : result.2 = [])
      (replacements : result.1.replacements = s.replacements)
  /-- It is over, and the array has not been written. -/
  | done (cannot : ∀ p, ¬ s.Animates incubation p) (pageStack : result.1.pageStack = s.pageStack)
      (replaceAnimations : result.1.replaceAnimations = s.replaceAnimations)
      (replacements : result.1.replacements = s.replacements)

section Paths

variable {s : ReplacingStack} {theObject : PageId}

/-- An entry that is a page is there. -/
theorem entry_of_getD {array : List Entry} {i : Nat} {p : PageId}
    (h : array.getD i .undefined = .page p) : array[i]? = some (.page p) := by
  rw [List.getD_eq_getElem?_getD] at h
  cases hi : array[i]? with
  | none =>
    rw [hi] at h
    cases h
  | some entry =>
    rw [hi] at h
    exact congrArg some h

/-- A replacement that animates has found a page to replace. -/
theorem Animates.getD {incubation : Status} {p : PageId} (h : s.Animates incubation p) :
    s.pageStack.getD (s.length - 1) .undefined = .page p := by
  rw [List.getD_eq_getElem?_getD, h.2.1]
  rfl

/-- Without a transition nothing animates. -/
theorem not_animates_of_none (htransition : s.replaceTransition = none) (incubation : Status)
    (p : PageId) : ¬ s.Animates incubation p := by
  intro hcan
  obtain ⟨_, hsome, -⟩ := hcan.2.2
  cases hsome.symm.trans htransition

/-- The path for a page that is ready at once. It writes the page if there is one to be replaced and
the transition has the property that is assigned to. -/
theorem outcome_replaceReady (hlength : s.length ≠ 0) :
    Outcome s .ready theObject (s.replaceReady (s.length - 1) theObject) := by
  unfold replaceReady
  dsimp only
  cases hentry : s.pageStack.getD (s.length - 1) .undefined with
  | undefined | null =>
    refine .done (fun p hcan => ?_) rfl rfl rfl
    cases hcan.getD.symm.trans hentry
  | page p =>
    cases htransition : s.replaceTransition with
    | none => exact .done (not_animates_of_none htransition _) rfl rfl rfl
    | some transition =>
      dsimp only [Entry.toItem]
      split
      · rename_i hschedule
        exact .animating p
          ⟨hlength, entry_of_getD hentry, transition, htransition, fun _ => hschedule⟩
          ⟨rfl, rfl, rfl, rfl, rfl⟩ rfl rfl
      · -- the property is missing
        rename_i hschedule
        refine .done (fun _ hcan => hschedule ?_) rfl rfl rfl
        obtain ⟨transition', hsome, hready⟩ := hcan.2.2
        obtain rfl := Option.some.inj (htransition.symm.trans hsome)
        exact hready rfl

/-- The path for a page that was incubated. -/
theorem outcome_replacementReady (hlength : s.length ≠ 0) :
    Outcome s .loading theObject (s.replacementReady (s.length - 1) theObject) := by
  unfold replacementReady
  cases hentry : s.pageStack.getD (s.length - 1) .undefined with
  | undefined | null =>
    refine .done (fun p hcan => ?_) rfl rfl rfl
    cases hcan.getD.symm.trans hentry
  | page p =>
    dsimp only
    cases htransition : s.replaceTransition with
    | none => exact .done (not_animates_of_none htransition _) rfl rfl rfl
    | some transition =>
      exact .animating p ⟨hlength, entry_of_getD hentry, transition, htransition, nofun⟩
        ⟨rfl, rfl, rfl, rfl, rfl⟩ rfl rfl

/-- The `stopped` handler puts the new page into the entry that `length` points at, and destroys the
old one. -/
theorem replaceStopped_of_animating {s' : ReplacingStack} {p : PageId} (hlength : s.length ≠ 0)
    (hlt : s.length - 1 < s.pageStack.length) (hne : theObject ≠ p)
    (h : Animating s s' theObject p) :
    s'.replaceStopped.1.pageStack = s.pageStack.set (s.length - 1) (.page theObject) ∧
      s'.replaceStopped.1.currentPage = some theObject ∧
      s'.replaceStopped.1.length = s.length ∧ s'.replaceStopped.2 = [.destroyed p] := by
  have hrunning : s'.replaceAnimations ≠ 0 := by
    rw [h.replaceAnimations]
    omega
  rw [replaceStopped, if_neg hrunning]
  dsimp only
  rw [if_neg (h.length ▸ hlength), h.exitItem, h.currentPage, h.length, h.pageStack,
    assign_of_lt hlt]
  refine ⟨rfl, ?_, rfl, rfl⟩
  show (if some theObject = some p then none else some theObject) = some theObject
  rw [if_neg fun hsame => hne (Option.some.inj hsame)]

/-- What a replacement of `s` has come to when it is completed. -/
def Completed (s : ReplacingStack) (incubation : Status) (theObject : PageId)
    (s' : ReplacingStack) (out : List PageStackOutput) : Prop :=
  (∃ p, s.Animates incubation p ∧ s'.pageStack = s.pageStack.set (s.length - 1) (.page theObject) ∧
      s'.currentPage = some theObject ∧ s'.length = s.length ∧ out = [.destroyed p]) ∨
    (∀ p, ¬ s.Animates incubation p) ∧ s'.pageStack = s.pageStack

/-- What is left of the replacement is the `stopped` handler, if it animates, and nothing
otherwise. -/
theorem Outcome.completed {incubation : Status} {result : ReplacingStack × List PageStackOutput}
    (h : Outcome s incubation theObject result) (hidle : s.replaceAnimations = 0)
    (hfresh : .page theObject ∉ s.pageStack) :
    Completed s incubation theObject result.1.replaceStopped.1
      (result.2 ++ result.1.replaceStopped.2) := by
  cases h with
  | animating p can state out =>
    have hlt : s.length - 1 < s.pageStack.length := (List.getElem?_eq_some_iff.mp can.2.1).1
    have hne : theObject ≠ p := by
      rintro rfl
      exact hfresh (List.mem_of_getElem? can.2.1)
    obtain ⟨hstack, hcurrent, hlength, hout⟩ := replaceStopped_of_animating can.1 hlt hne state
    exact .inl ⟨p, can, hstack, hcurrent, hlength, by rw [out, hout]; rfl⟩
  | done cannot pageStack replaceAnimations =>
    have hstopped : result.1.replaceStopped = (result.1, []) :=
      if_pos (replaceAnimations.trans hidle)
    rw [hstopped]
    exact .inr ⟨cannot, pageStack⟩

/-- A path incubates nothing. -/
theorem Outcome.replacements {incubation : Status}
    {result : ReplacingStack × List PageStackOutput} (h : Outcome s incubation theObject result) :
    result.1.replacements = s.replacements := by
  cases h with
  | animating _ _ _ _ hreplacements | done _ _ _ hreplacements => exact hreplacements

/-- The run of a replacement, on either path. On both the page is written in the end or not at all;
the second path only waits in between. -/
theorem completed_replacement (hidle : s.Idle) (pageUrl : String) {component : Component}
    (hcomponent : component.status ≠ .error) (hfresh : .page theObject ∉ s.pageStack)
    {incubation : Status} (hincubation : incubation ≠ .error) :
    Completed s incubation theObject
      (s.replacement pageUrl component theObject incubation).state
      (s.replacement pageUrl component theObject incubation).outputs := by
  by_cases hlength : s.length = 0
  · -- the call returns at once
    have hstate : (s.replacement pageUrl component theObject incubation).state = s := by
      simp [replacement, Machine.run, Machine.step, replaceMachine, History.init, replace, hlength,
        replacementStatusChanged, hidle.replacements, replaceStopped, hidle.replaceAnimations]
    rw [hstate]
    exact .inr ⟨fun p hcan => hcan.1 hlength, rfl⟩
  let s₁ : ReplacingStack := { s with currentPageUrl := pageUrl }
  cases incubation with
  | error => exact absurd rfl hincubation
  -- the component is compiled already, and the page is entered within the call
  | ready =>
    have hcall : s.replace pageUrl component theObject .ready =
        s₁.replaceReady (s.length - 1) theObject := by
      simp [replace, hlength, hcomponent, s₁]
    have houtcome : Outcome s₁ .ready theObject (s.replace pageUrl component theObject .ready) :=
      hcall ▸ outcome_replaceReady (s := s₁) hlength
    -- no replacement is pending
    have hstatus : (s.replace pageUrl component theObject .ready).1.replacementStatusChanged 0
        .ready = ((s.replace pageUrl component theObject .ready).1, []) := by
      rw [replacementStatusChanged, houtcome.replacements]
      show (match s.replacements[0]? with | none => _ | some _ => _) = _
      rw [hidle.replacements]
      rfl
    have hcompleted := houtcome.completed hidle.replaceAnimations hfresh
    unfold replacement
    simp only [Machine.run_cons, Machine.run_nil, Machine.step_state, Machine.step_outputs,
      replaceMachine, History.init, hstatus, List.nil_append, List.append_nil]
    exact hcompleted
  -- the incubator calls back later; between the two the replacement is pending
  | loading =>
    let s₂ : ReplacingStack :=
      { s₁ with replacements := [{ index := s.length - 1, theObject, status := .ready }] }
    have hcall : s.replace pageUrl component theObject .loading =
        ({ s₁ with
          replacements := [{ index := s.length - 1, theObject, status := .loading }] }, []) := by
      simp [replace, hlength, hcomponent, s₁, hidle.replacements]
    have houtcome : Outcome s₂ .loading theObject (s₂.replacementReady (s.length - 1) theObject) :=
      outcome_replacementReady (s := s₂) hlength
    have hcompleted := houtcome.completed hidle.replaceAnimations hfresh
    unfold replacement
    simp only [Machine.run_cons, Machine.run_nil, Machine.step_state, Machine.step_outputs,
      replaceMachine, History.init, hcall, List.nil_append]
    exact hcompleted

end Paths

/-! ## What a replacement is there for

The new page is in the place of the old one, and the old one is destroyed. What this needs of the
delegate and of `length` is exact. -/

/-- The replacement has put the new page in the place of the one that was on top, and has destroyed
that one only. -/
structure Replaced (s : ReplacingStack) (theObject : PageId) (h : ReplaceHistory) : Prop where
  /-- The new page is on top of the array, in the place of the old one. -/
  pageStack : h.state.pageStack = s.pageStack.dropLast ++ [.page theObject]
  /-- It is the current page. -/
  currentPage : h.state.currentPage = some theObject
  /-- The length has not changed. -/
  length : h.state.length = s.length
  /-- The old page is destroyed, and nothing else. -/
  destroyed : ∃ p, s.pageStack.getLast? = some (.page p) ∧ h.outputs = [.destroyed p]
  /-- The new page is the one that a `pop` removes next, if it removes any. -/
  popped : ¬ (h.state.length < 2 ∨ h.state.getObjectsNumber < 2) →
    .page theObject ∉ h.state.toPageStack.pop.1.pageStack ∧
      (.pop theObject ∈ h.state.toPageStack.pop.1.transitions ∨
        .destroyed theObject ∈ h.state.toPageStack.pop.2)

/-- The delegate has a transition, and for a page that is ready at once one whose animations have
the property that this path assigns to; and `length` points at a page on top. -/
structure CanReplace (s : ReplacingStack) (incubation : Status) : Prop where
  /-- There is a transition, and the path can use it. -/
  transition : ∃ transition, s.replaceTransition = some transition ∧
    (incubation = .ready → transition.scheduleDestruction = true)
  /-- The stack agrees with itself about its length. -/
  length : s.length = s.pageStack.length
  /-- There is a page to replace. -/
  top : ∃ p, s.pageStack.getLast? = some (.page p)

/-- **Replacing a page.** For every stack, delegate and incubation: the replacement does what it is
there for exactly when an animation can run that writes the new page into the array.

`completed_replacement` says what any replacement ends in: the page has been written at the index
that was looked up, or the animation could not run and nothing has been written. -/
theorem replaced_iff (s : ReplacingStack) (hidle : s.Idle) (pageUrl : String)
    (component : Component) (hcomponent : component.status ≠ .error) (theObject : PageId)
    (hfresh : .page theObject ∉ s.pageStack) (incubation : Status)
    (hincubation : incubation ≠ .error) :
    Replaced s theObject (s.replacement pageUrl component theObject incubation) ↔
      s.CanReplace incubation := by
  have hcompleted := completed_replacement hidle pageUrl hcomponent hfresh hincubation
  generalize s.replacement pageUrl component theObject incubation = h at hcompleted ⊢
  constructor
  · -- a complete replacement shows where the new page has been written
    intro hreplaced
    have hlast : h.state.pageStack.getLast? = some (.page theObject) := by
      rw [hreplaced.pageStack, List.getLast?_concat]
    obtain ⟨p, htop, -⟩ := hreplaced.destroyed
    rcases hcompleted with ⟨p', ⟨hlength, hentry, htransition⟩, hstack, -⟩ | ⟨-, hstack⟩
    · refine ⟨htransition, ?_, p, htop⟩
      have hlt : s.length - 1 < s.pageStack.length := (List.getElem?_eq_some_iff.mp hentry).1
      -- below the top the assignment would leave the top as it was
      by_contra hbelow
      rw [hstack, PageStack.getLast?_set_of_ne hlt (by omega)] at hlast
      exact hfresh (List.mem_of_getLast? hlast)
    · -- the array is what it was, without the new page
      rw [hstack] at hlast
      exact absurd (List.mem_of_getLast? hlast) hfresh
  · -- the page on top is the one that `replace` looked up, and the write lands in its place
    intro ⟨htransition, hlength, p, htop⟩
    obtain ⟨init, hinit⟩ := List.getLast?_eq_some_iff.mp htop
    have hindex : s.length - 1 = init.length := by
      rw [hlength, hinit, List.length_append, List.length_singleton, Nat.add_sub_cancel]
    have hcan : s.Animates incubation p := by
      refine ⟨?_, ?_, htransition⟩
      · rw [hlength, hinit]
        simp
      · rw [hindex, hinit]
        simp
    rcases hcompleted with ⟨p', hcan', hstack, hcurrent, hlength', hout⟩ | ⟨hcannot, -⟩
    · obtain rfl : p' = p := by
        have hsame := hcan'.2.1.symm.trans hcan.2.1
        exact Entry.page.inj (Option.some.inj hsame)
      have hstack' : h.state.pageStack = init ++ [.page theObject] := by
        rw [hstack, hindex, hinit]
        simp
      refine ⟨by rw [hstack', hinit, List.dropLast_concat], hcurrent, hlength', ⟨p', htop, hout⟩,
        fun hguard => ?_⟩
      obtain ⟨hpop, hremoved⟩ := PageStack.pop_removes_top hguard hstack'
      refine ⟨fun hmem => hfresh ?_, hremoved⟩
      rw [hpop] at hmem
      rw [hinit]
      exact List.mem_append_left _ ((PageStack.removeUndefined_isPrefixOf init).subset hmem)
    · exact absurd hcan (hcannot p)

/-- Two pages, with the delegate of `PageStackDelegate.qml`, which has no `replaceTransition`. -/
def twoPages : ReplacingStack where
  toPageStack := (pageStackMachine.run (.init {})
    [.push "first.qml" {} .ready, .push "second.qml" {} .ready]).state

/-- The same pages with a transition made of a `PageStackTransition`, which has no property
`scheduleDestruction`. -/
def twoPagesAnimated : ReplacingStack := { twoPages with replaceTransition := some ⟨false⟩ }

/-- The page is incubated, and replaces the one on top when the animation has stopped. -/
theorem replaced_twoPagesAnimated :
    Replaced twoPagesAnimated 2 (twoPagesAnimated.replacement "third.qml" {} 2 .loading) :=
  (replaced_iff twoPagesAnimated ⟨rfl, rfl⟩ "third.qml" {} (by decide) 2 (by decide) .loading
    (by decide)).mpr ⟨⟨_, rfl, by decide⟩, by decide, 1, by decide⟩

/-- Without a transition the page that is destroyed stays in the array, and with one the call throws
if the new page is ready at once. -/
theorem not_replaced_twoPages :
    (∀ incubation ∈ [Status.ready, .loading],
      (twoPages.replacement "third.qml" {} 2 incubation).state.pageStack = [.page 0, .page 1] ∧
      (twoPages.replacement "third.qml" {} 2 incubation).outputs = [.destroyed 1] ∧
      ¬ Replaced twoPages 2 (twoPages.replacement "third.qml" {} 2 incubation)) ∧
    (twoPagesAnimated.replacement "third.qml" {} 2 .ready).state.pageStack = [.page 0, .page 1] ∧
    (twoPagesAnimated.replacement "third.qml" {} 2 .ready).outputs = [.exception] ∧
    ¬ Replaced twoPagesAnimated 2 (twoPagesAnimated.replacement "third.qml" {} 2 .ready) := by
  refine ⟨fun incubation hincubation => ?_, by decide, by decide, fun hreplaced => ?_⟩
  · rcases List.mem_pair.mp hincubation with rfl | rfl
    · refine ⟨by decide, by decide, fun hreplaced => ?_⟩
      exact absurd hreplaced.pageStack (by decide)
    · refine ⟨by decide, by decide, fun hreplaced => ?_⟩
      exact absurd hreplaced.pageStack (by decide)
  · exact absurd hreplaced.pageStack (by decide)

end ReplacingStack

end Eos
