import WebosFramework.Items.Ribbon
import WebosFramework.Lib.EventLoop

/-!
# The ribbon editor

`Eos/Items/RibbonEditor.qml` lets the user drag one item of a ribbon to another place. While it is
active it listens to `currentIndex`: whoever changes it moves the edited item there, by
`model.move`.

* Assigning `currentIndex` runs the handler at once, within the assignment. The handler assigns it
  too, and it may run actions the ribbon has postponed, which assign it again; a `Change` is the
  tree of what such an assignment sets off.
* `fbo.sourceItem !== null` is `active`. The texture and the pictures of the item are left out.
* The handler lets -1 pass by ("to avoid ListView resetting currentIndex"), and no other index that
  has no row. `moveInModel` takes such an index as the new `targetIndex`, though the model refuses
  the move.

**`edit_session`**: a session moves one element, from `sourceIndex` to `targetIndex`, as long as the
indexes that are assigned are those of rows, or -1. `oneMove_change_iff` says that this is what an
assignment depends on, and `edit_session_outOfRange` is a session that goes wrong.

A session is an invariant, `Session`: the rows are those of the beginning with one move made in
them. That one move may take the place of another is `move_move` of `Lib.ListMove`, and what the
handlers keep of it is shown by induction on the tree of what an assignment sets off.
-/

namespace Eos

open EventLoop ListMove

/-! ## The editor

The functions of the editor. A change of `currentIndex` runs the handler, which may scroll and so
lead to further changes: these are a tree, over which the functions recurse. -/

/-- What happens to `currentIndex`. -/
inductive Change where
  /-- Some code assigns it. If the handler calls `ensureItemVisible` then that leads to `nested`,
  and `scroll` is how far scrolling has got when it calls `moveInModel`. -/
  | assigned (index : Int) (autoScrolling : Bool) (nested : List Change) (scroll : ScrollState)
  /-- The view finds its current item at the place it has been moved to. -/
  | followed

mutual

/-- Every index that is assigned, however deep in the tree, is that of one of `count` rows, or -1.
-/
def Change.inRange (count : Int) : Change → Bool
  | .followed => true
  | .assigned index _ nested _ => -1 ≤ index ∧ index < count ∧ Change.allInRange count nested = true

def Change.allInRange (count : Int) : List Change → Bool
  | [] => true
  | c :: cs => c.inRange count && Change.allInRange count cs

end

/-- The ribbon and what the editor knows of the item it edits: where it was at the beginning and
where it is now. Both are indexes into the model, which the editor itself moves about. -/
structure RibbonEditor (α : Type) where
  ribbon : Ribbon α
  sourceIndex : Int := 0
  targetIndex : Int := 0
  active : Bool := false
  /-- The current item of the view has been moved to `targetIndex`, unnoticed so far. -/
  behind : Bool := false

/-- What can be observed from outside: calls of the model, and the signal at the end of a session.
-/
inductive EditorSignal where
  /-- `model.move` -/
  | move (source target : Int)
  | moved (source target : Int)
  deriving DecidableEq

namespace RibbonEditor

variable {α : Type}

/-- An assignment to `currentIndex`, without the handler. -/
def setCurrentIndex (e : RibbonEditor α) (index : Int) : RibbonEditor α :=
  { e with ribbon := { e.ribbon with currentIndex := index } }

/-- `currentIndex = -1` while the editor is active, with what the handler makes of it: the handler
puts `targetIndex` back, unless that is -1 itself. -/
def clearCurrentIndex (e : RibbonEditor α) : RibbonEditor α :=
  if e.ribbon.currentIndex = -1 then e
  else if e.targetIndex = -1 then e.setCurrentIndex (-1)
  else e.setCurrentIndex e.targetIndex

/-- `moveInModel`. The current index is cleared before the model is changed, which the handler
undoes at once, so that the view has the edited item as its current one when the row is moved. -/
def moveInModel (e : RibbonEditor α) (scroll : ScrollState) :
    RibbonEditor α × List EditorSignal :=
  if !e.ribbon.indexEditable e.targetIndex then (e, [])
  else if !e.ribbon.indexEditable e.ribbon.currentIndex then (e, [])
  else
    let currentIndex := e.ribbon.currentIndex
    let cleared := e.clearCurrentIndex
    if !scroll.allowedMoveInModel cleared.targetIndex currentIndex then (cleared, [])
    else
      ({ cleared with
          ribbon := cleared.ribbon.modelMove cleared.targetIndex currentIndex
          targetIndex := currentIndex
          -- the view has the moved row as its current item, and has not looked yet
          behind := cleared.behind || (cleared.ribbon.currentIndex = cleared.targetIndex &&
            cleared.ribbon.canMove cleared.targetIndex currentIndex) },
        [.move cleared.targetIndex currentIndex])

mutual

/-- A change of `currentIndex`, with `onCurrentIndexChanged`. -/
def change (e : RibbonEditor α) : Change → RibbonEditor α × List EditorSignal
  | .followed =>
    -- the handler returns: this is where the edited item is
    (if e.behind then { e.setCurrentIndex e.targetIndex with behind := false } else e, [])
  | .assigned index autoScrolling nested scroll =>
    if index = e.ribbon.currentIndex then (e, [])
    else if !e.active || e.targetIndex = index then (e.setCurrentIndex index, [])
    else if index = -1 then (e.setCurrentIndex e.targetIndex, [])
    else
      let visible :=
        if autoScrolling then (e.setCurrentIndex index, [])
        else (e.setCurrentIndex index).changes nested
      let moved := visible.1.moveInModel scroll
      (moved.1, visible.2 ++ moved.2)

def changes (e : RibbonEditor α) : List Change → RibbonEditor α × List EditorSignal
  | [] => (e, [])
  | c :: cs =>
    let first := e.change c
    let rest := first.1.changes cs
    (rest.1, first.2 ++ rest.2)

end

/-- `editCurrentItem`; `ensureItemVisible` leads to `nested`. -/
def editCurrentItem (e : RibbonEditor α) (nested : List Change) :
    RibbonEditor α × List EditorSignal :=
  let index := e.ribbon.currentIndex
  if !e.ribbon.indexEditable index then (e, [])
  else
    let started :=
      { e with sourceIndex := index, targetIndex := index, active := e.ribbon.hasCurrentItem }
    -- without a current item the function throws, after `fbo.sourceItem` has been set to null
    if e.ribbon.hasCurrentItem then started.changes nested else (started, [])

/-- `finishEditing`; it throws if there is no current item to take the focus. -/
def finishEditing (e : RibbonEditor α) : RibbonEditor α × List EditorSignal :=
  ({ e with active := false },
    if e.ribbon.hasCurrentItem ∧ e.sourceIndex ≠ e.targetIndex then
      [.moved e.sourceIndex e.targetIndex]
    else [])

/-- `stopEdit`; with `animateEditItemDown` the editor finishes when an animation has ended. -/
def stopEdit (e : RibbonEditor α) (animateEditItemDown : Bool) :
    RibbonEditor α × List EditorSignal :=
  if e.active && !animateEditItemDown then e.finishEditing else (e, [])

end RibbonEditor

/-- A session begins and ends, and indexes are assigned in between. -/
inductive EditorEvent where
  | editCurrentItem (nested : List Change)
  | change (c : Change)
  | stopEdit (animateEditItemDown : Bool)
  | finishEditing

/-- The indexes that are assigned in the course of an event are those of rows, or -1. -/
def EditorEvent.inRange (count : Int) : EditorEvent → Bool
  | .editCurrentItem nested => Change.allInRange count nested
  | .change c => c.inRange count
  | .stopEdit _ | .finishEditing => true

/-- The editor reacting to one event after the other. Each handler runs to its end, nested ones
included. -/
def ribbonEditor (α : Type) : Machine (RibbonEditor α) EditorEvent EditorSignal where
  handle e
    | .editCurrentItem nested => e.editCurrentItem nested
    | .change c => e.change c
    | .stopEdit animateEditItemDown => e.stopEdit animateEditItemDown
    | .finishEditing => e.finishEditing

namespace RibbonEditor

variable {α : Type} {model : List α} {index : Int} {e : RibbonEditor α}

/-! ## A session

Within a session the edited item is where the editor believes it to be, and the others are in
order. The invariant is carried through the tree of changes, and `OneMove` is what is left of it
at the end. -/

/-- The item at `index` of `model` is being edited. -/
structure Session (model : List α) (index : Int) (e : RibbonEditor α) : Prop where
  active : e.active = true
  source : e.sourceIndex = index
  place : 0 ≤ index ∧ index < model.length
  target : 0 ≤ e.targetIndex ∧ e.targetIndex < model.length
  current : 0 ≤ e.ribbon.currentIndex ∧ e.ribbon.currentIndex < model.length
  moved : e.ribbon.model = move model index.toNat e.targetIndex.toNat

/-- Moves do not change the number of rows, so ranges can be stated for the rows of the beginning.
-/
theorem Session.count (h : Session model index e) : e.ribbon.count = model.length := by
  have hplace := h.place
  have htarget := h.target
  unfold Ribbon.count
  rw [h.moved, length_move (by omega) (by omega)]

/-- Within a session the current index may go to any row: the invariant says nothing of where it
is. -/
theorem Session.setCurrentIndex (h : Session model index e) (current : Int)
    (hcurrent : 0 ≤ current ∧ current < model.length) :
    Session model index (e.setCurrentIndex current) :=
  ⟨h.active, h.source, h.place, h.target, hcurrent, h.moved⟩

/-- `currentIndex = -1` does not get past the handler, which makes the edited item the current one
again. Only a `targetIndex` of -1 would let it through, and in a session that is the index of a
row. -/
theorem Session.clearCurrentIndex (h : Session model index e) :
    e.clearCurrentIndex = e.setCurrentIndex e.targetIndex := by
  have hcurrent := h.current
  have htarget := h.target
  unfold RibbonEditor.clearCurrentIndex
  rw [if_neg (by omega), if_neg (by omega)]

/-- Some code has run within a session: it goes on, and nothing has been observed but moves. That
`moved` is not among the signals is what makes it the last one of a session. -/
structure Continues (model : List α) (index : Int)
    (result : RibbonEditor α × List EditorSignal) : Prop where
  session : Session model index result.1
  signals : ∀ s ∈ result.2, ∃ source target, s = .move source target

/-- Code that only looks leaves the session as it is. -/
theorem Session.continues (h : Session model index e) : Continues model index (e, []) :=
  ⟨h, by simp⟩

/-- **One move.** Wherever the item is, it is moved from there to the current index; with the moves
before that is one move from `index`. -/
theorem Session.moveInModel (h : Session model index e) (scroll : ScrollState) :
    Continues model index (e.moveInModel scroll) := by
  have hcleared : Session model index (e.setCurrentIndex e.targetIndex) :=
    h.setCurrentIndex _ h.target
  unfold RibbonEditor.moveInModel
  split
  · exact h.continues
  · split
    · exact h.continues
    · rw [h.clearCurrentIndex]
      dsimp only
      split
      · exact hcleared.continues
      · -- the move from `targetIndex` follows those that led there
        have hplace := h.place
        have htarget := h.target
        have hcurrent := h.current
        refine ⟨⟨h.active, h.source, h.place, h.current, ?_, ?_⟩, ?_⟩
        · rw [Ribbon.currentIndex_modelMove]
          exact h.target
        · show ((e.setCurrentIndex e.targetIndex).ribbon.modelMove e.targetIndex
            e.ribbon.currentIndex).model = move model index.toNat e.ribbon.currentIndex.toNat
          rw [Ribbon.model_modelMove (by rwa [hcleared.count]) (by rwa [hcleared.count])]
          show move e.ribbon.model _ _ = _
          rw [h.moved, move_move (by omega) (by omega)]
        · intro s hs
          exact ⟨_, _, List.mem_singleton.mp hs⟩

mutual

/-- **One change**, by induction on the tree of what an assignment sets off. The range is needed
where the handler goes on to `moveInModel`: the index is that of a row then. -/
theorem Session.change {e : RibbonEditor α} (h : Session model index e) :
    ∀ c : Change, c.inRange model.length = true → Continues model index (e.change c)
  | .followed, _ => by
    unfold RibbonEditor.change
    split
    · exact ⟨⟨h.active, h.source, h.place, h.target, h.target, h.moved⟩, by simp⟩
    · exact h.continues
  | .assigned current autoScrolling nested scroll, hinRange => by
    obtain ⟨hleast, hlast, hnested⟩ := of_decide_eq_true hinRange
    unfold RibbonEditor.change
    split
    · exact h.continues
    · split
      · -- the item is there already
        rename_i hsame
        have htarget : e.targetIndex = current := by simpa [h.active] using hsame
        exact (h.setCurrentIndex _ (htarget ▸ h.target)).continues
      · split
        · exact (h.setCurrentIndex _ h.target).continues
        · have hcurrent := h.setCurrentIndex current (by omega)
          -- the handler scrolls first, which may assign the index again, and then it moves
          have hvisible : Continues model index
              (if autoScrolling then (e.setCurrentIndex current, [])
                else (e.setCurrentIndex current).changes nested) := by
            split
            · exact hcurrent.continues
            · exact Session.changes hcurrent nested hnested
          have hmoved := hvisible.session.moveInModel scroll
          refine ⟨hmoved.session, fun s hs => ?_⟩
          exact (List.mem_append.mp hs).elim (hvisible.signals s) (hmoved.signals s)

/-- Several changes, one after the other. -/
theorem Session.changes {e : RibbonEditor α} (h : Session model index e) :
    ∀ cs : List Change, Change.allInRange model.length cs = true →
      Continues model index (e.changes cs)
  | [], _ => h.continues
  | c :: cs, hinRange => by
    obtain ⟨hc, hcs⟩ := Bool.and_eq_true_iff.mp hinRange
    have hfirst := Session.change h c hc
    have hrest := Session.changes hfirst.session cs hcs
    unfold RibbonEditor.changes
    refine ⟨hrest.session, fun s hs => ?_⟩
    exact (List.mem_append.mp hs).elim (hfirst.signals s) (hrest.signals s)

end

/-- `editCurrentItem` begins a session, also when the editor is active already: the item is where
it is, which is the empty move. -/
theorem session_editCurrentItem (heditable : e.ribbon.indexEditable e.ribbon.currentIndex = true)
    (hitem : e.ribbon.hasCurrentItem = true) {nested : List Change}
    (hnested : Change.allInRange e.ribbon.count nested = true) :
    Continues e.ribbon.model e.ribbon.currentIndex (e.editCurrentItem nested) := by
  have hplace := of_decide_eq_true hitem
  have hlt : e.ribbon.currentIndex.toNat < e.ribbon.model.length := by
    unfold Ribbon.count at hplace
    omega
  have hstarted : Session e.ribbon.model e.ribbon.currentIndex
      { e with
        sourceIndex := e.ribbon.currentIndex
        targetIndex := e.ribbon.currentIndex
        active := e.ribbon.hasCurrentItem } :=
    ⟨hitem, rfl, hplace, hplace, hplace, (move_self hlt).symm⟩
  unfold editCurrentItem
  dsimp only
  rw [heditable, if_neg (by decide), if_pos hitem]
  exact hstarted.changes nested hnested

/-- In a session there is an item to take the focus, so that `finishEditing` comes to its end and
emits `moved` if there was a move. -/
theorem Session.signals_finishEditing (h : Session model index e) :
    e.finishEditing.2 =
      if e.sourceIndex ≠ e.targetIndex then [.moved e.sourceIndex e.targetIndex] else [] := by
  have hcurrent : e.ribbon.hasCurrentItem = true := by
    have hrange := h.current
    rw [← h.count] at hrange
    exact decide_eq_true hrange
  unfold finishEditing
  simp only [hcurrent, true_and]

/-- What may happen while an item is being edited. An animated `stopEdit` is part of the session:
the editor finishes when the animation has ended, and until then indexes may be assigned. -/
def staysActive : EditorEvent → Bool
  | .change _ => true
  | .stopEdit animateEditItemDown => animateEditItemDown
  | .editCurrentItem _ | .finishEditing => false

/-- **One event** of a session: an assignment in range, or a `stopEdit` that waits for its
animation. -/
theorem continues_handle (h : Session model index e) {event : EditorEvent}
    (hevent : staysActive event = true) (hinRange : event.inRange model.length = true) :
    Continues model index ((ribbonEditor α).handle e event) := by
  cases event with
  | change c => exact h.change c hinRange
  | stopEdit animateEditItemDown =>
    -- the editor waits for the animation, and the session goes on
    have hanimate : animateEditItemDown = true := hevent
    show Continues model index (e.stopEdit animateEditItemDown)
    rw [hanimate, stopEdit, h.active]
    exact h.continues
  | editCurrentItem | finishEditing => cases hevent

/-- `e` has the elements of `model` in order, but for the one at `index`, which it has at
`targetIndex`. -/
structure OneMove (model : List α) (index : Int) (e : RibbonEditor α) : Prop where
  source : e.sourceIndex = index
  target : 0 ≤ e.targetIndex ∧ e.targetIndex < e.ribbon.count
  moved : e.ribbon.model = move model e.sourceIndex.toNat e.targetIndex.toNat
  /-- The element that was at `index` is at `targetIndex`. -/
  edited : e.ribbon.model[e.targetIndex.toNat]? = model[index.toNat]?
  /-- Without it both lists are the same, in order. -/
  others : e.ribbon.model.eraseIdx e.targetIndex.toNat = model.eraseIdx index.toNat

/-- What the invariant of a session says to somebody who looks at it from outside: the edited
element is where the editor says, and the others are in the order in which they were. -/
theorem Session.oneMove (h : Session model index e) : OneMove model index e := by
  have hplace := h.place
  have htarget := h.target
  refine ⟨h.source, ?_, ?_, ?_, ?_⟩
  · rwa [h.count]
  · rw [h.source, h.moved]
  · rw [h.moved, getElem?_move (by omega) (by omega)]
  · rw [h.moved, eraseIdx_move (by omega)]

/-- **A session is one move**, as long as the indexes that are assigned in its course are those of
rows, or -1. From the moment an item is edited the model differs from what it was by one move of
that item, to `targetIndex`; the end of the session leaves the model alone and emits `moved` if
the item is somewhere else than at the beginning, and nothing emits it before.

By induction on the run, with the signals that have been emitted as part of the invariant. -/
theorem edit_session (e : RibbonEditor α)
    (heditable : e.ribbon.indexEditable e.ribbon.currentIndex = true)
    (hitem : e.ribbon.hasCurrentItem = true) (nested : List Change)
    (hnested : Change.allInRange e.ribbon.count nested = true) (es : List EditorEvent)
    (hes : ∀ event ∈ es, staysActive event = true ∧ event.inRange e.ribbon.count = true) :
    let started := (ribbonEditor α).step (.init e) (.editCurrentItem nested)
    let last := (ribbonEditor α).run started es
    let finished := (ribbonEditor α).step last .finishEditing
    (ribbonEditor α).Always (fun h => OneMove e.ribbon.model e.ribbon.currentIndex h.state)
        started es ∧
      OneMove e.ribbon.model e.ribbon.currentIndex finished.state ∧
      finished.state.ribbon.model = last.state.ribbon.model ∧
      finished.outputs = last.outputs ++
        (if last.state.sourceIndex ≠ last.state.targetIndex then
          [.moved last.state.sourceIndex last.state.targetIndex] else []) ∧
      ∀ s ∈ last.outputs, ∃ source target, s = .move source target := by
  dsimp only
  have hstart := session_editCurrentItem heditable hitem hnested
  -- the conditions are on the events alone, whatever the state is
  have hadmits : (ribbonEditor α).Admits
      (fun _ event => staysActive event = true ∧ event.inRange e.ribbon.count = true)
      ((ribbonEditor α).step (.init e) (.editCurrentItem nested)) es := by
    generalize (ribbonEditor α).step (.init e) (.editCurrentItem nested) = h
    induction es generalizing h with
    | nil => trivial
    | cons event es ih =>
      exact ⟨hes event (by simp), ih (fun event' hmem => hes event' (by simp [hmem])) _⟩
  -- the outputs are part of the invariant, so that `moved` is known to be missing
  have hstep : ∀ h event, Continues e.ribbon.model e.ribbon.currentIndex (h.state, h.outputs) →
      staysActive event = true ∧ event.inRange e.ribbon.count = true →
      Continues e.ribbon.model e.ribbon.currentIndex
        (((ribbonEditor α).step h event).state, ((ribbonEditor α).step h event).outputs) := by
    intro h event hinv hevent
    have hnext := continues_handle hinv.session hevent.1 hevent.2
    refine ⟨hnext.session, fun s hs => ?_⟩
    exact (List.mem_append.mp hs).elim (hinv.signals s) (hnext.signals s)
  have hinit : Continues e.ribbon.model e.ribbon.currentIndex
      (((ribbonEditor α).step (.init e) (.editCurrentItem nested)).state,
        ((ribbonEditor α).step (.init e) (.editCurrentItem nested)).outputs) :=
    ⟨hstart.session, hstart.signals⟩
  have hall := Machine.always_of_admits hstep hinit hadmits
  have hlast := hall.last
  have hone := hlast.session.oneMove
  refine ⟨hall.mono fun _ hinv => hinv.session.oneMove,
    ⟨hone.source, hone.target, hone.moved, hone.edited, hone.others⟩, rfl, ?_, hlast.signals⟩
  show _ ++ (finishEditing _).2 = _
  rw [hlast.session.signals_finishEditing]

/-- The second of four items, the last of which cannot be moved, is dragged to the end, where it is
refused, then to the third place; while it is on its way to the first one, a postponed key press
moves it on. -/
theorem edit_session_drag :
    let ribbon : Ribbon Char := ⟨['a', 'b', 'c', 'd'], 1, [3]⟩
    let started := (ribbonEditor Char).step (.init { ribbon }) (.editCurrentItem [])
    let last := (ribbonEditor Char).run started
      [.change (.assigned 3 false [] {}), .change (.assigned 2 false [] {}), .change .followed,
        .stopEdit true, .change (.assigned 0 false [.assigned 1 true [] {}, .followed] {})]
    let finished := (ribbonEditor Char).step last .finishEditing
    OneMove ribbon.model 1 finished.state ∧
      finished.outputs = last.outputs ++
        (if last.state.sourceIndex ≠ last.state.targetIndex then
          [.moved last.state.sourceIndex last.state.targetIndex] else []) :=
  have h := edit_session ({ ribbon := ⟨['a', 'b', 'c', 'd'], 1, [3]⟩ } : RibbonEditor Char)
    (by decide) (by decide) [] (by decide)
    [.change (.assigned 3 false [] {}), .change (.assigned 2 false [] {}), .change .followed,
      .stopEdit true, .change (.assigned 0 false [.assigned 1 true [] {}, .followed] {})]
    (by decide)
  ⟨h.2.1, h.2.2.2.1⟩

/-! ## Indexes that have no row

The list view takes any number for an index. An index that no row has leaves the item where it is,
while the editor believes that it has been moved. -/

/-- What an assignment comes to that gets as far as the model: the item is moved, or the model
refuses it, and in either case the index becomes the target. -/
theorem Session.change_moves (h : Session model index e) {current : Int} (autoScrolling : Bool)
    {scroll : ScrollState} (hother : current ≠ e.ribbon.currentIndex ∧ current ≠ e.targetIndex)
    (hnone : current ≠ -1) (htarget : e.ribbon.indexEditable e.targetIndex = true)
    (hcurrent : e.ribbon.indexEditable current = true)
    (hallowed : scroll.allowedMoveInModel e.targetIndex current = true) :
    (e.change (.assigned current autoScrolling [] scroll)).1.targetIndex = current ∧
      (e.change (.assigned current autoScrolling [] scroll)).1.ribbon.model =
        (e.ribbon.modelMove e.targetIndex current).model := by
  have hrange := h.target
  -- nothing is nested, so that the handler has nothing to wait for
  have hvisible : (if autoScrolling then (e.setCurrentIndex current, ([] : List EditorSignal))
      else (e.setCurrentIndex current).changes []) = (e.setCurrentIndex current, []) := by
    unfold RibbonEditor.changes
    exact ite_self _
  have hcleared : (e.setCurrentIndex current).clearCurrentIndex =
      e.setCurrentIndex e.targetIndex := by
    have htargetIndex : ¬ (e.setCurrentIndex current).targetIndex = -1 := by
      show ¬ e.targetIndex = -1
      omega
    unfold RibbonEditor.clearCurrentIndex
    exact (if_neg (show ¬ (e.setCurrentIndex current).ribbon.currentIndex = -1 from hnone)).trans
      (if_neg htargetIndex)
  unfold RibbonEditor.change
  rw [if_neg hother.1, if_neg (by simpa [h.active] using hother.2.symm), if_neg hnone]
  dsimp only
  rw [hvisible]
  unfold RibbonEditor.moveInModel
  have htarget' : (e.setCurrentIndex current).ribbon.indexEditable
      (e.setCurrentIndex current).targetIndex = true := htarget
  have hcurrent' : (e.setCurrentIndex current).ribbon.indexEditable
      (e.setCurrentIndex current).ribbon.currentIndex = true := hcurrent
  have hallowed' : scroll.allowedMoveInModel (e.setCurrentIndex e.targetIndex).targetIndex
      (e.setCurrentIndex current).ribbon.currentIndex = true := hallowed
  rw [htarget', hcurrent', hcleared]
  dsimp only
  rw [hallowed']
  refine ⟨rfl, ?_⟩
  show ((e.setCurrentIndex e.targetIndex).ribbon.modelMove e.targetIndex current).model = _
  have hrows : (e.setCurrentIndex e.targetIndex).ribbon.model = e.ribbon.model := rfl
  exact Ribbon.model_modelMove_congr hrows _ _

/-- **Where one assignment goes wrong.** In a session, an index is assigned that `moveInModel` takes
up. There is one move of the list after it just in case the index is that of a row: the model
refuses any other one, and `targetIndex` has it all the same. -/
theorem oneMove_change_iff (h : Session model index e) {current : Int} (autoScrolling : Bool)
    {scroll : ScrollState} (hother : current ≠ e.ribbon.currentIndex ∧ current ≠ e.targetIndex)
    (hnone : current ≠ -1) (htarget : e.ribbon.indexEditable e.targetIndex = true)
    (hcurrent : e.ribbon.indexEditable current = true)
    (hallowed : scroll.allowedMoveInModel e.targetIndex current = true) :
    OneMove model index (e.change (.assigned current autoScrolling [] scroll)).1 ↔
      0 ≤ current ∧ current < model.length := by
  obtain ⟨hgoes, hmodel⟩ :=
    h.change_moves autoScrolling hother hnone htarget hcurrent hallowed
  constructor
  · intro hone
    have hplace := hone.target
    rw [hgoes] at hplace
    refine ⟨hplace.1, ?_⟩
    -- whether the model moves the row or not, it has as many as before
    have hlength : (e.change (.assigned current autoScrolling [] scroll)).1.ribbon.count =
        model.length := by
      unfold Ribbon.count
      rw [hmodel, Ribbon.length_modelMove]
      exact h.count
    omega
  · intro hplace
    have hinRange : Change.inRange model.length (.assigned current autoScrolling [] scroll) =
        true := decide_eq_true ⟨by omega, hplace.2, rfl⟩
    exact (h.change _ hinRange).session.oneMove

/-- The first of three items is edited, and the current index becomes 5. The model refuses to move
the item there, but `targetIndex` is 5, and the end of the session reports a move to that place. -/
theorem edit_session_outOfRange :
    let ribbon : Ribbon Char := ⟨['a', 'b', 'c'], 0, []⟩
    let started := (ribbonEditor Char).step (.init { ribbon }) (.editCurrentItem [])
    let last := (ribbonEditor Char).run started [.change (.assigned 5 false [] {})]
    let finished := (ribbonEditor Char).step last .finishEditing
    ¬ OneMove ribbon.model 0 last.state ∧ ¬ OneMove ribbon.model 0 finished.state ∧
      finished.state.ribbon.model = ribbon.model ∧
      finished.outputs = [.move 0 5, .moved 0 5] := by
  refine ⟨fun h => ?_, fun h => ?_, by decide, by decide⟩
  · have htarget := h.target
    revert htarget
    decide
  · have htarget := h.target
    revert htarget
    decide

end RibbonEditor

end Eos
