import WebosFramework.Items.RibbonKeys
import WebosFramework.Lib.EventLoop

/-!
# Keys of a ribbon

While a ribbon scrolls, a key press waits in `postponedActions` of `Eos/Items/Ribbon.qml` until the
animation has come to its end. A press in the other direction takes the place of those that wait.
Keys that are held down, the wheel and the mouse scroll the ribbon as well, and they stop the
animation that the presses wait for.

* This is the ribbon outside edit mode, with a list that does not change.
* What a handler finds in the list view is an argument, `KeySurroundings`. It does not change while
  the handler runs.
* An animation of no length stops when it is started; an item that needs one to be visible counts as
  visible. `afterScrollAni` has no part in what follows but for `scrolling`.

The handlers are written as they are in the source, one call inside the other. What is proved of
them goes by `operation`, which says for each event what it comes to: `handle_eq`.
-/

namespace Eos

open EventLoop

/-- The two functions that a press may call and that may wait in `postponedActions`:
`scrollToPrevIndex` and `scrollToNextIndex`. The source keeps the functions themselves and
compares them. -/
inductive KeyDirection where
  | prev
  | next
  deriving DecidableEq

/-- The call of the function, outside edit mode. -/
def KeyDirection.callback {α : Type} (direction : KeyDirection) (r : Ribbon α) (s : ScrollState)
    (hasEvent : Bool) : Ribbon α × List Ribbon.KeyAction :=
  match direction with
  | .prev => r.scrollToPrevIndex s false hasEvent
  | .next => r.scrollToNextIndex s false hasEvent

/-- What a handler reads of the list view and of the other animation. It is an argument of every
event, so that nothing is assumed of how far an animation has come or of what can be seen. -/
structure KeySurroundings where
  /-- The workaround for the "originX BUG". -/
  refuses : Bool := false
  atXBeginning : Bool := false
  atXEnd : Bool := false
  /-- `checkBounds(currentItem, ..)` in `leftKeyPressed` and `rightKeyPressed`. -/
  inBounds : Int := 0
  /-- Whether `checkBounds` is 0 for the item at an index. -/
  visible : Int → Bool := fun _ => true
  /-- The same for `targetItem`, or for the current item without one. -/
  targetVisible : Bool := true
  /-- `scrollBy` comes to rest where the ribbon is. -/
  stays : Bool := false
  /-- `contentX === to` when `scrollAni` is stopped. `scrollBy` assigns `to` before it restarts the
  animation; as it steps aside by one pixel at both ends, that may be where the ribbon is. -/
  arrived : Bool := false
  /-- `afterScrollAni.running` -/
  afterRunning : Bool := false

/-- The ribbon with the state of its main animation and the presses that wait. `state` is the
state of the ribbon item, in which it scrolls by itself or does not. -/
structure RibbonPresses (α : Type) where
  ribbon : Ribbon α
  layoutDirection : LayoutDirection := .leftToRight
  state : RibbonState := .idle
  /-- `scrollAni.running` -/
  running : Bool := false
  postponedActions : List KeyDirection := []
  stopByKey : Bool := false
  scrollByKey : Bool := false

namespace RibbonPresses

variable {α : Type}

/-! ## The postponed actions

A press that comes while an animation runs is postponed. The functions here recurse over the list
of actions that wait, since running one of them may run the next. -/

section Definitions

variable (v : KeySurroundings) (s : RibbonPresses α)

/-- What the functions of `Items.RibbonKeys` look at. -/
def scrollState : ScrollState where
  scrollingActive := s.running
  scrollByKey := s.scrollByKey
  autoScrolling := s.state ≠ .idle
  layoutDirection := s.layoutDirection
  state := s.state

/-- An assignment to `postponedActions`. -/
def setPostponedActions (postponedActions : List KeyDirection) : RibbonPresses α :=
  { s with postponedActions }

/-- `addPostponed`: an action joins those that wait if they are of its kind, and otherwise takes
their place. So the actions that wait are always of one kind. -/
def addPostponed (action : KeyDirection) : RibbonPresses α :=
  s.setPostponedActions
    (if s.postponedActions = [] ∨ s.postponedActions.head? = some action then
      s.postponedActions ++ [action]
    else [action])

/-- `scrollTo` of `scrollAni`, which does not stop at once. It forgets that a key was to stop the
animation before. -/
def start : RibbonPresses α := { s with running := true, stopByKey := false }

/-- `scrollTo`, which does nothing if the workaround for the wrong `originX` says so. -/
def scrollTo : RibbonPresses α := if v.refuses then s else s.start

/-- `ensureItemVisible`: if the current item can be seen there is nothing to scroll, and what has
been postponed is run at once; otherwise that is left to the end of the animation. The function
that runs it is an argument, as the two call each other. -/
def ensureItemVisible (runPostponed : RibbonPresses α → RibbonPresses α) : RibbonPresses α :=
  if v.visible s.ribbon.currentIndex then runPostponed s else s.scrollTo v

/-- What `scrollToPrevIndex` and `scrollToNextIndex` call outside edit mode. -/
def act (direction : KeyDirection) (runPostponed : RibbonPresses α → RibbonPresses α)
    (s : RibbonPresses α) : Ribbon.KeyAction → RibbonPresses α
  | .clearPostponed => s.setPostponedActions []
  | .addPostponed => s.addPostponed direction
  | .ensureItemVisible => s.ensureItemVisible v runPostponed
  | .notAccepted => s
  -- only in edit mode
  | .scrollToLeft | .scrollToRight | .scrollToEnd => s

/-- A call of `scrollToPrevIndex` or `scrollToNextIndex`, with all that it calls. -/
def scrollToIndex (direction : KeyDirection) (hasEvent : Bool)
    (runPostponed : RibbonPresses α → RibbonPresses α) : RibbonPresses α :=
  let pressed := direction.callback s.ribbon s.scrollState hasEvent
  pressed.2.foldl (act v direction runPostponed) { s with ribbon := pressed.1 }

/-- `runPostponed`: the first action leaves the list and is called, and as soon as it finds its
item visible it calls `runPostponed` for the rest.

The list is the one in the state: an action that is called by `runPostponed` adds nothing to it
before it calls `runPostponed` again. So the recursion is on the list. -/
def runPostponed : List KeyDirection → RibbonPresses α → RibbonPresses α
  | [], s => s
  | action :: rest, s =>
    (s.setPostponedActions rest).scrollToIndex v action false (runPostponed rest)

/-- `forceItemVisible` as it is called when a key has stopped the animation: it runs what has been
postponed only if the item to be shown can be seen already. -/
def forceItemVisible : RibbonPresses α :=
  if v.targetVisible then runPostponed v s.postponedActions s else s

/-! ## Animations and states

What happens when the animation starts or stops. A stop may run the actions that wait. -/

/-- `onRunningChanged` when `scrollAni` has stopped. Only if it has arrived, or if a key was to
stop it, is there something left to do; and an automatic scrolling that arrives only leaves its
state. -/
def onStopped : RibbonPresses α :=
  let s := { s with running := false }
  let s :=
    if v.arrived then
      -- an automatic scrolling that has arrived leaves what is postponed alone
      if s.state = .idle then runPostponed v s.postponedActions s
      else { s with state := .idle }
    else if s.stopByKey then s.forceItemVisible v
    else s
  { s with stopByKey := false }

/-- `scrollAni.stop()` -/
def stop : RibbonPresses α := if s.running then s.onStopped v else s

/-- `gotoState`, with the script of the new state, which stops `scrollAni` or scrolls to an end. -/
def gotoState (newState : RibbonState) : RibbonPresses α :=
  if newState = s.state then s
  else if newState = .idle then { s with state := newState }.stop v
  -- `scrollTo` of a running animation restarts it, which is seen as a stop before the state changes
  else { s.stop v with state := newState }.scrollTo v

/-- `scrollToRight`, with its result, which is false at the end of the content. -/
def scrollToRight : RibbonPresses α × Bool :=
  if v.atXEnd then (s, false) else (s.gotoState v .autoscrollingRight, true)

/-- `scrollToLeft`, with its result, which is false at the beginning of the content. -/
def scrollToLeft : RibbonPresses α × Bool :=
  if v.atXBeginning then (s, false) else (s.gotoState v .autoscrollingLeft, true)

/-- `stopScrolling` -/
def stopScrolling : RibbonPresses α := s.gotoState v .idle

/-- `scrollAni` is restarted: it stops, with what follows from that, and runs again. -/
def scrollBy : RibbonPresses α :=
  if v.refuses ∨ v.stays then s else (s.stop v).start

/-! ## Keys

The handlers of the keys and of the mouse, down to the calls of the functions above. -/

/-- A press that is not a repetition, or for which the ribbon does not scroll by itself.
`scrollByKey` is left first. -/
def press (direction : KeyDirection) : RibbonPresses α :=
  let s := { s with scrollByKey := false }
  s.scrollToIndex v direction true fun s => runPostponed v s.postponedActions s

/-- Without a current item `inBounds` is -1. -/
def leftKeyPressed (isAutoRepeat : Bool) : RibbonPresses α :=
  let inBounds := if s.ribbon.hasCurrentItem then v.inBounds else -1
  if isAutoRepeat ∧ inBounds < 0 ∧ (s.scrollToLeft v).2 then
    { (s.scrollToLeft v).1 with scrollByKey := true }
  else s.press v (if s.layoutDirection = .rightToLeft then .next else .prev)

/-- Without a current item `inBounds` is 1. -/
def rightKeyPressed (isAutoRepeat : Bool) : RibbonPresses α :=
  let inBounds := if s.ribbon.hasCurrentItem then v.inBounds else 1
  if isAutoRepeat ∧ inBounds > 0 ∧ (s.scrollToRight v).2 then
    { (s.scrollToRight v).1 with scrollByKey := true }
  else s.press v (if s.layoutDirection = .rightToLeft then .prev else .next)

/-- A release of the key, and a press against the direction of the scrolling: both stop an
automatic scrolling, and remember that a key has done so. Repeated events only clear
`scrollByKey`. -/
def stopScrollingByKey (isAutoRepeat : Bool) : RibbonPresses α :=
  let s := { s with scrollByKey := false }
  if isAutoRepeat = false ∧ s.state ≠ .idle then { s with stopByKey := true }.stopScrolling v else s

/-- `Keys.onLeftPressed`: while the ribbon scrolls to the right the key stops it. -/
def onLeftPressed (isAutoRepeat : Bool) : RibbonPresses α :=
  if (s.running ∨ v.afterRunning) ∧ s.state = .autoscrollingRight then
    s.stopScrollingByKey v isAutoRepeat
  else s.leftKeyPressed v isAutoRepeat

/-- `Keys.onRightPressed`: while the ribbon scrolls to the left the key stops it. -/
def onRightPressed (isAutoRepeat : Bool) : RibbonPresses α :=
  if (s.running ∨ v.afterRunning) ∧ s.state = .autoscrollingLeft then
    s.stopScrollingByKey v isAutoRepeat
  else s.rightKeyPressed v isAutoRepeat

/-- `indexAt` finds a row, or -1 where there is none. -/
def indexAt (row : Option Nat) : Int :=
  match row with
  | some i => if (i : Int) < s.ribbon.count then i else -1
  | none => -1

/-- The row that is found becomes the current one. Where there is no row the index stays. -/
def updateCurrentIndex (row : Option Nat) : RibbonPresses α :=
  if s.indexAt row ≠ -1 then { s with ribbon := s.ribbon.assignCurrentIndex (s.indexAt row) }
  else s

/-- `onContentXChanged`: the index follows the cursor or the middle of the view, unless the ribbon
scrolls by itself for the mouse and the cursor is hidden. -/
def onContentXChanged (cursorVisible : Bool) (row : Option Nat) : RibbonPresses α :=
  if s.state = .idle ∨ cursorVisible ∨ s.scrollByKey then s.updateCurrentIndex row else s

end Definitions

/-- What happens to a ribbon, each with what its handler finds. Changes of the content's position
are events of their own, as they come between the frames of an animation. -/
inductive Event where
  | leftPressed (v : KeySurroundings) (isAutoRepeat : Bool)
  | rightPressed (v : KeySurroundings) (isAutoRepeat : Bool)
  | released (v : KeySurroundings) (isAutoRepeat : Bool)
  /-- "We can call this function outside to simulate key press event" -/
  | leftKeyPressed (v : KeySurroundings) (isAutoRepeat : Bool)
  | rightKeyPressed (v : KeySurroundings) (isAutoRepeat : Bool)
  | scrollToLeft (v : KeySurroundings)
  | scrollToRight (v : KeySurroundings)
  | stopScrolling (v : KeySurroundings)
  | scrollBy (v : KeySurroundings)
  /-- The animation ends, or it is stopped from outside. -/
  | stopped (v : KeySurroundings)
  /-- The row that is at the cursor, or at the place where `scrollAni` looks for one. -/
  | contentXChanged (cursorVisible : Bool) (row : Option Nat)

/-- What the handler finds. A change of the position asks for none of it. -/
def Event.surroundings : Event → KeySurroundings
  | .leftPressed v _ | .rightPressed v _ | .released v _ | .leftKeyPressed v _
  | .rightKeyPressed v _ | .scrollToLeft v | .scrollToRight v | .stopScrolling v | .scrollBy v
  | .stopped v => v
  | .contentXChanged _ _ => {}

/-- The handler that an event runs, to its end with all that it calls. -/
def handle (s : RibbonPresses α) : Event → RibbonPresses α
  | .leftPressed v isAutoRepeat => s.onLeftPressed v isAutoRepeat
  | .rightPressed v isAutoRepeat => s.onRightPressed v isAutoRepeat
  | .released v isAutoRepeat => s.stopScrollingByKey v isAutoRepeat
  | .leftKeyPressed v isAutoRepeat => s.leftKeyPressed v isAutoRepeat
  | .rightKeyPressed v isAutoRepeat => s.rightKeyPressed v isAutoRepeat
  | .scrollToLeft v => (s.scrollToLeft v).1
  | .scrollToRight v => (s.scrollToRight v).1
  | .stopScrolling v => s.stopScrolling v
  | .scrollBy v => s.scrollBy v
  | .stopped v => s.stop v
  | .contentXChanged cursorVisible row => s.onContentXChanged cursorVisible row

/-- What the handlers emit is left out. -/
def keys (α : Type) : Machine (RibbonPresses α) Event Empty where
  handle s e := (s.handle e, [])

/-! ## What an event comes to

The conditions in the handlers decide which operation is made, and `handle_eq` shows that an event
is that operation. The proofs about the ribbon use operations from here on. -/

/-- What an event may come to, when all conditions on keys, repetitions, ends and layouts have
been looked at. There are far fewer of them than ways in which the handlers can run. -/
inductive Operation where
  | press (direction : KeyDirection)
  | autoscrollLeft (byKey : Bool)
  | autoscrollRight (byKey : Bool)
  | release (isAutoRepeat : Bool)
  | stopScrolling
  | scrollBy
  | stop
  | assignCurrentIndex (index : Int)
  | nothing
  deriving DecidableEq

/-- What `leftKeyPressed` comes to: a repeated key scrolls by itself while the current item is
before the view and there is something to scroll, and otherwise the key is a press, in the
direction of the layout. -/
def leftOperation (s : RibbonPresses α) (v : KeySurroundings) (isAutoRepeat : Bool) : Operation :=
  if isAutoRepeat ∧ (if s.ribbon.hasCurrentItem then v.inBounds else -1) < 0 ∧
      v.atXBeginning = false then .autoscrollLeft true
  else .press (if s.layoutDirection = .rightToLeft then .next else .prev)

/-- What `rightKeyPressed` comes to, the mirror image of `leftOperation`. -/
def rightOperation (s : RibbonPresses α) (v : KeySurroundings) (isAutoRepeat : Bool) : Operation :=
  if isAutoRepeat ∧ (if s.ribbon.hasCurrentItem then v.inBounds else 1) > 0 ∧
      v.atXEnd = false then .autoscrollRight true
  else .press (if s.layoutDirection = .rightToLeft then .prev else .next)

/-- What an event comes to. It is found from the state before the event alone, so that conditions
on events can be stated without running a handler. -/
def operation (s : RibbonPresses α) : Event → Operation
  | .leftPressed v isAutoRepeat =>
    if (s.running ∨ v.afterRunning) ∧ s.state = .autoscrollingRight then
      .release isAutoRepeat
    else s.leftOperation v isAutoRepeat
  | .rightPressed v isAutoRepeat =>
    if (s.running ∨ v.afterRunning) ∧ s.state = .autoscrollingLeft then
      .release isAutoRepeat
    else s.rightOperation v isAutoRepeat
  | .released _ isAutoRepeat => .release isAutoRepeat
  | .leftKeyPressed v isAutoRepeat => s.leftOperation v isAutoRepeat
  | .rightKeyPressed v isAutoRepeat => s.rightOperation v isAutoRepeat
  | .scrollToLeft v => if v.atXBeginning then .nothing else .autoscrollLeft false
  | .scrollToRight v => if v.atXEnd then .nothing else .autoscrollRight false
  | .stopScrolling _ => .stopScrolling
  | .scrollBy v => if v.refuses ∨ v.stays then .nothing else .scrollBy
  | .stopped _ => .stop
  | .contentXChanged cursorVisible row =>
    if (s.state = .idle ∨ cursorVisible ∨ s.scrollByKey) ∧ s.indexAt row ≠ -1 then
      .assignCurrentIndex (s.indexAt row)
    else .nothing

/-- A key that scrolls remembers that it does. -/
def setScrollByKey (s : RibbonPresses α) (byKey : Bool) : RibbonPresses α :=
  if byKey then { s with scrollByKey := true } else s

/-- An operation, carried out. -/
def perform (s : RibbonPresses α) (v : KeySurroundings) : Operation → RibbonPresses α
  | .press direction => s.press v direction
  | .autoscrollLeft byKey => (s.gotoState v .autoscrollingLeft).setScrollByKey byKey
  | .autoscrollRight byKey => (s.gotoState v .autoscrollingRight).setScrollByKey byKey
  | .release isAutoRepeat => s.stopScrollingByKey v isAutoRepeat
  | .stopScrolling => s.stopScrolling v
  | .scrollBy => (s.stop v).start
  | .stop => s.stop v
  | .assignCurrentIndex index => { s with ribbon := s.ribbon.assignCurrentIndex index }
  | .nothing => s

section

variable (s : RibbonPresses α) (v : KeySurroundings) (isAutoRepeat : Bool)

/-- `leftKeyPressed` in terms of operations. `scrollToLeft` is called once in the source and its
result is a condition; here that condition is part of `leftOperation`. -/
theorem leftKeyPressed_eq :
    s.leftKeyPressed v isAutoRepeat = s.perform v (s.leftOperation v isAutoRepeat) := by
  unfold leftKeyPressed leftOperation
  rw [apply_ite (s.perform v)]
  cases hbegin : v.atXBeginning <;> simp [scrollToLeft, hbegin, perform, setScrollByKey]

/-- `rightKeyPressed` in terms of operations, like `leftKeyPressed_eq`. -/
theorem rightKeyPressed_eq :
    s.rightKeyPressed v isAutoRepeat = s.perform v (s.rightOperation v isAutoRepeat) := by
  unfold rightKeyPressed rightOperation
  rw [apply_ite (s.perform v)]
  cases hend : v.atXEnd <;> simp [scrollToRight, hend, perform, setScrollByKey]

/-- **Each event is one operation**, whatever state the ribbon is in. What is said below of
operations is said of events by this.

The cases are the handlers, and each proof only moves the operation out of the conditions of its
handler. -/
theorem handle_eq (e : Event) : s.handle e = s.perform e.surroundings (s.operation e) := by
  cases e with
  | leftPressed v isAutoRepeat =>
    show s.onLeftPressed v isAutoRepeat = s.perform v (if _ then _ else _)
    rw [apply_ite (s.perform v), ← leftKeyPressed_eq]
    rfl
  | rightPressed v isAutoRepeat =>
    show s.onRightPressed v isAutoRepeat = s.perform v (if _ then _ else _)
    rw [apply_ite (s.perform v), ← rightKeyPressed_eq]
    rfl
  | released v isAutoRepeat => rfl
  | leftKeyPressed v isAutoRepeat => exact leftKeyPressed_eq s v isAutoRepeat
  | rightKeyPressed v isAutoRepeat => exact rightKeyPressed_eq s v isAutoRepeat
  | scrollToLeft v =>
    show (if _ then _ else _ : RibbonPresses α × Bool).1 = s.perform v (if _ then _ else _)
    rw [apply_ite (s.perform v), apply_ite Prod.fst]
    rfl
  | scrollToRight v =>
    show (if _ then _ else _ : RibbonPresses α × Bool).1 = s.perform v (if _ then _ else _)
    rw [apply_ite (s.perform v), apply_ite Prod.fst]
    rfl
  | stopScrolling v => rfl
  | scrollBy v =>
    show (if _ then _ else _ : RibbonPresses α) = s.perform v (if _ then _ else _)
    rw [apply_ite (s.perform v)]
    rfl
  | stopped v => rfl
  | contentXChanged cursorVisible row =>
    show (if _ then (if _ then _ else _) else _ : RibbonPresses α) =
      s.perform _ (if _ then _ else _)
    rw [apply_ite (s.perform _), ← ite_and]
    rfl

/-- A row that is found is one of the model. -/
theorem indexAt_mem (row : Option Nat) (hfound : s.indexAt row ≠ -1) :
    0 ≤ s.indexAt row ∧ s.indexAt row < s.ribbon.count := by
  unfold indexAt at hfound ⊢
  cases row with
  | none => exact absurd rfl hfound
  | some i =>
    dsimp only at hfound ⊢
    split
    · exact ⟨Int.natCast_nonneg i, ‹_›⟩
    · rename_i hnone
      exact absurd (if_neg hnone) hfound

/-- A key scrolls or is a press; it does not assign the index at once. -/
theorem leftOperation_ne (index : Int) :
    s.leftOperation v isAutoRepeat ≠ .assignCurrentIndex index := by
  unfold leftOperation
  refine fun h => (ite_eq_iff.mp h).elim (fun hauto => ?_) fun hpress => ?_
  · cases hauto.2
  · cases hpress.2

/-- The same for the other key. -/
theorem rightOperation_ne (index : Int) :
    s.rightOperation v isAutoRepeat ≠ .assignCurrentIndex index := by
  unfold rightOperation
  refine fun h => (ite_eq_iff.mp h).elim (fun hauto => ?_) fun hpress => ?_
  · cases hauto.2
  · cases hpress.2

/-- The view finds rows of its own only: an index that an event assigns is that of a row. Only a
change of `contentX` assigns one, namely that of the row which lies at the cursor. -/
theorem operation_assignCurrentIndex {e : Event} {index : Int}
    (h : s.operation e = .assignCurrentIndex index) : 0 ≤ index ∧ index < s.ribbon.count := by
  cases e with
  -- the only event that assigns the index itself; all others scroll or press
  | contentXChanged cursorVisible row =>
    have hop : (if (s.state = .idle ∨ cursorVisible = true ∨ s.scrollByKey = true) ∧
        s.indexAt row ≠ -1 then Operation.assignCurrentIndex (s.indexAt row) else .nothing) =
        .assignCurrentIndex index := h
    split at hop
    · rename_i hfound
      cases hop
      exact s.indexAt_mem row hfound.2
    · cases hop
  | leftPressed v isAutoRepeat =>
    have hop : (if (s.running = true ∨ v.afterRunning = true) ∧ s.state = .autoscrollingRight then
        Operation.release isAutoRepeat else s.leftOperation v isAutoRepeat) =
        .assignCurrentIndex index := h
    split at hop
    · cases hop
    · exact absurd hop (s.leftOperation_ne v isAutoRepeat index)
  | rightPressed v isAutoRepeat =>
    have hop : (if (s.running = true ∨ v.afterRunning = true) ∧ s.state = .autoscrollingLeft then
        Operation.release isAutoRepeat else s.rightOperation v isAutoRepeat) =
        .assignCurrentIndex index := h
    split at hop
    · cases hop
    · exact absurd hop (s.rightOperation_ne v isAutoRepeat index)
  | leftKeyPressed v isAutoRepeat => exact absurd h (s.leftOperation_ne v isAutoRepeat index)
  | rightKeyPressed v isAutoRepeat => exact absurd h (s.rightOperation_ne v isAutoRepeat index)
  | scrollToLeft v | scrollToRight v | scrollBy v =>
    simp only [operation] at h
    split at h <;> cases h
  | released v isAutoRepeat | stopScrolling v | stopped v => cases h

end

end RibbonPresses

end Eos
