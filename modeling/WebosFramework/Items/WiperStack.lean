import WebosFramework.Lib.EventLoop

/-!
# A stack of two wipers

`Eos/Items/WiperStack.qml` shows one item after another by opening one of its two `Wiper`s over the
other. A wiper that has opened hides the other one, unless that is in flight, as it then goes above.

* Opening takes `openTime`. All else is done at once: `closeTime` is 0 in a stack.
* A change of `state` cancels the opening that is running, and its handler does not run then.
* The last step of an opening makes the source item visible. A transition looks its targets up when
  it starts, so this is the item that there was then (`openingItem`), and an item that has taken its
  place in the meantime stays hidden.
* Items are numbers, each wiper has its own, and nobody else hides or shows them. What becomes of an
  item that is not the source item of its wiper any more is left out, and so are the curtain, its
  edges and how it is animated.

**`showsLast_iff`**: the wiper that has been advanced last is on top, and opens or shows its item
with the other one hidden or not open, as long as no wiper opens after the one that has been
advanced after it, and none has been given another item while it was opening. As `openTime` may be
changed in between, the first can happen as well.

Each wiper has an invariant of its own, and the stack one more, that the next wiper opens only
below an open one (`WiperStack.Inv`). What one sees (`ShowsLast`) is not an invariant; it is kept
by all events but the end of an opening, and there the two conditions of the theorem decide.
-/

namespace Eos

open EventLoop

/-! ## A wiper

One wiper: assignments to `state` start transitions, and the end of a pause makes the item visible
that was there when the transition started. -/

/-- The states of a wiper: closed to the right, closed to the left, and open. -/
inductive WiperState where
  | closed
  | closedLeft
  /-- `"open"` -/
  | opened
  deriving DecidableEq

/-- The signals that a wiper emits. -/
inductive WiperSignal where
  | opening
  | opened
  | closing
  | closed
  deriving DecidableEq

/-- A wiper with the item it is to show. `isOpen` is true from the end of an opening on, while
`state` is `opened` from its beginning. -/
structure Wiper where
  state : WiperState := .closed
  /-- `closedToOpen.running` or `closedLeftToOpen.running` -/
  opening : Bool := false
  isOpen : Bool := false
  sourceItem : Option Nat := none
  /-- Whether `sourceItem` is visible, if there is one. -/
  sourceVisible : Bool := false
  /-- The item that the opening will make visible at its end. -/
  openingItem : Option Nat := none
  visible : Bool := true
  z : Int := 0
  deriving DecidableEq

namespace Wiper

variable (w : Wiper)

/-- An assignment to `state`, with the transition. There are transitions from both closed states
to `opened` and back; the one between the closed states cannot be seen. -/
def setState (state : WiperState) : Wiper × List WiperSignal :=
  if w.state = state then (w, [])
  else if state = .opened then
    ({ w with state, opening := true, openingItem := w.sourceItem }, [.opening])
  else if w.state = .opened then
    ({ w with state, opening := false, isOpen := false, sourceVisible := false },
      [.closing, .closed])
  else ({ w with state }, [])

/-- `sourceItem = item`, with `onSourceItemChanged` if that is another item. -/
def setSourceItem (item : Option Nat) : Wiper :=
  if w.sourceItem = item then w
  else { w with sourceItem := item, sourceVisible := !w.opening && w.isOpen }

/-- The pause of `closedToOpen` or `closedLeftToOpen` has ended: the wiper is open, and the item
that was looked up at the beginning is made visible. -/
def finish : Wiper :=
  { w with
    opening := false
    isOpen := true
    sourceVisible := w.sourceVisible || w.openingItem = w.sourceItem }

/-- There is no source item, or it can be seen. -/
def ShowsItem : Prop := w.sourceItem = none ∨ w.sourceVisible = true

/-- The source item is still the one that the opening will show. -/
def KeepsItem : Prop := w.sourceItem = none ∨ w.openingItem = w.sourceItem

end Wiper

/-! ## The stack

The two wipers, and which of them comes next. -/

inductive WiperId where
  | wiperA
  | wiperB
  deriving DecidableEq

/-- The wiper that is not this one. -/
def WiperId.other : WiperId → WiperId
  | wiperA => wiperB
  | wiperB => wiperA

/-- The two wipers; `nextWiper` is the one that the next `advance` opens. -/
structure WiperStack where
  wiperA : Wiper := {}
  wiperB : Wiper := {}
  nextWiper : WiperId := .wiperA
  openFromLeft : Bool := false
  deriving DecidableEq

/-- What is called or assigned from outside, and the ends of pauses, which come at any time. -/
inductive WiperEvent where
  | advance
  | close
  | setOpenFromLeft (openFromLeft : Bool)
  | setSourceItem (id : WiperId) (item : Option Nat)
  /-- The pause of an opening has ended. -/
  | paused (id : WiperId)
  deriving DecidableEq

namespace WiperStack

variable (s : WiperStack)

/-- The closed state from which a wiper opens in the direction of the stack. -/
def closedState (openFromLeft : Bool) : WiperState :=
  if openFromLeft then .closedLeft else .closed

/-- `startOpen` is taken to be constant. -/
def new (startOpen openFromLeft : Bool) : WiperStack where
  wiperA := { state := if startOpen then .opened else closedState openFromLeft }
  nextWiper := if startOpen then .wiperB else .wiperA
  openFromLeft

/-- The wiper of this name. -/
def wiper : WiperId → Wiper
  | .wiperA => s.wiperA
  | .wiperB => s.wiperB

def setWiper : WiperId → Wiper → WiperStack
  | .wiperA, w => { s with wiperA := w }
  | .wiperB, w => { s with wiperB := w }

/-- The state of one wiper is assigned. -/
def assignState (id : WiperId) (state : WiperState) :
    WiperStack × List (WiperId × WiperSignal) :=
  (s.setWiper id ((s.wiper id).setState state).1,
    ((s.wiper id).setState state).2.map (id, ·))

/-- `advance`: the next wiper is put on top and closed, so that it has a transition to make, and
opened. Then the other one is next, and goes below. -/
def advance : WiperStack × List (WiperId × WiperSignal) :=
  let next := s.nextWiper
  let raised := s.setWiper next { s.wiper next with visible := true, z := 1 }
  let closed := raised.assignState next (closedState s.openFromLeft)
  let opened := closed.1.assignState next .opened
  let lowered := opened.1.setWiper next.other { opened.1.wiper next.other with z := 0 }
  ({ lowered with nextWiper := next.other }, closed.2 ++ opened.2)

/-- `close`, which closes both wipers in the direction of the stack. -/
def close : WiperStack × List (WiperId × WiperSignal) :=
  let closedA := s.assignState .wiperA (closedState s.openFromLeft)
  let closedB := closedA.1.assignState .wiperB (closedState s.openFromLeft)
  (closedB.1, closedA.2 ++ closedB.2)

/-- An assignment to `openFromLeft`, with `onOpenFromLeftChanged`. -/
def setOpenFromLeft (openFromLeft : Bool) : WiperStack × List (WiperId × WiperSignal) :=
  if s.openFromLeft = openFromLeft then (s, [])
  else { s with openFromLeft }.assignState s.nextWiper (closedState openFromLeft)

/-- `sourceItemA` or `sourceItemB` is assigned, to which the wiper's `sourceItem` is bound. -/
def setSourceItem (id : WiperId) (item : Option Nat) : WiperStack :=
  s.setWiper id ((s.wiper id).setSourceItem item)

/-- The pause of an opening has ended, with `onOpened`. -/
def paused (id : WiperId) : WiperStack × List (WiperId × WiperSignal) :=
  if (s.wiper id).opening then
    let opened := s.setWiper id (s.wiper id).finish
    if (s.wiper id.other).opening then (opened, [(id, .opened)])
    else
      (opened.setWiper id.other { s.wiper id.other with visible := false }, [(id, .opened)])
  else (s, [])

end WiperStack

/-- The stack reacting to one event after the other. -/
def wiperStack : Machine WiperStack WiperEvent (WiperId × WiperSignal) where
  handle s
    | .advance => s.advance
    | .close => s.close
    | .setOpenFromLeft openFromLeft => s.setOpenFromLeft openFromLeft
    | .setSourceItem id item => (s.setSourceItem id item, [])
    | .paused id => s.paused id

abbrev WiperHistory := History WiperStack WiperEvent (WiperId × WiperSignal)

namespace WiperStack

/-- The wiper that has been advanced last. -/
def lastWiper (s : WiperStack) : Wiper := s.wiper s.nextWiper.other

/-- The last wiper is on top of the other one and visible, if it has not been closed. It opens, or
shows its item while the other one is hidden, not open or still opening. If it has been closed
since, nothing is asked. -/
def ShowsLast (s : WiperStack) : Prop :=
  s.lastWiper.state = .opened →
    (s.wiper s.nextWiper).z < s.lastWiper.z ∧ s.lastWiper.visible = true ∧
      (s.lastWiper.opening = true ∨
        s.lastWiper.isOpen = true ∧ s.lastWiper.ShowsItem ∧
          ((s.wiper s.nextWiper).visible = false ∨ (s.wiper s.nextWiper).state ≠ .opened ∨
            (s.wiper s.nextWiper).opening = true))

/-- No wiper opens after the one that has been advanced after it. -/
def OpensInOrder (s : WiperStack) : WiperEvent → Prop
  | .paused id => id = s.nextWiper → (s.wiper id).opening = true → s.lastWiper.opening = true
  | _ => True

/-- The last wiper has opened with the item that it had when it began to open, or without one. -/
def OpensWithItem (s : WiperStack) : WiperEvent → Prop
  | .paused id => id = s.nextWiper.other → s.lastWiper.opening = true → s.lastWiper.KeepsItem
  | _ => True

end WiperStack

/-! ## One wiper

The invariant of one wiper, and what assignments and the end of a pause do to it. -/

/-- Only an open wiper shows its item, and only one whose state is open is open or opens. -/
structure Wiper.Inv (w : Wiper) : Prop where
  opening : w.opening = true → w.state = .opened ∧ w.isOpen = false
  isOpen : w.isOpen = true → w.state = .opened
  sourceVisible : w.sourceVisible = true → w.isOpen = true

namespace Wiper

variable {w : Wiper}

/-- The invariant of a wiper is kept by every transition: only the one that starts an opening
makes `opening` true, and only its end makes `isOpen` true. -/
theorem Inv.setState (h : w.Inv) (state : WiperState) : (w.setState state).1.Inv := by
  unfold Wiper.setState
  split
  · exact h
  · rename_i hne
    have hclosed (hstate : w.state ≠ .opened) : w.opening = false ∧ w.isOpen = false :=
      ⟨Bool.eq_false_iff.mpr fun ho => hstate (h.opening ho).1,
        Bool.eq_false_iff.mpr fun ho => hstate (h.isOpen ho)⟩
    split
    · rename_i hopened
      obtain ⟨-, hisOpen⟩ := hclosed fun hw => hne (hw.trans hopened.symm)
      exact ⟨fun _ => ⟨hopened, hisOpen⟩, fun _ => hopened, h.sourceVisible⟩
    · split
      · exact ⟨fun ho => absurd ho Bool.false_ne_true, fun ho => absurd ho Bool.false_ne_true,
          fun ho => absurd ho Bool.false_ne_true⟩
      · rename_i hstate
        obtain ⟨hopening, hisOpen⟩ := hclosed hstate
        exact ⟨fun ho => absurd ho (Bool.eq_false_iff.mp hopening),
          fun ho => absurd ho (Bool.eq_false_iff.mp hisOpen), h.sourceVisible⟩

/-- Only an open wiper shows the new item, as only one that is open already does. -/
theorem Inv.setSourceItem (h : w.Inv) (item : Option Nat) : (w.setSourceItem item).Inv := by
  unfold Wiper.setSourceItem
  split
  · exact h
  · exact ⟨h.opening, h.isOpen, fun hvisible => (Bool.and_eq_true_iff.mp hvisible).2⟩

/-- The end of an opening: the wiper is open, and may show its item. -/
theorem Inv.finish (h : w.Inv) (hopening : w.opening = true) : w.finish.Inv where
  opening ho := absurd ho Bool.false_ne_true
  isOpen _ := (h.opening hopening).1
  sourceVisible _ := rfl

/-- **An opening shows its own item.** At its end the source item can be seen exactly when it is the
one that there was at the beginning: before, it is hidden, like any item of a wiper that is not
open. -/
theorem showsItem_finish_iff (h : w.Inv) (hopening : w.opening = true) :
    w.finish.ShowsItem ↔ w.KeepsItem := by
  have hhidden : w.sourceVisible = false := Bool.eq_false_iff.mpr fun hvisible => by
    have hopen := h.sourceVisible hvisible
    rw [(h.opening hopening).2] at hopen
    cases hopen
  show w.sourceItem = none ∨ (w.sourceVisible || decide (w.openingItem = w.sourceItem)) = true ↔ _
  rw [hhidden, Bool.false_or, decide_eq_true_iff]
  rfl

/-- A wiper that is open shows what it is given. -/
theorem showsItem_setSourceItem (h : w.Inv) (hisOpen : w.isOpen = true) (hshows : w.ShowsItem)
    (item : Option Nat) : (w.setSourceItem item).ShowsItem := by
  have hopening : w.opening = false := Bool.eq_false_iff.mpr fun ho => by
    rw [(h.opening ho).2] at hisOpen
    cases hisOpen
  unfold setSourceItem
  split
  · exact hshows
  · refine .inr ?_
    show (!w.opening && w.isOpen) = true
    rw [hopening, hisOpen]
    rfl

/-- Neither the state of a wiper nor its place has to do with the item it is given. -/
theorem setSourceItem_eq (w : Wiper) (item : Option Nat) : ∃ sourceItem sourceVisible,
    w.setSourceItem item = { w with sourceItem, sourceVisible } := by
  unfold setSourceItem
  split
  · exact ⟨w.sourceItem, w.sourceVisible, rfl⟩
  · exact ⟨_, _, rfl⟩

/-- Where a wiper is and whether it is visible does not matter to it. -/
theorem Inv.place (h : w.Inv) (visible : Bool) (z : Int) : Inv { w with visible, z } :=
  ⟨h.opening, h.isOpen, h.sourceVisible⟩

/-- Transitions do not hide a wiper; that is done by the stack. -/
theorem visible_setState (state : WiperState) : (w.setState state).1.visible = w.visible := by
  unfold setState
  repeat' split
  all_goals rfl

/-- Nor do they move it up or down. -/
theorem z_setState (state : WiperState) : (w.setState state).1.z = w.z := by
  unfold setState
  repeat' split
  all_goals rfl

/-- Whatever transition there is, the state is the one assigned. -/
theorem state_setState (state : WiperState) : (w.setState state).1.state = state := by
  unfold setState
  split
  · assumption
  · repeat' split
    all_goals rfl

/-- Closing a wiper does not make it open. -/
theorem opening_setState {state : WiperState} (hstate : state ≠ .opened)
    (hopening : w.opening = false) : (w.setState state).1.opening = false := by
  unfold setState
  rw [if_neg hstate]
  split
  · exact hopening
  · split
    · rfl
    · exact hopening

/-- A wiper that is closed and opened again opens. -/
theorem opening_setState_setState {state : WiperState} (hstate : state ≠ .opened) :
    ((w.setState state).1.setState .opened).1.opening = true := by
  have hclosed := w.state_setState state
  rw [setState, if_neg (by rwa [hclosed]), if_pos rfl]

end Wiper

/-! ## The two wipers

What an assignment to one of the two leaves of the other one. -/

namespace WiperStack

variable {s : WiperStack} {e : WiperEvent} {id : WiperId}

/-- What has been assigned to one wiper is found there, and the other one is as it was. -/
theorem wiper_setWiper (s : WiperStack) (id id' : WiperId) (w : Wiper) :
    (s.setWiper id w).wiper id' = if id' = id then w else s.wiper id' := by
  cases id <;> cases id' <;> rfl

@[simp] theorem wiper_setWiper_self (s : WiperStack) (id : WiperId) (w : Wiper) :
    (s.setWiper id w).wiper id = w := by
  rw [wiper_setWiper, if_pos rfl]

@[simp] theorem nextWiper_setWiper (s : WiperStack) (id : WiperId) (w : Wiper) :
    (s.setWiper id w).nextWiper = s.nextWiper := by
  cases id <;> rfl

@[simp] theorem wiper_setWiper_of_ne {id' : WiperId} (hne : id' ≠ id) (w : Wiper) :
    (s.setWiper id w).wiper id' = s.wiper id' := by
  rw [wiper_setWiper, if_neg hne]

@[simp] theorem other_other (id : WiperId) : id.other.other = id := by
  cases id <;> rfl

@[simp] theorem other_ne (id : WiperId) : id.other ≠ id := by
  cases id <;> decide

@[simp] theorem ne_other (id : WiperId) : id ≠ id.other := (other_ne id).symm

/-- A closed state is not the open one, in either direction. -/
theorem closedState_ne (openFromLeft : Bool) : closedState openFromLeft ≠ .opened := by
  cases openFromLeft <;> decide

@[simp] theorem wiper_assignState_self (s : WiperStack) (id : WiperId) (state : WiperState) :
    (s.assignState id state).1.wiper id = ((s.wiper id).setState state).1 :=
  wiper_setWiper_self s id _

@[simp] theorem wiper_assignState_of_ne {id' : WiperId} (hne : id' ≠ id) (state : WiperState) :
    (s.assignState id state).1.wiper id' = s.wiper id' :=
  wiper_setWiper_of_ne hne _

@[simp] theorem nextWiper_assignState (s : WiperStack) (id : WiperId) (state : WiperState) :
    (s.assignState id state).1.nextWiper = s.nextWiper :=
  nextWiper_setWiper s id _

/-- There are two wipers: the next one and the last one. -/
theorem next_or_last (s : WiperStack) (id : WiperId) :
    id = s.nextWiper ∨ id = s.nextWiper.other := by
  cases id <;> cases s.nextWiper <;> decide

/-- The next wiper opens only below one that has been opened. -/
structure Inv (s : WiperStack) : Prop where
  wiper : ∀ id, (s.wiper id).Inv
  below : (s.wiper s.nextWiper).opening = true → s.lastWiper.state = .opened

/-- The invariant of the stack, from those of the next and of the last wiper. -/
theorem Inv.of_wipers (hnext : (s.wiper s.nextWiper).Inv) (hlast : s.lastWiper.Inv)
    (hbelow : (s.wiper s.nextWiper).opening = true → s.lastWiper.state = .opened) : s.Inv := by
  refine ⟨fun id => ?_, hbelow⟩
  obtain rfl | rfl := s.next_or_last id
  · exact hnext
  · exact hlast

/-! ## One event

A specification for each function of the stack, and the step lemma. -/

/-- The next wiper is closed, and then goes above the other one and opens. Whatever the stack has
shown before, it shows the last wiper afterwards, as that one opens. -/
theorem advance_spec (hs : s.Inv) : s.advance.1.Inv ∧ s.advance.1.ShowsLast := by
  generalize hraised : { s.wiper s.nextWiper with visible := true, z := 1 } = raised
  have hnext : s.advance.1.wiper s.advance.1.nextWiper =
      { s.wiper s.nextWiper.other with z := 0 } := by
    show (WiperStack.setWiper _ _ _).wiper _ = _
    simp [advance]
  have hlast : s.advance.1.lastWiper =
      ((raised.setState (closedState s.openFromLeft)).1.setState .opened).1 := by
    rw [← hraised]
    show (WiperStack.setWiper _ _ _).wiper _ = _
    simp [advance]
  have hinv : raised.Inv := hraised ▸ (hs.wiper s.nextWiper).place true 1
  have hopened : s.advance.1.lastWiper.state = .opened := by
    rw [hlast, Wiper.state_setState]
  constructor
  · refine .of_wipers ?_ ?_ fun _ => hopened
    · rw [hnext]
      exact (hs.wiper s.nextWiper.other).place _ 0
    · rw [hlast]
      exact (hinv.setState _).setState _
  · intro _
    rw [hnext, hlast, Wiper.z_setState, Wiper.z_setState, Wiper.visible_setState,
      Wiper.visible_setState, ← hraised]
    exact ⟨Int.zero_lt_one, rfl, .inl (Wiper.opening_setState_setState (closedState_ne _))⟩

/-- After `close` no wiper is open, so that there is nothing to show. -/
theorem close_spec (hs : s.Inv) : s.close.1.Inv ∧ s.close.1.ShowsLast := by
  have hwiper (id : WiperId) : s.close.1.wiper id =
      ((s.wiper id).setState (closedState s.openFromLeft)).1 := by
    cases id <;> rfl
  have hinv (id : WiperId) : (s.close.1.wiper id).Inv := by
    rw [hwiper]
    exact (hs.wiper id).setState _
  have hclosed (id : WiperId) : (s.close.1.wiper id).state ≠ .opened := by
    rw [hwiper, Wiper.state_setState]
    exact closedState_ne _
  exact ⟨⟨hinv, fun hopening => absurd ((hinv _).opening hopening).1 (hclosed _)⟩,
    fun hopened => absurd hopened (hclosed _)⟩

/-- Of the two wipers only the next one is closed. The last one is shown as before, since a closed
wiper does not cover it. -/
theorem setOpenFromLeft_spec (hs : s.Inv) (openFromLeft : Bool) :
    (s.setOpenFromLeft openFromLeft).1.Inv ∧
      (s.ShowsLast → (s.setOpenFromLeft openFromLeft).1.ShowsLast) := by
  unfold setOpenFromLeft
  split
  · exact ⟨hs, id⟩
  · generalize hturned : { s with openFromLeft } = turned
    have hwiper (id : WiperId) : turned.wiper id = s.wiper id := by
      rw [← hturned]
      cases id <;> rfl
    have hid : turned.nextWiper = s.nextWiper := hturned ▸ rfl
    generalize hresult : (turned.assignState s.nextWiper (closedState openFromLeft)).1 = s'
    have hid' : s'.nextWiper = s.nextWiper := by
      rw [← hresult, nextWiper_assignState, hid]
    have hnext : s'.wiper s'.nextWiper =
        ((s.wiper s.nextWiper).setState (closedState openFromLeft)).1 := by
      rw [hid', ← hresult, wiper_assignState_self, hwiper]
    have hlast : s'.lastWiper = s.lastWiper := by
      rw [lastWiper, hid', ← hresult, wiper_assignState_of_ne (other_ne _), hwiper]
      rfl
    -- the next wiper does not open any more, if it did
    have hclosed : (s'.wiper s'.nextWiper).state ≠ .opened := by
      rw [hnext, Wiper.state_setState]
      exact closedState_ne openFromLeft
    have hinv : (s'.wiper s'.nextWiper).Inv := hnext ▸ (hs.wiper _).setState _
    refine ⟨.of_wipers hinv (hlast ▸ hs.wiper _) fun hopening =>
      absurd (hinv.opening hopening).1 hclosed, ?_⟩
    intro hshows hopened
    rw [hlast] at hopened ⊢
    obtain ⟨hz, hvisible, hopening | ⟨hisOpen, hsource, -⟩⟩ := hshows hopened
    · exact ⟨by rwa [hnext, Wiper.z_setState], hvisible, .inl hopening⟩
    · exact ⟨by rwa [hnext, Wiper.z_setState], hvisible,
        .inr ⟨hisOpen, hsource, .inr (.inl hclosed)⟩⟩

/-- An item is given to one of the two wipers; all that changes of it is its item. An open wiper
shows the item that it is given, so what one sees is kept. -/
theorem setSourceItem_spec (hs : s.Inv) (id : WiperId) (item : Option Nat) :
    (s.setSourceItem id item).Inv ∧ (s.ShowsLast → (s.setSourceItem id item).ShowsLast) := by
  generalize hresult : s.setSourceItem id item = s'
  have hid : s'.nextWiper = s.nextWiper := hresult ▸ nextWiper_setWiper s id _
  have hwiper (id' : WiperId) : s'.wiper id' = s.wiper id' ∨
      s'.wiper id' = (s.wiper id').setSourceItem item := by
    rw [← hresult, setSourceItem, wiper_setWiper]
    split
    · rename_i hsame
      rw [hsame]
      exact .inr rfl
    · exact .inl rfl
  have hinv (id' : WiperId) : (s'.wiper id').Inv := by
    rcases hwiper id' with heq | heq <;> rw [heq]
    · exact hs.wiper id'
    · exact (hs.wiper id').setSourceItem item
  -- what a wiper is apart from its item
  have hsame (id' : WiperId) : (s'.wiper id').state = (s.wiper id').state ∧
      (s'.wiper id').opening = (s.wiper id').opening ∧
      (s'.wiper id').isOpen = (s.wiper id').isOpen ∧
      (s'.wiper id').visible = (s.wiper id').visible ∧ (s'.wiper id').z = (s.wiper id').z := by
    rcases hwiper id' with heq | heq
    · rw [heq]
      exact ⟨rfl, rfl, rfl, rfl, rfl⟩
    · obtain ⟨sourceItem, sourceVisible, hset⟩ := (s.wiper id').setSourceItem_eq item
      rw [heq, hset]
      exact ⟨rfl, rfl, rfl, rfl, rfl⟩
  have hlastWiper : s'.lastWiper = s'.wiper s.nextWiper.other := by rw [lastWiper, hid]
  obtain ⟨hstate, hopening, hisOpen, hvisible, hz⟩ := hsame s.nextWiper.other
  obtain ⟨hstate', hopening', -, hvisible', hz'⟩ := hsame s.nextWiper
  rw [← hlastWiper] at hstate hopening hisOpen hvisible hz
  refine ⟨⟨hinv, fun hbelow => ?_⟩, fun hshows hopened => ?_⟩
  · rw [hid, hopening'] at hbelow
    exact hstate.trans (hs.below hbelow)
  · obtain ⟨habove, hthere, hshown⟩ := hshows (hstate.symm.trans hopened)
    rw [hid, hz, hz', hvisible, hopening, hisOpen, hvisible', hstate', hopening']
    refine ⟨habove, hthere, hshown.imp_right fun ⟨hopen, hitem, hcovered⟩ =>
      ⟨hopen, ?_, hcovered⟩⟩
    rw [hlastWiper]
    -- the condition on the item carries over, whether this wiper is the one written or not
    rcases hwiper s.nextWiper.other with heq | heq <;> rw [heq]
    · exact hitem
    · exact Wiper.showsItem_setSourceItem (hs.wiper _) hopen hitem item

/-- A wiper that has opened hides the other one, unless that opens. -/
theorem paused_wipers (hopening : (s.wiper id).opening = true) :
    (s.paused id).1.nextWiper = s.nextWiper ∧
      (s.paused id).1.wiper id = (s.wiper id).finish ∧
      (s.paused id).1.wiper id.other =
        if (s.wiper id.other).opening then s.wiper id.other
        else { s.wiper id.other with visible := false } := by
  rw [paused, if_pos hopening]
  by_cases hother : (s.wiper id.other).opening = true
  · simp [hother]
  · simp [hother]

/-- The last wiper has opened. It shows its item from then on, if that is the one it had when it
began to open. -/
theorem paused_last_spec (hs : s.Inv) (hopening : s.lastWiper.opening = true) :
    (s.paused s.nextWiper.other).1.Inv ∧
      (s.ShowsLast → ((s.paused s.nextWiper.other).1.ShowsLast ↔ s.lastWiper.KeepsItem)) := by
  obtain ⟨hid, hlast, hnext⟩ := paused_wipers hopening
  generalize (s.paused s.nextWiper.other).1 = s' at hid hlast hnext
  rw [other_other] at hnext
  have hinvLast : s.lastWiper.Inv := hs.wiper _
  have hlastWiper : s'.lastWiper = s.lastWiper.finish := by
    rw [lastWiper, hid, hlast]
    rfl
  have hinv : (s'.wiper s'.nextWiper).Inv := by
    rw [hid, hnext]
    split
    · exact hs.wiper _
    · exact (hs.wiper _).place false _
  have hopened : s'.lastWiper.state = .opened := by
    rw [hlastWiper]
    exact (hinvLast.opening hopening).1
  refine ⟨.of_wipers hinv (hlastWiper ▸ hinvLast.finish hopening) fun _ => hopened,
    fun hshows => ?_⟩
  obtain ⟨hz, hvisible, -⟩ := hshows (hinvLast.opening hopening).1
  rw [← Wiper.showsItem_finish_iff hinvLast hopening, ← hlastWiper]
  constructor
  · intro hshows'
    obtain ⟨-, -, hopens | hitem⟩ := hshows' hopened
    · -- it does not open any more
      rw [hlastWiper] at hopens
      exact absurd hopens Bool.false_ne_true
    · exact hitem.2.1
  · intro hitem _
    rw [hlastWiper] at hitem ⊢
    rw [hid, hnext]
    split
    · rename_i hother
      exact ⟨hz, hvisible, .inr ⟨rfl, hitem, .inr (.inr hother)⟩⟩
    · exact ⟨hz, hvisible, .inr ⟨rfl, hitem, .inl rfl⟩⟩

/-- The next wiper may open while the last one does, and else it hides that one. The wiper that is
hidden is the one that was advanced last, so nothing is seen of it any more. -/
theorem paused_next_spec (hs : s.Inv) (hopening : (s.wiper s.nextWiper).opening = true) :
    (s.paused s.nextWiper).1.Inv ∧
      (s.ShowsLast → ((s.paused s.nextWiper).1.ShowsLast ↔ s.lastWiper.opening = true)) := by
  obtain ⟨hid, hnext, hlast⟩ := paused_wipers hopening
  generalize (s.paused s.nextWiper).1 = s' at hid hlast hnext
  have hstate := hs.below hopening
  have hfinish := (hs.wiper s.nextWiper).finish hopening
  have hlastWiper : s'.lastWiper =
      if s.lastWiper.opening then s.lastWiper else { s.lastWiper with visible := false } := by
    rw [lastWiper, hid, hlast]
    rfl
  have hstate' : s'.lastWiper.state = .opened := by
    rw [hlastWiper]
    split <;> exact hstate
  have hinv : s'.lastWiper.Inv := by
    rw [hlastWiper]
    split
    · exact hs.wiper _
    · exact (hs.wiper _).place false _
  refine ⟨.of_wipers (by rwa [hid, hnext]) hinv fun _ => hstate', fun hshows => ?_⟩
  obtain ⟨hz, hvisible, -⟩ := hshows hstate
  by_cases hother : s.lastWiper.opening = true
  · refine iff_of_true (fun _ => ?_) hother
    rw [hlastWiper, if_pos hother, hid, hnext]
    exact ⟨hz, hvisible, .inl hother⟩
  · refine iff_of_false (fun hshows' => ?_) hother
    have hhidden := (hshows' hstate').2.1
    rw [hlastWiper, if_neg hother] at hhidden
    cases hhidden

/-- The end of a pause, whichever of the two wipers it is that opens. -/
theorem paused_spec (hs : s.Inv) (id : WiperId) : (s.paused id).1.Inv ∧
    (s.ShowsLast → ((s.paused id).1.ShowsLast ↔
      s.OpensInOrder (.paused id) ∧ s.OpensWithItem (.paused id))) := by
  by_cases hopening : (s.wiper id).opening = true
  · obtain rfl | rfl := s.next_or_last id
    · obtain ⟨hinv, hiff⟩ := paused_next_spec hs hopening
      refine ⟨hinv, fun hshows => (hiff hshows).trans ⟨fun hlast => ⟨fun _ _ => hlast, ?_⟩,
        fun hboth => hboth.1 rfl hopening⟩⟩
      exact fun hid => absurd hid (ne_other s.nextWiper)
    · obtain ⟨hinv, hiff⟩ := paused_last_spec hs hopening
      refine ⟨hinv, fun hshows => (hiff hshows).trans ⟨fun hitem => ⟨?_, fun _ _ => hitem⟩,
        fun hboth => hboth.2 rfl hopening⟩⟩
      exact fun hid => absurd hid (other_ne s.nextWiper)
  · -- the pause has been cancelled, and nothing happens
    rw [paused, if_neg hopening]
    refine ⟨hs, fun hshows => iff_of_true hshows ⟨fun _ ho => absurd ho hopening, ?_⟩⟩
    rintro rfl ho
    exact absurd ho hopening

/-- Only `advance` makes a wiper open. While no wiper opens, and none is advanced, none will. -/
theorem opening_handle (hs : ∀ id, (s.wiper id).opening = false) (he : e ≠ .advance)
    (id : WiperId) : ((wiperStack.handle s e).1.wiper id).opening = false := by
  -- only `advance` opens a wiper, and every other step can but stop one
  cases e with
  | advance => exact absurd rfl he
  | close =>
    have hwiper : s.close.1.wiper id = ((s.wiper id).setState (closedState s.openFromLeft)).1 := by
      cases id <;> rfl
    show (s.close.1.wiper id).opening = false
    rw [hwiper]
    exact Wiper.opening_setState (closedState_ne _) (hs id)
  | setOpenFromLeft openFromLeft =>
    show ((s.setOpenFromLeft openFromLeft).1.wiper id).opening = false
    unfold setOpenFromLeft
    split
    · exact hs id
    · have hwiper : ({ s with openFromLeft } : WiperStack).wiper = s.wiper := by
        funext id'
        cases id' <;> rfl
      rw [assignState, wiper_setWiper, hwiper]
      split
      · exact Wiper.opening_setState (closedState_ne _) (hs _)
      · exact hs id
  | setSourceItem id' item =>
    show ((s.setWiper id' _).wiper id).opening = false
    rw [wiper_setWiper]
    split
    · obtain ⟨sourceItem, sourceVisible, hset⟩ := (s.wiper id').setSourceItem_eq item
      rw [hset]
      exact hs id'
    · exact hs id
  | paused id' =>
    have hnone : s.paused id' = (s, []) := if_neg (by simp [hs id'])
    show ((s.paused id').1.wiper id).opening = false
    rw [hnone]
    exact hs id

/-- At the beginning no wiper opens, not even the one that is open from the start. -/
theorem opening_new (startOpen openFromLeft : Bool) (id : WiperId) :
    ((new startOpen openFromLeft).wiper id).opening = false := by
  cases id <;> rfl

/-- A new stack keeps the invariant: nothing opens, nothing has opened, and no item has been made
visible. -/
theorem inv_new (startOpen openFromLeft : Bool) : (new startOpen openFromLeft).Inv where
  wiper id := by
    have hclosed : ((new startOpen openFromLeft).wiper id).isOpen = false := by
      cases id <;> rfl
    have hhidden : ((new startOpen openFromLeft).wiper id).sourceVisible = false := by
      cases id <;> rfl
    refine ⟨fun ho => ?_, fun ho => ?_, fun hvisible => ?_⟩
    · rw [opening_new] at ho
      cases ho
    · rw [hclosed] at ho
      cases ho
    · rw [hhidden] at hvisible
      cases hvisible
  below ho := by
    rw [opening_new] at ho
    cases ho

/-- **One event** keeps the invariant, and keeps what one sees exactly when no wiper opens out of
order, or without its item. -/
theorem handle_spec (hs : s.Inv) (e : WiperEvent) : (wiperStack.handle s e).1.Inv ∧
    (s.ShowsLast → ((wiperStack.handle s e).1.ShowsLast ↔
      s.OpensInOrder e ∧ s.OpensWithItem e)) := by
  cases e with
  | advance =>
    obtain ⟨hinv, hshows⟩ := advance_spec hs
    exact ⟨hinv, fun _ => iff_of_true hshows ⟨trivial, trivial⟩⟩
  | close =>
    obtain ⟨hinv, hshows⟩ := close_spec hs
    exact ⟨hinv, fun _ => iff_of_true hshows ⟨trivial, trivial⟩⟩
  | setOpenFromLeft openFromLeft =>
    obtain ⟨hinv, hshows⟩ := setOpenFromLeft_spec hs openFromLeft
    exact ⟨hinv, fun hs => iff_of_true (hshows hs) ⟨trivial, trivial⟩⟩
  | setSourceItem id item =>
    obtain ⟨hinv, hshows⟩ := setSourceItem_spec hs id item
    exact ⟨hinv, fun hs => iff_of_true (hshows hs) ⟨trivial, trivial⟩⟩
  | paused id => exact paused_spec hs id

end WiperStack

/-! ## Runs

From the first `advance` on there is a wiper to be shown. -/

/-- The stack shows what has been advanced last, if anything has. -/
def ShowsLastAdvanced (h : WiperHistory) : Prop := .advance ∈ h.inputs → h.state.ShowsLast

/-- The invariant of a run: before the first `advance` no wiper opens. -/
structure WipersInv (h : WiperHistory) : Prop where
  inv : h.state.Inv
  idle : .advance ∈ h.inputs ∨ ∀ id, (h.state.wiper id).opening = false

/-- The invariant of a run is kept: an `advance` is remembered, and all else does not make a wiper
open. -/
theorem WipersInv.step {h : WiperHistory} (hinv : WipersInv h) (e : WiperEvent) :
    WipersInv (wiperStack.step h e) := by
  refine ⟨(WiperStack.handle_spec hinv.inv e).1, ?_⟩
  rw [Machine.step_inputs, List.mem_append, List.mem_singleton]
  rcases hinv.idle with hadvance | hidle
  · exact .inl (.inl hadvance)
  · by_cases he : e = .advance
    · exact .inl (.inr he.symm)
    · exact .inr (WiperStack.opening_handle hidle he)

/-- After an event the stack shows the last wiper exactly when none has opened out of order, or
without its item. -/
theorem showsLastAdvanced_step_iff {h : WiperHistory} (hinv : WipersInv h)
    (hshows : ShowsLastAdvanced h) (e : WiperEvent) :
    ShowsLastAdvanced (wiperStack.step h e) ↔
      h.state.OpensInOrder e ∧ h.state.OpensWithItem e := by
  unfold ShowsLastAdvanced
  rw [Machine.step_inputs, List.mem_append, List.mem_singleton]
  by_cases hadvance : .advance ∈ h.inputs
  · have hiff := (WiperStack.handle_spec hinv.inv e).2 (hshows hadvance)
    exact ⟨fun hstep => hiff.mp (hstep (.inl hadvance)), fun hopens _ => hiff.mpr hopens⟩
  · by_cases he : e = .advance
    · subst he
      exact iff_of_true (fun _ => (WiperStack.advance_spec hinv.inv).2) ⟨trivial, trivial⟩
    · -- nothing has been advanced so far, so no wiper is opening
      have hidle := hinv.idle.resolve_left hadvance
      refine iff_of_true (fun hin => ?_) ?_
      · rcases hin with hin | hin
        · exact absurd hin hadvance
        · exact absurd hin.symm he
      · cases e with
        | paused id =>
          exact ⟨fun _ ho => absurd ho (Bool.eq_false_iff.mp (hidle id)),
            fun _ ho => absurd ho (Bool.eq_false_iff.mp (hidle _))⟩
        | _ => exact ⟨trivial, trivial⟩

/-- **The wiper advanced last is what one sees** exactly as long as no wiper opens after the one
that has been advanced after it, and the last one opens with the item that it had when it was
advanced, or without any.

By `Machine.always_iff_admits` with `WipersInv`: the step lemma says of each event that it keeps
what one sees just in case it meets both conditions. -/
theorem showsLast_iff (startOpen openFromLeft : Bool) (es : List WiperEvent) :
    wiperStack.Always ShowsLastAdvanced (.init (.new startOpen openFromLeft)) es ↔
      wiperStack.Admits (fun h e => h.state.OpensInOrder e ∧ h.state.OpensWithItem e)
        (.init (.new startOpen openFromLeft)) es :=
  Machine.always_iff_admits (I := WipersInv) (fun _ e hinv _ => hinv.step e)
    (fun _ e hinv hshows _ => showsLastAdvanced_step_iff hinv hshows e)
    ⟨WiperStack.inv_new startOpen openFromLeft,
      .inr (WiperStack.opening_new startOpen openFromLeft)⟩
    (fun hadvance => absurd hadvance List.not_mem_nil) (Machine.admits_true _ _ es)

end Eos
