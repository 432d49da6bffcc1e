import WebosFramework.Lib.EventLoop

/-!
# Tablet events

`WebOSQuickWindow` of `common/webosquickwindow.cpp` finds the item that gets a tablet event:
`handleTabletEvent` walks down the tree of items, from the topmost to the lowest. An item that does
not take the event as it is may get it as a mouse event, which `translateTabletToMouse` hands to
Qt. An item that takes a press grabs the events that follow, either as tablet events
(`m_tabletGrabberItem`) or as mouse events (`m_mouseGrabberItem`).

* A tree is what an event finds: the items with what they answer when they are asked about the place
  of the event.
* The answers of items and of Qt are a stream, of which each question takes the next one: whether an
  event that has been sent was accepted, and what `QQuickWindow::mouseGrabberItem()` is.
* The output of an event is what has been sent, with the two grabbers at that moment.

**`grabs_exclusive`**: the two grabs exclude each other, a release ends both, and a grab of tablet
events keeps everything else out.

What a part of the walk does is `Handled`: the state of the grabs afterwards, and what may be in
the log. It composes (`Handled.trans`), so that it holds of the whole recursion by induction on
the tree; a grab that exists already is the other case, `handleTabletEvent_grabbed`.
-/

namespace WebOSQuickWindow

open EventLoop

/-- Items are told apart by their addresses. -/
abbrev ItemId := Nat

/-- What the walk asks of an item. -/
structure ItemData (P : Type) where
  id : ItemId
  clipsChildrenToShape : Bool := false
  /-- `contains(mapFromScene(pos))`. -/
  contains : P → Bool
  isVisible : Bool := true
  isEnabled : Bool := true
  culled : Bool := false
  acceptedMouseButtons : Bool := true

/-- A tree of items. The children are in the order in which they are painted. -/
inductive QuickItem (P : Type) where
  | item (data : ItemData P) (paintOrderChildItems : List (QuickItem P))

/-- The three types of tablet events that are handled. -/
inductive TabletEventType where
  | press
  | move
  | release
  deriving DecidableEq

/-- `m_mouseGrabberItem` and `m_tabletGrabberItem`, which may be null. -/
@[ext]
structure Grabbers where
  mouseGrabberItem : Option ItemId := none
  tabletGrabberItem : Option ItemId := none
  deriving DecidableEq

/-- What Qt or an item answers to a question. -/
structure Answer where
  accepted : Bool
  mouseGrabberItem : Option ItemId := none

/-- An event is sent to an item as it is, or handed to Qt as a mouse event. -/
inductive Sent where
  | tablet (item : ItemId)
  | mouse
  deriving DecidableEq

/-- An event that has been sent: who grabbed events at that moment, and what came of it. -/
structure Delivery where
  grabbers : Grabbers
  sent : Sent
  accepted : Bool
  deriving DecidableEq

/-- A tablet event that is being handled. -/
structure Walk where
  grabbers : Grabbers
  /-- How many questions have been answered. -/
  asked : Nat := 0
  deliveries : List Delivery := []

/-- A tablet event, the items it finds in the window, and the answers. -/
structure TabletEvent (P : Type) where
  type : TabletEventType
  pos : P
  contentItem : QuickItem P
  answers : Nat → Answer

variable {P : Type}

namespace TabletEvent

variable (e : TabletEvent P)

/-- `QCoreApplication::sendEvent`, or the mouse handlers of `QQuickWindow`. -/
def send (sent : Sent) (w : Walk) : Bool × Walk :=
  let accepted := (e.answers w.asked).accepted
  (accepted,
    { w with asked := w.asked + 1, deliveries := w.deliveries ++ [⟨w.grabbers, sent, accepted⟩] })

/-- `mouseGrabberItem()` -/
def mouseGrabberItem (w : Walk) : Option ItemId × Walk :=
  ((e.answers w.asked).mouseGrabberItem, { w with asked := w.asked + 1 })

/-- An assignment to `m_mouseGrabberItem`. -/
def setMouseGrabberItem (w : Walk) (item : Option ItemId) : Walk :=
  { w with grabbers := { w.grabbers with mouseGrabberItem := item } }

/-- An assignment to `m_tabletGrabberItem`. -/
def setTabletGrabberItem (w : Walk) (item : Option ItemId) : Walk :=
  { w with grabbers := { w.grabbers with tabletGrabberItem := item } }

/-- `translateTabletToMouse`. After a press the grabber is the one that Qt has, after a release
there is none. -/
def translateTabletToMouse (w : Walk) : Bool × Walk :=
  let sent := e.send .mouse w
  match e.type with
  | .press =>
    let grabber := e.mouseGrabberItem sent.2
    (sent.1, setMouseGrabberItem grabber.2 grabber.1)
  | .release => (sent.1, setMouseGrabberItem sent.2 none)
  | .move => sent

/-- The event goes to the item that has grabbed tablet events. -/
def sendToGrabber (grabber : ItemId) (w : Walk) : Bool × Walk :=
  let sent := e.send (.tablet grabber) w
  (true, if e.type = .release then setTabletGrabberItem sent.2 none else sent.2)

/-- Whether there is a mouse grabber that Qt still knows of; one that it does not is forgotten. -/
def checkMouseGrabber (w : Walk) : Bool × Walk :=
  match w.grabbers.mouseGrabberItem with
  | none => (false, w)
  | some item =>
    let current := e.mouseGrabberItem w
    if current.1 = some item then (true, current.2)
    else (false, setMouseGrabberItem current.2 none)

/-- The item itself, after its children. -/
def handleItem (data : ItemData P) (w : Walk) : Bool × Walk :=
  if data.contains e.pos && data.acceptedMouseButtons then
    if w.grabbers.mouseGrabberItem = none then
      let sent := e.send (.tablet data.id) w
      if sent.1 then
        (true, if e.type = .press then setTabletGrabberItem sent.2 (some data.id) else sent.2)
      else e.translateTabletToMouse sent.2
    else e.translateTabletToMouse w
  else (false, w)

/-- Items that are not visible, not enabled or culled are left out with their children. -/
def skips : QuickItem P → Bool
  | .item data _ => !data.isVisible || !data.isEnabled || data.culled

mutual

/-- `handleTabletEvent`: the grabbers first, then the children, and then the item itself. -/
def handleTabletEvent : QuickItem P → Walk → Bool × Walk
  | .item data children, w =>
    match w.grabbers.tabletGrabberItem with
    | some grabber => e.sendToGrabber grabber w
    | none =>
      let checked := e.checkMouseGrabber w
      if checked.1 then e.translateTabletToMouse checked.2
      else if data.clipsChildrenToShape && !data.contains e.pos then (false, checked.2)
      else
        let delivered := handleChildren children checked.2
        if delivered.1 then delivered else e.handleItem data delivered.2

/-- The loop over the children, from the last to the first. -/
def handleChildren : List (QuickItem P) → Walk → Bool × Walk
  | [], w => (false, w)
  | child :: children, w =>
    let delivered := handleChildren children w
    if delivered.1 then delivered
    else if skips child then (false, delivered.2)
    else handleTabletEvent child delivered.2

end

end TabletEvent

/-- `event`, for tablet events. -/
def tabletEvents (P : Type) : Machine Grabbers (TabletEvent P) Delivery where
  handle grabbers e :=
    let handled := (e.handleTabletEvent e.contentItem { grabbers }).2
    (handled.grabbers, handled.deliveries)

/-! ## The grabs exclude each other

`Handled` is the specification of a part of the walk that starts without a grab. It composes along
the walk, and the induction over the tree of items needs nothing else. -/

/-- At most one of the two grabs is held. -/
def Grabbers.Exclusive (g : Grabbers) : Prop :=
  g.mouseGrabberItem = none ∨ g.tabletGrabberItem = none

/-- Without a grab of tablet events they exclude each other. -/
theorem Grabbers.exclusive_of_tablet_none {g : Grabbers} (h : g.tabletGrabberItem = none) :
    g.Exclusive :=
  .inr h

/-- The item takes the event as a tablet event. -/
def Delivery.TakenBy (d : Delivery) (item : ItemId) : Prop :=
  d.sent = .tablet item ∧ d.accepted = true

/-- What a part of the walk makes of an event that nobody has grabbed. -/
structure Handled (e : TabletEvent P) (w : Walk) (r : Bool × Walk) : Prop where
  /-- The grabs exclude each other. -/
  exclusive : r.2.grabbers.Exclusive
  /-- An event that nobody has taken is not grabbed. -/
  refused : r.1 = false → r.2.grabbers.tabletGrabberItem = none
  /-- Only a press grabs tablet events. -/
  not_press : e.type ≠ .press → r.2.grabbers.tabletGrabberItem = none
  /-- A release leaves no mouse grabber where there was none. -/
  release : e.type = .release → w.grabbers.mouseGrabberItem = none →
    r.2.grabbers.mouseGrabberItem = none
  /-- An item that takes the event as a tablet event is the last one to get it. -/
  log : ∃ sent, r.2.deliveries = w.deliveries ++ sent ∧
    (∀ d ∈ sent, d.grabbers.tabletGrabberItem = none) ∧
    ∀ d ∈ sent, ∀ item, d.TakenBy item → r.1 = true ∧ sent.getLast? = some d ∧
      (e.type = .press → r.2.grabbers.tabletGrabberItem = some item)

namespace Handled

variable {e : TabletEvent P} {w w' : Walk} {r r' : Bool × Walk}

/-- Doing nothing is refusing the event. -/
theorem refuse (hw : w.grabbers.tabletGrabberItem = none) : Handled e w (false, w) where
  exclusive := Grabbers.exclusive_of_tablet_none hw
  refused _ := hw
  not_press _ := hw
  release _ hmouse := hmouse
  log := ⟨[], by simp⟩

/-- A part of the walk that comes after one that has not found a taker. -/
theorem trans (h : Handled e w r) (hr : r.1 = false) (h' : Handled e r.2 r') :
    Handled e w r' where
  exclusive := h'.exclusive
  refused := h'.refused
  not_press := h'.not_press
  release hrelease hmouse := h'.release hrelease (h.release hrelease hmouse)
  log := by
    obtain ⟨sent, hsent, hfree, htaken⟩ := h.log
    obtain ⟨sent', hsent', hfree', htaken'⟩ := h'.log
    refine ⟨sent ++ sent', by rw [hsent', hsent, List.append_assoc], ?_, ?_⟩
    · intro d hd
      exact (List.mem_append.mp hd).elim (hfree d) (hfree' d)
    · intro d hd item hitem
      rcases List.mem_append.mp hd with hd | hd
      · -- the first part has not found a taker
        have htrue := (htaken d hd item hitem).1
        simp [hr] at htrue
      · obtain ⟨htrue, hlast, hpress⟩ := htaken' d hd item hitem
        exact ⟨htrue, by simp [List.getLast?_append, hlast], hpress⟩

/-- Looking at the grabber sends nothing, so what happens after it is what happens. -/
theorem of_checked (hdeliveries : w'.deliveries = w.deliveries)
    (hmouse : w.grabbers.mouseGrabberItem = none → w'.grabbers.mouseGrabberItem = none)
    (h : Handled e w' r) : Handled e w r where
  exclusive := h.exclusive
  refused := h.refused
  not_press := h.not_press
  release hrelease hnone := h.release hrelease (hmouse hnone)
  log := hdeliveries ▸ h.log

end Handled

namespace TabletEvent

variable {e : TabletEvent P} {w : Walk}

/-- A mouse event is never taken as a tablet event. -/
theorem handled_translateTabletToMouse (hw : w.grabbers.tabletGrabberItem = none) :
    Handled e w (e.translateTabletToMouse w) := by
  -- a mouse event is taken by no item as a tablet event
  have hlog : ∃ sent, (e.translateTabletToMouse w).2.deliveries = w.deliveries ++ sent ∧
      ∀ d ∈ sent, d.grabbers = w.grabbers ∧ d.sent = .mouse := by
    refine ⟨[⟨w.grabbers, .mouse, (e.answers w.asked).accepted⟩], ?_, by simp⟩
    cases htype : e.type <;>
      simp [translateTabletToMouse, htype, send, mouseGrabberItem, setMouseGrabberItem]
  have htablet : (e.translateTabletToMouse w).2.grabbers.tabletGrabberItem = none := by
    cases htype : e.type <;>
      simp [translateTabletToMouse, htype, send, mouseGrabberItem, setMouseGrabberItem, hw]
  refine ⟨Grabbers.exclusive_of_tablet_none htablet, fun _ => htablet, fun _ => htablet, ?_, ?_⟩
  · intro hrelease _
    simp [translateTabletToMouse, hrelease, setMouseGrabberItem]
  · obtain ⟨sent, hsent, hmouse⟩ := hlog
    refine ⟨sent, hsent, fun d hd => (hmouse d hd).1 ▸ hw, fun d hd item hitem => ?_⟩
    have := hitem.1.symm.trans (hmouse d hd).2
    cases this

/-- A release that becomes a mouse event ends the mouse grab, whatever Qt's own grabber is. -/
theorem translateTabletToMouse_release (hrelease : e.type = .release) :
    (e.translateTabletToMouse w).2.grabbers.mouseGrabberItem = none := by
  simp [translateTabletToMouse, hrelease, setMouseGrabberItem]

/-- An item takes the event as it is, or it is handed to Qt as a mouse event. It is handed to Qt
only after the item has been asked and has refused. -/
theorem handled_handleItem {data : ItemData P} (hw : w.grabbers.tabletGrabberItem = none) :
    Handled e w (e.handleItem data w) := by
  unfold handleItem
  split
  · split
    · rename_i hmouse
      -- the item is asked first, and Qt only if the item refuses
      cases haccepted : (e.answers w.asked).accepted with
      | false =>
        have hasked : Handled e w (e.send (.tablet data.id) w) := by
          refine ⟨Grabbers.exclusive_of_tablet_none hw, fun _ => hw, fun _ => hw,
            fun _ _ => hmouse, [⟨w.grabbers, .tablet data.id, false⟩], ?_, ?_, ?_⟩
          · simp [send, haccepted]
          · simp [hw]
          · simp [Delivery.TakenBy]
        have hfalse : (e.send (.tablet data.id) w).1 = false := haccepted
        simp only [hfalse, Bool.false_eq_true, if_false]
        exact hasked.trans hfalse (handled_translateTabletToMouse hw)
      -- the item takes the event, and grabs those that follow if it is a press
      | true =>
        have htrue : (e.send (.tablet data.id) w).1 = true := haccepted
        simp only [htrue, if_true]
        by_cases hpress : e.type = .press
        · rw [if_pos hpress]
          refine ⟨.inl hmouse, by simp, fun h => absurd hpress h, fun _ _ => hmouse,
            [⟨w.grabbers, .tablet data.id, true⟩], ?_, ?_, ?_⟩
          · simp [send, haccepted, setTabletGrabberItem]
          · simp [hw]
          · simp [Delivery.TakenBy, setTabletGrabberItem]
        · rw [if_neg hpress]
          refine ⟨.inl hmouse, by simp, fun _ => hw, fun _ _ => hmouse,
            [⟨w.grabbers, .tablet data.id, true⟩], ?_, ?_, ?_⟩
          · simp [send, haccepted]
          · simp [hw]
          · simp [hpress]
    · exact handled_translateTabletToMouse hw
  · -- the point is not in the item
    exact .refuse hw

/-- Looking at the mouse grabber sends nothing and does not touch tablet grabs. -/
theorem checkMouseGrabber_frame : (e.checkMouseGrabber w).2.deliveries = w.deliveries ∧
    (e.checkMouseGrabber w).2.grabbers.tabletGrabberItem = w.grabbers.tabletGrabberItem := by
  unfold checkMouseGrabber
  split
  · exact ⟨rfl, rfl⟩
  · dsimp only
    split <;> exact ⟨rfl, rfl⟩

/-- The walk goes on only without a mouse grabber. -/
theorem checkMouseGrabber_false (h : (e.checkMouseGrabber w).1 = false) :
    (e.checkMouseGrabber w).2.grabbers.mouseGrabberItem = none := by
  revert h
  unfold checkMouseGrabber
  split
  · rename_i hnone
    exact fun _ => hnone
  · dsimp only
    split
    · exact fun h => absurd h (by simp)
    · exact fun _ => rfl

/-- Without a mouse grabber there is nothing to look at. -/
theorem checkMouseGrabber_none (h : w.grabbers.mouseGrabberItem = none) :
    e.checkMouseGrabber w = (false, w) := by
  unfold checkMouseGrabber
  rw [h]

mutual

/-- **The walk over an item.** By induction on the tree, together with the walk over a list of
children: the grabber is looked at, then the children are asked, and then the item itself, each
part only after those before have refused. For a release the mouse grabber is gone at the end as
well. -/
theorem handled_handleTabletEvent : ∀ (item : QuickItem P) {w : Walk},
    w.grabbers.tabletGrabberItem = none → Handled e w (e.handleTabletEvent item w) ∧
      (e.type = .release →
        (e.handleTabletEvent item w).2.grabbers.mouseGrabberItem = none)
  | .item data children, w, hw => by
    have hchecked : (e.checkMouseGrabber w).2.grabbers.tabletGrabberItem = none :=
      checkMouseGrabber_frame.2.trans hw
    have hmouse : w.grabbers.mouseGrabberItem = none →
        (e.checkMouseGrabber w).2.grabbers.mouseGrabberItem = none := by
      intro hnone
      rw [checkMouseGrabber_none hnone]
      exact hnone
    simp only [handleTabletEvent, hw]
    cases hfst : (e.checkMouseGrabber w).1 with
    -- there is a mouse grabber that Qt knows of, which gets the event
    | true =>
      rw [if_pos rfl]
      exact ⟨.of_checked checkMouseGrabber_frame.1 hmouse
        (handled_translateTabletToMouse hchecked), translateTabletToMouse_release⟩
    | false =>
      -- nobody has grabbed anything any more
      have hnone := checkMouseGrabber_false hfst
      simp only [Bool.false_eq_true, if_false]
      have handled : ∀ r, Handled e (e.checkMouseGrabber w).2 r →
          Handled e w r ∧ (e.type = .release → r.2.grabbers.mouseGrabberItem = none) :=
        fun r hr => ⟨.of_checked checkMouseGrabber_frame.1 hmouse hr,
          fun hrelease => hr.release hrelease hnone⟩
      apply handled
      split
      · -- an item that is hidden refuses
        exact .refuse hchecked
      · have hchildren := handled_handleChildren children hchecked
        split
        · -- the children come first, and the item itself only if they refuse
          exact hchildren
        · rename_i hrefused
          have hfalse : (e.handleChildren children (e.checkMouseGrabber w).2).1 = false := by
            simpa using hrefused
          exact hchildren.trans hfalse (handled_handleItem (hchildren.refused hfalse))

/-- The walk over the children, from the topmost to the lowest. -/
theorem handled_handleChildren : ∀ (children : List (QuickItem P)) {w : Walk},
    w.grabbers.tabletGrabberItem = none → Handled e w (e.handleChildren children w)
  | [], w, hw => by
    simp only [handleChildren]
    exact .refuse hw
  | child :: children, w, hw => by
    have hchildren := handled_handleChildren children hw
    simp only [handleChildren]
    split
    · exact hchildren
    · rename_i hrefused
      have hfalse : (e.handleChildren children w).1 = false := by simpa using hrefused
      have hnone := hchildren.refused hfalse
      apply hchildren.trans hfalse
      split
      · exact .refuse hnone
      · exact (handled_handleTabletEvent child hnone).1

end

/-- A grabbed event goes to the grabber, and a release is the last one that does. -/
theorem handleTabletEvent_grabbed {grabber : ItemId} (item : QuickItem P)
    (hw : w.grabbers.tabletGrabberItem = some grabber) :
    (e.handleTabletEvent item w).2.deliveries =
        w.deliveries ++ [⟨w.grabbers, .tablet grabber, (e.answers w.asked).accepted⟩] ∧
      (e.handleTabletEvent item w).2.grabbers.mouseGrabberItem = w.grabbers.mouseGrabberItem ∧
      (e.handleTabletEvent item w).2.grabbers.tabletGrabberItem =
        if e.type = .release then none else some grabber := by
  cases item with
  | item data children =>
    simp only [handleTabletEvent, hw, sendToGrabber]
    split <;> simp [send, setTabletGrabberItem, hw]

end TabletEvent

/-! ## Runs of tablet events

An event finds nothing grabbed, or an item that has grabbed tablet events. In the first case the
walk decides, in the second the item gets the event. -/

section Runs

variable {g : Grabbers} {e : TabletEvent P} {grabber : ItemId}

/-- An event while nobody has grabbed tablet events. -/
theorem handle_free (hg : g.tabletGrabberItem = none) :
    ((tabletEvents P).handle g e).1.Exclusive ∧
      (∀ d ∈ ((tabletEvents P).handle g e).2, d.grabbers.tabletGrabberItem = none) ∧
      (e.type = .release → ((tabletEvents P).handle g e).1 = {}) := by
  obtain ⟨handled, hmouse⟩ :=
    TabletEvent.handled_handleTabletEvent (e := e) (w := { grabbers := g }) e.contentItem hg
  refine ⟨handled.exclusive, ?_, fun hrelease => ?_⟩
  · obtain ⟨sent, hsent, hfree, -⟩ := handled.log
    simpa [tabletEvents, hsent] using hfree
  · have htablet := handled.not_press (by simp [hrelease])
    exact Grabbers.ext (hmouse hrelease) htablet

/-- An event while an item has: it is sent to that item and to no other, and a release ends the
grab. -/
theorem handle_grabbed (hg : g.tabletGrabberItem = some grabber) :
    (tabletEvents P).handle g e =
      ({ g with tabletGrabberItem := if e.type = .release then none else some grabber },
        [⟨g, .tablet grabber, (e.answers 0).accepted⟩]) := by
  obtain ⟨hsent, hmouse, htablet⟩ :=
    TabletEvent.handleTabletEvent_grabbed (e := e) (w := { grabbers := g }) e.contentItem hg
  exact Prod.ext (Grabbers.ext hmouse htablet) hsent

/-- An item that takes a press as a tablet event is the last one to get it, and has grabbed the
events that follow. -/
theorem handle_press_taken (hpress : e.type = .press) {d : Delivery} {item : ItemId}
    (hd : d ∈ ((tabletEvents P).handle g e).2) (hitem : d.TakenBy item) :
    ((tabletEvents P).handle g e).2.getLast? = some d ∧
      ((tabletEvents P).handle g e).1.tabletGrabberItem = some item := by
  cases hg : g.tabletGrabberItem with
  | some grabber =>
    rw [handle_grabbed hg] at hd ⊢
    rw [List.mem_singleton] at hd
    subst hd
    have hsame : grabber = item := Sent.tablet.inj hitem.1
    simp [hpress, hsame]
  | none =>
    obtain ⟨handled, -⟩ :=
      TabletEvent.handled_handleTabletEvent (e := e) (w := { grabbers := g }) e.contentItem hg
    obtain ⟨sent, hsent, -, htaken⟩ := handled.log
    have hsent : ((tabletEvents P).handle g e).2 = sent := hsent
    rw [hsent] at hd ⊢
    obtain ⟨-, hlast, hgrab⟩ := htaken d hd item hitem
    exact ⟨hlast, hgrab hpress⟩

/-- The grab stays until a release. By induction on the events. -/
theorem run_grabbed {h : History Grabbers (TabletEvent P) Delivery} {gs : List (TabletEvent P)}
    (hg : h.state.tabletGrabberItem = some grabber) (hgs : ∀ e ∈ gs, e.type ≠ .release) :
    ((tabletEvents P).run h gs).state.tabletGrabberItem = some grabber := by
  induction gs generalizing h with
  | nil => exact hg
  | cons e gs ih =>
    obtain ⟨he, hgs⟩ := List.forall_mem_cons.mp hgs
    refine ih ?_ hgs
    rw [Machine.step_state, handle_grabbed hg]
    exact if_neg he

/-- What holds of the grabs at every event boundary. -/
structure GrabsInv (h : History Grabbers (TabletEvent P) Delivery) : Prop where
  /-- The grabs exclude each other after every event. -/
  exclusive : h.state.Exclusive
  exclusive_during : ∀ d ∈ h.outputs, d.grabbers.Exclusive
  /-- A release ends both. -/
  released : ∀ e, h.inputs.getLast? = some e → e.type = .release → h.state = {}

/-- At the start there are no grabs. -/
theorem grabsInv_init : GrabsInv (.init {} : History Grabbers (TabletEvent P) Delivery) where
  exclusive := .inl rfl
  exclusive_during d hd := by simp [History.init] at hd
  released e he := by simp [History.init] at he

/-- An event finds the tablet grab held or not, and in both cases the grabs exclude each other.
Where it is held the event goes straight to the grabber, and no item is asked. -/
theorem grabsInv_step {h : History Grabbers (TabletEvent P) Delivery} (hI : GrabsInv h) :
    GrabsInv ((tabletEvents P).step h e) := by
  cases hg : h.state.tabletGrabberItem with
  -- no tablet grab: the walk over the items decides
  | none =>
    obtain ⟨hexclusive, hfree, hreleased⟩ := handle_free (e := e) hg
    refine ⟨hexclusive, ?_, ?_⟩
    · intro d hd
      exact (List.mem_append.mp hd).elim (hI.exclusive_during d)
        fun hd => Grabbers.exclusive_of_tablet_none (hfree d hd)
    · intro e' he' hrelease
      rw [Machine.step_inputs, List.getLast?_concat] at he'
      obtain rfl := Option.some.inj he'
      exact hreleased hrelease
  | some grabber =>
    -- the grabber of tablet events keeps the other one out
    have hmouse : h.state.mouseGrabberItem = none := by
      have := hI.exclusive
      simpa [Grabbers.Exclusive, hg] using this
    refine ⟨?_, ?_, ?_⟩
    · rw [Machine.step_state, handle_grabbed hg]
      exact .inl hmouse
    · intro d hd
      rw [Machine.step_outputs, handle_grabbed hg] at hd
      rcases List.mem_append.mp hd with hd | hd
      · exact hI.exclusive_during d hd
      · rw [List.mem_singleton.mp hd]
        exact hI.exclusive
    · intro e' he' hrelease
      rw [Machine.step_inputs, List.getLast?_concat] at he'
      obtain rfl := Option.some.inj he'
      rw [Machine.step_state, handle_grabbed hg, if_pos hrelease]
      exact Grabbers.ext hmouse rfl

/-- At every event boundary, and whenever something is sent, at most one of the two grabs is on;
after a release both are off. From a press that an item takes as a tablet event up to the next
release, every event goes to that item as a tablet event, and nothing else is sent. -/
theorem grabs_exclusive (es : List (TabletEvent P)) :
    (tabletEvents P).Always
      (fun h => h.state.Exclusive ∧ (∀ d ∈ h.outputs, d.grabbers.Exclusive) ∧
        ∀ e, h.inputs.getLast? = some e → e.type = .release → h.state = {}) (.init {}) es ∧
    ∀ fs e gs f ks, es = fs ++ e :: (gs ++ f :: ks) → e.type = .press →
      (∀ g ∈ gs, g.type ≠ .release) →
      ∀ d ∈ ((tabletEvents P).handle ((tabletEvents P).run (.init {}) fs).state e).2,
        ∀ item, d.TakenBy item →
          ((tabletEvents P).handle ((tabletEvents P).run (.init {}) fs).state e).2.getLast?
            = some d ∧
          ((tabletEvents P).handle
            ((tabletEvents P).run (.init {}) (fs ++ e :: gs)).state f).2.map Delivery.sent
            = [.tablet item] := by
  constructor
  · have halways := Machine.always_of_admits (M := tabletEvents P) (E := fun _ _ => True)
      (fun _ _ hI _ => grabsInv_step hI) grabsInv_init (Machine.admits_true _ _ es)
    exact halways.mono fun h hI => ⟨hI.exclusive, hI.exclusive_during, hI.released⟩
  · intro fs e gs f ks _ hpress hgs d hd item hitem
    obtain ⟨hlast, hgrab⟩ := handle_press_taken hpress hd hitem
    -- the grab lasts up to the event, whatever has come in between
    refine ⟨hlast, ?_⟩
    rw [Machine.run_append, Machine.run_cons, handle_grabbed (run_grabbed hgrab hgs)]
    rfl

/-- A pen on an item in the window that takes tablet events. -/
def penOnItem (type : TabletEventType) : TabletEvent Unit where
  type := type
  pos := ()
  contentItem := .item { id := 0, contains _ := true } [.item { id := 1, contains _ := true } []]
  answers _ := { accepted := true }

/-- The release goes to the item that has taken the press. -/
theorem grabs_exclusive_pressMoveRelease :
    ((tabletEvents Unit).handle
      ((tabletEvents Unit).run (.init {}) [penOnItem .press, penOnItem .move]).state
      (penOnItem .release)).2.map Delivery.sent = [.tablet 1] :=
  ((grabs_exclusive [penOnItem .press, penOnItem .move, penOnItem .release]).2
    [] (penOnItem .press) [penOnItem .move] (penOnItem .release) [] rfl rfl
    (by simp [penOnItem]) ⟨{}, .tablet 1, true⟩ (List.mem_singleton.mpr rfl) 1 ⟨rfl, rfl⟩).2

end Runs

end WebOSQuickWindow
