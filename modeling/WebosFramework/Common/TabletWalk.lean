import WebosFramework.Common.TabletEvents

/-!
# Tablet hit testing

`handleTabletEvent` is a recursion over the items of a window that may stop at many places. Here it
is seen as a scan over a list of steps: an item is entered, which is where a mouse grabber is looked
at, and an item is offered the event. A mouse grabber that is found on entering an item keeps the
event away from the item and from all its children, so the step of entering one says how many steps
these are.

* `handleTabletEvent_eq_scan`: the recursion is this scan.
* `hits`: the items under the point, from the topmost to the lowest, and what is offered is these.
* `offered_in_paint_order`: if no synthesised mouse event is taken, the items that are asked are the
  hits, in their order, up to the first one that takes the event.

A scan is a recursion over a list, so that what is true of it is proved by induction on the steps.
That it is the walk is proved once, by induction on the tree (`scan_steps`), with any steps behind
those of the item.
-/

namespace WebOSQuickWindow

open EventLoop

variable {P : Type}

namespace TabletEvent

variable (e : TabletEvent P)

/-! ## The steps of the walk

The recursion over the items, laid out as a list of steps. A scan over the list does the same as
the recursion, and it is the list that inductions are done on from here. -/

/-- A step of the walk. -/
inductive Step where
  /-- An item is entered; it takes `body` steps until the walk has left it. -/
  | enter (body : Nat)
  /-- An item that contains the point is offered the event. -/
  | offer (item : ItemId)
  deriving DecidableEq

/-- The point is in the item, and it takes the button. -/
def isHit (data : ItemData P) : Bool := data.contains e.pos && data.acceptedMouseButtons

mutual

/-- The steps of an item: it is entered, then its children have their steps, and then it is
offered the event itself. -/
def steps : QuickItem P → List Step
  | .item data children =>
    let body := if data.clipsChildrenToShape && !data.contains e.pos then [] else
      stepsChildren children ++ if e.isHit data then [.offer data.id] else []
    .enter body.length :: body

/-- The steps of the children. The last one is painted last, so it comes first. -/
def stepsChildren : List (QuickItem P) → List Step
  | [] => []
  | child :: children => stepsChildren children ++ if skips child then [] else steps child

end

/-- An item that contains the point is asked, unless a mouse grabber is to get the event. -/
def offer (item : ItemId) (w : Walk) : Bool × Walk :=
  if w.grabbers.mouseGrabberItem = none then
    let sent := e.send (.tablet item) w
    if sent.1 then
      (true, if e.type = .press then setTabletGrabberItem sent.2 (some item) else sent.2)
    else e.translateTabletToMouse sent.2
  else e.translateTabletToMouse w

/-- The walk over the steps, of which the first `skipped` are left out. -/
def scan : Nat → List Step → Walk → Bool × Walk
  | _, [], w => (false, w)
  | skipped + 1, _ :: rest, w => scan skipped rest w
  | 0, .enter body :: rest, w =>
    let checked := e.checkMouseGrabber w
    if checked.1 then
      let sent := e.translateTabletToMouse checked.2
      if sent.1 then sent else scan body rest sent.2
    else scan 0 rest checked.2
  | 0, .offer item :: rest, w =>
    let offered := e.offer item w
    if offered.1 then offered else scan 0 rest offered.2

variable {e} {w : Walk}

/-- A step that offers the event to an item: the scan ends there if it is taken. -/
theorem scan_offer (item : ItemId) (rest : List Step) (w : Walk) :
    e.scan 0 (.offer item :: rest) w =
      if (e.offer item w).1 then e.offer item w else e.scan 0 rest (e.offer item w).2 := by
  rw [scan]

/-- Steps that are skipped do nothing. By induction on their number. -/
theorem scan_skip (body rest : List Step) (w : Walk) :
    e.scan body.length (body ++ rest) w = e.scan 0 rest w := by
  induction body with
  | nil => rfl
  | cons step body ih =>
    show e.scan (body.length + 1) (step :: (body ++ rest)) w = _
    rw [scan]
    exact ih

/-- An item that is not hit refuses the event. -/
theorem handleItem_eq (data : ItemData P) (w : Walk) :
    e.handleItem data w = if e.isHit data then e.offer data.id w else (false, w) := rfl

/-- The last step of an item is `handleItem`. -/
theorem scan_handleItem (data : ItemData P) (rest : List Step) (w : Walk) :
    e.scan 0 ((if e.isHit data then [.offer data.id] else []) ++ rest) w =
      if (e.handleItem data w).1 then e.handleItem data w
      else e.scan 0 rest (e.handleItem data w).2 := by
  rw [handleItem_eq]
  cases e.isHit data with
  | false => rfl
  | true => exact scan_offer data.id rest w

mutual

/-- A walk through an item, and on if nobody has taken the event. This turns the recursion over the
tree into one over a list, by the cases of the item: it is left at once, a child takes the event, or
the item itself is asked. -/
theorem scan_steps : ∀ (item : QuickItem P) (rest : List Step) {w : Walk},
    w.grabbers.tabletGrabberItem = none →
    e.scan 0 (e.steps item ++ rest) w =
      if (e.handleTabletEvent item w).1 then e.handleTabletEvent item w
      else e.scan 0 rest (e.handleTabletEvent item w).2
  | .item data children, rest, w, hw => by
    have hchecked : (e.checkMouseGrabber w).2.grabbers.tabletGrabberItem = none :=
      checkMouseGrabber_frame.2.trans hw
    rw [steps, List.cons_append, scan]
    simp only [handleTabletEvent, hw]
    cases hfst : (e.checkMouseGrabber w).1 with
    | true =>
      -- the item is left at once
      rw [if_pos rfl, if_pos rfl, scan_skip]
    | false =>
      simp only [Bool.false_eq_true, if_false]
      by_cases hclips : (data.clipsChildrenToShape && !data.contains e.pos) = true
      · simp only [hclips, if_true, List.nil_append, Bool.false_eq_true, if_false]
      · simp only [hclips, Bool.false_eq_true, if_false]
        rw [List.append_assoc, scan_stepsChildren children _ hchecked]
        cases hchildren : (e.handleChildren children (e.checkMouseGrabber w).2).1 with
        | true => simp only [hchildren, if_true]
        | false =>
          simp only [Bool.false_eq_true, if_false]
          exact scan_handleItem data rest _

/-- The scan of the children, followed by whatever steps come behind them. -/
theorem scan_stepsChildren : ∀ (children : List (QuickItem P)) (rest : List Step) {w : Walk},
    w.grabbers.tabletGrabberItem = none →
    e.scan 0 (e.stepsChildren children ++ rest) w =
      if (e.handleChildren children w).1 then e.handleChildren children w
      else e.scan 0 rest (e.handleChildren children w).2
  | [], rest, w, _ => by
    simp only [stepsChildren, handleChildren, List.nil_append, Bool.false_eq_true, if_false]
  | child :: children, rest, w, hw => by
    rw [stepsChildren, List.append_assoc, scan_stepsChildren children _ hw]
    simp only [handleChildren]
    by_cases hchildren : (e.handleChildren children w).1 = true
    · simp only [hchildren, if_true]
    · -- those above have refused, so nobody has grabbed the event
      have hnone := (handled_handleChildren (e := e) children hw).refused (by simpa using hchildren)
      simp only [hchildren]
      by_cases hskips : skips child = true
      · simp only [hskips, if_true, List.nil_append, Bool.false_eq_true, if_false]
      · simp only [hskips, Bool.false_eq_true, if_false]
        exact scan_steps child rest hnone

end

/-- **The walk is a scan.** Without a tablet grabber, the recursion over the items takes these steps
one after the other. -/
theorem handleTabletEvent_eq_scan (item : QuickItem P) (hw : w.grabbers.tabletGrabberItem = none) :
    e.handleTabletEvent item w = e.scan 0 (e.steps item) w := by
  have hscan := scan_steps (e := e) item [] hw
  rw [List.append_nil] at hscan
  rw [hscan]
  split
  · rfl
  · rename_i hrefused
    exact Prod.ext ((Bool.not_eq_true _).mp hrefused) rfl

/-! ## The items under the point

The items that are offered the event, in the order of the walk, against those that contain the
point in the reverse of the order in which they are painted. -/

variable (e)

mutual

/-- The items that contain the point and accept some mouse button: what is under an item comes after
its children. -/
def hits : QuickItem P → List ItemId
  | .item data children =>
    if data.clipsChildrenToShape && !data.contains e.pos then []
    else hitsChildren children ++ if e.isHit data then [data.id] else []

/-- The hits among the children, and theirs. -/
def hitsChildren : List (QuickItem P) → List ItemId
  | [] => []
  | child :: children => hitsChildren children ++ if skips child then [] else hits child

end

/-- The children are visited from the last to the first in paint order, without those that are
skipped. -/
theorem hitsChildren_eq (children : List (QuickItem P)) :
    e.hitsChildren children = (children.reverse.filter (!skips ·)).flatMap e.hits := by
  induction children with
  | nil => rfl
  | cons child children ih =>
    rw [hitsChildren, List.reverse_cons, List.filter_append, List.flatMap_append, ih]
    by_cases hskips : skips child = true
    · simp [hskips]
    · simp [hskips]

/-- The item that a step offers the event to. -/
def Step.offered : Step → Option ItemId
  | .enter _ => none
  | .offer item => some item

variable {e}

mutual

/-- The items that are offered the event are the hits. By induction on the tree, as above. -/
theorem offered_steps : ∀ item : QuickItem P, (e.steps item).filterMap Step.offered = e.hits item
  | .item data children => by
    rw [steps, hits]
    split
    · rfl
    · rw [List.filterMap_cons_none rfl, List.filterMap_append, offered_stepsChildren children]
      split <;> rfl

/-- The same for a list of children. -/
theorem offered_stepsChildren : ∀ children : List (QuickItem P),
    (e.stepsChildren children).filterMap Step.offered = e.hitsChildren children
  | [] => by rw [stepsChildren, hitsChildren, List.filterMap_nil]
  | child :: children => by
    rw [stepsChildren, hitsChildren, List.filterMap_append, offered_stepsChildren children]
    split
    · rfl
    · rw [offered_steps child]

end

end TabletEvent

/-- The items that were offered an event as a tablet event, and whether they have taken it. -/
def offers (deliveries : List Delivery) : List (ItemId × Bool) :=
  deliveries.filterMap fun d =>
    match d.sent with
    | .tablet item => some (item, d.accepted)
    | .mouse => none

namespace TabletEvent

/-- The items are asked in their order: either one of them takes the event, which grabs it if it is
a press, or all refuse. -/
def AskedInOrder (e : TabletEvent P) (items : List ItemId) (asked : List (ItemId × Bool))
    (taken : Bool) (grabber : Option ItemId) : Prop :=
  (∃ above item below, items = above ++ item :: below ∧
      asked = above.map (·, false) ++ [(item, true)] ∧ taken = true ∧
      grabber = if e.type = .press then some item else none) ∨
    asked = items.map (·, false) ∧ taken = false ∧ grabber = none

variable {e : TabletEvent P} {w : Walk}

/-- An item that refuses comes before those that are asked after it. -/
theorem AskedInOrder.refused {items : List ItemId} {asked : List (ItemId × Bool)} {taken : Bool}
    {grabber : Option ItemId} (h : e.AskedInOrder items asked taken grabber) (item : ItemId) :
    e.AskedInOrder (item :: items) ((item, false) :: asked) taken grabber := by
  rcases h with ⟨above, item', below, rfl, rfl, htaken, hgrabber⟩ | ⟨rfl, htaken, hgrabber⟩
  · exact .inl ⟨item :: above, item', below, rfl, rfl, htaken, hgrabber⟩
  · exact .inr ⟨rfl, htaken, hgrabber⟩

/-- What a mouse event does to the walk, if Qt has no mouse grabber afterwards. -/
theorem translateTabletToMouse_spec (hgrabber : ∀ n, (e.answers n).mouseGrabberItem = none)
    (hmouse : w.grabbers.mouseGrabberItem = none) :
    (e.translateTabletToMouse w).1 = (e.answers w.asked).accepted ∧
      (e.translateTabletToMouse w).2.deliveries =
        w.deliveries ++ [⟨w.grabbers, .mouse, (e.answers w.asked).accepted⟩] ∧
      (e.translateTabletToMouse w).2.grabbers = w.grabbers := by
  have hsame : ({ w.grabbers with mouseGrabberItem := none } : Grabbers) = w.grabbers :=
    Grabbers.ext hmouse.symm rfl
  cases htype : e.type <;>
    simp [translateTabletToMouse, htype, send, mouseGrabberItem, setMouseGrabberItem, hgrabber,
      hsame]

/-- Offering an item the event, without a mouse grabber: it takes the event, or refuses and the
window is asked. -/
theorem offer_spec (hgrabber : ∀ n, (e.answers n).mouseGrabberItem = none) (item : ItemId)
    (hw : w.grabbers = {}) :
    ((e.offer item w).1 = true ∧
        offers (e.offer item w).2.deliveries = offers w.deliveries ++ [(item, true)] ∧
        (e.offer item w).2.grabbers.tabletGrabberItem =
          if e.type = .press then some item else none) ∨
      (offers (e.offer item w).2.deliveries = offers w.deliveries ++ [(item, false)] ∧
        (e.offer item w).2.grabbers = {} ∧
        ∃ d ∈ (e.offer item w).2.deliveries, d.sent = .mouse ∧ d.accepted = (e.offer item w).1) := by
  have hoffer : e.offer item w =
      if (e.answers w.asked).accepted then
        (true, if e.type = .press then setTabletGrabberItem (e.send (.tablet item) w).2 (some item)
          else (e.send (.tablet item) w).2)
      else e.translateTabletToMouse (e.send (.tablet item) w).2 :=
    if_pos (by rw [hw])
  have hasked : offers (e.send (.tablet item) w).2.deliveries =
      offers w.deliveries ++ [(item, (e.answers w.asked).accepted)] :=
    List.filterMap_append
  have hsent : (e.send (.tablet item) w).2.grabbers = {} := hw
  cases haccepted : (e.answers w.asked).accepted with
  -- the item takes the event, and grabs those that follow if it is a press
  | true =>
    rw [hoffer, if_pos haccepted]
    refine .inl ⟨rfl, ?_, ?_⟩
    · rw [← haccepted, ← hasked]
      split <;> rfl
    · split
      · rfl
      · exact congrArg Grabbers.tabletGrabberItem hsent
  -- the item refuses, and the mouse event that Qt gets is in the log
  | false =>
    rw [hoffer, if_neg (by rw [haccepted]; decide)]
    obtain ⟨hresult, hdeliveries, hgrabbers⟩ :=
      translateTabletToMouse_spec hgrabber (w := (e.send (.tablet item) w).2) (by rw [hsent])
    refine .inr ⟨?_, hgrabbers.trans hsent, ⟨(e.send (.tablet item) w).2.grabbers, .mouse, _⟩, ?_,
      rfl, hresult.symm⟩
    · rw [hdeliveries, offers, List.filterMap_append, ← haccepted, ← hasked]
      exact List.append_nil _
    · rw [hdeliveries]
      exact List.mem_append_right _ (List.mem_singleton_self _)

/-- **The scan asks in order**, if no mouse event is taken. By induction on the steps: an item
that refuses leaves the grabbers as they were, so the next step starts like the first one did. -/
theorem scan_askedInOrder (hgrabber : ∀ n, (e.answers n).mouseGrabberItem = none)
    (steps : List Step) {w : Walk} (hw : w.grabbers = {})
    (hrefused : ∀ d ∈ (e.scan 0 steps w).2.deliveries, d.sent = .mouse → d.accepted = false) :
    ∃ asked, offers (e.scan 0 steps w).2.deliveries = offers w.deliveries ++ asked ∧
      e.AskedInOrder (steps.filterMap Step.offered) asked (e.scan 0 steps w).1
        (e.scan 0 steps w).2.grabbers.tabletGrabberItem := by
  induction steps generalizing w with
  | nil => exact ⟨[], (List.append_nil _).symm, .inr ⟨rfl, rfl, by simp [scan, hw]⟩⟩
  | cons step rest ih =>
    cases step with
    | enter body =>
      -- there is no mouse grabber to look at
      have hchecked : e.checkMouseGrabber w = (false, w) := checkMouseGrabber_none (by rw [hw])
      have hscan : e.scan 0 (.enter body :: rest) w = e.scan 0 rest w := by
        rw [scan, hchecked]
        rfl
      rw [hscan] at hrefused ⊢
      exact ih hw hrefused
    | offer item =>
      rw [scan_offer] at hrefused ⊢
      rcases offer_spec hgrabber item hw with
        ⟨htaken, hoffers, hpress⟩ | ⟨hoffers, hnone, d, hd, hmouse, haccepted⟩
      · -- the item takes the event, and the scan ends
        rw [if_pos htaken]
        exact ⟨[(item, true)], hoffers,
          .inl ⟨[], item, rest.filterMap Step.offered, rfl, rfl, htaken, hpress⟩⟩
      · by_cases hresult : (e.offer item w).1 = true
        · -- a mouse event that is taken would be in the log
          rw [if_pos hresult] at hrefused
          have hcontra := hrefused d hd hmouse
          rw [haccepted, hresult] at hcontra
          cases hcontra
        · -- the item refuses, and the others are asked
          rw [if_neg hresult] at hrefused ⊢
          obtain ⟨asked, hrest, hinOrder⟩ := ih hnone hrefused
          refine ⟨(item, false) :: asked, ?_, hinOrder.refused item⟩
          rw [hrest, hoffers, List.append_assoc]
          rfl

/-- **Hit testing follows the paint order.** With no grabber set, and if no synthesised mouse event
is taken or leaves a mouse grabber, the items that are offered the event are the items under the
point, from the topmost on, up to the first one that takes it. The event is handled exactly if there
is such an item, and on a press that item becomes the grabber. -/
theorem offered_in_paint_order (e : TabletEvent P)
    (hgrabber : ∀ n, (e.answers n).mouseGrabberItem = none)
    (hmouse : ∀ d ∈ ((tabletEvents P).handle {} e).2, d.sent = .mouse → d.accepted = false) :
    e.AskedInOrder (e.hits e.contentItem) (offers ((tabletEvents P).handle {} e).2)
      (e.handleTabletEvent e.contentItem { grabbers := {} }).1
      ((tabletEvents P).handle {} e).1.tabletGrabberItem := by
  have hscan := handleTabletEvent_eq_scan (e := e) (w := { grabbers := {} }) e.contentItem rfl
  simp only [tabletEvents] at hmouse ⊢
  rw [hscan] at hmouse ⊢
  obtain ⟨asked, hasked, hinOrder⟩ :=
    scan_askedInOrder hgrabber (e.steps e.contentItem) (w := { grabbers := {} }) rfl hmouse
  rw [hasked, ← offered_steps]
  exact hinOrder

/-- A pen is put down on two items of a window; the upper one has a child that is outside the clip
of its parent, and refuses the event. -/
def penOnTwoItems : TabletEvent Unit where
  type := .press
  pos := ()
  contentItem := .item { id := 0, contains _ := true }
    [.item { id := 1, contains _ := true } [],
      .item { id := 2, contains _ := true }
        [.item { id := 3, contains _ := false, clipsChildrenToShape := true }
          [.item { id := 4, contains _ := true } []]]]
  answers n := { accepted := n = 3 }

/-- The topmost item refuses the event, and the one below it takes it. -/
theorem offered_in_paint_order_penOnTwoItems :
    penOnTwoItems.AskedInOrder [2, 1, 0] [(2, false), (1, true)] true (some 1) :=
  offered_in_paint_order penOnTwoItems (fun _ => rfl) (by decide)

end TabletEvent

end WebOSQuickWindow
