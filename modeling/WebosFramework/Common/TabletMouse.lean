import WebosFramework.Common.TabletWalk

/-!
# Synthesised mouse events

When an item refuses a tablet event, Qt gets it as a mouse event. If Qt refuses that as well the
walk goes on, and nothing keeps the next item from having the same mouse event synthesised again.

**`mouse_once_iff`**: how the answers must be for a tablet event to become one mouse event at most.
After a refusal only an item that takes the event as it is may follow; and a mouse grabber that Qt
still knows of gets the event once more.

The proof follows the scan of `TabletWalk`, counting mouse events. The count never goes down
(`le_mouseEvents_scan`), so a second mouse event decides the matter, and there is a lemma for each
state in which the scan can go on with at most one.
-/

namespace WebOSQuickWindow

open EventLoop

variable {P : Type}

/-- How many mouse events Qt has got. -/
def mouseEvents (deliveries : List Delivery) : Nat :=
  deliveries.countP (·.sent = .mouse)

namespace TabletEvent

/-! ## What may follow

Conditions on the answers that an event gets. They follow the walk: what the items say until one
of them takes the event, and what Qt says about a mouse event that it has refused. -/

section Answers

variable (e : TabletEvent P)

/-- With no mouse grabber, and `n` questions answered: the next item that is offered the event takes
it, if there is one. -/
def NextTakes (n : Nat) (rest : List Step) : Prop :=
  rest.filterMap Step.offered = [] ∨ (e.answers n).accepted = true

/-- The rest of the walk has no mouse event synthesised once more, where `grabber` is what Qt said
after it had refused the first one. -/
def QuietAfter (n : Nat) : Option ItemId → List Step → Prop
  | _, [] => True
  | none, rest => e.NextTakes n rest
  | some grabber, .enter _ :: rest =>
    (e.answers n).mouseGrabberItem ≠ some grabber ∧ e.NextTakes (n + 1) rest
  | some _, .offer _ :: _ => False

/-- What follows the first item that is offered the event: it takes the event, or Qt takes the mouse
event, or the rest of the walk is quiet. -/
def QuietFrom (n : Nat) : List Step → Prop
  | [] => True
  | .enter _ :: rest => QuietFrom n rest
  | .offer _ :: rest =>
    (e.answers n).accepted = true ∨ (e.answers (n + 1)).accepted = true ∨
      match e.type with
      | .press => e.QuietAfter (n + 3) (e.answers (n + 2)).mouseGrabberItem rest
      | .move | .release => e.QuietAfter (n + 2) none rest

/-- The answers to a tablet event that is not grabbed as such, as they must be. -/
def MouseOnce (grabbers : Grabbers) : Prop :=
  match grabbers.mouseGrabberItem with
  | none => e.QuietFrom 0 (e.steps e.contentItem)
  | some grabber => (e.answers 0).mouseGrabberItem = some grabber ∨
    e.QuietFrom 1 (e.steps e.contentItem)

end Answers

variable {e : TabletEvent P} {w : Walk}

/-! ## Counting

How many mouse events a step adds to the log. The number never goes down, so a second mouse event
settles the question. -/

/-- Handing the event to Qt is one mouse event. -/
theorem mouseEvents_translateTabletToMouse (w : Walk) :
    mouseEvents (e.translateTabletToMouse w).2.deliveries = mouseEvents w.deliveries + 1 := by
  cases htype : e.type <;>
    simp [translateTabletToMouse, htype, send, mouseGrabberItem, setMouseGrabberItem, mouseEvents]

/-- A tablet event that is sent is none. -/
theorem mouseEvents_send_tablet (item : ItemId) (w : Walk) :
    mouseEvents (e.send (.tablet item) w).2.deliveries = mouseEvents w.deliveries := by
  simp [send, mouseEvents]

/-- An item is asked first, and then Qt if the item refuses. -/
theorem offer_of_none (hmouse : w.grabbers.mouseGrabberItem = none) (item : ItemId) :
    ((e.answers w.asked).accepted = true ∧ (e.offer item w).1 = true ∧
      mouseEvents (e.offer item w).2.deliveries = mouseEvents w.deliveries) ∨
    ((e.answers w.asked).accepted = false ∧
      e.offer item w = e.translateTabletToMouse (e.send (.tablet item) w).2) := by
  rw [offer, if_pos hmouse]
  cases haccepted : (e.answers w.asked).accepted with
  | true =>
    have hsent : (e.send (.tablet item) w).1 = true := haccepted
    refine .inl ⟨rfl, ?_, ?_⟩
    · simp only [hsent, if_true]
    · simp only [hsent, if_true]
      split <;> exact mouseEvents_send_tablet item w
  | false =>
    have hsent : (e.send (.tablet item) w).1 = false := haccepted
    exact .inr ⟨rfl, by simp only [hsent, Bool.false_eq_true, if_false]⟩

/-- With a mouse grabber an item that is offered the event leaves it to Qt. -/
theorem offer_of_some {grabber : ItemId} (hmouse : w.grabbers.mouseGrabberItem = some grabber)
    (item : ItemId) : e.offer item w = e.translateTabletToMouse w :=
  if_neg (by simp [hmouse])

/-- Offering the event to an item does not take mouse events back. -/
theorem le_mouseEvents_offer (item : ItemId) (w : Walk) :
    mouseEvents w.deliveries ≤ mouseEvents (e.offer item w).2.deliveries := by
  cases hmouse : w.grabbers.mouseGrabberItem with
  | none =>
    rcases offer_of_none (e := e) hmouse item with ⟨-, -, hsame⟩ | ⟨-, hoffer⟩
    · omega
    · rw [hoffer, mouseEvents_translateTabletToMouse, mouseEvents_send_tablet]
      omega
  | some grabber =>
    rw [offer_of_some hmouse, mouseEvents_translateTabletToMouse]
    omega

/-- The number of mouse events does not go down. By induction on the steps. -/
theorem le_mouseEvents_scan (skipped : Nat) (rest : List Step) (w : Walk) :
    mouseEvents w.deliveries ≤ mouseEvents (e.scan skipped rest w).2.deliveries := by
  induction rest generalizing skipped w with
  | nil => exact Nat.le_of_eq (by rw [scan])
  | cons step rest ih =>
    cases skipped with
    -- a step that is skipped does nothing
    | succ skipped => exact ih skipped w
    | zero =>
      cases step with
      -- a mouse grabber that Qt knows of gets a mouse event; otherwise the scan goes on
      | enter body =>
        have hchecked : mouseEvents (e.checkMouseGrabber w).2.deliveries =
            mouseEvents w.deliveries := by
          rw [checkMouseGrabber_frame.1]
        have htranslated :=
          mouseEvents_translateTabletToMouse (e := e) (e.checkMouseGrabber w).2
        rw [scan]
        dsimp only
        split
        · split
          · omega
          · have hrest := ih body (e.translateTabletToMouse (e.checkMouseGrabber w).2).2
            omega
        · have hrest := ih 0 (e.checkMouseGrabber w).2
          omega
      | offer item =>
        have hoffer := le_mouseEvents_offer (e := e) item w
        rw [scan_offer]
        split
        · exact hoffer
        · exact hoffer.trans (ih 0 _)

/-- Once a second mouse event has been synthesised, it is in the log. -/
theorem not_once_of_two {skipped : Nat} {rest : List Step}
    (htwo : 2 ≤ mouseEvents w.deliveries) :
    ¬ mouseEvents (e.scan skipped rest w).2.deliveries ≤ 1 := by
  have hle := le_mouseEvents_scan (e := e) skipped rest w
  omega

/-! ## The scan

One lemma for each place in which the scan may be: before the first mouse event, after it with a
grabber, and after it without one. Each is an induction on the steps that are left. -/

/-- Qt is asked, and still has the grabber. -/
theorem checkMouseGrabber_known {grabber : ItemId}
    (hmouse : w.grabbers.mouseGrabberItem = some grabber)
    (hknown : (e.answers w.asked).mouseGrabberItem = some grabber) :
    e.checkMouseGrabber w = (true, { w with asked := w.asked + 1 }) := by
  simp [checkMouseGrabber, hmouse, mouseGrabberItem, hknown]

/-- Qt has another grabber or none, so the window forgets its own. -/
theorem checkMouseGrabber_unknown {grabber : ItemId}
    (hmouse : w.grabbers.mouseGrabberItem = some grabber)
    (hunknown : ¬ (e.answers w.asked).mouseGrabberItem = some grabber) :
    e.checkMouseGrabber w =
      (false, setMouseGrabberItem { w with asked := w.asked + 1 } none) := by
  simp [checkMouseGrabber, hmouse, mouseGrabberItem, hunknown]

/-- Without a mouse grabber nothing comes of entering an item. -/
theorem scan_enter_of_none (hmouse : w.grabbers.mouseGrabberItem = none) (body : Nat)
    (rest : List Step) : e.scan 0 (.enter body :: rest) w = e.scan 0 rest w := by
  rw [scan, checkMouseGrabber_none hmouse]
  rfl

/-- After one mouse event, with no grabber. One more refusal would be one mouse event more, so the
next item that is asked has to take the event. -/
theorem once_nextTakes_iff (hmouse : w.grabbers.mouseGrabberItem = none)
    (hone : mouseEvents w.deliveries = 1) (rest : List Step) :
    mouseEvents (e.scan 0 rest w).2.deliveries ≤ 1 ↔ e.NextTakes w.asked rest := by
  induction rest with
  | nil => exact iff_of_true (Nat.le_of_eq hone) (.inl rfl)
  | cons step rest ih =>
    cases step with
    | enter body =>
      rw [scan_enter_of_none hmouse]
      exact ih
    | offer item =>
      rw [scan_offer]
      rcases offer_of_none (e := e) hmouse item with ⟨htakes, htaken, hsame⟩ | ⟨hrefuses, hoffer⟩
      · rw [if_pos htaken, hsame, hone]
        exact iff_of_true (Nat.le_refl 1) (.inr htakes)
      · -- the item refuses, and Qt gets a second mouse event
        have htwo : 2 ≤ mouseEvents (e.offer item w).2.deliveries := by
          rw [hoffer, mouseEvents_translateTabletToMouse, mouseEvents_send_tablet, hone]
        refine iff_of_false ?_ ?_
        · split
          · omega
          · exact not_once_of_two htwo
        · rintro (hnone | htakes)
          · cases hnone
          · rw [hrefuses] at htakes
            cases htakes

/-- After one mouse event, with whatever grabber Qt has named. With a grabber the next visit to an
item asks Qt whether it is still there, and it is this answer that decides. -/
theorem once_quietAfter_iff (hone : mouseEvents w.deliveries = 1) (rest : List Step) :
    mouseEvents (e.scan 0 rest w).2.deliveries ≤ 1 ↔
      e.QuietAfter w.asked w.grabbers.mouseGrabberItem rest := by
  cases hmouse : w.grabbers.mouseGrabberItem with
  -- without a grabber the next item that is asked has to take the event
  | none =>
    rw [once_nextTakes_iff hmouse hone rest]
    cases rest with
    | nil => exact iff_of_true (.inl rfl) trivial
    | cons => exact Iff.rfl
  | some grabber =>
    cases rest with
    | nil => exact iff_of_true (Nat.le_of_eq hone) trivial
    | cons step rest =>
      have htwo : 2 ≤ mouseEvents (e.translateTabletToMouse w).2.deliveries := by
        rw [mouseEvents_translateTabletToMouse, hone]
      cases step with
      -- with a grabber an item that is offered the event leaves it to Qt
      | offer item =>
        refine iff_of_false ?_ id
        rw [scan_offer, offer_of_some hmouse]
        split
        · omega
        · exact not_once_of_two htwo
      | enter body =>
        rw [scan]
        by_cases hknown : (e.answers w.asked).mouseGrabberItem = some grabber
        · -- Qt still has the grabber, so the event goes there once more
          rw [checkMouseGrabber_known hmouse hknown]
          refine iff_of_false ?_ fun hquiet => hquiet.1 hknown
          have htwo' : 2 ≤ mouseEvents
              (e.translateTabletToMouse { w with asked := w.asked + 1 }).2.deliveries := by
            rw [mouseEvents_translateTabletToMouse]
            exact Nat.le_of_eq (congrArg (· + 1) hone.symm)
          dsimp only
          rw [if_pos rfl]
          split
          · omega
          · exact not_once_of_two htwo'
        · -- the window has forgotten the grabber, and goes on as if there had been none
          rw [checkMouseGrabber_unknown hmouse hknown]
          have hnext := once_nextTakes_iff (e := e)
            (w := setMouseGrabberItem { w with asked := w.asked + 1 } none) rfl hone rest
          exact hnext.trans ⟨fun h => ⟨hknown, h⟩, fun h => h.2⟩

/-- What comes after a refused mouse event depends on what Qt says about its grabber. -/
theorem quietAfter_translateTabletToMouse (hmouse : w.grabbers.mouseGrabberItem = none)
    (rest : List Step) :
    e.QuietAfter (e.translateTabletToMouse w).2.asked
        (e.translateTabletToMouse w).2.grabbers.mouseGrabberItem rest ↔
      match e.type with
      | .press => e.QuietAfter (w.asked + 2) (e.answers (w.asked + 1)).mouseGrabberItem rest
      | .move | .release => e.QuietAfter (w.asked + 1) none rest := by
  cases htype : e.type <;>
    simp [translateTabletToMouse, htype, send, mouseGrabberItem, setMouseGrabberItem, hmouse]

/-- Before the first item is asked. As long as items are only visited nothing is sent, so the first
refusal makes the first mouse event. -/
theorem once_quietFrom_iff (hmouse : w.grabbers.mouseGrabberItem = none)
    (hzero : mouseEvents w.deliveries = 0) (rest : List Step) :
    mouseEvents (e.scan 0 rest w).2.deliveries ≤ 1 ↔ e.QuietFrom w.asked rest := by
  induction rest with
  | nil => exact iff_of_true (hzero ▸ Nat.zero_le 1) trivial
  | cons step rest ih =>
    cases step with
    | enter body =>
      rw [scan_enter_of_none hmouse]
      exact ih
    | offer item =>
      rw [scan_offer, QuietFrom]
      rcases offer_of_none (e := e) hmouse item with ⟨htakes, htaken, hsame⟩ | ⟨hrefuses, hoffer⟩
      · -- the item takes the event, and no mouse event is made
        rw [if_pos htaken, hsame, hzero]
        exact iff_of_true (Nat.zero_le 1) (.inl htakes)
      · -- the item refuses, and Qt gets the first mouse event
        have hone : mouseEvents
            (e.translateTabletToMouse (e.send (.tablet item) w).2).2.deliveries = 1 := by
          rw [mouseEvents_translateTabletToMouse, mouseEvents_send_tablet, hzero]
        have hresult : (e.translateTabletToMouse (e.send (.tablet item) w).2).1 =
            (e.answers (w.asked + 1)).accepted := by
          cases htype : e.type <;> simp [translateTabletToMouse, htype, send, mouseGrabberItem]
        rw [hoffer, hresult, hrefuses]
        by_cases htakes : (e.answers (w.asked + 1)).accepted = true
        · rw [if_pos htakes]
          exact iff_of_true (Nat.le_of_eq hone) (.inr (.inl htakes))
        · rw [if_neg htakes, once_quietAfter_iff hone, quietAfter_translateTabletToMouse
            (w := (e.send (.tablet item) w).2) hmouse]
          exact ⟨fun h => .inr (.inr h), fun h => (h.resolve_left (by simp)).resolve_left htakes⟩

/-- A mouse grabber that Qt still knows of gets the event, and nobody else does. If Qt does not, the
walk goes on as one without a grabber, with one answer used up. -/
theorem once_grabbed_iff {grabber : ItemId} (hmouse : w.grabbers.mouseGrabberItem = some grabber)
    (hzero : mouseEvents w.deliveries = 0) (item : QuickItem P) :
    mouseEvents (e.scan 0 (e.steps item) w).2.deliveries ≤ 1 ↔
      (e.answers w.asked).mouseGrabberItem = some grabber ∨
        e.QuietFrom (w.asked + 1) (e.steps item) := by
  -- the walk begins by entering the item
  obtain ⟨body, hsteps⟩ : ∃ body, e.steps item = .enter body.length :: body := by
    cases item with
    | item data children => exact ⟨_, by rw [steps]⟩
  rw [hsteps, scan]
  by_cases hknown : (e.answers w.asked).mouseGrabberItem = some grabber
  · refine iff_of_true ?_ (.inl hknown)
    have hone : mouseEvents
        (e.translateTabletToMouse { w with asked := w.asked + 1 }).2.deliveries = 1 := by
      rw [mouseEvents_translateTabletToMouse]
      exact congrArg (· + 1) hzero
    have hleft := scan_skip (e := e) body []
      (e.translateTabletToMouse { w with asked := w.asked + 1 }).2
    rw [List.append_nil] at hleft
    rw [checkMouseGrabber_known hmouse hknown]
    dsimp only
    rw [if_pos rfl, hleft]
    split <;> exact Nat.le_of_eq hone
  · rw [checkMouseGrabber_unknown hmouse hknown]
    have hquiet := once_quietFrom_iff (e := e)
      (w := setMouseGrabberItem { w with asked := w.asked + 1 } none) rfl hzero body
    exact hquiet.trans ⟨.inr, fun h => h.resolve_left hknown⟩

end TabletEvent

/-- **One mouse event.** For every tree of items and all answers: a tablet event that is not grabbed
as such becomes at most one mouse event, exactly if the answers are such that nobody is asked again
after Qt has refused.

The walk over the tree is a scan of a list of steps. Whether a mouse grabber is there when it begins
decides which of the two lemmas about the scan applies. -/
theorem mouse_once_iff (e : TabletEvent P) (g : Grabbers) (hg : g.tabletGrabberItem = none) :
    mouseEvents ((tabletEvents P).handle g e).2 ≤ 1 ↔ e.MouseOnce g := by
  have hscan := TabletEvent.handleTabletEvent_eq_scan (e := e) (w := { grabbers := g })
    e.contentItem hg
  show mouseEvents (e.handleTabletEvent e.contentItem { grabbers := g }).2.deliveries ≤ 1 ↔ _
  rw [hscan, TabletEvent.MouseOnce]
  cases hmouse : g.mouseGrabberItem with
  | none => exact TabletEvent.once_quietFrom_iff hmouse rfl _
  | some grabber =>
    exact TabletEvent.once_grabbed_iff (w := { grabbers := g }) hmouse rfl e.contentItem

/-- A pen is put down on an item that takes the mouse only; the window takes the mouse event, and
the item becomes the mouse grabber. -/
def penOnMouseArea : TabletEvent Unit where
  type := .press
  pos := ()
  contentItem := .item { id := 0, contains _ := true } [.item { id := 1, contains _ := true } []]
  answers n := { accepted := n == 1, mouseGrabberItem := some 1 }

/-- The only item does not take the event as it is, and Qt gets it as a mouse event, once. -/
theorem mouse_once_penOnMouseArea :
    mouseEvents ((tabletEvents Unit).handle {} penOnMouseArea).2 ≤ 1 ∧
      ((tabletEvents Unit).handle {} penOnMouseArea).2.map Delivery.sent = [.tablet 1, .mouse] :=
  ⟨(mouse_once_iff penOnMouseArea {} rfl).mpr (.inr (.inl rfl)), by decide⟩

/-- A pen is put down on an item in the window; neither of them nor Qt takes the event. -/
def penRefused : TabletEvent Unit where
  type := .press
  pos := ()
  contentItem := .item { id := 0, contains _ := true } [.item { id := 1, contains _ := true } []]
  answers _ := { accepted := false }

/-- Qt gets two presses for the one of the pen. -/
theorem not_mouse_once_penRefused :
    ((tabletEvents Unit).handle {} penRefused).2.map Delivery.sent =
        [.tablet 1, .mouse, .tablet 0, .mouse] ∧
      ¬ mouseEvents ((tabletEvents Unit).handle {} penRefused).2 ≤ 1 := by
  decide

end WebOSQuickWindow
