import Mathlib.Algebra.Order.Field.Basic
import Mathlib.Algebra.Order.Field.Rat
import Mathlib.Tactic.Linarith
import Mathlib.Tactic.NormNum
import WebosFramework.Items.Ribbon
import WebosFramework.Qt.Geometry

/-!
# Scrolling a ribbon

A ribbon scrolls by animating `contentX`. `Eos/Items/Ribbon.qml` computes the value the animation
ends at from the numbers of the list view, and confines it with `clamp`. The origin of a list view
may be anywhere, and its contents may be narrower than the view.

* Numbers are exact. A `NaN` is `none`.
* Easing curves are left out, and so are the actions that `runPostponed` calls; those that scroll
  call the functions below.
* `contentItem.mapFromItem` is not here: a request has the rectangle that `boundingRect` returns.

**`inRange_iff`**: an animation ends within the range that `clamp` enforces, unless `scrollBy` comes
to rest at 0 or at the width of the view and steps one pixel aside, out of a range that ends there.

All functions that scroll come to `scrollTo` or `scrollBy`, and both to `clamp`. So the proof is
about three things: what `clamp` yields (`inRange_clamp`, `clamp_eq_iff`), that `scrollTo` adds
nothing to it, and when the step aside of `scrollBy` leaves the range again (`inRange_aside_iff`).
-/

namespace Eos

open Qt

/-- A `NumberAnimation` of `contentX`; only `scrollAni` is ever `wheelScrolling`. -/
structure ScrollAnimation (K : Type) where
  /-- `to` -/
  toX : K
  duration : K
  running : Bool
  indexPosition : Option K
  wheelScrolling : Bool
  deriving DecidableEq

/-- The numbers of the list view and of its two animations that the scrolling functions read. -/
structure RibbonView (K : Type) where
  originX : K
  contentX : K
  contentWidth : K
  width : K
  layoutDirection : LayoutDirection
  spacing : K
  pixelsPerSecond : K
  scrollStep : K
  leftEnsureBound : K
  rightEnsureBound : K
  safeEnsureSpacing : K
  state : RibbonState
  scrollAni : ScrollAnimation K
  afterScrollAni : ScrollAnimation K

namespace RibbonView

variable {K : Type} [Field K] [LinearOrder K] (r : RibbonView K)

/-! ## The range

The values of `contentX` between which the view scrolls. A list that is narrower than the view has
one value only. -/

/-- `left()` of `clamp`: the least `contentX`. From right to left a narrow list is laid out at the
right side of the view. -/
def left : K :=
  let ltrOffset := if r.layoutDirection = .rightToLeft then max 0 (r.width - r.contentWidth) else 0
  r.originX - ltrOffset

/-- The greatest `contentX`, at which the contents end where the view ends. For a narrow list it
is less than `left`. -/
def right : K := r.contentWidth + r.originX - r.width

/-- `clamp`. The two comparisons are in this order, so that `left` wins for a list that is
narrower than the view. -/
def clamp (position : K) : K := max r.left (min r.right position)

/-- The workaround for the "originX BUG". -/
def refuses : Bool := r.layoutDirection = .rightToLeft ∧ r.contentWidth < r.width

/-! ## Scrolling

The functions that start an animation, each with the value that it ends at. -/

/-- `scrollTo` of `scrollAni` and of `afterScrollAni`. The animation that is started is the
result, and none if the workaround for the wrong `originX` returns first. -/
def scrollTo (animation : ScrollAnimation K) (pos : K) : Option (ScrollAnimation K) :=
  if r.refuses then none
  else
    let toX := r.clamp pos
    some { animation with
      toX
      duration := |toX - r.contentX| / r.pixelsPerSecond * 1000
      running := true }

/-- `scrollBy`, where `wheel` is the `x` of the wheel event, if there is one. Steps are counted
from where a running animation goes, so that steps add up. -/
def scrollBy (steps : K) (wheel : Option K) : Option (ScrollAnimation K) :=
  if r.refuses then none
  else
    let pos := if r.scrollAni.running then r.scrollAni.toX else r.contentX
    let toX := r.clamp (pos + steps * r.scrollStep)
    if |toX - r.contentX| ≤ 0 then none
    else
      -- "difference with auto-scroll"
      let toX := if toX = 0 then 1 else if toX = r.width then toX - 1 else toX
      some {
        toX
        duration := 350
        running := true
        indexPosition := some (wheel.getD (r.width / (2 : Nat)))
        wheelScrolling := wheel.isSome }

/-- Where a rectangle of the contents is, with the default bounds. -/
def checkBounds (br : QRectF K) : Int :=
  if br.x - r.contentX < r.leftEnsureBound then -1
  else if br.x + br.width - r.contentX > r.rightEnsureBound then 1
  else 0

/-- `ensureItemVisible` with `scrollAni`, `forceItemVisible` with `afterScrollAni`. An item that
is within the bounds needs no animation. -/
def makeVisible (animation : ScrollAnimation K) (br : QRectF K) : Option (ScrollAnimation K) :=
  if r.checkBounds br < 0 then
    r.scrollTo { animation with indexPosition := none } (br.x + r.spacing - r.safeEnsureSpacing)
  else if r.checkBounds br > 0 then
    r.scrollTo { animation with indexPosition := none }
      (br.x + br.width - r.width - r.spacing + r.safeEnsureSpacing)
  else none

def ensureItemVisible (br : QRectF K) : Option (ScrollAnimation K) := r.makeVisible r.scrollAni br

def forceItemVisible (br : QRectF K) : Option (ScrollAnimation K) :=
  r.makeVisible r.afterScrollAni br

/-- The script of "autoscrolling-right"; the state has set `indexPosition`. -/
def autoscrollRight : Option (ScrollAnimation K) :=
  r.scrollTo { r.scrollAni with indexPosition := some r.width }
    (r.contentWidth + r.originX - r.width)

/-- The script of "autoscrolling-left". -/
def autoscrollLeft : Option (ScrollAnimation K) :=
  r.scrollTo { r.scrollAni with indexPosition := some 0 } r.originX

/-- `onContentWidthChanged`: an automatic scrolling to an end goes on to where the end is now. -/
def onContentWidthChanged : Option (ScrollAnimation K) :=
  if r.scrollAni.running then
    match r.state with
    | .autoscrollingRight => r.scrollTo r.scrollAni (r.contentWidth + r.originX - r.width)
    | .autoscrollingLeft => r.scrollTo r.scrollAni r.originX
    | .idle => none
  else none

/-- All that starts an animation. `scrollToEnd` is the call in `scrollToNextIndex`. -/
inductive Request (K : Type) where
  | scrollBy (steps : K) (wheel : Option K)
  | ensureItemVisible (br : QRectF K)
  | forceItemVisible (br : QRectF K)
  | autoscrollRight
  | autoscrollLeft
  | onContentWidthChanged
  | scrollToEnd

/-- The animation that a request starts, if any. -/
def handle : Request K → Option (ScrollAnimation K)
  | .scrollBy steps wheel => r.scrollBy steps wheel
  | .ensureItemVisible br => r.ensureItemVisible br
  | .forceItemVisible br => r.forceItemVisible br
  | .autoscrollRight => r.autoscrollRight
  | .autoscrollLeft => r.autoscrollLeft
  | .onContentWidthChanged => r.onContentWidthChanged
  | .scrollToEnd => r.scrollTo r.scrollAni (r.contentWidth + r.originX)

/-! ## Where an animation ends

All functions but `scrollBy` clamp the value last. `scrollBy` steps aside by a pixel afterwards,
which may lead out of the range. -/

/-- What `clamp` enforces; a narrow list has one value to scroll to. -/
structure InRange (x : K) : Prop where
  left : r.left ≤ x
  right : x ≤ max r.left r.right

/-- `x` is the value of the range that is closest to `position`. -/
def Closest (position x : K) : Prop :=
  x = r.left ∧ (position ≤ r.left ∨ r.right ≤ r.left) ∨
    x = r.right ∧ r.left ≤ r.right ∧ r.right ≤ position ∨
      x = position ∧ r.left ≤ position ∧ position ≤ r.right

/-- The range ends less than a pixel behind 0, where `scrollBy` does not want to be. -/
def OverstepsRight (position : K) : Prop :=
  r.Closest position 0 ∧ r.contentX ≠ 0 ∧ max r.left r.right < 1

/-- The range begins less than a pixel before the width of the view. -/
def OverstepsLeft (position : K) : Prop :=
  r.Closest position r.width ∧ r.contentX ≠ r.width ∧ r.width ≠ 0 ∧ r.width < r.left + 1

/-- One of them is where `scrollBy` is going. It is a condition on the numbers of the view before
the call: where the clamped position is, and how wide the range is around it. -/
def Oversteps : Request K → Prop
  | .scrollBy steps _ =>
    let position :=
      (if r.scrollAni.running then r.scrollAni.toX else r.contentX) + steps * r.scrollStep
    r.refuses = false ∧ (r.OverstepsRight position ∨ r.OverstepsLeft position)
  | _ => False

variable {r}

/-- `clamp` yields a value of the range, also for a narrow list, whose range is the one value
`left`. -/
theorem inRange_clamp (position : K) : r.InRange (r.clamp position) where
  left := le_max_left _ _
  right := max_le_max le_rfl (min_le_left _ _)

/-- `clamp` yields the value of the range that is closest, which is the only one it can yield. The
three cases are before the range, behind it and within. -/
theorem clamp_eq_iff {position x : K} : r.clamp position = x ↔ r.Closest position x := by
  unfold clamp Closest
  constructor
  · rintro rfl
    rcases le_total (min r.right position) r.left with hbefore | hbehind
    · exact .inl ⟨max_eq_left hbefore, (min_le_iff.mp hbefore).symm⟩
    · obtain ⟨hright, hposition⟩ := le_min_iff.mp hbehind
      rw [max_eq_right hbehind]
      rcases le_total r.right position with hle | hle
      · exact .inr (.inl ⟨min_eq_left hle, hright, hle⟩)
      · exact .inr (.inr ⟨min_eq_right hle, hposition, hle⟩)
  · rintro (⟨rfl, hbefore⟩ | ⟨rfl, hleft, hright⟩ | ⟨rfl, hleft, hright⟩)
    · exact max_eq_left (min_le_iff.mpr hbefore.symm)
    · rw [min_eq_left hright, max_eq_right hleft]
    · rw [min_eq_right hright, max_eq_right hleft]

/-- Whatever calls `scrollTo`: the value that an animation ends at has been clamped. -/
theorem inRange_scrollTo {animation a : ScrollAnimation K} {pos : K}
    (h : r.scrollTo animation pos = some a) : r.InRange a.toX := by
  unfold scrollTo at h
  split at h
  · cases h
  · obtain rfl := Option.some.inj h
    exact inRange_clamp pos

/-- Both directions in which an item can be out of sight come to `scrollTo`. -/
theorem inRange_makeVisible {animation a : ScrollAnimation K} {br : QRectF K}
    (h : r.makeVisible animation br = some a) : r.InRange a.toX := by
  unfold makeVisible at h
  split at h
  · exact inRange_scrollTo h
  · split at h
    · exact inRange_scrollTo h
    · cases h

/-- The same for a change of the width, in all three states of the ribbon. -/
theorem inRange_onContentWidthChanged {a : ScrollAnimation K}
    (h : r.onContentWidthChanged = some a) : r.InRange a.toX := by
  unfold onContentWidthChanged at h
  split at h
  · split at h
    · exact inRange_scrollTo h
    · exact inRange_scrollTo h
    · cases h
  · cases h

section Aside

variable [IsStrictOrderedRing K]

/-- One pixel to the right of 0. -/
theorem inRange_one_iff (h : r.InRange 0) : r.InRange 1 ↔ ¬ max r.left r.right < 1 :=
  ⟨fun hone => not_lt.mpr hone.right, fun hwide => ⟨h.left.trans zero_le_one, not_lt.mp hwide⟩⟩

/-- One pixel to the left of the width. -/
theorem inRange_width_sub_one_iff (h : r.InRange r.width) :
    r.InRange (r.width - 1) ↔ ¬ r.width < r.left + 1 := by
  constructor
  · intro hsub
    have := hsub.left
    linarith
  · intro hwide
    have := h.right
    exact ⟨by linarith, by linarith⟩

/-- `scrollBy` steps aside at two values, at 0 to the right and at the width to the left. The step
leaves the range just in case the range ends less than a pixel away. -/
theorem inRange_aside_iff {x : K} (h : r.InRange x) :
    r.InRange (if x = 0 then 1 else if x = r.width then x - 1 else x) ↔
      ¬ (x = 0 ∧ max r.left r.right < 1 ∨ x = r.width ∧ r.width ≠ 0 ∧ r.width < r.left + 1) := by
  by_cases hzero : x = 0
  · subst hzero
    rw [if_pos rfl, inRange_one_iff h]
    refine not_congr ⟨fun hnear => .inl ⟨rfl, hnear⟩, ?_⟩
    rintro (⟨-, hnear⟩ | ⟨hwidth, hne, -⟩)
    · exact hnear
    · exact absurd hwidth.symm hne
  · rw [if_neg hzero]
    by_cases hwidth : x = r.width
    · subst hwidth
      rw [if_pos rfl, inRange_width_sub_one_iff h]
      refine not_congr ⟨fun hnear => .inr ⟨rfl, hzero, hnear⟩, ?_⟩
      rintro (⟨h0, -⟩ | ⟨-, -, hnear⟩)
      · exact absurd h0 hzero
      · exact hnear
    · rw [if_neg hwidth]
      refine iff_of_true h ?_
      rintro (⟨h0, -⟩ | ⟨hsame, -⟩)
      · exact hzero h0
      · exact hwidth hsame

/-- `scrollBy` ends within the range just in case it does not overstep. Where it starts no
animation there is nothing to leave the range, and the condition asks for that as well, by the two
inequalities with `contentX`. -/
theorem inRange_scrollBy_iff (steps : K) (wheel : Option K) :
    (∀ a, r.scrollBy steps wheel = some a → r.InRange a.toX) ↔
      ¬ r.Oversteps (.scrollBy steps wheel) := by
  simp only [Oversteps, OverstepsRight, OverstepsLeft, ← clamp_eq_iff]
  unfold scrollBy
  dsimp only
  generalize hposition : (if r.scrollAni.running then r.scrollAni.toX else r.contentX)
    + steps * r.scrollStep = position
  have hrange : r.InRange (r.clamp position) := inRange_clamp position
  generalize hclosest : r.clamp position = x at hrange
  cases hrefuses : r.refuses with
  | true => simp
  | false =>
    rw [if_neg Bool.false_ne_true]
    by_cases hstays : x = r.contentX
    · -- nothing is started
      rw [if_pos (by simp [hstays])]
      subst hstays
      refine iff_of_true (fun a ha => by cases ha) ?_
      rintro ⟨-, ⟨hzero, hne, -⟩ | ⟨hwidth, hne, -⟩⟩
      · exact hne hzero
      · exact hne hwidth
    · have hmoves : ¬ |x - r.contentX| ≤ 0 := by
        simpa [sub_eq_zero] using hstays
      rw [if_neg hmoves]
      simp only [Option.some.injEq, forall_eq']
      rw [inRange_aside_iff hrange]
      refine not_congr ⟨fun haside => ⟨trivial, ?_⟩, ?_⟩
      · rcases haside with ⟨hzero, hnear⟩ | ⟨hwidth, hne, hnear⟩
        · exact .inl ⟨hzero, fun h => hstays (hzero.trans h.symm), hnear⟩
        · exact .inr ⟨hwidth, fun h => hstays (hwidth.trans h.symm), hne, hnear⟩
      · rintro ⟨-, ⟨hzero, -, hnear⟩ | ⟨hwidth, -, hne, hnear⟩⟩
        · exact .inl ⟨hzero, hnear⟩
        · exact .inr ⟨hwidth, hne, hnear⟩

/-- **Scrolling stays inside the range**, but for a step aside of `scrollBy`. All other requests
stay in it whatever the numbers of the view are.

By cases on the request: all but `scrollBy` go through the same clamp, and `scrollBy` steps aside by
a pixel behind it. -/
theorem inRange_iff (r : RibbonView K) (q : Request K) :
    (∀ a, r.handle q = some a → r.InRange a.toX) ↔ ¬ r.Oversteps q := by
  cases q with
  | scrollBy steps wheel => exact inRange_scrollBy_iff steps wheel
  | ensureItemVisible br => exact iff_of_true (fun _ => inRange_makeVisible) id
  | forceItemVisible br => exact iff_of_true (fun _ => inRange_makeVisible) id
  | autoscrollRight => exact iff_of_true (fun _ => inRange_scrollTo) id
  | autoscrollLeft => exact iff_of_true (fun _ => inRange_scrollTo) id
  | onContentWidthChanged => exact iff_of_true (fun _ => inRange_onContentWidthChanged) id
  | scrollToEnd => exact iff_of_true (fun _ => inRange_scrollTo) id

end Aside

/-- The contents start 50 pixels to the left of 0, where the view is, and are 50 pixels wider than
it. -/
def wider : RibbonView ℚ where
  originX := -50
  contentX := -50
  contentWidth := 150
  width := 100
  layoutDirection := .leftToRight
  spacing := 0
  pixelsPerSecond := 1800
  scrollStep := 100
  leftEnsureBound := 0
  rightEnsureBound := 100
  safeEnsureSpacing := 200
  state := .idle
  scrollAni := ⟨0, 0, false, none, false⟩
  afterScrollAni := ⟨0, 0, false, none, false⟩

theorem left_wider : wider.left = -50 := by norm_num [left, wider]

theorem right_wider : wider.right = 0 := by norm_num [right, wider]

/-- The view is within the range before anything is scrolled. -/
theorem inRange_contentX_wider : wider.InRange wider.contentX := by
  refine ⟨left_wider.le, ?_⟩
  rw [left_wider, right_wider]
  show (-50 : ℚ) ≤ max (-50) 0
  norm_num

/-- A quarter of a step. -/
theorem inRange_iff_wider :
    wider.handle (.scrollBy (1 / 4) none) = some ⟨-25, 350, true, some 50, false⟩ ∧
      wider.InRange (-25) := by
  have hto : wider.handle (.scrollBy (1 / 4) none) = some ⟨-25, 350, true, some 50, false⟩ := by
    norm_num [handle, scrollBy, refuses, clamp, left_wider, right_wider]
    norm_num [wider]
  refine ⟨hto, (inRange_iff wider (.scrollBy (1 / 4) none)).mpr ?_ _ hto⟩
  have hclamp : wider.clamp (-50 + 1 / 4 * 100) = -25 := by
    norm_num [clamp, left_wider, right_wider]
  rintro ⟨-, ⟨hzero, -⟩ | ⟨hwidth, -⟩⟩
  · have := hclamp.symm.trans (clamp_eq_iff.mpr hzero)
    norm_num at this
  · have := hclamp.symm.trans (clamp_eq_iff.mpr hwidth)
    norm_num [wider] at this

/-- A step to the right, to the end of the range, which is at 0, and on to 1. -/
theorem inRange_counterexample :
    ¬ ∀ (r : RibbonView ℚ) (q : Request ℚ) (a : ScrollAnimation ℚ), r.InRange r.contentX →
      r.handle q = some a → r.InRange a.toX := by
  intro hall
  have hto : wider.handle (.scrollBy 1 none) = some ⟨1, 350, true, some 50, false⟩ := by
    norm_num [handle, scrollBy, refuses, clamp, left_wider, right_wider]
    norm_num [wider]
  have hright := (hall wider (.scrollBy 1 none) _ inRange_contentX_wider hto).right
  rw [left_wider, right_wider] at hright
  norm_num at hright

end RibbonView

end Eos
