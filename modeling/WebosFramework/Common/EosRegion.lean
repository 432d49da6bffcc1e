import WebosFramework.Qt.Regions

/-!
# Regions declared in QML

`EosRect` and `EosRegion` of `common/`. The properties of an `EosRect` are those of a `QRect`,
which are not independent of each other: `setX` keeps the right edge where it is, and so changes
the width. The engine may assign properties in any order, and again later. Log messages are left
out.

**`asDeclared_iff`**: a rectangle is what has been declared, just in case its width was set last
when `x` had the value it has in the end, and its height likewise.

The two directions do not know of each other: what an assignment does to `x` and `width` is a call
on a `Span`, and so is what it does to `y` and `height`. That a span ends up as declared is a fact
about its calls (`Qt.Rectangles`), and the theorem puts two of them together.
-/

namespace Eos

open Qt

/-- An `EosRect`, which starts with a null rectangle. -/
structure EosRect where
  mRect : QRect := .null
  deriving DecidableEq

namespace EosRect

/-- The getter `x`, which is that of the `QRect`. -/
def x (r : EosRect) : Int32 := r.mRect.x

/-- `setX`, which keeps the right edge. -/
def setX (r : EosRect) (valueX : Int32) : EosRect := ⟨r.mRect.setX valueX⟩

/-- The getter `y`. -/
def y (r : EosRect) : Int32 := r.mRect.y

/-- `setY`, which keeps the bottom edge. -/
def setY (r : EosRect) (valueY : Int32) : EosRect := ⟨r.mRect.setY valueY⟩

/-- The getter `width`. -/
def width (r : EosRect) : Int32 := r.mRect.width

/-- `setWidth`, which keeps the left edge and moves the right one. -/
def setWidth (r : EosRect) (valueWidth : Int32) : EosRect := ⟨r.mRect.setWidth valueWidth⟩

/-- The getter `height`. -/
def height (r : EosRect) : Int32 := r.mRect.height

/-- `setHeight`, which keeps the top edge. -/
def setHeight (r : EosRect) (valueHeight : Int32) : EosRect := ⟨r.mRect.setHeight valueHeight⟩

/-- `rect`: an invalid rectangle is a null one to those who ask. -/
def rect (r : EosRect) : QRect := if r.mRect.isValid then r.mRect else .null

/-- An assignment to a property. -/
inductive Call where
  | setX (valueX : Int32)
  | setY (valueY : Int32)
  | setWidth (valueWidth : Int32)
  | setHeight (valueHeight : Int32)
  deriving DecidableEq

/-- The setter that an assignment calls. -/
def call (r : EosRect) : Call → EosRect
  | .setX valueX => r.setX valueX
  | .setY valueY => r.setY valueY
  | .setWidth valueWidth => r.setWidth valueWidth
  | .setHeight valueHeight => r.setHeight valueHeight

/-- A new `EosRect` after some calls. -/
def assign (cs : List Call) : EosRect := cs.foldl call {}

end EosRect

/-- The loop of `EosRegion::componentComplete`. A list of QML may have null pointers in it. -/
def addRects (region : QRegion) (regionRects : List (Option EosRect)) : QRegion :=
  regionRects.foldl
    (fun region regionRect =>
      match regionRect with
      | some regionRect => region.add regionRect.rect
      | none => region)
    region

/-- `EosRegion::componentComplete` -/
def componentComplete (regionRects : List (Option EosRect)) : QRegion :=
  if regionRects = [] then {} else addRects {} regionRects

namespace EosRect

/-! ## The two directions

`x` and `width` only concern the horizontal span, and `y` and `height` the vertical one. So a list
of assignments falls into two lists of calls, about which the library of spans has all there is to
say. -/

/-- What an assignment does to the horizontal span, if anything. -/
def Call.horizontal? : Call → Option Span.Call
  | .setX valueX => some (.setFirst valueX)
  | .setWidth valueWidth => some (.setLength valueWidth)
  | .setY _ | .setHeight _ => none

/-- What an assignment does to the vertical span, if anything. -/
def Call.vertical? : Call → Option Span.Call
  | .setY valueY => some (.setFirst valueY)
  | .setHeight valueHeight => some (.setLength valueHeight)
  | .setX _ | .setWidth _ => none

/-- The assignments that are about the horizontal span. -/
def horizontal (cs : List Call) : List Span.Call := cs.filterMap Call.horizontal?

/-- The assignments that are about the vertical one. -/
def vertical (cs : List Call) : List Span.Call := cs.filterMap Call.vertical?

/-- The span of a `QRect()` -/
def empty : Span := ⟨0, -1⟩

/-- The setters of one direction leave the other one alone. -/
theorem mRect_assign (cs : List Call) :
    (assign cs).mRect = ⟨empty.calls (horizontal cs), empty.calls (vertical cs)⟩ := by
  induction cs using List.reverseRecOn with
  | nil => rfl
  | append_singleton cs c ih =>
    have hassign : assign (cs ++ [c]) = (assign cs).call c := List.foldl_append
    rw [hassign]
    unfold horizontal vertical at ih ⊢
    rw [List.filterMap_append, List.filterMap_append, Span.calls_append, Span.calls_append]
    cases c <;> simp [call, setX, setY, setWidth, setHeight, ih] <;> rfl

/-! ## What has been declared

The values that were assigned last, against what the getters return. The order of the assignments
matters: a width that is set before `x` is lost. -/

/-- The values last assigned. -/
structure Declared where
  x : Int32
  y : Int32
  width : Int32
  height : Int32
  deriving DecidableEq

/-- Each property has been assigned, and these are the last values. -/
structure Declares (cs : List Call) (d : Declared) : Prop where
  /-- The declared `x` is the one assigned last, and so are the others. -/
  x : (Span.firsts (horizontal cs)).getLast? = some d.x
  y : (Span.firsts (vertical cs)).getLast? = some d.y
  width : (Span.lengths (horizontal cs)).getLast? = some d.width
  height : (Span.lengths (vertical cs)).getLast? = some d.height
  /-- Only rectangles with an inside are of interest. -/
  positive : 0 < d.width ∧ 0 < d.height

instance (cs : List Call) (d : Declared) : Decidable (Declares cs d) :=
  decidable_of_iff
    (((Span.firsts (horizontal cs)).getLast? = some d.x ∧
        (Span.firsts (vertical cs)).getLast? = some d.y) ∧
      ((Span.lengths (horizontal cs)).getLast? = some d.width ∧
        (Span.lengths (vertical cs)).getLast? = some d.height) ∧ 0 < d.width ∧ 0 < d.height)
    ⟨fun h => ⟨h.1.1, h.1.2, h.2.1.1, h.2.1.2, h.2.2⟩,
      fun h => ⟨⟨h.x, h.y⟩, ⟨h.width, h.height⟩, h.positive⟩⟩

/-- The getters return them. -/
def AsDeclared (r : EosRect) (d : Declared) : Prop :=
  (r.x = d.x ∧ r.y = d.y) ∧ r.width = d.width ∧ r.height = d.height

instance (r : EosRect) (d : Declared) : Decidable (AsDeclared r d) :=
  inferInstanceAs (Decidable (_ ∧ _))

/-- When the width was set last `x` was what it is in the end, and when the height was set last `y`
was. -/
def InOrder (cs : List Call) : Prop :=
  empty.LengthLast (horizontal cs) ∧ empty.LengthLast (vertical cs)

/-- The right and the bottom edge are `int`s. -/
def Declared.Fits (d : Declared) : Prop := Span.Fits d.x d.width ∧ Span.Fits d.y d.height

instance (d : Declared) : Decidable d.Fits := inferInstanceAs (Decidable (_ ∧ _))

/-- The point belongs to the declared rectangle. -/
structure Declared.Holds (d : Declared) (p : QPoint) : Prop where
  x : d.x.toInt ≤ p.x ∧ p.x < d.x.toInt + d.width.toInt
  y : d.y.toInt ≤ p.y ∧ p.y < d.y.toInt + d.height.toInt

variable {cs : List Call} {d : Declared}

/-- The getters give what has been declared exactly if both lengths are set behind the value that
`x` and `y` have in the end. This is the fact about spans, in both directions. -/
theorem Declares.getters_iff (h : Declares cs d) : AsDeclared (assign cs) d ↔ InOrder cs := by
  have hx : (assign cs).x = d.x := by
    show (assign cs).mRect.horizontal.first = d.x
    rw [mRect_assign, Span.first_calls, List.getLastD_eq_getLast?, h.x]
    rfl
  have hy : (assign cs).y = d.y := by
    show (assign cs).mRect.vertical.first = d.y
    rw [mRect_assign, Span.first_calls, List.getLastD_eq_getLast?, h.y]
    rfl
  have hwidth := Span.length_calls_eq_iff empty h.width
  have hheight := Span.length_calls_eq_iff empty h.height
  unfold AsDeclared InOrder
  rw [← hwidth, ← hheight, and_iff_right ⟨hx, hy⟩]
  show (assign cs).mRect.horizontal.length = _ ∧ (assign cs).mRect.vertical.length = _ ↔ _
  rw [mRect_assign]

/-- A rectangle is given by its place and its size. -/
theorem eq_of_asDeclared {r r' : EosRect} (h : AsDeclared r d) (h' : AsDeclared r' d) : r = r' := by
  have hhorizontal : r.mRect.horizontal = r'.mRect.horizontal :=
    Span.ext_length (h.1.1.trans h'.1.1.symm) (h.2.1.trans h'.2.1.symm)
  have hvertical : r.mRect.vertical = r'.mRect.vertical :=
    Span.ext_length (h.1.2.trans h'.1.2.symm) (h.2.2.trans h'.2.2.symm)
  show (⟨⟨r.mRect.horizontal, r.mRect.vertical⟩⟩ : EosRect) = _
  rw [hhorizontal, hvertical]

/-! ## The region

The points of the region are those of the rectangles that are valid. Together with the getters
this gives the exact condition for a rectangle to be the declared one. -/

/-- A rectangle that is not valid has no points anyway. -/
theorem contains_rect (r : EosRect) (p : QPoint) : r.rect.contains p = r.mRect.contains p := by
  unfold rect
  split
  · rfl
  · rename_i hinvalid
    rw [QRect.contains_null]
    exact (Bool.eq_false_iff.mpr fun h => hinvalid (QRect.isValid_of_contains h)).symm

/-- A list of rectangles adds the points of each of them. By induction on the list; a null pointer
adds nothing, and neither does an invalid rectangle. -/
theorem contains_addRects (region : QRegion) (regionRects : List (Option EosRect)) (p : QPoint) :
    (addRects region regionRects).contains p = true ↔
      region.contains p = true ∨ ∃ r, some r ∈ regionRects ∧ r.mRect.contains p = true := by
  induction regionRects generalizing region with
  | nil => simp [addRects]
  | cons regionRect regionRects ih =>
    cases regionRect with
    | none =>
      refine (ih region).trans ?_
      simp
    | some r =>
      refine (ih (region.add r.rect)).trans ?_
      simp [contains_rect, or_assoc]

/-- The region is that of the list alone. -/
theorem contains_componentComplete (regionRects : List (Option EosRect)) (p : QPoint) :
    (componentComplete regionRects).contains p = true ↔
      ∃ r, some r ∈ regionRects ∧ r.mRect.contains p = true := by
  unfold componentComplete
  split
  · rename_i hempty
    simp [hempty, QRegion.contains]
  · rw [contains_addRects]
    simp [QRegion.contains]

/-- A rectangle has the declared points, just in case it is the declared one and there is no
overflow. -/
theorem contains_eq_holds_iff {r : EosRect} (hpositive : 0 < d.width ∧ 0 < d.height) :
    (∀ p, r.mRect.contains p = true ↔ d.Holds p) ↔ AsDeclared r d ∧ d.Fits := by
  have hwidth : 0 < d.width.toInt := Int32.lt_iff_toInt_lt.mp hpositive.1
  have hheight : 0 < d.height.toInt := Int32.lt_iff_toInt_lt.mp hpositive.2
  have hhorizontal := r.mRect.horizontal.contains_eq_iff d.x hpositive.1
  have hvertical := r.mRect.vertical.contains_eq_iff d.y hpositive.2
  constructor
  · intro h
    have hcorner : r.mRect.contains ⟨d.x.toInt, d.y.toInt⟩ = true :=
      (h _).mpr ⟨⟨Int.le_refl _, by dsimp only; omega⟩, ⟨Int.le_refl _, by dsimp only; omega⟩⟩
    have hheld := (h _).mp hcorner
    obtain ⟨hcornerX, hcornerY⟩ := QRect.contains_iff.mp hcorner
    -- along the upper and the left edge
    obtain ⟨⟨hx, hwidth⟩, hfitsX⟩ := hhorizontal.mp fun n => by
      have hpoint := h ⟨n, d.y.toInt⟩
      rw [QRect.contains_iff] at hpoint
      exact ⟨fun hn => (hpoint.mp ⟨hn, hcornerY⟩).x, fun hn => (hpoint.mpr ⟨hn, hheld.y⟩).1⟩
    obtain ⟨⟨hy, hheight⟩, hfitsY⟩ := hvertical.mp fun n => by
      have hpoint := h ⟨d.x.toInt, n⟩
      rw [QRect.contains_iff] at hpoint
      exact ⟨fun hn => (hpoint.mp ⟨hcornerX, hn⟩).y, fun hn => (hpoint.mpr ⟨hheld.x, hn⟩).2⟩
    exact ⟨⟨⟨hx, hy⟩, hwidth, hheight⟩, hfitsX, hfitsY⟩
  · rintro ⟨⟨⟨hx, hy⟩, hwidth, hheight⟩, hfitsX, hfitsY⟩ p
    rw [QRect.contains_iff, hhorizontal.mpr ⟨⟨hx, hwidth⟩, hfitsX⟩ p.x,
      hvertical.mpr ⟨⟨hy, hheight⟩, hfitsY⟩ p.y]
    exact ⟨fun hp => ⟨hp.1, hp.2⟩, fun hp => ⟨hp.x, hp.y⟩⟩

/-- **Declared rectangles.** A rectangle is what has been declared if its properties have been
assigned in order, and not otherwise; the region of one rectangle has the declared points if the
right and the bottom edge do not overflow besides. So the order does not matter among those that
are in order, and the region of a list of such rectangles is the union of the declared ones. -/
theorem asDeclared_iff (rects : List (List Call × Declared))
    (hrects : ∀ r ∈ rects, Declares r.1 r.2) :
    (∀ r ∈ rects, (AsDeclared (assign r.1) r.2 ↔ InOrder r.1) ∧
        ((∀ p, (componentComplete [some (assign r.1)]).contains p = true ↔ r.2.Holds p) ↔
          InOrder r.1 ∧ r.2.Fits)) ∧
      (∀ r ∈ rects, ∀ r' ∈ rects, r.2 = r'.2 → InOrder r.1 → InOrder r'.1 →
        assign r.1 = assign r'.1) ∧
      ((∀ r ∈ rects, InOrder r.1 ∧ r.2.Fits) →
        ∀ p, (componentComplete (rects.map fun r => some (assign r.1))).contains p = true ↔
          ∃ r ∈ rects, r.2.Holds p) := by
  refine ⟨fun r hr => ⟨(hrects r hr).getters_iff, ?_⟩, fun r hr r' hr' hsame horder horder' => ?_,
    fun hall p => ?_⟩
  · -- each rectangle by itself: its getters, and its points
    rw [← (hrects r hr).getters_iff, ← contains_eq_holds_iff (hrects r hr).positive]
    refine forall_congr' fun p => ?_
    rw [contains_componentComplete]
    simp
  · -- rectangles that are declared alike are alike
    have hdeclared := (hrects r hr).getters_iff.mpr horder
    rw [hsame] at hdeclared
    exact eq_of_asDeclared hdeclared ((hrects r' hr').getters_iff.mpr horder')
  · -- the region has the points of all of them
    rw [contains_componentComplete]
    have hpoints : ∀ r ∈ rects, ((assign r.1).mRect.contains p = true ↔ r.2.Holds p) := by
      intro r hr
      obtain ⟨horder, hfits⟩ := hall r hr
      have hdeclared := (hrects r hr).getters_iff.mpr horder
      exact (contains_eq_holds_iff (hrects r hr).positive).mpr ⟨hdeclared, hfits⟩ p
    constructor
    · rintro ⟨r, hmem, hp⟩
      obtain ⟨r', hr', heq⟩ := List.mem_map.mp hmem
      obtain rfl := Option.some.inj heq
      exact ⟨r', hr', (hpoints r' hr').mp hp⟩
    · rintro ⟨r, hr, hp⟩
      exact ⟨assign r.1, List.mem_map.mpr ⟨r, hr, rfl⟩, (hpoints r hr).mpr hp⟩

/-- Two rectangles. The properties of the first one are assigned again, some of them twice, and both
sizes after the place. -/
theorem asDeclared_iff_again :
    let cs : List Call := [.setWidth 7, .setX 10, .setHeight 3, .setY (-5), .setX 20,
      .setHeight 8, .setWidth 30]
    let cs' : List Call := [.setY 4, .setHeight 1, .setX 6, .setWidth 2]
    AsDeclared (assign cs) ⟨20, -5, 30, 8⟩ ∧
      ∀ p, (componentComplete [some (assign cs), some (assign cs')]).contains p = true ↔
        ∃ r ∈ [(cs, (⟨20, -5, 30, 8⟩ : Declared)), (cs', ⟨6, 4, 2, 1⟩)], r.2.Holds p := by
  intro cs cs'
  have horder : InOrder cs ∧ InOrder cs' :=
    ⟨⟨Span.lengthLast_append_setLength empty [.setLength 7, .setFirst 10, .setFirst 20] 30,
      Span.lengthLast_append_setLength empty [.setLength 3, .setFirst (-5)] 8⟩,
      ⟨Span.lengthLast_append_setLength empty [.setFirst 6] 2,
        Span.lengthLast_append_setLength empty [.setFirst 4] 1⟩⟩
  have h := asDeclared_iff [(cs, ⟨20, -5, 30, 8⟩), (cs', ⟨6, 4, 2, 1⟩)] (by decide)
  refine ⟨(h.1 _ List.mem_cons_self).1.mpr horder.1, h.2.2 ?_⟩
  intro r hr
  rcases List.mem_cons.mp hr with rfl | hr'
  · exact ⟨horder.1, by decide⟩
  · obtain rfl := List.mem_singleton.mp hr'
    exact ⟨horder.2, by decide⟩

/-- The width is assigned before `x`, and the rectangle is narrower than in another order. -/
theorem asDeclared_counterexample :
    let cs : List Call := [.setWidth 100, .setX 40, .setY 0, .setHeight 50]
    let cs' : List Call := [.setX 40, .setWidth 100, .setY 0, .setHeight 50]
    Declares cs ⟨40, 0, 100, 50⟩ ∧ Declares cs' ⟨40, 0, 100, 50⟩ ∧
      (assign cs).width = 60 ∧ ¬ AsDeclared (assign cs) ⟨40, 0, 100, 50⟩ ∧
        assign cs ≠ assign cs' := by
  decide

end EosRect

end Eos
