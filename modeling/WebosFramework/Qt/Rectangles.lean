import Mathlib.Algebra.Order.Field.Basic
import Mathlib.Algebra.Order.Floor.Ring
import Mathlib.Tactic.Linarith
import WebosFramework.Qt.Geometry

/-!
# Comparing numbers and rectangles

The conversion of a number to an integer type, `qFuzzyCompare`, and `QRectF::contains` for a
rectangle. The width or the height of a `QRectF` may be negative, and a rectangle with an extent of
nothing neither contains another one nor is contained.
-/

namespace Qt

variable {K : Type} [Field K] [LinearOrder K]

/-- `static_cast<int>`: the fraction is cut off. -/
def truncate [FloorRing K] (v : K) : Int := if 0 ≤ v then ⌊v⌋ else ⌈v⌉

@[simp] theorem truncate_zero [FloorRing K] [IsStrictOrderedRing K] : truncate (0 : K) = 0 := by
  rw [truncate, if_pos le_rfl, Int.floor_zero]

/-- Above zero the fraction is cut off downwards. -/
theorem truncate_eq_iff_of_pos [FloorRing K] [IsStrictOrderedRing K] {v : K} {n : Int}
    (hn : 0 < n) : truncate v = n ↔ n ≤ v ∧ v < n + 1 := by
  have hpos : (0 : K) < n := Int.cast_pos.mpr hn
  unfold truncate
  split
  · exact Int.floor_eq_iff
  · rename_i hneg
    constructor
    · intro hceil
      have hle : ⌈v⌉ ≤ 0 := by
        rw [Int.ceil_le, Int.cast_zero]
        exact (not_le.mp hneg).le
      omega
    · rintro ⟨hle, -⟩
      exact absurd (hpos.le.trans hle) hneg

/-- Equal up to a relative error of one in 10¹². Nothing is close to zero but zero itself. -/
def qFuzzyCompare (p1 p2 : K) : Bool := |p1 - p2| * 1000000000000 ≤ min |p1| |p2|

/-- Only nothing is as good as nothing. -/
theorem qFuzzyCompare_zero [IsStrictOrderedRing K] {p : K} (hp : 0 < p) :
    qFuzzyCompare p 0 = false := by
  unfold qFuzzyCompare
  rw [sub_zero, abs_zero, abs_of_pos hp, min_eq_right hp.le, decide_eq_false_iff_not, not_le]
  linarith

namespace QRectF

/-- The two ends of the extent that starts at `start`. -/
def ends (start extent : K) : K × K :=
  if extent < 0 then (start + extent, start) else (start, start + extent)

/-- The test of `contains` in one direction. -/
def spanContains (outer inner : K × K) : Bool :=
  outer.1 ≠ outer.2 ∧ inner.1 ≠ inner.2 ∧ ¬ (inner.1 < outer.1 ∨ inner.2 > outer.2)

/-- `QRectF::contains` for a rectangle: both directions have to hold the extent of the other one. -/
def contains (rect r : QRectF K) : Bool :=
  spanContains (ends rect.x rect.width) (ends r.x r.width) &&
    spanContains (ends rect.y rect.height) (ends r.y r.height)

/-- The point belongs to a rectangle that is not empty. -/
structure Holds (rect : QRectF K) (p : QPointF K) : Prop where
  /-- Not on the left of the rectangle. -/
  left : rect.x ≤ p.x
  /-- Not on the right of it. -/
  right : p.x ≤ rect.x + rect.width
  /-- Not above it. -/
  top : rect.y ≤ p.y
  /-- Not below it. -/
  bottom : p.y ≤ rect.y + rect.height

/-- `isEmpty` is false. -/
structure NonEmpty (rect : QRectF K) : Prop where
  /-- It has a width. -/
  width : 0 < rect.width
  /-- It has a height. -/
  height : 0 < rect.height

/-- An extent that is positive ends behind its start. -/
theorem ends_of_pos {start extent : K} (h : 0 < extent) :
    ends start extent = (start, start + extent) :=
  if_neg (not_lt.mpr h.le)

/-- An extent from zero ends at zero or at the extent, whichever comes last. -/
theorem le_ends_zero_snd (extent : K) : 0 ≤ (ends 0 extent).2 ∧ extent ≤ (ends 0 extent).2 := by
  unfold ends
  split
  · rename_i h
    exact ⟨le_rfl, h.le⟩
  · rename_i h
    show 0 ≤ 0 + extent ∧ extent ≤ 0 + extent
    rw [zero_add]
    exact ⟨not_lt.mp h, le_rfl⟩

variable [IsStrictOrderedRing K]

/-- It does not start behind zero. -/
theorem ends_zero_fst_nonpos (extent : K) : (ends 0 extent).1 ≤ 0 := by
  unfold ends
  split
  · rename_i h
    show 0 + extent ≤ 0
    linarith
  · exact le_rfl

/-- It does not start behind the extent. -/
theorem ends_zero_fst_le (extent : K) : (ends 0 extent).1 ≤ extent := by
  unfold ends
  split
  · show 0 + extent ≤ extent
    linarith
  · rename_i h
    exact not_lt.mp h

/-- A span that contains the one from 0 on reaches from below 0 and `extent` to above them. -/
theorem bounds_of_spanContains {start len extent : K} (hlen : 0 < len)
    (h : spanContains (ends start len) (ends 0 extent) = true) :
    (start ≤ 0 ∧ start ≤ extent) ∧ 0 ≤ start + len ∧ extent ≤ start + len := by
  rw [ends_of_pos hlen] at h
  simp only [spanContains, decide_eq_true_eq, not_or, not_lt] at h
  obtain ⟨-, -, hstart, hstop⟩ := h
  have hnonneg := le_ends_zero_snd extent
  exact ⟨⟨hstart.trans (ends_zero_fst_nonpos extent), hstart.trans (ends_zero_fst_le extent)⟩,
    hnonneg.1.trans hstop, hnonneg.2.trans hstop⟩

end QRectF

end Qt
