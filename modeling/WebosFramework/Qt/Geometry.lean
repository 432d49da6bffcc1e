import Mathlib.Algebra.Field.Basic

/-!
# Points and rectangles

A `QPointF` with exact coordinates: they come from a field, so that there is no rounding. A `QRectF`
likewise. The coordinates of a `QPoint` are an `int` each.
-/

namespace Qt

/-- A point with integer coordinates. -/
structure QPoint where
  x : Int
  y : Int
  deriving DecidableEq

/-- A point of the plane. -/
structure QPointF (K : Type) where
  x : K
  y : K
  deriving DecidableEq

namespace QPointF

variable {K : Type}

instance [Add K] : Add (QPointF K) := ⟨fun p q => ⟨p.x + q.x, p.y + q.y⟩⟩

instance [Mul K] : SMul K (QPointF K) := ⟨fun c p => ⟨c * p.x, c * p.y⟩⟩

/-- `QPointF()` -/
instance [Zero K] : Zero (QPointF K) := ⟨⟨0, 0⟩⟩

/-- `(p + q) * 0.5f` -/
def midpoint [Field K] (p q : QPointF K) : QPointF K := (2⁻¹ : K) • (p + q)

end QPointF

/-- A rectangle by its upper left corner and its size, as it was given. -/
structure QRectF (K : Type) where
  x : K
  y : K
  width : K
  height : K
  deriving DecidableEq

/-- `isNull`: the rectangle has neither width nor height. -/
def QRectF.isNull {K : Type} [Zero K] [DecidableEq K] (r : QRectF K) : Bool :=
  r.width = 0 && r.height = 0

end Qt
