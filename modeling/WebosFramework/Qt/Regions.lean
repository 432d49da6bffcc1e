import Mathlib.Algebra.Order.Floor.Ring
import Mathlib.Data.List.Induction
import WebosFramework.Qt.Geometry

/-!
# Rectangles and regions of integers

A `QRect` keeps its edges, so a `QRect` is a span in each direction, and its width is that of the
horizontal one. Numbers are `int`s, which wrap around. A `QRegion` is the points of the rectangles
that have been added to it.

* `first_calls` and `last_calls` say what a span has after any series of calls.
* **`length_calls_eq_iff`**: the length is the one that was set last, just in case the first value
  was then what it is in the end.
* `contains_eq_iff` says which values a span holds.
-/

namespace Qt

/-! ## Spans

One direction of a rectangle, with its setters. What a series of calls leaves behind depends on
the last length that was set, and on the first value at that time. -/

/-- The values from `first` to `last`, both included. -/
structure Span where
  first : Int32
  last : Int32
  deriving DecidableEq

namespace Span

/-- What the getter of the length computes. It wraps around like the setter. -/
def length (s : Span) : Int32 := s.last - s.first + 1

/-- The other edge stays where it is. -/
def setFirst (s : Span) (value : Int32) : Span := { s with first := value }

/-- The first value stays what it is. -/
def setLength (s : Span) (value : Int32) : Span := { s with last := s.first + value - 1 }

/-- A span whose last value is before the first one is empty. -/
def isValid (s : Span) : Bool := s.first ≤ s.last

/-- Whether a number is between the two ends. The comparisons do not wrap around. -/
def contains (s : Span) (n : Int) : Bool := s.first.toInt ≤ n ∧ n ≤ s.last.toInt

/-- A call of one of the two setters. -/
inductive Call where
  | setFirst (value : Int32)
  | setLength (value : Int32)
  deriving DecidableEq

/-- What one call does. -/
def call (s : Span) : Call → Span
  | .setFirst value => s.setFirst value
  | .setLength value => s.setLength value

/-- Several calls, the first one in front. -/
def calls (s : Span) (cs : List Call) : Span := cs.foldl call s

/-- What the call sets as the first value. -/
def Call.first? : Call → Option Int32
  | .setFirst value => some value
  | .setLength _ => none

/-- What the call sets as the length. -/
def Call.length? : Call → Option Int32
  | .setFirst _ => none
  | .setLength value => some value

/-- The first values that have been set, in order. -/
def firsts (cs : List Call) : List Int32 := cs.filterMap Call.first?

/-- The lengths that have been set, in order. -/
def lengths (cs : List Call) : List Int32 := cs.filterMap Call.length?

variable {s : Span} {cs : List Call}

/-- Lists of calls compose. -/
theorem calls_append (s : Span) (cs cs' : List Call) :
    s.calls (cs ++ cs') = (s.calls cs).calls cs' := List.foldl_append

/-- The last write of `first` counts. -/
theorem first_calls (s : Span) (cs : List Call) :
    (s.calls cs).first = (firsts cs).getLastD s.first := by
  induction cs using List.reverseRecOn with
  | nil => rfl
  | append_singleton cs c ih =>
    rw [calls_append]
    unfold firsts
    rw [List.filterMap_append]
    cases c with
    | setFirst value => simp [calls, call, setFirst, Call.first?]
    | setLength value => simpa [calls, call, setLength, Call.first?, firsts] using ih

/-- Without a new length the last value stays what it is. -/
theorem last_calls_of_lengths (s : Span) (hlengths : lengths cs = []) :
    (s.calls cs).last = s.last := by
  induction cs generalizing s with
  | nil => rfl
  | cons c cs ih =>
    cases c with
    | setFirst value => exact ih (s.setFirst value) hlengths
    | setLength value => cases hlengths

/-- The last value is that of the last write of `length`, seen from where the span then began. -/
theorem last_calls (s : Span) {before after : List Call} {value : Int32}
    (hafter : lengths after = []) :
    (s.calls (before ++ .setLength value :: after)).last = (s.calls before).first + value - 1 := by
  rw [calls_append]
  exact last_calls_of_lengths ((s.calls before).setLength value) hafter

/-- If a length has been set, there is a last call that did so. -/
theorem exists_last_setLength {length : Int32} (hlength : (lengths cs).getLast? = some length) :
    ∃ before after, cs = before ++ .setLength length :: after ∧ lengths after = [] := by
  induction cs using List.reverseRecOn with
  | nil => cases hlength
  | append_singleton cs c ih =>
    cases c with
    | setLength value =>
      have hvalue : value = length := by simpa [lengths, Call.length?] using hlength
      exact ⟨cs, [], by rw [hvalue], rfl⟩
    | setFirst value =>
      obtain ⟨before, after, hcs, hafter⟩ := ih (by simpa [lengths, Call.length?] using hlength)
      refine ⟨before, after ++ [.setFirst value], by simp [hcs], ?_⟩
      simpa [lengths, Call.length?] using hafter

/-- That call has set the last one of the lengths. -/
theorem getLast?_lengths {before after : List Call} {value : Int32} (hafter : lengths after = []) :
    (lengths (before ++ .setLength value :: after)).getLast? = some value := by
  have hcons : lengths (.setLength value :: after) = value :: lengths after := rfl
  unfold lengths at hcons hafter ⊢
  rw [List.filterMap_append, hcons, hafter, List.getLast?_append]
  rfl

/-- The last write of `length` finds the span where it will be in the end. -/
def LengthLast (s : Span) (cs : List Call) : Prop :=
  ∀ before value after, cs = before ++ .setLength value :: after → lengths after = [] →
    (firsts before).getLastD s.first = (firsts cs).getLastD s.first

/-- **Which length a span has.** A call that sets the first value keeps the last one, and so changes
the length. -/
theorem length_calls_eq_iff (s : Span) {length : Int32}
    (hlength : (lengths cs).getLast? = some length) :
    (s.calls cs).length = length ↔ s.LengthLast cs := by
  have hsplit : ∀ before after, cs = before ++ .setLength length :: after → lengths after = [] →
      ((s.calls cs).length = length ↔
        (firsts before).getLastD s.first = (firsts cs).getLastD s.first) := by
    intro before after hcs hafter
    have hlast : (s.calls cs).last = (s.calls before).first + length - 1 := by
      rw [hcs]
      exact last_calls s hafter
    unfold Span.length
    rw [hlast, ← first_calls, ← first_calls]
    grind
  constructor
  · intro h before value after hcs hafter
    have hvalue : some value = some length := by
      rw [← hlength, hcs, getLast?_lengths hafter]
    obtain rfl := Option.some.inj hvalue
    exact (hsplit before after hcs hafter).mp h
  · intro h
    obtain ⟨before, after, hcs, hafter⟩ := exists_last_setLength hlength
    exact (hsplit before after hcs hafter).mpr (h before length after hcs hafter)

/-- A length that is set after everything else is kept. -/
theorem lengthLast_append_setLength (s : Span) (before : List Call) (value : Int32) :
    s.LengthLast (before ++ [.setLength value]) := by
  have hfirsts : firsts (before ++ [.setLength value]) = firsts before := by
    simp [firsts, Call.first?]
  refine (length_calls_eq_iff s (getLast?_lengths rfl)).mp ?_
  unfold Span.length
  rw [last_calls s rfl, first_calls, first_calls, hfirsts]
  grind

/-! ## The values of a span

Which integers a span holds, in the arithmetic of `int`. -/

/-- The last of `length` values from `first` on is an `int`. -/
def Fits (first length : Int32) : Prop := first.toInt + length.toInt ≤ 2147483648

instance (first length : Int32) : Decidable (Fits first length) :=
  inferInstanceAs (Decidable (_ ≤ _))

/-- An `int` is between its limits. -/
theorem toInt_bounds (n : Int32) : -2147483648 ≤ n.toInt ∧ n.toInt < 2147483648 :=
  ⟨n.le_toInt, n.toInt_lt⟩

/-- The test, as a proposition. -/
theorem contains_iff {n : Int} :
    s.contains n = true ↔ s.first.toInt ≤ n ∧ n ≤ s.last.toInt := decide_eq_true_iff

/-- Only a valid span holds anything. -/
theorem isValid_of_contains {n : Int} (h : s.contains n = true) : s.isValid = true := by
  have hn := contains_iff.mp h
  exact decide_eq_true (Int32.le_iff_toInt_le.mpr (Int.le_trans hn.1 hn.2))

/-- Without an overflow, the last value is where one expects it. -/
theorem toInt_last {first length : Int32} (hpos : 0 < length) (hfits : Fits first length) :
    (first + length - 1).toInt = first.toInt + length.toInt - 1 := by
  have hfirst := toInt_bounds first
  have hlength := toInt_bounds length
  have hpos' : 0 < length.toInt := Int32.lt_iff_toInt_lt.mp hpos
  unfold Fits at hfits
  rw [Int32.toInt_sub, Int32.toInt_add, Int.bmod_sub_bmod]
  exact Int.bmod_eq_of_le (by simp; omega) (by simp; omega)

/-- The last value by the first one and the length, in the arithmetic of `int`. -/
theorem last_eq (s : Span) : s.last = s.first + s.length - 1 := by
  unfold length
  grind

/-- A span is known by its first value and its length. -/
theorem ext_length {s' : Span} (hfirst : s.first = s'.first) (hlength : s.length = s'.length) :
    s = s' := by
  have hlast : s.last = s'.last := by rw [last_eq, last_eq s', hfirst, hlength]
  cases s
  cases s'
  cases hfirst
  cases hlast
  rfl

/-- **Which values a span has.** It has those that were declared if both its numbers are as declared
and the last value does not overflow. -/
theorem contains_eq_iff (s : Span) (first : Int32) {length : Int32} (hpos : 0 < length) :
    (∀ n, s.contains n = true ↔ first.toInt ≤ n ∧ n < first.toInt + length.toInt) ↔
      (s.first = first ∧ s.length = length) ∧ Fits first length := by
  have hpos' : 0 < length.toInt := Int32.lt_iff_toInt_lt.mp hpos
  simp only [contains_iff]
  constructor
  · intro h
    have hat := (h first.toInt).mpr ⟨by omega, by omega⟩
    have hbegin := (h s.first.toInt).mp ⟨by omega, by omega⟩
    have hend := (h s.last.toInt).mp ⟨by omega, by omega⟩
    have hupto := (h (first.toInt + length.toInt - 1)).mpr ⟨by omega, by omega⟩
    have hbound := toInt_bounds s.last
    have hfits : Fits first length := by
      unfold Fits
      omega
    have hfirst : s.first = first := Int32.toInt_inj.mp (by omega)
    have hlast : s.last = first + length - 1 := by
      refine Int32.toInt_inj.mp ?_
      rw [toInt_last hpos hfits]
      omega
    refine ⟨⟨hfirst, ?_⟩, hfits⟩
    unfold Span.length
    rw [hlast, hfirst]
    grind
  · rintro ⟨⟨rfl, rfl⟩, hfits⟩ n
    rw [last_eq, toInt_last hpos hfits]
    omega

end Span

/-! ## Rectangles

A rectangle is a span in each direction, and its functions are those of the spans. -/

/-- A span in each direction. -/
structure QRect where
  horizontal : Span
  vertical : Span
  deriving DecidableEq

namespace QRect

/-- `QRect()` -/
def null : QRect := ⟨⟨0, -1⟩, ⟨0, -1⟩⟩

/-- `QRect(x, y, width, height)` -/
def ofSize (x y width height : Int32) : QRect := ⟨⟨x, x + width - 1⟩, ⟨y, y + height - 1⟩⟩

def x (r : QRect) : Int32 := r.horizontal.first

/-- The upper edge. -/
def y (r : QRect) : Int32 := r.vertical.first

/-- The width, by the span in the horizontal direction. -/
def width (r : QRect) : Int32 := r.horizontal.length

/-- The height, by the span in the vertical direction. -/
def height (r : QRect) : Int32 := r.vertical.length

/-- The left edge moves, and the right one stays. -/
def setX (r : QRect) (value : Int32) : QRect :=
  { r with horizontal := r.horizontal.setFirst value }

/-- The upper edge moves, and the lower one stays. -/
def setY (r : QRect) (value : Int32) : QRect := { r with vertical := r.vertical.setFirst value }

/-- The right edge moves. -/
def setWidth (r : QRect) (value : Int32) : QRect :=
  { r with horizontal := r.horizontal.setLength value }

/-- The lower edge moves. -/
def setHeight (r : QRect) (value : Int32) : QRect :=
  { r with vertical := r.vertical.setLength value }

/-- A rectangle is valid if it is in both directions. -/
def isValid (r : QRect) : Bool := r.horizontal.isValid && r.vertical.isValid

/-- A point is in the rectangle if it is in both spans. -/
def contains (r : QRect) (p : QPoint) : Bool :=
  r.horizontal.contains p.x && r.vertical.contains p.y

/-- The test, as a proposition. -/
theorem contains_iff {r : QRect} {p : QPoint} :
    r.contains p = true ↔ r.horizontal.contains p.x = true ∧ r.vertical.contains p.y = true :=
  Bool.and_eq_true_iff

/-- Only a valid rectangle holds a point. -/
theorem isValid_of_contains {r : QRect} {p : QPoint} (h : r.contains p = true) :
    r.isValid = true := by
  obtain ⟨hx, hy⟩ := contains_iff.mp h
  exact Bool.and_eq_true_iff.mpr ⟨Span.isValid_of_contains hx, Span.isValid_of_contains hy⟩

/-- The null rectangle holds none. -/
theorem contains_null (p : QPoint) : null.contains p = false := by
  refine Bool.eq_false_iff.mpr fun h => ?_
  have hvalid := isValid_of_contains h
  revert hvalid
  decide

end QRect

/-- `toAlignedRect`: the smallest rectangle of integers around this one. -/
def QRectF.toAlignedRect {K : Type} [Field K] [LinearOrder K] [FloorRing K] (r : QRectF K) :
    QRect :=
  let xmin := Int32.ofInt ⌊r.x⌋
  let xmax := Int32.ofInt ⌈r.x + r.width⌉
  let ymin := Int32.ofInt ⌊r.y⌋
  let ymax := Int32.ofInt ⌈r.y + r.height⌉
  .ofSize xmin ymin (xmax - xmin) (ymax - ymin)

/-! ## Regions

The points of a list of rectangles. -/

/-- The rectangles that the region is the union of. -/
structure QRegion where
  rects : List QRect := []

namespace QRegion

/-- A point is in the region if it is in one of the rectangles. -/
def contains (region : QRegion) (p : QPoint) : Bool := region.rects.any (·.contains p)

/-- `region += rect` -/
def add (region : QRegion) (rect : QRect) : QRegion := ⟨region.rects ++ [rect]⟩

@[simp] theorem contains_add (region : QRegion) (rect : QRect) (p : QPoint) :
    (region.add rect).contains p = (region.contains p || rect.contains p) := by
  simp [contains, add]

end QRegion

end Qt
