import WebosFramework.Lib.Bindings
import WebosFramework.Lib.EventLoop
import WebosFramework.Qt.Geometry

/-!
# The points of a Beziergon

A `Beziergon` of `Eos/Items/src/beziergon.cpp` is bounded by four Bezier curves, given by four
corner points and eight control points. A point that has not been set is computed from the size and
from other points, by a slot connected to the signals of what it depends on. `SETTERTRISTATE` makes
both functions of a point: the setter, which first disconnects the slot, and the slot.

**`points_default_or_set`**: at every event boundary a point has its default value, as computed from
the current size and points, if its setter has not been called, and the value set last otherwise.

The points are told apart by a `BezierPoint`, so the members of a `Beziergon` are a function. The
resolution, the dirty flags and the call of `update` play no part in this.

The signals form a `Network` in the sense of `Lib.Bindings`, with the corners above the control
points. That it is sound is a fact about its connections, point by point
(`interpolation_setMember`); the rest is that of any such network.
-/

namespace SamplerGeometry

open Bindings EventLoop Qt

/-- The corners and the control points, with the names that the members have. -/
inductive BezierPoint where
  | topLeft | topRight | bottomLeft | bottomRight
  | controlTopLeft | controlTopRight | controlBottomLeft | controlBottomRight
  | controlLeftTop | controlLeftBottom | controlRightTop | controlRightBottom
  deriving DecidableEq

/-- The members of an item: its size, its points, and which of them are still computed. -/
structure Beziergon (K : Type) where
  width : K
  height : K
  point : BezierPoint → QPointF K
  /-- The slot that calculates the point is connected. -/
  connected : BezierPoint → Bool

namespace Beziergon

variable {K : Type} [Field K]

/-- `interpolation` in the instances of `SETTERTRISTATE`. A control point in the second half of an
edge takes over the value of the one in the first half. -/
def interpolation (b : Beziergon K) : BezierPoint → QPointF K
  | .topLeft => ⟨0, 0⟩
  | .topRight => ⟨b.width, 0⟩
  | .bottomLeft => ⟨0, b.height⟩
  | .bottomRight => ⟨b.width, b.height⟩
  | .controlTopLeft => .midpoint (b.point .topLeft) (b.point .topRight)
  | .controlTopRight => b.point .controlTopLeft
  | .controlBottomLeft => .midpoint (b.point .bottomLeft) (b.point .bottomRight)
  | .controlBottomRight => b.point .controlBottomLeft
  | .controlLeftTop => .midpoint (b.point .topLeft) (b.point .bottomLeft)
  | .controlLeftBottom => b.point .controlLeftTop
  | .controlRightTop => .midpoint (b.point .topRight) (b.point .bottomRight)
  | .controlRightBottom => b.point .controlRightTop

/-! ## Connections

The slots in the order in which the constructor connects them. -/

/-- The slots connected to the width of the item. -/
def widthChanged : List BezierPoint := [.topRight, .bottomRight]

/-- The slots connected to its height. -/
def heightChanged : List BezierPoint := [.bottomLeft, .bottomRight]

/-- The slots connected to the signal of a point. -/
def pointChanged : BezierPoint → List BezierPoint
  | .topLeft => [.controlTopRight, .controlTopLeft, .controlLeftTop, .controlLeftBottom]
  | .topRight => [.controlTopRight, .controlTopLeft, .controlRightTop, .controlRightBottom]
  | .bottomLeft => [.controlBottomRight, .controlBottomLeft, .controlLeftTop, .controlLeftBottom]
  | .bottomRight =>
    [.controlBottomRight, .controlBottomLeft, .controlRightTop, .controlRightBottom]
  | .controlTopLeft => [.controlTopRight]
  | .controlBottomLeft => [.controlBottomRight]
  | .controlLeftTop => [.controlLeftBottom]
  | .controlRightTop => [.controlRightBottom]
  | .controlTopRight | .controlBottomRight | .controlLeftBottom | .controlRightBottom => []

/-- An assignment to the member of a point, without a signal. -/
def setMember (b : Beziergon K) (n : BezierPoint) (p : QPointF K) : Beziergon K :=
  { b with point := fun m => if m = n then p else b.point m }

/-- What a slot does before it emits the signal of the point. -/
def calculate (n : BezierPoint) (b : Beziergon K) : Beziergon K := b.setMember n (b.interpolation n)

/-- The corners are above the control points, which are in two layers. Signals go downwards only,
so that they come to an end. -/
def layer : BezierPoint → Nat
  | .topLeft | .topRight | .bottomLeft | .bottomRight => 2
  | .controlTopLeft | .controlBottomLeft | .controlLeftTop | .controlRightTop => 1
  | .controlTopRight | .controlBottomRight | .controlLeftBottom | .controlRightBottom => 0

/-- The points as a network: the signal of a point runs the slots that are connected to it, each
of which emits the signal of its own point. -/
def network : Network (Beziergon K) BezierPoint where
  listeners := pointChanged
  calculate := calculate
  height := layer
  height_lt n := by cases n <;> decide

/-- Emit a signal that these slots are connected to. -/
def emit (b : Beziergon K) (slots : List BezierPoint) : Beziergon K :=
  network.fire b.connected slots b

/-! ## Events

The setters and the geometry of the item. Each of them changes a value and emits its signal, and
the slots run before the call returns. -/

section

variable [DecidableEq K]

/-- The geometry of the item changes. Both members have their new values before the first of the
two signals is emitted, the one of the width. -/
def resize (b : Beziergon K) (width height : K) : Beziergon K :=
  let resized := { b with width, height }
  let notified := if b.width = width then resized else resized.emit widthChanged
  if b.height = height then notified else notified.emit heightChanged

/-- The setter of a point. It disconnects the slot even if the value is the one that the point has
already, and then emits no signal. -/
def setPoint (b : Beziergon K) (n : BezierPoint) (p : QPointF K) : Beziergon K :=
  let disconnected := { b with connected := fun m => if m = n then false else b.connected m }
  if b.point n = p then disconnected else (disconnected.setMember n p).emit (pointChanged n)

/-- A new item. -/
def new : Beziergon K := ⟨0, 0, fun _ => 0, fun _ => true⟩

end

end Beziergon

/-- The size changes, or a setter is called. -/
inductive BeziergonEvent (K : Type) where
  | resize (width height : K)
  | set (n : BezierPoint) (p : QPointF K)

/-- The item reacting to one event after the other. What its signals lead to outside is left out. -/
def beziergon (K : Type) [Field K] [DecidableEq K] :
    Machine (Beziergon K) (BeziergonEvent K) Unit where
  handle b
    | .resize width height => (b.resize width height, [])
    | .set n p => (b.setPoint n p, [])

namespace Beziergon

variable {K : Type} [Field K]

/-! ## The network keeps default points up to date

The points are an instance of the library of bindings. What is to be checked is that the
connections cover what the interpolations read. -/

/-- A point has its default value. -/
def UpToDate (n : BezierPoint) (b : Beziergon K) : Prop := b.point n = b.interpolation n

/-- The connections cover the dependencies: what is not notified does not depend on the point.
There is a case for each of the twelve points, and in each the default value reads none but those
connected to it. -/
theorem interpolation_setMember (b : Beziergon K) {n m : BezierPoint} (p : QPointF K)
    (hm : m ∉ pointChanged n) : (b.setMember n p).interpolation m = b.interpolation m := by
  cases m <;> cases n <;> first | rfl | exact absurd (by decide) hm

/-- No point is connected to its own signal. -/
theorem not_mem_pointChanged_self (n : BezierPoint) : n ∉ pointChanged n := by
  cases n <;> decide

omit [Field K] in
/-- The other points keep their values. -/
theorem point_setMember (b : Beziergon K) {n m : BezierPoint} (p : QPointF K) (hm : m ≠ n) :
    (b.setMember n p).point m = b.point m :=
  if_neg hm

/-- The network keeps points up to date: running a slot brings its own point up to date, and
leaves those alone that are not connected to it. -/
theorem sound_network : (network (K := K)).Sound UpToDate where
  calculate n b := by
    show (b.setMember n (b.interpolation n)).point n =
      (b.setMember n (b.interpolation n)).interpolation n
    rw [interpolation_setMember b _ (not_mem_pointChanged_self n)]
    exact if_pos rfl
  frame n m b hne hm hb := by
    show (b.setMember n (b.interpolation n)).point m =
      (b.setMember n (b.interpolation n)).interpolation m
    rw [interpolation_setMember b _ hm, point_setMember b _ hne]
    exact hb

/-- **Signals bring the default points up to date.** `stale` are points that are not up to date
yet and need not be, as another signal will see to them. -/
theorem upToDate_emit {b : Beziergon K} {slots : List BezierPoint} (stale : BezierPoint → Prop)
    (hb : ∀ m, b.connected m = true → ¬ stale m → m ∉ slots → UpToDate m b) {m : BezierPoint}
    (hm : b.connected m = true) (hstale : ¬ stale m) : UpToDate m (b.emit slots) :=
  Network.upToDate_fire sound_network stale hb m hm hstale

@[simp] theorem connected_emit (b : Beziergon K) (slots : List BezierPoint) :
    (b.emit slots).connected = b.connected := by
  apply network.fire_preserves (P := fun b' => b'.connected = b.connected) _ rfl
  intro n b' _ hb'
  exact hb'

/-- A point that has been set is not computed again. -/
theorem point_emit (b : Beziergon K) (slots : List BezierPoint) {n : BezierPoint}
    (hn : b.connected n = false) : (b.emit slots).point n = b.point n := by
  apply network.fire_preserves (P := fun b' => b'.point n = b.point n) _ rfl
  intro m b' hm hb'
  have hne : n ≠ m := fun heq => by
    rw [heq, hm] at hn
    cases hn
  exact (point_setMember b' _ hne).trans hb'

section

variable [DecidableEq K]

@[simp] theorem connected_resize (b : Beziergon K) (width height : K) :
    (b.resize width height).connected = b.connected := by
  unfold resize
  dsimp only
  split <;> split <;> simp

/-- A point that has been set stays where it is when the size changes. -/
theorem point_resize (b : Beziergon K) (width height : K) {n : BezierPoint}
    (hn : b.connected n = false) : (b.resize width height).point n = b.point n := by
  unfold resize
  dsimp only
  split <;> split <;> simp [point_emit, hn]

/-- Default values depend on the size only where a slot is connected to it. -/
theorem interpolation_resize (b : Beziergon K) {width height : K} {m : BezierPoint}
    (hwidth : b.width = width ∨ m ∉ widthChanged)
    (hheight : b.height = height ∨ m ∉ heightChanged) :
    interpolation { b with width, height } m = b.interpolation m := by
  have hw : b.width ≠ width → m ≠ .topRight ∧ m ≠ .bottomRight := fun hne => by
    simpa [hne, widthChanged] using hwidth
  have hh : b.height ≠ height → m ≠ .bottomLeft ∧ m ≠ .bottomRight := fun hne => by
    simpa [hne, heightChanged] using hheight
  by_cases hwidth' : b.width = width <;> by_cases hheight' : b.height = height <;>
    cases m <;> simp_all [interpolation]

/-- After a change of the size all points that are still computed are up to date. The two signals
are emitted one after the other, so that between them the listeners of the height may still be
stale. -/
theorem upToDate_resize {b : Beziergon K}
    (hb : ∀ m, b.connected m = true → UpToDate m b) (width height : K) {m : BezierPoint}
    (hm : b.connected m = true) : UpToDate m (b.resize width height) := by
  -- first the listeners of the width are brought up to date, the others of the height after them
  have hresized : ∀ m, b.connected m = true → (b.width = width ∨ m ∉ widthChanged) →
      ¬ (b.height ≠ height ∧ m ∈ heightChanged) → UpToDate m { b with width, height } := by
    intro m hm hwidth hheight
    have hnot : b.height = height ∨ m ∉ heightChanged := by
      by_cases heq : b.height = height
      · exact .inl heq
      · exact .inr fun hmem => hheight ⟨heq, hmem⟩
    show b.point m = _
    rw [interpolation_resize b hwidth hnot]
    exact hb m hm
  have hnotified : ∀ m, b.connected m = true → ¬ (b.height ≠ height ∧ m ∈ heightChanged) →
      UpToDate m (if b.width = width then { b with width, height }
        else emit { b with width, height } widthChanged) := by
    intro m hm hheight
    split
    · rename_i heq
      exact hresized m hm (.inl heq) hheight
    · exact upToDate_emit (fun m => b.height ≠ height ∧ m ∈ heightChanged)
        (fun k hk hheight' hwidth => hresized k hk (.inr hwidth) hheight') hm hheight
  unfold resize
  dsimp only
  split
  · rename_i heq
    exact hnotified m hm fun hne => hne.1 heq
  -- the second signal leaves nothing stale
  · apply upToDate_emit (fun _ => False) _ _ id
    · intro k hk _ hheight
      apply hnotified k _ fun hmem => hheight hmem.2
      revert hk
      split <;> simp
    · split <;> simpa using hm

/-- Setting a point disconnects its slot and no other. -/
theorem connected_setPoint (b : Beziergon K) (n : BezierPoint) (p : QPointF K) (m : BezierPoint) :
    (b.setPoint n p).connected m = if m = n then false else b.connected m := by
  unfold setPoint
  dsimp only
  split
  · rfl
  · rw [connected_emit]
    rfl

/-- A setter sets its point and leaves those alone that have been set before. -/
theorem point_setPoint (b : Beziergon K) (n : BezierPoint) (p : QPointF K) {m : BezierPoint}
    (hm : m ≠ n → b.connected m = false) :
    (b.setPoint n p).point m = if m = n then p else b.point m := by
  unfold setPoint
  dsimp only
  by_cases heq : m = n
  · subst heq
    split
    · rename_i hsame
      simpa using hsame
    · rw [point_emit _ _ (if_pos rfl)]
      rfl
  · rw [if_neg heq]
    split
    · rfl
    · rw [point_emit _ _ ((if_neg heq).trans (hm heq))]
      exact point_setMember _ p heq

/-- After a setter all points that are still computed are up to date, as those that depend on the
new one have been notified. -/
theorem upToDate_setPoint {b : Beziergon K} (hb : ∀ m, b.connected m = true → UpToDate m b)
    (n : BezierPoint) (p : QPointF K) {m : BezierPoint}
    (hm : (b.setPoint n p).connected m = true) : UpToDate m (b.setPoint n p) := by
  rw [connected_setPoint] at hm
  unfold setPoint
  dsimp only
  split
  · exact hb m (by revert hm; split <;> simp)
  · apply upToDate_emit (fun _ => False) _ hm id
    intro k hk _ hlistens
    have hne : k ≠ n := fun heq => by
      rw [heq] at hk
      simp [setMember] at hk
    have hconnected : b.connected k = true := by
      simpa [setMember, hne] using hk
    show (b.setMember n p).point k = (b.setMember n p).interpolation k
    rw [point_setMember b p hne, interpolation_setMember b p hlistens]
    exact hb k hconnected

/-! ## Runs

A point that has been set is cut off from the network for good, and the others stay up to date. -/

omit [Field K] [DecidableEq K] in
/-- The value a point has been set to last. -/
def lastSet (inputs : List (BeziergonEvent K)) (n : BezierPoint) : Option (QPointF K) :=
  inputs.foldl (fun last e =>
    match e with
    | .set m p => if n = m then some p else last
    | .resize _ _ => last) none

/-- A point that has been set is cut off and keeps its value. -/
structure PointsInv (h : History (Beziergon K) (BeziergonEvent K) Unit) : Prop where
  connected : ∀ n, h.state.connected n = (lastSet h.inputs n).isNone
  set : ∀ n p, lastSet h.inputs n = some p → h.state.point n = p
  default : ∀ n, h.state.connected n = true → UpToDate n h.state

omit [DecidableEq K] in
/-- In a new item nothing has been set, and all points are 0, as the size is. -/
theorem pointsInv_new : PointsInv (.init (new : Beziergon K)) where
  connected n := rfl
  set n p hp := by cases hp
  default n _ := by
    show (0 : QPointF K) = interpolation new n
    have hmid : (0 : QPointF K) = .midpoint 0 0 := by
      show (⟨0, 0⟩ : QPointF K) = ⟨2⁻¹ * (0 + 0), 2⁻¹ * (0 + 0)⟩
      simp
    cases n <;> first | rfl | exact hmid

/-- **One event** keeps the invariant. A setter makes its point one of those that have been set; a
change of the size leaves all of these alone. -/
theorem pointsInv_step {h : History (Beziergon K) (BeziergonEvent K) Unit} (hinv : PointsInv h)
    (e : BeziergonEvent K) : PointsInv ((beziergon K).step h e) := by
  cases e with
  | resize width height =>
    -- nothing is set
    have hlast : ∀ n, lastSet (h.inputs ++ [.resize width height]) n = lastSet h.inputs n := by
      intro n
      simp [lastSet]
    refine ⟨fun n => ?_, fun n p hp => ?_, fun n hn => ?_⟩
    · show (h.state.resize width height).connected n = _
      rw [connected_resize, hinv.connected, Machine.step_inputs, hlast]
    · rw [Machine.step_inputs, hlast] at hp
      show (h.state.resize width height).point n = p
      rw [point_resize _ _ _ (by rw [hinv.connected, hp]; rfl)]
      exact hinv.set n p hp
    · have hn' : h.state.connected n = true := by
        rwa [← connected_resize h.state width height]
      exact upToDate_resize hinv.default width height hn'
  | set m q =>
    have hlast : ∀ n, lastSet (h.inputs ++ [.set m q]) n =
        if n = m then some q else lastSet h.inputs n := by
      intro n
      simp [lastSet]
    refine ⟨fun n => ?_, fun n p hp => ?_, fun n hn => upToDate_setPoint hinv.default m q hn⟩
    · show (h.state.setPoint m q).connected n = _
      rw [connected_setPoint, Machine.step_inputs, hlast, hinv.connected]
      split <;> rfl
    · rw [Machine.step_inputs, hlast] at hp
      show (h.state.setPoint m q).point n = p
      -- a point that has been set before does not follow this one
      have hset : n ≠ m → h.state.connected n = false := fun hne => by
        rw [if_neg hne] at hp
        rw [hinv.connected, hp]
        rfl
      rw [point_setPoint _ _ _ hset]
      split at hp
      · rename_i heq
        rw [if_pos heq]
        exact Option.some.inj hp
      · rename_i hne
        rw [if_neg hne]
        exact hinv.set n p hp

/-- **Default points behave like bindings until they are set.** At every event boundary a point
that has been set has the value it was set to last, and any other one has its default value,
computed from the size and the points there are now.

By induction on the run, with `PointsInv`, which also says that the slots that are connected are
those of the points that have not been set. -/
theorem points_default_or_set (es : List (BeziergonEvent K)) :
    (beziergon K).Always (fun h => ∀ n, h.state.point n =
      match lastSet h.inputs n with
      | some p => p
      | none => h.state.interpolation n) (.init new) es := by
  have hadmits := (beziergon K).admits_true (.init new) es
  have hstep : ∀ h e, PointsInv h → True → PointsInv ((beziergon K).step h e) :=
    fun _ e hinv _ => pointsInv_step hinv e
  apply (Machine.always_of_admits hstep pointsInv_new hadmits).mono
  intro h hinv n
  cases hlast : lastSet h.inputs n with
  | some p => exact hinv.set n p hlast
  | none => exact hinv.default n (by rw [hinv.connected, hlast]; rfl)

end

end Beziergon

end SamplerGeometry
