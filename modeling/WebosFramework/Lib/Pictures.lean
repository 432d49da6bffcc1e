import Mathlib.Dynamics.PeriodicPts.Defs
import Mathlib.Tactic.Linarith
import WebosFramework.Lib.Glsl

/-!
# Pictures

A picture covers the unit square and has a background around it. It is put somewhere in a size,
which is negative for a picture that is mirrored, after some quarter turns clockwise. The y axis
points downwards.

**`samePicture_iff`**: a picture looks the same in two places just in case these have the same turns
and the same size, or are half a turn apart and mirrored in both directions.
-/

namespace Picture

open Glsl

variable {K : Type*}

/-- A vector is known by its components. -/
theorem eq_vec2 {p : Vec2 K} {x y : K} (hx : p.x = x) (hy : p.y = y) : p = vec2 x y := by
  funext i
  match i with
  | 0 => exact hx
  | 1 => exact hy

variable [Field K]

/-- Where a point was before a quarter turn clockwise. -/
def turnBack (p : Vec2 K) : Vec2 K := vec2 p.y (-p.x)

/-- The point of the picture that is `offset` away from its centre. -/
def coordAt (size : Vec2 K) (k : Nat) (offset : Vec2 K) : Vec2 K :=
  vec2 (1 / (2 : Nat) + (turnBack^[k] offset).x / size.x)
    (1 / (2 : Nat) + (turnBack^[k] offset).y / size.y)

theorem turnBack_turnBack (p : Vec2 K) : turnBack (turnBack p) = vec2 (-p.x) (-p.y) := rfl

/-- Four quarter turns are none. -/
theorem isPeriodicPt_turnBack (p : Vec2 K) : Function.IsPeriodicPt turnBack 4 p := by
  show turnBack (turnBack (turnBack (turnBack p))) = p
  rw [turnBack_turnBack, turnBack_turnBack]
  exact (eq_vec2 (neg_neg _).symm (neg_neg _).symm).symm

/-- So the number of quarter turns counts up to multiples of four. -/
theorem iterate_turnBack (k : Nat) (p : Vec2 K) : turnBack^[k % 4] p = turnBack^[k] p :=
  (isPeriodicPt_turnBack p).iterate_mod_apply k

/-- Three more turns for each of them go around. -/
theorem iterate_turnBack_around (k : Nat) (p : Vec2 K) :
    turnBack^[k] (turnBack^[3 * k] p) = p := by
  rw [← Function.iterate_add_apply, ← iterate_turnBack, show (k + 3 * k) % 4 = 0 by omega]
  rfl

/-- The place in the picture depends on the quarter turns in the same way. -/
theorem coordAt_congr (size : Vec2 K) {j k : Nat} (h : j % 4 = k % 4) :
    coordAt size j = coordAt size k := by
  funext offset
  rw [coordAt, coordAt, ← iterate_turnBack j, ← iterate_turnBack k, h]

/-- Half a turn mirrors in both directions. -/
theorem coordAt_half (size : Vec2 K) (k : Nat) :
    coordAt (vec2 (-size.x) (-size.y)) (k + 2) = coordAt size k := by
  funext offset
  have hx : (turnBack^[k + 2] offset).x = -(turnBack^[k] offset).x := by
    rw [Nat.add_comm, Function.iterate_add_apply]
    rfl
  have hy : (turnBack^[k + 2] offset).y = -(turnBack^[k] offset).y := by
    rw [Nat.add_comm, Function.iterate_add_apply]
    rfl
  rw [coordAt, coordAt, hx, hy]
  congr 2
  · exact neg_div_neg_eq _ _
  · exact neg_div_neg_eq _ _

variable [LinearOrder K] {C : Type*}

/-- The unit square, with its edges. -/
structure Covers (coord : Vec2 K) : Prop where
  /-- Not on the left of the picture. -/
  left : 0 ≤ coord.x
  /-- Not on the right of it. -/
  right : coord.x ≤ 1
  /-- Not above it. -/
  top : 0 ≤ coord.y
  /-- Not below it. -/
  bottom : coord.y ≤ 1

instance (coord : Vec2 K) : Decidable (Covers coord) :=
  decidable_of_iff (0 ≤ coord.x ∧ coord.x ≤ 1 ∧ 0 ≤ coord.y ∧ coord.y ≤ 1)
    ⟨fun ⟨l, r, t, b⟩ => ⟨l, r, t, b⟩, fun ⟨l, r, t, b⟩ => ⟨l, r, t, b⟩⟩

/-- The picture inside of the square, and the background outside. -/
def sample (source : Vec2 K → C) (background : C) (coord : Vec2 K) : C :=
  if Covers coord then source coord else background

/-- A picture of two colors tells a point that it covers from all others. -/
theorem eq_of_sample [Nontrivial C] {coord coord' : Vec2 K} (hcovers : Covers coord)
    (h : ∀ (source : Vec2 K → C) background,
      sample source background coord' = sample source background coord) : coord' = coord := by
  classical
  obtain ⟨ink, paper, hne⟩ := exists_pair_ne C
  by_contra hother
  have hsame := h (fun c => if c = coord then ink else paper) paper
  unfold sample at hsame
  dsimp only at hsame
  rw [if_pos hcovers, if_pos rfl, if_neg hother, ite_self] at hsame
  exact hne hsame.symm

/-- Whatever the picture and its background are, every point has the same color. -/
def SamePicture (C : Type*) (size' : Vec2 K) (j : Nat) (size : Vec2 K) (k : Nat) : Prop :=
  ∀ (source : Vec2 K → C) background offset,
    sample source background (coordAt size' j offset) =
      sample source background (coordAt size k offset)

variable [IsStrictOrderedRing K]

/-- Pictures that look the same have the same coordinates wherever one of them covers. It is
enough to compare them for one source that tells all places apart. -/
theorem coordAt_of_samePicture [Nontrivial C] {size size' : Vec2 K} {j k : Nat}
    (h : SamePicture C size' j size k) (q : Vec2 K)
    (hcovers : Covers (vec2 (1 / (2 : Nat) + q.x / size.x) (1 / (2 : Nat) + q.y / size.y))) :
    (turnBack^[j + 3 * k] q).x / size'.x = q.x / size.x ∧
      (turnBack^[j + 3 * k] q).y / size'.y = q.y / size.y := by
  have hback : coordAt size k (turnBack^[3 * k] q) =
      vec2 (1 / (2 : Nat) + q.x / size.x) (1 / (2 : Nat) + q.y / size.y) := by
    rw [coordAt, iterate_turnBack_around]
  have hcoord := eq_of_sample (hback ▸ hcovers) fun source background =>
    h source background (turnBack^[3 * k] q)
  rw [hback, coordAt, ← Function.iterate_add_apply] at hcoord
  exact ⟨add_left_cancel (congrFun hcoord 0), add_left_cancel (congrFun hcoord 1)⟩

/-- A quarter of one extent is seen at the same place of the other extent, so the latter is four
times the quarter. -/
theorem eq_of_quarter {extent extent' q : K} (hextent : extent ≠ 0)
    (h : q / extent' = extent / 4 / extent) : q ≠ 0 ∧ extent' = 4 * q := by
  rw [div_right_comm, div_self hextent] at h
  have hextent' : extent' ≠ 0 := by
    rintro rfl
    rw [div_zero] at h
    norm_num at h
  rw [div_eq_iff hextent'] at h
  refine ⟨fun hq => hextent' ?_, ?_⟩ <;> linarith

/-- Two ways to place a picture cannot be told apart just in case they are the same up to a half
turn, which mirrors both directions. The quarter points of both axes are enough to see this. -/
theorem samePicture_iff [Nontrivial C] {size size' : Vec2 K} (hx : size.x ≠ 0) (hy : size.y ≠ 0)
    {j k : Nat} :
    SamePicture C size' j size k ↔
      j % 4 = k % 4 ∧ size' = size ∨
        j % 4 = (k + 2) % 4 ∧ size' = vec2 (-size.x) (-size.y) := by
  constructor
  · -- only `turns = 0` and `turns = 2` keep an axis in its place, and each fixes the size
    intro h
    -- a quarter to the right of the centre, and a quarter below it
    have hright := (coordAt_of_samePicture h (vec2 (size.x / 4) 0) (by
      show Covers (vec2 (1 / (2 : Nat) + size.x / 4 / size.x) (1 / (2 : Nat) + 0 / size.y))
      rw [div_right_comm, div_self hx, zero_div]
      constructor <;> norm_num [vec2, Vec2.x, Vec2.y])).1
    have hbelow := (coordAt_of_samePicture h (vec2 0 (size.y / 4)) (by
      show Covers (vec2 (1 / (2 : Nat) + 0 / size.x) (1 / (2 : Nat) + size.y / 4 / size.y))
      rw [div_right_comm, div_self hy, zero_div]
      constructor <;> norm_num [vec2, Vec2.x, Vec2.y])).2
    rw [← iterate_turnBack] at hright hbelow
    obtain ⟨hright, hwidth⟩ := eq_of_quarter hx hright
    obtain ⟨-, hheight⟩ := eq_of_quarter hy hbelow
    have hlt : (j + 3 * k) % 4 < 4 := Nat.mod_lt _ (by omega)
    generalize hturns : (j + 3 * k) % 4 = turns at hright hwidth hheight hlt
    match turns with
    | 0 =>
      refine .inl ⟨by omega, ?_⟩
      rw [eq_vec2 (rfl : size.x = _) rfl]
      exact eq_vec2 (hwidth.trans (mul_div_cancel₀ size.x four_ne_zero))
        (hheight.trans (mul_div_cancel₀ size.y four_ne_zero))
    | 1 => exact absurd rfl hright
    | 2 =>
      refine .inr ⟨by omega, ?_⟩
      have hneg (extent : K) : 4 * -(extent / 4) = -extent := by ring
      exact eq_vec2 (hwidth.trans (hneg _)) (hheight.trans (hneg _))
    | 3 => exact absurd neg_zero hright
  · -- the other way the two placements have the same coordinates everywhere
    rintro (⟨hturns, rfl⟩ | ⟨hturns, rfl⟩)
    · intro source background offset
      rw [coordAt_congr size' hturns]
    · intro source background offset
      rw [coordAt_congr _ hturns, coordAt_half]

end Picture
