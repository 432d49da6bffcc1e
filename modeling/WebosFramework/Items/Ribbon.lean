import WebosFramework.Lib.ListMove

/-!
# The ribbon

The part of `Eos/Items/Ribbon.qml` that its editor uses: a list view with a current index, some of
whose places cannot be edited. Numbers are those of the source, so an index may be -1.

* A list view takes any number as its `currentIndex` and notifies of the change. At a number that is
  not the index of a row there is no current item (`hasCurrentItem`).
* A list view remembers its current item, not its index. When the model moves that item the view
  finds out only later; until then `currentIndex` is behind.
* The model is a list model. It moves a row only from one of its places to another one
  (`canMove`); other calls of `move` come to a warning.
-/

namespace Eos

open ListMove

/-- `layoutDirection` of a list view. The third value is taken over from the source, which
compares with the first two only. -/
inductive LayoutDirection where
  | leftToRight
  | rightToLeft
  | layoutDirectionAuto
  deriving DecidableEq

/-- The states "", "autoscrolling-left" and "autoscrolling-right". -/
inductive RibbonState where
  | idle
  | autoscrollingLeft
  | autoscrollingRight
  deriving DecidableEq

/-- What `allowedMoveInModel` looks at. -/
structure ScrollState where
  scrollingActive : Bool := false
  scrollByKey : Bool := false
  autoScrolling : Bool := false
  layoutDirection : LayoutDirection := .leftToRight
  state : RibbonState := .idle

/-- Whether a change of the index may move the row along at once. While the ribbon scrolls by
itself the editor moves rows only in the direction of the scrolling, which the layout mirrors; all
other ways of scrolling allow any move. -/
def ScrollState.allowedMoveInModel (s : ScrollState) (source target : Int) : Bool :=
  if !s.scrollingActive || s.scrollByKey || !s.autoScrolling then true
  else
    match s.layoutDirection with
    | .leftToRight =>
      s.state = .autoscrollingRight ∧ source ≤ target ∨
        s.state = .autoscrollingLeft ∧ source ≥ target
    | .rightToLeft =>
      s.state = .autoscrollingRight ∧ source ≥ target ∨
        s.state = .autoscrollingLeft ∧ source ≤ target
    -- neither of the two layouts that the source compares with, for which it returns true
    | .layoutDirectionAuto => true

/-- The rows of the list model, the `currentIndex` of the view and the list that
`setIndexEditable` keeps. `currentIndex` is a number of its own: that it is the index of a row is
`hasCurrentItem`, and not part of the type, as the view takes other numbers too. -/
structure Ribbon (α : Type) where
  model : List α
  currentIndex : Int := -1
  uneditableIndexes : List Int := []

namespace Ribbon

variable {α : Type}

/-- `count` of the list view, as the source compares it with indexes, which may be -1. -/
def count (r : Ribbon α) : Int := r.model.length

/-- `currentItem !== null` -/
def hasCurrentItem (r : Ribbon α) : Bool := 0 ≤ r.currentIndex ∧ r.currentIndex < r.count

/-- `indexEditable`: a place is editable unless it has been listed, whether it exists or not. -/
def indexEditable (r : Ribbon α) (index : Int) : Bool := index ∉ r.uneditableIndexes

/-- The model has both places. -/
def canMove (r : Ribbon α) (source target : Int) : Bool :=
  0 ≤ source ∧ source < r.count ∧ 0 ≤ target ∧ target < r.count

/-- `model.move(source, target, 1)`, which the model refuses for places that it does not have: it
warns, returns, and the caller does not learn of it. -/
def modelMove (r : Ribbon α) (source target : Int) : Ribbon α :=
  if r.canMove source target then { r with model := move r.model source.toNat target.toNat } else r

/-- A move leaves `currentIndex` behind. The view corrects it later, and the editor counts on that
order: it compares the old index with the target of the move. -/
@[simp] theorem currentIndex_modelMove (r : Ribbon α) (source target : Int) :
    (r.modelMove source target).currentIndex = r.currentIndex := by
  unfold modelMove
  split <;> rfl

/-- The four comparisons of `canMove`, as a proposition that `omega` can use. -/
theorem canMove_eq_true_iff {r : Ribbon α} {source target : Int} :
    r.canMove source target = true ↔
      0 ≤ source ∧ source < r.count ∧ 0 ≤ target ∧ target < r.count :=
  decide_eq_true_iff

/-- Between places of the model a row goes where `ListMove.move` says, so that everything known of
moves in lists can be used of the model of a ribbon. -/
theorem model_modelMove {r : Ribbon α} {source target : Int}
    (hsource : 0 ≤ source ∧ source < r.count) (htarget : 0 ≤ target ∧ target < r.count) :
    (r.modelMove source target).model = move r.model source.toNat target.toNat := by
  have hcan : r.canMove source target = true :=
    canMove_eq_true_iff.mpr ⟨hsource.1, hsource.2, htarget⟩
  unfold modelMove
  rw [if_pos hcan]

/-- What becomes of the rows depends on nothing but the rows: neither on the current index nor on
which places may be edited. Whether the model refuses a move is a matter of the rows as well. -/
theorem model_modelMove_congr {r r' : Ribbon α} (h : r.model = r'.model) (source target : Int) :
    (r.modelMove source target).model = (r'.modelMove source target).model := by
  have hcan : r.canMove source target = r'.canMove source target := by
    unfold canMove count
    rw [h]
  unfold modelMove
  rw [hcan]
  split
  · exact congrArg (fun rows => move rows source.toNat target.toNat) h
  · exact h

/-- Whether the model makes the move or refuses it, there are as many rows as before. Ranges of
indexes are therefore the same before and after a session of the editor. -/
theorem length_modelMove (r : Ribbon α) (source target : Int) :
    (r.modelMove source target).model.length = r.model.length := by
  unfold modelMove
  split
  · rename_i hcan
    obtain ⟨hsource, hsource', htarget, htarget'⟩ := canMove_eq_true_iff.mp hcan
    unfold count at hsource' htarget'
    exact length_move (by omega) (by omega)
  · rfl

end Ribbon

end Eos
