import Mathlib.Algebra.Ring.Int.Defs
import WebosFramework.Lib.EventLoop
import WebosFramework.Qt.Containers
import WebosFramework.Qt.Geometry

/-!
# Punch-through items

`PunchThrough` of `Eos/Items/src/punchthrough.cpp` tells the platform where the video shines
through. All items share the table `punchThroughRects`, which is passed on as a whole by
`setWindowPunchThroughRect`. There are two ways into it: `setRegion` writes the entry of the item
whenever it changes something, and `updatePaintNode` writes it if it is null.

* An item is known by its address. `isDefined` is whether the platform has the function that takes
  the table; each constructor asks for it.
* Comparisons of coordinates are exact.
* A change of the geometry that does not come from `setRegion` reaches the members of the item, but
  not the table. **`holeFollows_iff`**: after each paint the table has the geometry of the item,
  exactly when each paint finds an entry that is null or up to date.

What holds between the members, the table and what was passed on is `SharedTable`. A step can do
four things (`punchThrough_cases`), so that the invariant is proved by four cases. The theorem
compares one paint with what it finds (`holeFollows_step_iff`), and the runs follow event by
event.
-/

namespace Eos

open EventLoop Qt

/-- The four properties of an item that make up its geometry. -/
inductive Coordinate where
  | x
  | y
  | width
  | height
  deriving DecidableEq

variable {K : Type}

namespace Coordinate

/-- The coordinate of a rectangle. -/
def of : Coordinate → QRectF K → K
  | x, r => r.x
  | y, r => r.y
  | width, r => r.width
  | height, r => r.height

/-- The rectangle with another value of a coordinate. -/
def put : Coordinate → QRectF K → K → QRectF K
  | x, r, v => { r with x := v }
  | y, r, v => { r with y := v }
  | width, r, v => { r with width := v }
  | height, r, v => { r with height := v }

@[simp] theorem of_put (c : Coordinate) (r : QRectF K) (v : K) : c.of (c.put r v) = v := by
  cases c <;> rfl

end Coordinate

/-- `geometry` is that of the `QQuickItem`; `stored` is `m_x`, `m_y`, `m_width` and `m_height`. -/
structure PunchThrough (K : Type) where
  geometry : QRectF K
  stored : QRectF K
  deriving DecidableEq

variable [DecidableEq K]

namespace PunchThrough

/-- A new item has no geometry. -/
def new [Zero K] : PunchThrough K := ⟨⟨0, 0, 0, 0⟩, ⟨0, 0, 0, 0⟩⟩

variable (p : PunchThrough K)

/-- The slots `setXValue`, `setYValue`, `setWidthValue` and `setHeightValue`. -/
def storeValue (c : Coordinate) : PunchThrough K :=
  { p with stored := c.put p.stored (c.of p.geometry) }

/-- `setX`, `setY`, `setWidth` and `setHeight` of the `QQuickItem`, which signal a change. -/
def setValue (c : Coordinate) (v : K) : PunchThrough K :=
  if c.of p.geometry = v then p
  else storeValue { p with geometry := c.put p.geometry v } c

/-- `setRegion` up to its last `if`; the flag is `changed`. -/
def moveTo (region : QRectF K) : PunchThrough K × Bool :=
  [Coordinate.x, .y, .width, .height].foldl
    (fun (p, changed) c =>
      if c.of region = c.of p.geometry then (p, changed) else (p.setValue c (c.of region), true))
    (p, false)

end PunchThrough

/-- The members of an item agree with its geometry. The slots see to that, as every change of the
geometry is signalled. -/
def PunchThrough.Stored (p : PunchThrough K) : Prop := p.stored = p.geometry

namespace PunchThrough.Stored

variable {p : PunchThrough K}

/-- A change of one coordinate is stored as it is made. -/
theorem setValue (h : p.Stored) (c : Coordinate) (v : K) : (p.setValue c v).Stored := by
  unfold PunchThrough.setValue
  split
  · exact h
  · show c.put p.stored (c.of (c.put p.geometry v)) = c.put p.geometry v
    rw [Coordinate.of_put, h]

/-- So is a change of some of them, one after the other. By induction on the coordinates. -/
theorem foldl_setValue (h : p.Stored) (region : QRectF K) (cs : List Coordinate) (changed : Bool) :
    (cs.foldl (fun (q : PunchThrough K × Bool) c =>
      if c.of region = c.of q.1.geometry then (q.1, q.2)
      else (q.1.setValue c (c.of region), true)) (p, changed)).1.Stored := by
  induction cs generalizing p changed with
  | nil => exact h
  | cons c cs ih =>
    rw [List.foldl_cons]
    split
    · exact ih h changed
    · exact ih (h.setValue c _) true

/-- A region that is set is stored, coordinate by coordinate. -/
theorem moveTo (h : p.Stored) (region : QRectF K) : (p.moveTo region).1.Stored :=
  h.foldl_setValue region _ false

end PunchThrough.Stored

/-! ## The shared table

All items write to one table, which is passed to the platform as a whole. An entry is written by
`setRegion`, and by a paint that finds it missing or null. -/

variable [Zero K]

/-- The items there are, and the table that they share. -/
structure PunchThroughs (K : Type) where
  items : QMap Nat (PunchThrough K) := ∅
  punchThroughRects : QMap Nat (QRectF K) := ∅

/-- What may happen: items come and go, their geometry changes, from the scene or by `setRegion`,
and they are painted. -/
inductive PunchThroughEvent (K : Type) where
  | create (item : Nat)
  | destroy (item : Nat)
  | setValue (item : Nat) (c : Coordinate) (v : K)
  | setRegion (item : Nat) (region : QRectF K)
  | updatePaintNode (item : Nat)

/-- What is passed to the platform. -/
def setWindowPunchThroughRect (isDefined : Bool) (rects : QMap Nat (QRectF K)) :
    List (QMap Nat (QRectF K)) :=
  if isDefined then [rects] else []

namespace PunchThroughs

variable (isDefined : Bool) (w : PunchThroughs K) (item : Nat)

/-- The entry of the item is written from its members, and the table is passed on. -/
def write (p : PunchThrough K) : PunchThroughs K × List (QMap Nat (QRectF K)) :=
  let rects := w.punchThroughRects.insert item p.stored
  (⟨w.items.insert item p, rects⟩, setWindowPunchThroughRect isDefined rects)

/-- The constructor, which leaves the table alone. -/
def create : PunchThroughs K :=
  if w.items[item]?.isSome then w else { w with items := w.items.insert item .new }

/-- The destructor takes the entry out and passes the table on. -/
def destroy : PunchThroughs K × List (QMap Nat (QRectF K)) :=
  match w.items[item]? with
  | none => (w, [])
  | some _ =>
    let rects := w.punchThroughRects.erase item
    (⟨w.items.erase item, rects⟩, setWindowPunchThroughRect isDefined rects)

/-- A change of the geometry that does not come from `setRegion`: the table is not written. -/
def setValue (c : Coordinate) (v : K) : PunchThroughs K :=
  match w.items[item]? with
  | none => w
  | some p => { w with items := w.items.insert item (p.setValue c v) }

/-- `setRegion` writes the entry if a coordinate has changed. -/
def setRegion (region : QRectF K) : PunchThroughs K × List (QMap Nat (QRectF K)) :=
  match w.items[item]? with
  | none => (w, [])
  | some p =>
    let moved := p.moveTo region
    if moved.2 then w.write isDefined item moved.1 else (w, [])

/-- An item without an entry gets a null one when it is looked up. -/
def updatePaintNode : PunchThroughs K × List (QMap Nat (QRectF K)) :=
  match w.items[item]? with
  | none => (w, [])
  | some p =>
    if (w.punchThroughRects[item]?).all QRectF.isNull then w.write isDefined item p else (w, [])

end PunchThroughs

/-- The items as a machine. What it puts out are the tables that are passed to the platform. -/
def punchThrough (K : Type) [Zero K] [DecidableEq K] (isDefined : Bool) :
    Machine (PunchThroughs K) (PunchThroughEvent K) (QMap Nat (QRectF K)) where
  handle w
    | .create item => (w.create item, [])
    | .destroy item => w.destroy isDefined item
    | .setValue item c v => (w.setValue item c v, [])
    | .setRegion item region => w.setRegion isDefined item region
    | .updatePaintNode item => w.updatePaintNode isDefined item

/-! ## What holds at every event boundary

The platform has the table that was passed last, and the members of the items are their geometry. -/

/-- Every item has stored its geometry. -/
def AllStored (items : QMap Nat (PunchThrough K)) : Prop :=
  ∀ (item : Nat) (p : PunchThrough K), items[item]? = some p → p.Stored

omit [DecidableEq K] [Zero K] in
/-- An item that has stored its geometry may be added, or take the place of another. -/
theorem AllStored.insert {items : QMap Nat (PunchThrough K)} (h : AllStored items) (item : Nat)
    {p : PunchThrough K} (hp : p.Stored) : AllStored (items.insert item p) := by
  intro item' p' hp'
  rw [QMap.getElem?_insert] at hp'
  split at hp'
  · cases hp'
    exact hp
  · exact h item' p' hp'

omit [DecidableEq K] [Zero K] in
/-- An item may be taken out. -/
theorem AllStored.erase {items : QMap Nat (PunchThrough K)} (h : AllStored items) (item : Nat) :
    AllStored (items.erase item) := by
  intro item' p' hp'
  rw [QMap.getElem?_erase] at hp'
  split at hp'
  · cases hp'
  · exact h item' p' hp'

section Steps

variable {isDefined : Bool}

/-- The table that was passed to the platform last; before that the platform has no entries. -/
def lastPassed (h : History (PunchThroughs K) (PunchThroughEvent K) (QMap Nat (QRectF K))) :
    QMap Nat (QRectF K) :=
  h.outputs.getLast?.getD ∅

/-- What holds between events: the members of the items are up to date, the table has no entry
without an item, and the platform has the table. -/
structure SharedTable (isDefined : Bool)
    (h : History (PunchThroughs K) (PunchThroughEvent K) (QMap Nat (QRectF K))) : Prop where
  /-- The members of each item agree with its geometry. -/
  stored : AllStored h.state.items
  /-- An item that is gone has no entry. -/
  live : ∀ item : Nat, h.state.items[item]? = none → h.state.punchThroughRects[item]? = none
  /-- The platform has the table as it is, if it takes tables at all. -/
  passed : lastPassed h = if isDefined then h.state.punchThroughRects else ∅

/-- What a step can do: write the entry of an item, take an item out with its entry, or change no
entry and pass nothing. -/
theorem punchThrough_cases (isDefined : Bool) {w : PunchThroughs K} (hstored : AllStored w.items)
    (e : PunchThroughEvent K) :
    (∃ item p, p.Stored ∧
      (punchThrough K isDefined).handle w e = w.write isDefined item p) ∨
    (∃ item, (punchThrough K isDefined).handle w e =
      (⟨w.items.erase item, w.punchThroughRects.erase item⟩,
        setWindowPunchThroughRect isDefined (w.punchThroughRects.erase item))) ∨
    (∃ item p, p.Stored ∧
      (punchThrough K isDefined).handle w e = ({ w with items := w.items.insert item p }, [])) ∨
    (punchThrough K isDefined).handle w e = (w, []) := by
  cases e with
  -- an item that is alive is not created again
  | create item =>
    by_cases hlive : w.items[item]?.isSome = true
    · refine .inr (.inr (.inr ?_))
      show (if _ then _ else _, _) = _
      rw [if_pos hlive]
    · refine .inr (.inr (.inl ⟨item, .new, rfl, ?_⟩))
      show (if _ then _ else _, _) = _
      rw [if_neg hlive]
  -- the destructor drops the entry of the item, and passes the table on
  | destroy item =>
    show _ ∨ (∃ item', w.destroy isDefined item = _) ∨ _ ∨ w.destroy isDefined item = _
    unfold PunchThroughs.destroy
    cases hitem : w.items[item]? with
    | none => exact .inr (.inr (.inr rfl))
    | some p => exact .inr (.inl ⟨item, rfl⟩)
  -- a property is only stored until the next paint
  | setValue item c v =>
    show _ ∨ _ ∨ (∃ item' p, _ ∧ (w.setValue item c v, []) = _) ∨ (w.setValue item c v, []) = _
    unfold PunchThroughs.setValue
    cases hitem : w.items[item]? with
    | none => exact .inr (.inr (.inr rfl))
    | some p => exact .inr (.inr (.inl ⟨item, _, (hstored item p hitem).setValue c v, rfl⟩))
  -- a region that has changed is passed on at once
  | setRegion item region =>
    show (∃ item' p, _ ∧ w.setRegion isDefined item region = _) ∨ _ ∨ _ ∨
      w.setRegion isDefined item region = _
    unfold PunchThroughs.setRegion
    cases hitem : w.items[item]? with
    | none => exact .inr (.inr (.inr rfl))
    | some p =>
      dsimp only
      split
      · exact .inl ⟨item, _, (hstored item p hitem).moveTo region, rfl⟩
      · exact .inr (.inr (.inr rfl))
  -- a paint passes on the rectangle if it has moved
  | updatePaintNode item =>
    show (∃ item' p, _ ∧ w.updatePaintNode isDefined item = _) ∨ _ ∨ _ ∨
      w.updatePaintNode isDefined item = _
    unfold PunchThroughs.updatePaintNode
    cases hitem : w.items[item]? with
    | none => exact .inr (.inr (.inr rfl))
    | some p =>
      dsimp only
      split
      · exact .inl ⟨item, p, hstored item p hitem, rfl⟩
      · exact .inr (.inr (.inr rfl))

variable {h : History (PunchThroughs K) (PunchThroughEvent K) (QMap Nat (QRectF K))}

/-- What is passed by an event takes the place of what was passed before. -/
theorem lastPassed_step (e : PunchThroughEvent K) :
    lastPassed ((punchThrough K isDefined).step h e) =
      (((punchThrough K isDefined).handle h.state e).2.getLast?).getD (lastPassed h) := by
  unfold lastPassed
  rw [Machine.step_outputs, List.getLast?_append]
  cases ((punchThrough K isDefined).handle h.state e).2.getLast? <;> rfl

omit [DecidableEq K] [Zero K] in
/-- A table that is passed is what the platform has, if it takes tables. -/
theorem SharedTable.passed_rects (hI : SharedTable isDefined h) (rects : QMap Nat (QRectF K)) :
    ((setWindowPunchThroughRect isDefined rects).getLast?).getD (lastPassed h) =
      if isDefined then rects else ∅ := by
  have hpassed := hI.passed
  cases isDefined with
  | true => rfl
  | false => exact hpassed

/-- The invariant after an event, from what the event does. The history does not matter, except
for what was passed last. -/
theorem SharedTable.of_handle {e : PunchThroughEvent K} {w : PunchThroughs K}
    {passed : List (QMap Nat (QRectF K))}
    (hhandle : (punchThrough K isDefined).handle h.state e = (w, passed))
    (hstored : AllStored w.items)
    (hlive : ∀ item : Nat, w.items[item]? = none → w.punchThroughRects[item]? = none)
    (hpassed : passed.getLast?.getD (lastPassed h) =
      if isDefined then w.punchThroughRects else ∅) :
    SharedTable isDefined ((punchThrough K isDefined).step h e) := by
  have hstate : ((punchThrough K isDefined).step h e).state = w := congrArg Prod.fst hhandle
  refine ⟨?_, ?_, ?_⟩
  · rw [hstate]
    exact hstored
  · rw [hstate]
    exact hlive
  · rw [hstate, lastPassed_step, hhandle]
    exact hpassed

/-- **Every event keeps the table as it should be**, in each of the four cases. The table is passed
on whenever an entry is written or dropped, so the platform has it as it is. -/
theorem sharedTable_step (hI : SharedTable isDefined h) (e : PunchThroughEvent K) :
    SharedTable isDefined ((punchThrough K isDefined).step h e) := by
  rcases punchThrough_cases isDefined hI.stored e with ⟨item, p, hp, hhandle⟩ | ⟨item, hhandle⟩ |
    ⟨item, p, hp, hhandle⟩ | hhandle
  · -- an entry is written, and what has been passed is the new table
    refine .of_handle hhandle (hI.stored.insert item hp) ?_ (hI.passed_rects _)
    intro item' hitem'
    dsimp only at hitem' ⊢
    rw [QMap.getElem?_insert] at hitem' ⊢
    split at hitem'
    · cases hitem'
    · rename_i hne
      rw [if_neg hne]
      exact hI.live item' hitem'
  · -- an entry is dropped
    refine .of_handle hhandle (hI.stored.erase item) ?_ (hI.passed_rects _)
    intro item' hitem'
    dsimp only at hitem' ⊢
    rw [QMap.getElem?_erase] at hitem' ⊢
    split
    · rfl
    · rename_i hne
      rw [if_neg hne] at hitem'
      exact hI.live item' hitem'
  · -- an item is written, and the table is the same
    refine .of_handle hhandle (hI.stored.insert item hp) ?_ hI.passed
    intro item' hitem'
    dsimp only at hitem' ⊢
    rw [QMap.getElem?_insert] at hitem'
    split at hitem'
    · cases hitem'
    · exact hI.live item' hitem'
  · -- nothing is written
    exact .of_handle hhandle hI.stored hI.live hI.passed

end Steps

/-! ## Runs

After a paint the platform has the place of the item, or an older one: an entry that is there and
not null is not written again. -/

section Runs

variable [LT K]

/-- After a paint of an item that is not empty, the platform has the geometry of the item in the
table, what it had of the others before, and nothing of items that are gone. -/
def HoleFollows (isDefined : Bool)
    (h : History (PunchThroughs K) (PunchThroughEvent K) (QMap Nat (QRectF K))) :
    PunchThroughEvent K → Prop
  | .updatePaintNode item =>
    ∀ p : PunchThrough K, h.state.items[item]? = some p →
      0 < p.geometry.width → 0 < p.geometry.height →
        let passed := lastPassed ((punchThrough K isDefined).step h (.updatePaintNode item))
        passed[item]? = some p.geometry ∧
          (∀ other, other ≠ item → passed[other]? = (lastPassed h)[other]?) ∧
          ∀ other : Nat, h.state.items[other]? = none → passed[other]? = none
  | _ => True

/-- A paint of an item that is not empty finds its entry missing, null or up to date, and the
platform takes tables. -/
def FindsEntry (isDefined : Bool) (w : PunchThroughs K) : PunchThroughEvent K → Prop
  | .updatePaintNode item =>
    ∀ p ∈ w.items[item]?, 0 < p.geometry.width → 0 < p.geometry.height →
      isDefined = true ∧ ∀ rect ∈ w.punchThroughRects[item]?, rect.isNull ∨ rect = p.geometry
  | _ => True

section Paint

variable {isDefined : Bool} {item : Nat} {p : PunchThrough K}
  {h : History (PunchThroughs K) (PunchThroughEvent K) (QMap Nat (QRectF K))}

omit [LT K] in
/-- The table after a paint, where the platform takes it. -/
theorem lastPassed_paint (hI : SharedTable isDefined h) (hp : h.state.items[item]? = some p) :
    lastPassed ((punchThrough K isDefined).step h (.updatePaintNode item)) =
      if isDefined then
        if (h.state.punchThroughRects[item]?).all QRectF.isNull then
          h.state.punchThroughRects.insert item p.geometry
        else h.state.punchThroughRects
      else ∅ := by
  rw [lastPassed_step]
  show ((h.state.updatePaintNode isDefined item).2.getLast?).getD (lastPassed h) = _
  unfold PunchThroughs.updatePaintNode
  rw [hp]
  dsimp only
  split
  · rw [← hI.stored item p hp]
    exact hI.passed_rects _
  · exact hI.passed

/-- If the platform has the geometry after a paint, it is there because the paint has written the
entry, or because it was there before. -/
theorem findsEntry_of_holeFollows (hI : SharedTable isDefined h)
    (hfollows : HoleFollows isDefined h (.updatePaintNode item)) :
    FindsEntry isDefined h.state (.updatePaintNode item) := by
  intro p hp hwidth hheight
  have hentry := (hfollows p hp hwidth hheight).1
  rw [lastPassed_paint hI hp] at hentry
  have hdefined : isDefined = true := by
    by_contra hdefined
    rw [if_neg hdefined, Std.TreeMap.getElem?_emptyc] at hentry
    cases hentry
  refine ⟨hdefined, fun rect hrect => ?_⟩
  rw [if_pos hdefined] at hentry
  by_cases hnull : rect.isNull = true
  · exact .inl hnull
  · -- the entry is left as it was
    rw [hrect, if_neg (by simpa using hnull), hrect] at hentry
    exact .inr (Option.some.inj hentry)

/-- A null entry is written by the paint, and one that is up to date need not be. So a paint that
finds an entry which is neither writes nothing, and the hole stays behind. -/
theorem holeFollows_of_findsEntry (hI : SharedTable isDefined h)
    (hfinds : FindsEntry isDefined h.state (.updatePaintNode item)) :
    HoleFollows isDefined h (.updatePaintNode item) := by
  intro p hp hwidth hheight
  obtain ⟨hdefined, hrect⟩ := hfinds p hp hwidth hheight
  have hpassed := hI.passed
  dsimp only
  rw [lastPassed_paint hI hp]
  rw [if_pos hdefined] at hpassed ⊢
  rw [hpassed]
  have hother : ∀ other : Nat, h.state.items[other]? = none → other ≠ item := by
    rintro other hother rfl
    cases hother.symm.trans hp
  split
  · -- the entry is written
    refine ⟨?_, fun other hne => ?_, fun other hdead => ?_⟩
    · rw [QMap.getElem?_insert, if_pos rfl]
    · rw [QMap.getElem?_insert, if_neg hne.symm]
    · rw [QMap.getElem?_insert, if_neg (hother other hdead).symm]
      exact hI.live other hdead
  · rename_i hnull
    obtain ⟨rect, hmem, hrectNull⟩ : ∃ rect, h.state.punchThroughRects[item]? = some rect ∧
        rect.isNull = false := by
      cases hentry : h.state.punchThroughRects[item]? with
      | none => exact absurd (by rw [hentry]; rfl) hnull
      | some rect => exact ⟨rect, rfl, by simpa [hentry] using hnull⟩
    refine ⟨?_, fun _ _ => rfl, hI.live⟩
    rw [hmem, (hrect rect hmem).resolve_left (by simp [hrectNull])]

end Paint

/-- One event: the two directions for a paint. There is nothing to show for the others. -/
theorem holeFollows_step_iff {isDefined : Bool}
    {h : History (PunchThroughs K) (PunchThroughEvent K) (QMap Nat (QRectF K))}
    (hI : SharedTable isDefined h) (e : PunchThroughEvent K) :
    HoleFollows isDefined h e ↔ FindsEntry isDefined h.state e := by
  cases e with
  | updatePaintNode item =>
    exact ⟨findsEntry_of_holeFollows hI, holeFollows_of_findsEntry hI⟩
  | create item => exact Iff.rfl
  | destroy item => exact Iff.rfl
  | setValue item c v => exact Iff.rfl
  | setRegion item region => exact Iff.rfl

/-- **The hole follows.** In every run: after each paint of an item that is not empty the table that
was passed last is as it should be, exactly when each such paint finds what it needs.

By `Machine.admits_congr` with `SharedTable`, the invariant that the platform has the table as it
is: the two properties of a paint are equivalent wherever it holds. -/
theorem holeFollows_iff (isDefined : Bool) (es : List (PunchThroughEvent K)) :
    (punchThrough K isDefined).Admits (HoleFollows isDefined) (.init {}) es ↔
      (punchThrough K isDefined).Admits (fun h => FindsEntry isDefined h.state) (.init {}) es := by
  refine Machine.admits_congr (E := fun _ _ => True) (I := SharedTable isDefined)
    (fun h e hI _ => sharedTable_step hI e) (fun h e hI _ => holeFollows_step_iff hI e) ?_
    ((punchThrough K isDefined).admits_true _ es)
  refine ⟨fun item p hp => ?_, fun item _ => ?_, ?_⟩
  · cases (Std.TreeMap.getElem?_emptyc).symm.trans hp
  · exact Std.TreeMap.getElem?_emptyc
  · cases isDefined <;> rfl

/-- An item is given a size, painted, moved by its `x`, and painted again. -/
def movedByX : List (PunchThroughEvent Int) :=
  [.create 1, .setValue 1 .width 100, .setValue 1 .height 100, .updatePaintNode 1,
    .setValue 1 .x 50, .updatePaintNode 1]

/-- The table still has the place of the first paint: the entry is not null, so the second one
leaves it. -/
theorem not_holeFollows_movedByX :
    ¬ (punchThrough Int true).Admits (HoleFollows true) (.init {}) movedByX := by
  intro hall
  have hfollows := hall.2.2.2.2.2.1
  have hentry := (hfollows ⟨⟨50, 0, 100, 100⟩, ⟨50, 0, 100, 100⟩⟩ (by decide) (by decide)
    (by decide)).1
  revert hentry
  decide

end Runs

end Eos
