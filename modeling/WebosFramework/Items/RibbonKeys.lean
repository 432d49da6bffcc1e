import WebosFramework.Items.Ribbon

/-!
# Keys in edit mode

A ribbon in edit mode goes from one editable place to the next when a key is pressed.
`decrementEditable` and `incrementEditable` of `Eos/Items/Ribbon.qml` look for it, one place at a
time. They ask whether a place is editable before they ask whether it exists, so the list of the
places that are not editable may have numbers beyond both ends.

**`nearest_editable`**: both find the nearest editable place, if there is one, and a key press goes
there or nowhere.

Both loops are functions by recursion on the distance to the end that they walk to. What is proved
of a loop is said of every index that it can start from (`decrementWhile_spec`,
`incrementWhile_spec`), by induction on the run of the loop; the two functions and the key presses
are cases of it.
-/

namespace Eos.Ribbon

variable {α : Type} (r : Ribbon α)

/-! ## Places that are not editable

The list of places, as the two functions keep it. Other functions do not touch it. -/

/-- `setIndexEditable` drops the index from the list, so that it is there at most once, and puts
it at the end if the place is not editable. It does not ask whether there is such a place. -/
def setIndexEditable (index : Int) (editable : Bool) : Ribbon α :=
  let uneditableList := r.uneditableIndexes.filter (· ≠ index)
  { r with uneditableIndexes := if editable then uneditableList else uneditableList ++ [index] }

/-- Without an index, all of them are removed. -/
def removeIndexEditable (index : Option Int) : Ribbon α :=
  match index with
  | none => { r with uneditableIndexes := [] }
  | some index => { r with uneditableIndexes := r.uneditableIndexes.filter (· ≠ index) }

/-- The calls that change which places can be edited. Others of the ribbon's functions do not
touch the list. -/
inductive EditableCall where
  | setIndexEditable (index : Int) (editable : Bool)
  | removeIndexEditable (index : Option Int)
  deriving DecidableEq

def call : EditableCall → Ribbon α
  | .setIndexEditable index editable => r.setIndexEditable index editable
  | .removeIndexEditable index => r.removeIndexEditable index

/-- Any number of these calls, in the order in which they are made. -/
def calls (cs : List EditableCall) : Ribbon α := cs.foldl call r

/-! ## Looking for the nearest one

The two loops. Each comes closer to its bound in every turn, and stops at the first editable
place. -/

/-- The loop of `decrementEditable`. It goes on as long as the place is not editable and not
before the first one, so it may end at -1, which then is the result. -/
def decrementWhile (index : Int) : Int :=
  if r.indexEditable index = false ∧ index ≥ 0 then decrementWhile (index - 1) else index
termination_by (index + 1).toNat

/-- The loop of `incrementEditable`. It may end at `count`, for which `incrementEditable` returns
-1. -/
def incrementWhile (index : Int) : Int :=
  if r.indexEditable index = false ∧ index ≤ r.count - 1 then incrementWhile (index + 1) else index
termination_by (r.count - index).toNat

/-- `decrementEditable(index)`, which starts from the place it is asked about and not from the one
before. -/
def decrementEditable (index : Int) : Int :=
  if index > r.count - 1 ∨ index < 0 then -1 else r.decrementWhile index

/-- `incrementEditable(index)`. As there is no place `count`, the two functions are not mirror
images: this one has to turn the end of the loop into -1 by itself. -/
def incrementEditable (index : Int) : Int :=
  if index > r.count - 1 ∨ index < 0 then -1
  else if r.incrementWhile index ≠ r.count then r.incrementWhile index else -1

/-! ## Key presses

What the two handlers do in edit mode and outside of it, with what they call. -/

/-- What a key press calls besides. -/
inductive KeyAction where
  | notAccepted
  | clearPostponed
  | addPostponed
  | scrollToLeft
  | scrollToRight
  /-- `scrollAni.scrollTo(contentWidth + originX)` -/
  | scrollToEnd
  | ensureItemVisible
  deriving DecidableEq

/-- `currentIndex = index`; the view takes any number. -/
def assignCurrentIndex (index : Int) : Ribbon α := { r with currentIndex := index }

/-- `decrementCurrentIndex` of a list view, which does not wrap. -/
def decrementCurrentIndex : Ribbon α :=
  if r.count ≠ 0 ∧ 0 < r.currentIndex then r.assignCurrentIndex (r.currentIndex - 1) else r

/-- `incrementCurrentIndex` of a list view, which does not wrap. -/
def incrementCurrentIndex : Ribbon α :=
  if r.count ≠ 0 ∧ r.currentIndex < r.count - 1 then
    r.assignCurrentIndex (if 0 ≤ r.currentIndex + 1 then r.currentIndex + 1 else 0)
  else r

/-- `scrollToPrevIndex`, with what it calls besides in the order of the calls. `scrollAni.running`
is `scrollingActive`, and `hasEvent` says that the function has been called with an event, which
is not accepted at an end so that the focus may go on. -/
def scrollToPrevIndex (s : ScrollState) (editModeOn hasEvent : Bool) :
    Ribbon α × List KeyAction :=
  if r.count = 0 ∨ r.currentIndex ≤ 0 ∨ s.autoScrolling then
    (r, (if hasEvent ∧ r.currentIndex ≤ 0 then [.notAccepted] else []) ++ [.clearPostponed])
  else if s.scrollingActive then (r, [.addPostponed])
  else
    -- the tile at the end that must not be edited is brought into view before the ribbon stays
    -- where it is
    let scroll : List KeyAction :=
      if editModeOn ∧ r.indexEditable (r.currentIndex - 1) = false then
        [if s.layoutDirection = .rightToLeft then .scrollToRight else .scrollToLeft]
      else []
    if editModeOn then
      let testIndex := r.decrementEditable (r.currentIndex - 1)
      if testIndex ≠ -1 then (r.assignCurrentIndex testIndex, scroll ++ [.ensureItemVisible])
      else (r, scroll)
    else (r.decrementCurrentIndex, scroll ++ [.ensureItemVisible])

/-- `scrollToNextIndex`. Unlike `scrollToPrevIndex` it compares the index with the last one for
equality, and scrolls to the end of the content instead of calling `scrollToLeft` or
`scrollToRight`. -/
def scrollToNextIndex (s : ScrollState) (editModeOn hasEvent : Bool) :
    Ribbon α × List KeyAction :=
  if r.count = 0 ∨ r.currentIndex = r.count - 1 ∨ s.autoScrolling then
    (r, (if hasEvent ∧ r.currentIndex = r.count - 1 then [.notAccepted] else [])
      ++ [.clearPostponed])
  else if s.scrollingActive then (r, [.addPostponed])
  else
    let scroll : List KeyAction :=
      if editModeOn ∧ r.indexEditable (r.currentIndex + 1) = false then [.scrollToEnd] else []
    if editModeOn then
      let testIndex := r.incrementEditable (r.currentIndex + 1)
      if testIndex ≠ -1 then (r.assignCurrentIndex testIndex, scroll ++ [.ensureItemVisible])
      else (r, scroll)
    else (r.incrementCurrentIndex, scroll ++ [.ensureItemVisible])

/-! ## The nearest editable place

The specification of the loops, and of the key presses that use them. -/

/-- `result` is the greatest editable index below `index`, or -1 if there is none. -/
inductive NearestBelow (index result : Int) : Prop where
  | found (exists_ : 0 ≤ result ∧ result < index ∧ r.indexEditable result = true)
      (between : ∀ i, result < i → i < index → r.indexEditable i = false)
  | none (minusOne : result = -1) (below : ∀ i, 0 ≤ i → i < index → r.indexEditable i = false)

/-- `result` is the least editable index above `index`, or -1 if there is none. -/
inductive NearestAbove (index result : Int) : Prop where
  | found (exists_ : index < result ∧ result < r.count ∧ r.indexEditable result = true)
      (between : ∀ i, index < i → i < result → r.indexEditable i = false)
  | none (minusOne : result = -1)
      (above : ∀ i, index < i → i < r.count → r.indexEditable i = false)

variable {r}

/-- A result that is an index at all is one below, where there is a place. -/
theorem NearestBelow.place {index result : Int} (h : r.NearestBelow index result)
    (hfound : result ≠ -1) : 0 ≤ result ∧ result < index := by
  cases h with
  | found h _ => exact ⟨h.1, h.2.1⟩
  | none h _ => exact absurd h hfound

/-- A result that is an index at all is one above, where there is a place. -/
theorem NearestAbove.place {index result : Int} (h : r.NearestAbove index result)
    (hfound : result ≠ -1) : index < result ∧ result < r.count := by
  cases h with
  | found h _ => exact ⟨h.1, h.2.1⟩
  | none h _ => exact absurd h hfound

/-- The loop stops at the first editable place, or before the first one. Everything it has passed
is not editable. By induction on the loop: an index that it passes is in none of the three
statements about the rest of the run, and is not editable by the condition of the loop. -/
theorem decrementWhile_spec (index : Int) (hindex : -1 ≤ index) :
    (-1 ≤ r.decrementWhile index ∧ r.decrementWhile index ≤ index) ∧
      (∀ i, r.decrementWhile index < i → i ≤ index → r.indexEditable i = false) ∧
      (0 ≤ r.decrementWhile index → r.indexEditable (r.decrementWhile index) = true) := by
  fun_induction decrementWhile r index with
  | case1 index hnot ih =>
    obtain ⟨hrange, hbetween, hfound⟩ := ih (by omega)
    refine ⟨by omega, fun i hlow hhigh => ?_, hfound⟩
    by_cases hi : i = index
    · rw [hi]
      exact hnot.1
    · exact hbetween i hlow (by omega)
  | case2 index hstop =>
    refine ⟨by omega, fun i hlow hhigh => by omega, fun hnonneg => ?_⟩
    by_contra hnot
    exact hstop ⟨by simpa using hnot, hnonneg⟩

/-- The loop stops at the first editable place, or behind the last one; the mirror image of
`decrementWhile_spec`. -/
theorem incrementWhile_spec (index : Int) (hindex : index ≤ r.count) :
    (index ≤ r.incrementWhile index ∧ r.incrementWhile index ≤ r.count) ∧
      (∀ i, index ≤ i → i < r.incrementWhile index → r.indexEditable i = false) ∧
      (r.incrementWhile index < r.count → r.indexEditable (r.incrementWhile index) = true) := by
  fun_induction incrementWhile r index with
  | case1 index hnot ih =>
    obtain ⟨hrange, hbetween, hfound⟩ := ih (by omega)
    refine ⟨by omega, fun i hlow hhigh => ?_, hfound⟩
    by_cases hi : i = index
    · rw [hi]
      exact hnot.1
    · exact hbetween i (by omega) hhigh
  | case2 index hstop =>
    refine ⟨by omega, fun i hlow hhigh => by omega, fun hlast => ?_⟩
    by_contra hnot
    exact hstop ⟨by simpa using hnot, by omega⟩

/-- What `scrollToPrevIndex` asks for is the nearest editable place below the current index. For
the first row it asks for the place -1 and gets -1, without a run of the loop. -/
theorem nearestBelow_decrementEditable {index : Int} (hindex : 0 ≤ index ∧ index < r.count) :
    r.NearestBelow index (r.decrementEditable (index - 1)) := by
  obtain ⟨hrange, hbetween, hfound⟩ := decrementWhile_spec (r := r) (index - 1) (by omega)
  unfold decrementEditable
  by_cases hfirst : index = 0
  · rw [if_pos (by omega)]
    exact .none rfl fun i hlow hhigh => by omega
  · rw [if_neg (by omega)]
    by_cases hnone : r.decrementWhile (index - 1) = -1
    · refine .none hnone fun i hlow hhigh => hbetween i ?_ ?_ <;> omega
    · refine .found ⟨?_, ?_, hfound ?_⟩ fun i hlow hhigh => hbetween i hlow ?_ <;> omega

/-- What `scrollToNextIndex` asks for is the nearest editable place above the current index. For
the last row it asks for the place `count` and gets -1, without a run of the loop. -/
theorem nearestAbove_incrementEditable {index : Int} (hindex : 0 ≤ index ∧ index < r.count) :
    r.NearestAbove index (r.incrementEditable (index + 1)) := by
  obtain ⟨hrange, hbetween, hfound⟩ := incrementWhile_spec (r := r) (index + 1) (by omega)
  unfold incrementEditable
  by_cases hlast : index = r.count - 1
  · rw [if_pos (by omega)]
    exact .none rfl fun i hlow hhigh => by omega
  · rw [if_neg (by omega)]
    -- the loop has run off the end, or stands at a place
    by_cases hnone : r.incrementWhile (index + 1) = r.count
    · rw [if_neg (by omega)]
      refine .none rfl fun i hlow hhigh => hbetween i ?_ ?_ <;> omega
    · rw [if_pos hnone]
      refine .found ⟨?_, ?_, hfound ?_⟩ fun i hlow hhigh => hbetween i ?_ hhigh <;> omega

/-- Where a key press goes that looks for an editable place and finds `result`. -/
def goTo (r : Ribbon α) (s : ScrollState) (result : Int) : Ribbon α :=
  if s.autoScrolling ∨ s.scrollingActive ∨ result = -1 then r
  else { r with currentIndex := result }

/-- What both functions do in edit mode with the place that they find: they return early, wait for
the ribbon to stop, or make it the current one. `early` is their first condition, which differs;
it is enough that it holds while the ribbon scrolls by itself, and otherwise only where there is
nothing to be found. -/
theorem keyPress_eq_goTo {s : ScrollState} {result : Int} {early : Prop} [Decidable early]
    (hauto : s.autoScrolling = true → early) (hearly : early → s.autoScrolling = true ∨ result = -1)
    (hresult : result ≠ -1 → 0 ≤ result ∧ result < r.count) :
    (if early then r
      else if s.scrollingActive then r
      else if result ≠ -1 then r.assignCurrentIndex result else r) = r.goTo s result := by
  unfold goTo
  split
  · rename_i h
    rcases hearly h with hscrolls | hnone
    · rw [if_pos (.inl hscrolls)]
    · rw [if_pos (.inr (.inr hnone))]
  · rename_i h
    split
    · rename_i hactive
      rw [if_pos (.inr (.inl hactive))]
    · rename_i hactive
      split
      · rename_i hfound
        have hplace := hresult hfound
        rw [assignCurrentIndex, if_neg]
        rintro (hscrolls | hscrolls | hnone)
        · exact h (hauto hscrolls)
        · exact hactive hscrolls
        · exact hfound hnone
      · rename_i hfound
        rw [if_pos (.inr (.inr (not_not.mp hfound)))]

section Keys

variable (hcurrent : 0 ≤ r.currentIndex ∧ r.currentIndex < r.count) (s : ScrollState)
  (hasEvent : Bool)

include hcurrent

/-- In edit mode a press of the key for the previous place goes to the nearest editable one below,
or nowhere. The early return of the source for `currentIndex <= 0` loses nothing, as there is no
such place for the first row. -/
theorem scrollToPrevIndex_editing :
    (r.scrollToPrevIndex s true hasEvent).1 =
      r.goTo s (r.decrementEditable (r.currentIndex - 1)) := by
  have hnearest := nearestBelow_decrementEditable hcurrent
  unfold scrollToPrevIndex
  rw [apply_ite Prod.fst, apply_ite Prod.fst]
  dsimp only
  rw [if_pos rfl, apply_ite Prod.fst]
  refine keyPress_eq_goTo (fun hscrolls => .inr (.inr hscrolls)) ?_ ?_
  · rintro (hempty | hfirst | hscrolls)
    · omega
    · -- there is no place below the first one
      refine .inr (by_contra fun hfound => ?_)
      have hplace := hnearest.place hfound
      omega
    · exact .inl hscrolls
  · intro hfound
    have hplace := hnearest.place hfound
    omega

/-- In edit mode a press of the key for the next place goes to the nearest editable one above, or
nowhere. -/
theorem scrollToNextIndex_editing :
    (r.scrollToNextIndex s true hasEvent).1 =
      r.goTo s (r.incrementEditable (r.currentIndex + 1)) := by
  have hnearest := nearestAbove_incrementEditable hcurrent
  unfold scrollToNextIndex
  rw [apply_ite Prod.fst, apply_ite Prod.fst]
  dsimp only
  rw [if_pos rfl, apply_ite Prod.fst]
  refine keyPress_eq_goTo (fun hscrolls => .inr (.inr hscrolls)) ?_ ?_
  · rintro (hempty | hlast | hscrolls)
    · omega
    · -- there is no place above the last one
      refine .inr (by_contra fun hfound => ?_)
      have hplace := hnearest.place hfound
      omega
    · exact .inl hscrolls
  · intro hfound
    have hplace := hnearest.place hfound
    omega

end Keys

/-- The calls leave the rest of the ribbon alone, so that a current index which is in range stays
so. -/
theorem calls_eq (r : Ribbon α) (cs : List EditableCall) :
    (r.calls cs).model = r.model ∧ (r.calls cs).currentIndex = r.currentIndex := by
  induction cs generalizing r with
  | nil => exact ⟨rfl, rfl⟩
  | cons c cs ih =>
    obtain ⟨hmodel, hcurrent⟩ := ih (r.call c)
    have hcall : (r.call c).model = r.model ∧ (r.call c).currentIndex = r.currentIndex := by
      cases c with
      | setIndexEditable index editable => exact ⟨rfl, rfl⟩
      | removeIndexEditable index => cases index <;> exact ⟨rfl, rfl⟩
    exact ⟨hmodel.trans hcall.1, hcurrent.trans hcall.2⟩

/-- **The nearest editable place** is found on both sides, whatever places have been made editable
or not, and a key press in edit mode goes there, unless there is none or the ribbon is scrolling.

The list of places may hold any numbers, in any order: what counts is only whether a number is in
it, so nothing needs to be known of the calls. -/
theorem nearest_editable (r : Ribbon α) (hcurrent : 0 ≤ r.currentIndex ∧ r.currentIndex < r.count)
    (cs : List EditableCall) (s : ScrollState) (hasEvent : Bool) :
    let r' := r.calls cs
    r'.NearestBelow r'.currentIndex (r'.decrementEditable (r'.currentIndex - 1)) ∧
      r'.NearestAbove r'.currentIndex (r'.incrementEditable (r'.currentIndex + 1)) ∧
      (r'.scrollToPrevIndex s true hasEvent).1 =
        r'.goTo s (r'.decrementEditable (r'.currentIndex - 1)) ∧
      (r'.scrollToNextIndex s true hasEvent).1 =
        r'.goTo s (r'.incrementEditable (r'.currentIndex + 1)) := by
  intro r'
  have hcurrent' : 0 ≤ r'.currentIndex ∧ r'.currentIndex < r'.count := by
    have hsame := calls_eq r cs
    unfold Ribbon.count at hcurrent ⊢
    rw [hsame.1, hsame.2]
    exact hcurrent
  exact ⟨nearestBelow_decrementEditable hcurrent', nearestAbove_incrementEditable hcurrent',
    scrollToPrevIndex_editing hcurrent' s hasEvent, scrollToNextIndex_editing hcurrent' s hasEvent⟩

/-- The places beyond both ends are not editable, nor is one on the way to the next one. -/
theorem nearest_editable_ends :
    let r : Ribbon Char := ⟨['a', 'b', 'c', 'd'], 1, []⟩
    let r' := r.calls [.setIndexEditable (-1) false, .setIndexEditable 4 false,
      .setIndexEditable 2 false, .setIndexEditable 0 false, .removeIndexEditable (some 0)]
    r'.NearestBelow 1 (r'.decrementEditable 0) ∧ r'.NearestAbove 1 (r'.incrementEditable 2) ∧
      (r'.scrollToPrevIndex {} true true).1 = r'.goTo {} (r'.decrementEditable 0) ∧
      (r'.scrollToNextIndex {} true true).1 = r'.goTo {} (r'.incrementEditable 2) :=
  nearest_editable ⟨['a', 'b', 'c', 'd'], 1, []⟩ (by decide) _ {} true

end Eos.Ribbon
