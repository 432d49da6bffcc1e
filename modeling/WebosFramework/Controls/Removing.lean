import WebosFramework.Controls.Settled

/-!
# Removing pages

`remove` of `PageStack` cuts the array off at `from`, and puts the entries after `to` behind it. It
leaves `length` and `currentPage` as they are. `clear` calls a method that no array has.

* A position is an integer, and counts from the end if it is negative. `to` may be left out.
* `remove` and `pop` are called while no incubation is pending.

**`agrees_iff_removesNothing`**: `length` and `currentPage` go on to agree with the array just in
case no call of `remove` takes anything out of it.
-/

namespace Eos

open EventLoop

/-- The first entry that `array.slice(start)` takes, unless there is none. -/
def sliceStart (length : Nat) (start : Int) : Nat :=
  (if start < 0 then length + start else start).toNat

/-- `array.length = length`, which throws for what is not a 32-bit number. -/
def setLength (array : List Entry) (length : Int) : Option (List Entry) :=
  if length < 0 ∨ 4294967296 ≤ length then none
  else some (array.take length.toNat ++
    List.replicate (length.toNat - array.length) .undefined)

/-- `from < 0 ? pageStack.length + from : from` -/
def removeFrom (length : Nat) (fromPos : Int) : Int :=
  if fromPos < 0 then length + fromPos else fromPos

/-- `(to || from) + 1 || pageStack.length` -/
def removeTo (length : Nat) (fromPos : Int) (toPos : Option Int) : Int :=
  let last := if toPos.getD 0 ≠ 0 then toPos.getD 0 else fromPos
  if last + 1 ≠ 0 then last + 1 else length

namespace PageStack

/-- `remove`: the array is cut off at `from`, and what comes after `to` is put behind it. -/
def remove (s : PageStack) (fromPos : Int) (toPos : Option Int) :
    PageStack × List PageStackOutput :=
  let rest := s.pageStack.drop
    (sliceStart s.pageStack.length (removeTo s.pageStack.length fromPos toPos))
  match setLength s.pageStack (removeFrom s.pageStack.length fromPos) with
  | none => (s, [.exception])
  | some pageStack => ({ s with pageStack := pageStack ++ rest }, [])

/-- `clear`, which throws. -/
def clear (s : PageStack) : PageStack × List PageStackOutput := (s, [.exception])

/-- A call of `remove` throws, or the rest begins where the array has been cut off. -/
def RemovesNothing (s : PageStack) (fromPos : Int) (toPos : Option Int) : Prop :=
  let length := s.pageStack.length
  let first := removeFrom length fromPos
  first < 0 ∨ 4294967296 ≤ first ∨
    first = min length (sliceStart length (removeTo length fromPos toPos))

instance (s : PageStack) (fromPos : Int) (toPos : Option Int) :
    Decidable (s.RemovesNothing fromPos toPos) :=
  inferInstanceAs (Decidable (_ ∨ _ ∨ _))

end PageStack

/-! ## The array

What `remove` does to the array is a cut. It takes nothing out exactly when the rest begins where
the cut was made. -/

section Cut

variable {array : List Entry} {first start : Nat}

/-- How long the array is afterwards. -/
theorem length_cut : (array.take first ++
    List.replicate (first - array.length) Entry.undefined ++ array.drop start).length =
      first + (array.length - start) := by
  rw [List.length_append, List.length_append, List.length_take, List.length_replicate,
    List.length_drop]
  omega

/-- Nothing is cut out if the rest begins at the cut. -/
theorem cut_eq (h : first = min array.length start) : array.take first ++
    List.replicate (first - array.length) .undefined ++ array.drop start = array := by
  have hfill : first - array.length = 0 := by omega
  rw [hfill, List.replicate_zero, List.append_nil, h]
  rcases Nat.le_total array.length start with hle | hle
  · rw [Nat.min_eq_left hle, List.take_length, List.drop_eq_nil_of_le hle, List.append_nil]
  · rw [Nat.min_eq_right hle, List.take_append_drop]

end Cut

namespace PageStack

variable {s : PageStack} {fromPos : Int} {toPos : Option Int}

/-- The call throws and changes nothing, or it cuts the array. -/
theorem remove_cases (s : PageStack) (fromPos : Int) (toPos : Option Int) :
    let length := s.pageStack.length
    let first := removeFrom length fromPos
    let start := sliceStart length (removeTo length fromPos toPos)
    (first < 0 ∨ 4294967296 ≤ first) ∧ s.remove fromPos toPos = (s, [.exception]) ∨
      (0 ≤ first ∧ first < 4294967296) ∧ s.remove fromPos toPos =
        ({ s with
          pageStack := s.pageStack.take first.toNat ++
            List.replicate (first.toNat - length) .undefined ++ s.pageStack.drop start }, []) := by
  intro length first start
  unfold PageStack.remove setLength
  by_cases hrange : first < 0 ∨ 4294967296 ≤ first
  · rw [if_pos hrange]
    exact .inl ⟨hrange, rfl⟩
  · rw [if_neg hrange]
    exact .inr ⟨by omega, rfl⟩

/-- Such a call leaves the stack as it is. -/
theorem remove_of_removesNothing (h : s.RemovesNothing fromPos toPos) :
    (s.remove fromPos toPos).1 = s := by
  rcases s.remove_cases fromPos toPos with ⟨-, hremove⟩ | ⟨hfirst, hremove⟩
  · rw [hremove]
  · have hcut : (removeFrom s.pageStack.length fromPos).toNat = min s.pageStack.length
        (sliceStart s.pageStack.length (removeTo s.pageStack.length fromPos toPos)) := by
      unfold RemovesNothing at h
      dsimp only at h
      omega
    rw [hremove]
    dsimp only
    rw [cut_eq hcut]

/-- A call that takes something out, or fills something in, leaves `length` behind. -/
theorem removesNothing_of_agrees (h : s.Agrees) (h' : (s.remove fromPos toPos).1.Agrees) :
    s.RemovesNothing fromPos toPos := by
  rcases s.remove_cases fromPos toPos with ⟨hrange, -⟩ | ⟨hfirst, hremove⟩
  · exact or_assoc.mp (.inl hrange)
  · have hlength := h'.1
    rw [hremove] at hlength
    have hsame := h.1.symm.trans (hlength.trans length_cut)
    refine .inr (.inr ?_)
    omega

end PageStack

/-! ## Runs

Removing changes neither `length` nor `currentPage`, so the three only agree after calls that take
nothing out. -/

/-- What may happen to the stack, with the calls of `remove` and `clear`. -/
inductive RemovingEvent where
  | stack (e : PageStackEvent)
  | remove (fromPos : Int) (toPos : Option Int)
  | clear
  deriving DecidableEq

/-- The stack reacting to one event after the other. -/
def removingStack : Machine PageStack RemovingEvent PageStackOutput where
  handle s
    | .stack e => pageStackMachine.handle s e
    | .remove fromPos toPos => s.remove fromPos toPos
    | .clear => s.clear

/-- A stack, the events so far, and what it has done. -/
abbrev RemovingHistory := History PageStack RemovingEvent PageStackOutput

/-- Pages are popped and removed only while nothing is pending, and all failures are clean. -/
def RemovesWhenSettled (h : RemovingHistory) : RemovingEvent → Prop
  | .stack e => PopsWhenSettled (.init h.state) e ∧ FailuresAreClean (.init h.state) e
  | .remove _ _ => h.state.Settled
  | .clear => True

instance (h : RemovingHistory) (e : RemovingEvent) : Decidable (RemovesWhenSettled h e) := by
  cases e <;> unfold RemovesWhenSettled <;> infer_instance

/-- If the event is a call of `remove`, it takes nothing out of the array. -/
def TakesNothingOut (h : RemovingHistory) (e : RemovingEvent) : Prop :=
  match e with
  | .remove fromPos toPos => h.state.RemovesNothing fromPos toPos
  | _ => True

instance (h : RemovingHistory) (e : RemovingEvent) : Decidable (TakesNothingOut h e) := by
  cases e <;> unfold TakesNothingOut <;> infer_instance

/-- The events of the other modules keep what is known of the stack. -/
theorem tracks_step {s : PageStack} (ht : s.Tracks) {e : PageStackEvent}
    (hpop : PopsWhenSettled (.init s) e) (hclean : FailuresAreClean (.init s) e) :
    (pageStackMachine.handle s e).1.Tracks := by
  cases e with
  | push pageUrl component incubation => exact ht.push pageUrl component hclean
  | statusChanged id status => exact ht.statusChanged id status hclean
  | pop => exact ht.pop (hpop rfl)
  | stopped n => exact ht.stopped n

/-- Removing starts no incubation. -/
theorem settled_remove {s : PageStack} (hs : s.Settled) (fromPos : Int) (toPos : Option Int) :
    (s.remove fromPos toPos).1.Settled := by
  rcases s.remove_cases fromPos toPos with ⟨-, hremove⟩ | ⟨-, hremove⟩
  · rw [hremove]
    exact hs
  · rw [hremove]
    exact hs

/-- **Removing pages.** In every run in which pages are popped and removed only while no incubation
is pending, and failures are clean: whenever none is pending, `length` and `currentPage` agree with
the array, exactly if no call of `remove` takes anything out of it.

A call of `remove` that takes nothing out leaves the stack alone. One that does changes the array,
but neither `length` nor `currentPage`, so they cannot agree afterwards. -/
theorem agrees_iff_removesNothing (delegate : PageStackDelegate) (es : List RemovingEvent)
    (hes : removingStack.Admits RemovesWhenSettled (.init { delegate }) es) :
    removingStack.Always (fun h => h.state.Settled → h.state.Agrees) (.init { delegate }) es ↔
      removingStack.Admits TakesNothingOut (.init { delegate }) es := by
  refine Machine.always_iff_admits_of_step (I := fun h => h.state.Tracks)
    (fun h ht hs => ht.agrees hs) ?_ ?_ (PageStack.tracks_init delegate) hes
  · intro h e ht he htakes
    cases e with
    | stack e => exact tracks_step ht he.1 he.2
    | remove fromPos toPos =>
      show (h.state.remove fromPos toPos).1.Tracks
      rw [PageStack.remove_of_removesNothing htakes]
      exact ht
    | clear => exact ht
  · intro h e ht he hagrees
    cases e with
    | stack e => trivial
    | remove fromPos toPos =>
      exact PageStack.removesNothing_of_agrees (ht.agrees he)
        (hagrees (settled_remove he fromPos toPos))
    | clear => trivial

/-- Two pages, of which the one on top is removed. -/
def topRemoved : List RemovingEvent :=
  [.stack (.push "first.qml" {} .ready), .stack (.push "second.qml" {} .ready),
    .remove (-1) none]

/-- The page on top is removed, and is still the current one. -/
theorem agrees_iff_removesNothing_topRemoved :
    ¬ removingStack.Always (fun h => h.state.Settled → h.state.Agrees) (.init {}) topRemoved :=
  fun hall => absurd ((agrees_iff_removesNothing {} topRemoved (by decide)).mp hall) (by decide)

end Eos
