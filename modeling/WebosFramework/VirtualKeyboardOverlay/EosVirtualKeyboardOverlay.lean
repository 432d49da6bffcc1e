import Mathlib.Data.Rat.Floor
import WebosFramework.Include.SecureCoding
import WebosFramework.Lib.EventLoop
import WebosFramework.Qt.Rectangles
import WebosFramework.Qt.Regions

/-!
# The place of the virtual keyboard

`EosVirtualKeyboardOverlay` of `Eos/VirtualKeyboardOverlay` tells the input panel locator where the
keyboard of its target is: after each frame of its window it takes its rectangle in the scene, in
the pixels of the device, and sends it unless it is the one that it has kept.

* The rectangle in the scene, and the pixel ratio, are what they are when the callback runs, so they
  are part of the event. Coordinates are exact.
* Items and windows are known by a number. There is no callback before the overlay has had a window.
* The rectangle that is kept is not kept for a target. **`panelFollows_iff`**: after each callback
  the target has got the current rectangle, exactly when the callback with a target before that was
  for another rectangle, or the last one with this target was for the same.

What matters of an event is whether it is a callback with a target (`callback`). So the past is
the list of these callbacks, and `Follows` relates it to what has been kept and sent. The step
lemma `panelFollows_step_iff` compares the three rectangles involved.
-/

namespace Eos

open EventLoop Qt SecureCoding

variable {K : Type} [Field K] [LinearOrder K] [FloorRing K]

/-- `alignedRectOnScene`, once it has been set to the pixels of the device. -/
def alignedRectOnScene (scene : QRectF K) (pixelRatio : K) : QRect :=
  let r := scene.toAlignedRect
  .ofSize (.ofInt (truncate (r.x.toInt * pixelRatio)))
    (.ofInt (truncate (r.y.toInt * pixelRatio)))
    (.ofInt (truncate (r.width.toInt * pixelRatio)))
    (.ofInt (truncate (r.height.toInt * pixelRatio)))

/-- The members of the class. -/
structure EosVirtualKeyboardOverlay where
  activeWindow : Option Nat := none
  targetTextElement : Option Nat := none
  /-- `m_boundingRectOnScene`: what was sent last, to any target. -/
  boundingRectOnScene : QRect := .null

/-- A call to the locator. -/
structure SetInputPanelRect where
  target : Nat
  x : Int32
  y : Int32
  width : UInt32
  height : UInt32
  deriving DecidableEq

/-- The call on the locator, with the conversions of its arguments. -/
def setInputPanelRect (target : Nat) (r : QRect) : SetInputPanelRect :=
  ⟨target, r.x, r.y, int2uint r.width.toInt, int2uint r.height.toInt⟩

/-- What may happen to the overlay. -/
inductive OverlayEvent (K : Type) where
  | setTargetItem (targetTextElement : Option Nat)
  | windowChanged (window : Option Nat)
  /-- The callback for the signal `afterRendering`. -/
  | afterRendering (scene : QRectF K) (pixelRatio : K)

namespace EosVirtualKeyboardOverlay

variable (o : EosVirtualKeyboardOverlay)

/-- `setTargetItem`. The rectangle that has been kept is not forgotten. -/
def setTargetItem (targetTextElement : Option Nat) : EosVirtualKeyboardOverlay :=
  if o.targetTextElement ≠ targetTextElement then { o with targetTextElement } else o

/-- `handleWindowChanged`: a window is never taken away. -/
def handleWindowChanged (window : Option Nat) : EosVirtualKeyboardOverlay :=
  if window ≠ none ∧ window ≠ o.activeWindow then { o with activeWindow := window } else o

/-- The update with a rectangle, where there is a target. -/
def updateBoundingRect (r : QRect) : EosVirtualKeyboardOverlay × List SetInputPanelRect :=
  match o.targetTextElement with
  | some target =>
    if o.boundingRectOnScene ≠ r then
      ({ o with boundingRectOnScene := r }, [setInputPanelRect target r])
    else (o, [])
  | none => (o, [])

/-- The callback. It needs the window for the pixel ratio. -/
def updateBoundingRectOnScene (scene : QRectF K) (pixelRatio : K) :
    EosVirtualKeyboardOverlay × List SetInputPanelRect :=
  match o.activeWindow with
  | some _ => o.updateBoundingRect (alignedRectOnScene scene pixelRatio)
  | none => (o, [])

end EosVirtualKeyboardOverlay

/-- An overlay reacting to one event after the other. What it puts out are the calls on the
locator. -/
def overlay (K : Type) [Field K] [LinearOrder K] [FloorRing K] :
    Machine EosVirtualKeyboardOverlay (OverlayEvent K) SetInputPanelRect where
  handle o
    | .setTargetItem targetTextElement => (o.setTargetItem targetTextElement, [])
    | .windowChanged window => (o.handleWindowChanged window, [])
    | .afterRendering scene pixelRatio => o.updateBoundingRectOnScene scene pixelRatio

/-! ## One step

A callback with a target keeps its rectangle and sends it if it is another one. Every other event
sends nothing. -/

/-- The target and the rectangle of a callback that has a target. -/
def EosVirtualKeyboardOverlay.callback (o : EosVirtualKeyboardOverlay) :
    OverlayEvent K → Option (Nat × QRect)
  | .afterRendering scene pixelRatio =>
    if o.activeWindow.isSome then
      o.targetTextElement.map fun target => (target, alignedRectOnScene scene pixelRatio)
    else none
  | _ => none

/-- With a target the rectangle is kept in any case, and sent if it is another one. -/
theorem updateBoundingRect_some {o : EosVirtualKeyboardOverlay} {target : Nat}
    (htarget : o.targetTextElement = some target) (r : QRect) :
    o.updateBoundingRect r = ({ o with boundingRectOnScene := r },
      if o.boundingRectOnScene = r then [] else [setInputPanelRect target r]) := by
  unfold EosVirtualKeyboardOverlay.updateBoundingRect
  rw [htarget]
  dsimp only
  by_cases hsame : o.boundingRectOnScene = r
  · rw [if_neg (not_not.mpr hsame), if_pos hsame, ← hsame, ← htarget]
  · rw [if_pos hsame, if_neg hsame]

/-- The handler of a callback with a target keeps the rectangle, and sends it if it is a new one.
New means other than that of the last callback, whomever that was for. -/
theorem handle_of_callback {o : EosVirtualKeyboardOverlay} {e : OverlayEvent K} {target : Nat}
    {r : QRect} (h : o.callback e = some (target, r)) :
    (overlay K).handle o e = ({ o with boundingRectOnScene := r },
      if o.boundingRectOnScene = r then [] else [setInputPanelRect target r]) := by
  cases e with
  | setTargetItem targetTextElement => cases h
  | windowChanged window => cases h
  | afterRendering scene pixelRatio =>
    unfold EosVirtualKeyboardOverlay.callback at h
    dsimp only at h
    split at h
    · rename_i hwindow
      obtain ⟨target', htarget, hpair⟩ := Option.map_eq_some_iff.mp h
      obtain ⟨window, hwindow⟩ := Option.isSome_iff_exists.mp hwindow
      cases hpair
      show o.updateBoundingRectOnScene scene pixelRatio = _
      unfold EosVirtualKeyboardOverlay.updateBoundingRectOnScene
      split
      · exact updateBoundingRect_some htarget _
      · rename_i hnone
        cases hwindow.symm.trans hnone
    · cases h

/-- No other event sends anything, or changes the rectangle that is kept. Without a target or a
window no callback runs. -/
theorem handle_of_no_callback {o : EosVirtualKeyboardOverlay} {e : OverlayEvent K}
    (h : o.callback e = none) :
    ((overlay K).handle o e).1.boundingRectOnScene = o.boundingRectOnScene ∧
      ((overlay K).handle o e).2 = [] := by
  cases e with
  | setTargetItem targetTextElement =>
    refine ⟨?_, rfl⟩
    show (o.setTargetItem targetTextElement).boundingRectOnScene = _
    unfold EosVirtualKeyboardOverlay.setTargetItem
    split <;> rfl
  | windowChanged window =>
    refine ⟨?_, rfl⟩
    show (o.handleWindowChanged window).boundingRectOnScene = _
    unfold EosVirtualKeyboardOverlay.handleWindowChanged
    split <;> rfl
  | afterRendering scene pixelRatio =>
    show (o.updateBoundingRectOnScene scene pixelRatio).1.boundingRectOnScene = _ ∧
      (o.updateBoundingRectOnScene scene pixelRatio).2 = []
    unfold EosVirtualKeyboardOverlay.updateBoundingRectOnScene
    cases hwindow : o.activeWindow with
    | none => exact ⟨rfl, rfl⟩
    | some window =>
      have htarget : o.targetTextElement = none := by
        simpa [EosVirtualKeyboardOverlay.callback, hwindow] using h
      simp [EosVirtualKeyboardOverlay.updateBoundingRect, htarget]

/-! ## Runs

The past is the list of the callbacks with a target. -/

/-- The callbacks of a run that have a target. -/
def callbacks (es : List (OverlayEvent K)) : List (Nat × QRect) :=
  (overlay K).observe EosVirtualKeyboardOverlay.callback (.init {}) es

/-- The rectangle of the last callback, or the null one at the beginning. -/
def lastRect (cs : List (Nat × QRect)) : QRect := (cs.getLast?.map Prod.snd).getD .null

/-- The rectangle of the last callback with this target. -/
def lastFor (target : Nat) (cs : List (Nat × QRect)) : Option QRect :=
  ((cs.filter fun c => c.1 = target).getLast?).map Prod.snd

/-- What was sent to this target last. -/
def lastSent (target : Nat) (sent : List SetInputPanelRect) : Option SetInputPanelRect :=
  (sent.filter fun call => call.target = target).getLast?

section Steps

variable (h : History EosVirtualKeyboardOverlay (OverlayEvent K) SetInputPanelRect)
  (e : OverlayEvent K)

/-- What was sent last for the target of a callback is the rectangle of the callback. -/
def PanelFollows : Prop :=
  ∀ c ∈ h.state.callback e,
    lastSent c.1 ((overlay K).step h e).outputs = some (setInputPanelRect c.1 c.2)

/-- The callback before was for another rectangle, or else the last one with this target was for
the same. -/
def SeesChange : Prop :=
  ∀ c ∈ h.state.callback e, lastRect (callbacks h.inputs) = c.2 →
    (lastFor c.1 (callbacks h.inputs)).map (setInputPanelRect c.1) =
      some (setInputPanelRect c.1 c.2)

/-- What the overlay knows of the callbacks so far, and what the targets have got from them. -/
structure Follows : Prop where
  /-- The history is that of a run. -/
  reached : ((overlay K).run (.init {}) h.inputs).state = h.state
  /-- What is kept is the last rectangle, for whomever it was. -/
  kept : h.state.boundingRectOnScene = lastRect (callbacks h.inputs)
  /-- Each target was sent what its last callback has seen. -/
  sent : ∀ target, lastSent target h.outputs =
    (lastFor target (callbacks h.inputs)).map (setInputPanelRect target)

instance : Decidable (PanelFollows h e) :=
  inferInstanceAs (Decidable (∀ c ∈ h.state.callback e, _ = _))

variable {h e}

/-- A call for another target makes no difference. -/
theorem lastSent_append_other {target : Nat} {sent : List SetInputPanelRect}
    {call : SetInputPanelRect} (hother : call.target ≠ target) :
    lastSent target (sent ++ [call]) = lastSent target sent := by
  simp [lastSent, List.filter_append, hother]

/-- A call for the target is the last one. -/
theorem lastSent_concat (sent : List SetInputPanelRect) (call : SetInputPanelRect) :
    lastSent call.target (sent ++ [call]) = some call := by
  simp [lastSent, List.filter_append]

/-- A callback counts for its own target only. -/
theorem lastFor_concat (target : Nat) (cs : List (Nat × QRect)) (c : Nat × QRect) :
    lastFor target (cs ++ [c]) = if c.1 = target then some c.2 else lastFor target cs := by
  by_cases hc : c.1 = target <;> simp [lastFor, List.filter_append, hc]

/-- The list of callbacks grows by the event, if it is one. -/
theorem Follows.callbacks_step (hI : Follows h) :
    callbacks ((overlay K).step h e).inputs =
      callbacks h.inputs ++ (h.state.callback e).toList := by
  unfold callbacks
  rw [Machine.step_inputs, Machine.observe_concat, hI.reached]

/-- The step lemma. If the rectangle is the one that was kept, nothing is sent, and it depends on
the last callback with this target; otherwise the rectangle is sent. -/
theorem panelFollows_step_iff (hI : Follows h) : PanelFollows h e ↔ SeesChange h e := by
  refine forall₂_congr fun c hc => ?_
  obtain ⟨target, r⟩ := c
  rw [Machine.step_outputs, handle_of_callback hc]
  dsimp only
  by_cases hsame : h.state.boundingRectOnScene = r
  · -- nothing is sent, so it depends on what was sent before
    rw [if_pos hsame, List.append_nil, hI.sent]
    exact ⟨fun hsent _ => hsent, fun hsent => hsent (hI.kept.symm.trans hsame)⟩
  · rw [if_neg hsame]
    exact ⟨fun _ hlast => absurd (hI.kept.trans hlast) hsame, fun _ =>
      lastSent_concat h.outputs (setInputPanelRect target r)⟩

/-- The invariant goes on as long as the targets get their rectangles. A callback without a target
changes nothing, and one for a target concerns no other target. -/
theorem follows_step (hI : Follows h) (hfollows : PanelFollows h e) :
    Follows ((overlay K).step h e) := by
  have hreached : ((overlay K).run (.init {}) ((overlay K).step h e).inputs).state =
      ((overlay K).step h e).state := by
    rw [Machine.step_inputs, Machine.run_append, Machine.run_cons, Machine.run_nil,
      Machine.step_state, hI.reached]
    rfl
  cases hcallback : h.state.callback e with
  -- the event starts no callback
  | none =>
    obtain ⟨hkept, hnothing⟩ := handle_of_no_callback hcallback
    refine ⟨hreached, ?_, fun target => ?_⟩ <;>
      rw [hI.callbacks_step, hcallback, Option.toList_none, List.append_nil]
    · exact hkept.trans hI.kept
    · rw [Machine.step_outputs, hnothing, List.append_nil]
      exact hI.sent target
  -- the callback runs, and its rectangle is the last one there is
  | some c =>
    obtain ⟨target, r⟩ := c
    have hhandle := handle_of_callback hcallback
    refine ⟨hreached, ?_, fun target' => ?_⟩ <;>
      rw [hI.callbacks_step, hcallback, Option.toList_some]
    · rw [Machine.step_state, hhandle]
      simp [lastRect]
    · rw [lastFor_concat]
      -- a target that is not the one of this callback hears nothing
      by_cases htarget : target = target'
      · subst htarget
        rw [if_pos rfl]
        exact hfollows _ hcallback
      · rw [if_neg htarget, ← hI.sent, Machine.step_outputs, hhandle]
        dsimp only
        split
        · rw [List.append_nil]
        · exact lastSent_append_other htarget

end Steps

/-- **The panel follows.** In every run: after each callback with a target the last rectangle sent
for it is the current one, exactly when each of them sees a change.

What the overlay keeps is the rectangle of the last callback, whomever it was for. As long as the
panel follows, each target has got the rectangle of its own last callback. -/
theorem panelFollows_iff (es : List (OverlayEvent K)) :
    (overlay K).Admits PanelFollows (.init {}) es ↔ (overlay K).Admits SeesChange (.init {}) es :=
  Machine.admits_congr_of_step (fun _ _ hI hP => follows_step hI hP)
    (fun _ _ hI => panelFollows_step_iff hI) ⟨rfl, rfl, fun _ => rfl⟩ es

/-- The keyboard stays where it is while the target changes. -/
def changesTarget : List (OverlayEvent ℚ) :=
  [.windowChanged (some 1), .setTargetItem (some 2), .afterRendering ⟨0, 800, 1920, 280⟩ 1,
    .setTargetItem (some 3), .afterRendering ⟨0, 800, 1920, 280⟩ 1]

/-- The second target is not told where the keyboard is, since the rectangle was sent to the first
one. -/
theorem not_panelFollows_changesTarget :
    ¬ (overlay ℚ).Admits PanelFollows (.init {}) changesTarget ∧
      ((overlay ℚ).run (.init {}) changesTarget).outputs = [⟨2, 0, 800, 1920, 280⟩] := by
  decide +kernel

end Eos
