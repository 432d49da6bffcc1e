import WebosFramework.Lib.EventLoop

/-!
# Clients of a surface group

`Eos/SurfaceGroup/eossurfacegroupclient.cpp` attaches the surface of a window to a group when the
window becomes visible, and detaches it when the window is hidden. It asks the compositor for the
group each time it is told that the window is visible, whether the surface is attached or not.

* The compositor answers as it likes: a group, another one or none. It may be missing.
* `componentComplete` may be called while the window is visible, as may `handleWindowVisibility`.
* A call on a null pointer is the call of `none`. Log messages and the focus are left out.

**`paired_iff`**: attaching and detaching are paired, just in case every answer that comes while the
surface is attached is a group, and the last one before the surface is detached is the group that it
is attached to.

What a notification may do is listed in `Notified`, once for both slots; a setter changes nothing
that matters here (`SameSurface`). Each of the two has one lemma about `Aware` and one about
`Proper`, and the steps are put together from them.
-/

namespace Eos

open EventLoop

variable {Window Group : Type}

/-- The members of the class. A null pointer is `none`. -/
structure SurfaceGroupClient (Window Group : Type) where
  webOSWindow : Option Window := none
  groupName : String := ""
  layerName : String := ""
  surfaceGroup : Option Group := none
  /-- `m_attached`: an attach has been sent, and no detach since. -/
  attached : Bool := false

/-- The calls on the group. The last one may be made on a null pointer. -/
inductive GroupCall (Window Group : Type) where
  | attachAnonymousSurface (group : Group) (window : Window)
  | attachSurface (group : Group) (window : Window) (layerName : String)
  | detachSurface (group : Option Group) (window : Window)
  deriving DecidableEq

/-- What a handler sees: `isVisible` of the window, and the answer of `getGroup` if there is a
compositor. -/
structure Surroundings (Group : Type) where
  visible : Bool
  compositor : Option (Option Group)

namespace SurfaceGroupClient

/-- The surface is attached to the layer by its name, or anonymously if no name has been set. -/
def attachCall (c : SurfaceGroupClient Window Group) (group : Group) (window : Window) :
    GroupCall Window Group :=
  if c.layerName = "" then .attachAnonymousSurface group window
  else .attachSurface group window c.layerName

/-- The slot `handleWindowVisibility`. The group is asked for each time, and the answer is kept
even if nothing is attached by it. -/
def handleWindowVisibility (c : SurfaceGroupClient Window Group) (s : Surroundings Group) :
    SurfaceGroupClient Window Group × List (GroupCall Window Group) :=
  match c.webOSWindow with
  | none => (c, [])
  | some window =>
    if s.visible then
      match s.compositor with
      | none => (c, [])
      | some answer =>
        if c.groupName = "" then (c, [])
        else
          match answer with
          | some group =>
            if c.attached then ({ c with surfaceGroup := some group }, [])
            else
              ({ c with surfaceGroup := some group, attached := true },
                [c.attachCall group window])
          | none => ({ c with surfaceGroup := none }, [])
    else if c.attached then
      ({ c with attached := false }, [.detachSurface c.surfaceGroup window])
    else (c, [])

/-- `componentComplete`: the window and the name of the group are needed. -/
def componentComplete (c : SurfaceGroupClient Window Group) (s : Surroundings Group) :
    SurfaceGroupClient Window Group × List (GroupCall Window Group) :=
  if c.webOSWindow.isNone then (c, [])
  else if c.groupName = "" then (c, [])
  else c.handleWindowVisibility s

/-- `nullptr` is ignored, and so is another window. -/
def setWebOSWindow (c : SurfaceGroupClient Window Group) (webOSWindow : Option Window) :
    SurfaceGroupClient Window Group :=
  if c.webOSWindow.isNone ∧ webOSWindow.isSome then { c with webOSWindow } else c

/-- `setGroupName`: the name is set once, and not to the empty one. -/
def setGroupName (c : SurfaceGroupClient Window Group) (groupName : String) :
    SurfaceGroupClient Window Group :=
  if c.groupName = "" ∧ groupName ≠ "" then { c with groupName } else c

/-- `setLayerName`, likewise. -/
def setLayerName (c : SurfaceGroupClient Window Group) (layerName : String) :
    SurfaceGroupClient Window Group :=
  if c.layerName = "" ∧ layerName ≠ "" then { c with layerName } else c

end SurfaceGroupClient

/-- The slots and setters of the client, each with what it is told by its surroundings. -/
inductive ClientEvent (Window Group : Type) where
  | handleWindowVisibility (s : Surroundings Group)
  | componentComplete (s : Surroundings Group)
  | setWebOSWindow (webOSWindow : Option Window)
  | setGroupName (groupName : String)
  | setLayerName (layerName : String)

/-- A client reacting to one event after the other. What it puts out are the calls on the group. -/
def surfaceGroupClient (Window Group : Type) :
    Machine (SurfaceGroupClient Window Group) (ClientEvent Window Group)
      (GroupCall Window Group) where
  handle c
    | .handleWindowVisibility s => c.handleWindowVisibility s
    | .componentComplete s => c.componentComplete s
    | .setWebOSWindow webOSWindow => (c.setWebOSWindow webOSWindow, [])
    | .setGroupName groupName => (c.setGroupName groupName, [])
    | .setLayerName layerName => (c.setLayerName layerName, [])

/-- A client with its past. -/
abbrev ClientHistory (Window Group : Type) :=
  History (SurfaceGroupClient Window Group) (ClientEvent Window Group) (GroupCall Window Group)

/-! ## Pairing

An attach to a group, a detach from the same group, and so on. `Notified` lists what a
notification may add to this. -/

/-- The group that a call attaches to, if it attaches. -/
def GroupCall.attached? : GroupCall Window Group → Option Group
  | .attachAnonymousSurface group _ | .attachSurface group _ _ => some group
  | .detachSurface _ _ => none

/-- The calls alternate, and each group is detached that has been attached before. After them the
surface is attached to the last group, if there is one. -/
inductive Paired : List (GroupCall Window Group) → Option Group → Prop
  /-- Nothing has been called. -/
  | nil : Paired [] none
  /-- A surface that is not attached is attached to a group. -/
  | attach {calls : List (GroupCall Window Group)} {call : GroupCall Window Group} {group : Group}
      (before : Paired calls none) (attaches : call.attached? = some group) :
      Paired (calls ++ [call]) (some group)
  /-- A surface that is attached is detached from the same group, and not from a null pointer. -/
  | detach {calls : List (GroupCall Window Group)} {group : Group} (window : Window)
      (before : Paired calls (some group)) :
      Paired (calls ++ [.detachSurface (some group) window]) none

/-- The group that the last call has attached the surface to. -/
def attachedTo (calls : List (GroupCall Window Group)) : Option Group :=
  calls.getLast?.bind (·.attached?)

/-- The last call decides. -/
theorem attachedTo_append (calls : List (GroupCall Window Group)) (call : GroupCall Window Group) :
    attachedTo (calls ++ [call]) = call.attached? := by
  unfold attachedTo
  rw [List.getLast?_concat]
  rfl

/-- Calls that are paired are so with the group that the last call attaches to. -/
theorem Paired.eq_attachedTo {calls : List (GroupCall Window Group)} {group : Option Group}
    (h : Paired calls group) : group = attachedTo calls := by
  cases h with
  | nil => rfl
  | attach before attaches => rw [attachedTo_append, attaches]
  | detach window before => rw [attachedTo_append]; rfl

/-- Only the group that the surface is attached to can be detached. -/
theorem Paired.of_detach {calls : List (GroupCall Window Group)} {detached group : Option Group}
    {window : Window} (h : Paired (calls ++ [.detachSurface detached window]) group) :
    detached.isSome = true ∧ Paired calls detached := by
  generalize hcalls : calls ++ [.detachSurface detached window] = all at h
  cases h with
  | nil => simp at hcalls
  | attach before attaches =>
    have hlast := (List.append_inj' hcalls rfl).2
    rw [← List.singleton_inj.mp hlast] at attaches
    cases attaches
  | detach window' before =>
    obtain ⟨rfl, hlast⟩ := List.append_inj' hcalls rfl
    cases hlast
    exact ⟨rfl, before⟩

/-- The calls so far are paired, and a surface that is attached has a group. -/
structure Proper (h : ClientHistory Window Group) : Prop where
  /-- All calls so far are paired. -/
  paired : ∃ group, Paired h.outputs group
  /-- While the surface is attached there is a group to call for the detaching. -/
  hasGroup : h.state.attached = true → h.state.surfaceGroup ≠ none

namespace SurfaceGroupClient

/-- The answer that the client gets if it asks, which it does for a window that is visible. -/
def answer? (c : SurfaceGroupClient Window Group) (s : Surroundings Group) :
    Option (Option Group) :=
  if s.visible ∧ c.webOSWindow.isSome ∧ c.groupName ≠ "" then s.compositor else none

/-- An attached surface has a window, and the name of a group. -/
def Ready (c : SurfaceGroupClient Window Group) : Prop :=
  c.attached = true → c.webOSWindow.isSome = true ∧ c.groupName ≠ ""

variable {c : SurfaceGroupClient Window Group} {s : Surroundings Group}

/-- What a notification does. -/
inductive Notified (c : SurfaceGroupClient Window Group) (s : Surroundings Group) :
    SurfaceGroupClient Window Group × List (GroupCall Window Group) → Prop
  /-- The first answer with a group attaches. -/
  | attaches {group : Group} {call : GroupCall Window Group}
      (answer : c.answer? s = some (some group)) (detached : c.attached = false)
      (ready : c.webOSWindow.isSome = true ∧ c.groupName ≠ "")
      (attached : call.attached? = some group) :
      Notified c s ({ c with surfaceGroup := some group, attached := true }, [call])
  /-- While the surface is attached the group is only kept. -/
  | asks {group : Group} (answer : c.answer? s = some (some group))
      (attached : c.attached = true) :
      Notified c s ({ c with surfaceGroup := some group }, [])
  /-- There is no such group, and the one that was kept is forgotten. -/
  | loses (answer : c.answer? s = some none) :
      Notified c s ({ c with surfaceGroup := none }, [])
  /-- The window is hidden. -/
  | detaches (window : Window) (hidden : s.visible = false) (attached : c.attached = true) :
      Notified c s
        ({ c with attached := false }, [.detachSurface c.surfaceGroup window])
  /-- Nobody was asked, and there is nothing to detach. -/
  | ignores (silent : c.answer? s = none) (stays : s.visible = true ∨ c.attached = false) :
      Notified c s (c, [])

/-- Either way the call is for the group that was found. -/
theorem attached?_attachCall (c : SurfaceGroupClient Window Group) (group : Group)
    (window : Window) : (c.attachCall group window).attached? = some group := by
  unfold attachCall
  split <;> rfl

/-- The slot does one of these five things. The first test that fails ends the slot, so the cases
are those of its nested conditions. -/
theorem Notified.handleWindowVisibility (hready : c.Ready) :
    Notified c s (c.handleWindowVisibility s) := by
  unfold SurfaceGroupClient.handleWindowVisibility
  split
  · -- there is no window: a client that is attached would have one
    rename_i hwindow
    have hdetached : c.attached = false := by
      by_contra hattached
      simpa [hwindow] using (hready (by simpa using hattached)).1
    exact .ignores (by simp [answer?, hwindow]) (.inr hdetached)
  · rename_i window hwindow
    split
    · -- the window is shown
      rename_i hvisible
      split
      · -- without a compositor there is nobody to ask
        rename_i hcompositor
        exact .ignores (by simp [answer?, hcompositor]) (.inl hvisible)
      · rename_i answer hcompositor
        split
        · -- without a name there is nothing to ask for
          rename_i hname
          exact .ignores (by simp [answer?, hname]) (.inl hvisible)
        · rename_i hname
          have hwindow' : c.webOSWindow.isSome = true := by simp [hwindow]
          have hanswer : c.answer? s = some answer := by
            simp [answer?, hvisible, hwindow', hname, hcompositor]
          split
          · -- the compositor knows the group
            rename_i group
            split
            · rename_i hattached
              exact .asks hanswer hattached
            · rename_i hdetached
              exact .attaches hanswer (by simpa using hdetached) ⟨hwindow', hname⟩
                (c.attached?_attachCall group window)
          · -- the compositor knows no such group
            exact .loses hanswer
    · -- the window is hidden
      rename_i hhidden
      have hsilent : c.answer? s = none := by simp [answer?, hhidden]
      split
      · rename_i hattached
        exact .detaches window (by simpa using hhidden) hattached
      · rename_i hdetached
        exact .ignores hsilent (.inr (by simpa using hdetached))

/-- `componentComplete` is one more notification. -/
theorem Notified.componentComplete (hready : c.Ready) : Notified c s (c.componentComplete s) := by
  have hsilent : ¬ (c.webOSWindow.isSome = true ∧ c.groupName ≠ "") → Notified c s (c, []) := by
    intro hunset
    refine .ignores (if_neg fun h => hunset h.2) (.inr ?_)
    by_contra hattached
    exact hunset (hready (by simpa using hattached))
  unfold SurfaceGroupClient.componentComplete
  split
  · rename_i hwindow
    exact hsilent (by simp [Option.isNone_iff_eq_none.mp hwindow])
  · split
    · rename_i hname
      exact hsilent (by simp [hname])
    · exact .handleWindowVisibility hready

/-- `c'` is as attached as `c` is. -/
structure SameSurface (c c' : SurfaceGroupClient Window Group) : Prop where
  /-- The surface stays attached, or does not. -/
  attached : c'.attached = c.attached
  /-- The group that was kept is still kept. -/
  surfaceGroup : c'.surfaceGroup = c.surfaceGroup
  /-- What is needed to be attached is not taken away. -/
  ready : c.Ready → c'.Ready

/-- The window is set once. -/
theorem SameSurface.setWebOSWindow (c : SurfaceGroupClient Window Group)
    (webOSWindow : Option Window) : c.SameSurface (c.setWebOSWindow webOSWindow) := by
  unfold SurfaceGroupClient.setWebOSWindow
  split
  · rename_i hset
    exact ⟨rfl, rfl, fun hready hattached => ⟨hset.2, (hready hattached).2⟩⟩
  · exact ⟨rfl, rfl, id⟩

/-- The name of a group that is there is not changed. -/
theorem SameSurface.setGroupName (c : SurfaceGroupClient Window Group) (groupName : String) :
    c.SameSurface (c.setGroupName groupName) := by
  unfold SurfaceGroupClient.setGroupName
  split
  · rename_i hset
    exact ⟨rfl, rfl, fun hready hattached => ⟨(hready hattached).1, hset.2⟩⟩
  · exact ⟨rfl, rfl, id⟩

/-- The name of the layer has nothing to do with it. -/
theorem SameSurface.setLayerName (c : SurfaceGroupClient Window Group) (layerName : String) :
    c.SameSurface (c.setLayerName layerName) := by
  unfold SurfaceGroupClient.setLayerName
  split
  · exact ⟨rfl, rfl, id⟩
  · exact ⟨rfl, rfl, id⟩

end SurfaceGroupClient

/-! ## When they are paired

The condition is on the answers that the compositor gives while the surface is attached. There is
one lemma about notifications and one about setters. -/

/-- While the surface is attached the compositor answers with a group, and the group that the client
knows is the one that is detached. -/
def Keeps (h : ClientHistory Window Group) (s : Surroundings Group) : Prop :=
  h.state.attached = true → h.state.answer? s ≠ some none ∧
    (s.visible = false → h.state.surfaceGroup = attachedTo h.outputs)

/-- The condition on one event. A setter always meets it. -/
def KeepsGroup (h : ClientHistory Window Group) : ClientEvent Window Group → Prop
  | .handleWindowVisibility s | .componentComplete s => Keeps h s
  | .setWebOSWindow _ | .setGroupName _ | .setLayerName _ => True

instance [DecidableEq Group] (h : ClientHistory Window Group) (s : Surroundings Group) :
    Decidable (Keeps h s) :=
  inferInstanceAs (Decidable (_ → _ ∧ (_ → _)))

instance [DecidableEq Group] (h : ClientHistory Window Group) :
    ∀ event, Decidable (KeepsGroup h event)
  | .handleWindowVisibility s | .componentComplete s => inferInstanceAs (Decidable (Keeps h s))
  | .setWebOSWindow _ | .setGroupName _ | .setLayerName _ => .isTrue trivial

/-- What the client knows about the surface, whatever the answers are. -/
structure Aware (h : ClientHistory Window Group) : Prop where
  /-- An attached client has a window and the name of a group. -/
  ready : h.state.Ready
  /-- The flag tells whether the last call was an attach. -/
  attached : h.state.attached = (attachedTo h.outputs).isSome

section Steps

variable {h : ClientHistory Window Group} {s : Surroundings Group}
  {result : SurfaceGroupClient Window Group × List (GroupCall Window Group)}

/-- The state after some code has run. -/
def after (h : ClientHistory Window Group) (inputs : List (ClientEvent Window Group))
    (result : SurfaceGroupClient Window Group × List (GroupCall Window Group)) :
    ClientHistory Window Group := ⟨result.1, inputs, h.outputs ++ result.2⟩

/-- A notification keeps the flag in step with the calls. -/
theorem aware_notified (haware : Aware h) (inputs : List (ClientEvent Window Group))
    (hnotified : h.state.Notified s result) : Aware (after h inputs result) := by
  have hsilent : h.state.attached = (attachedTo (h.outputs ++ [])).isSome := by
    rw [List.append_nil, haware.attached]
  cases hnotified with
  | attaches answer detached ready attached =>
    refine ⟨fun _ => ready, ?_⟩
    show true = (attachedTo (h.outputs ++ [_])).isSome
    rw [attachedTo_append, attached]
    rfl
  | asks answer attached => exact ⟨haware.ready, hsilent⟩
  | loses answer => exact ⟨haware.ready, hsilent⟩
  | detaches window hidden attached =>
    refine ⟨(fun hattached => by cases hattached), ?_⟩
    show false = (attachedTo (h.outputs ++ [_])).isSome
    rw [attachedTo_append]
    rfl
  | ignores silent stays => exact ⟨haware.ready, hsilent⟩

/-- The step lemma: the calls stay paired just in case the step keeps the group. A case for each
thing that the slot can do, of which two can go wrong. -/
theorem proper_notified_iff (haware : Aware h) (hproper : Proper h)
    (inputs : List (ClientEvent Window Group)) (hnotified : h.state.Notified s result) :
    Proper (after h inputs result) ↔ Keeps h s := by
  obtain ⟨group, hpaired⟩ := hproper.paired
  obtain rfl := hpaired.eq_attachedTo
  have hsame : Paired (h.outputs ++ []) (attachedTo h.outputs) := by rwa [List.append_nil]
  cases hnotified with
  -- the group is looked up and joined for the first time
  | attaches answer detached ready attached =>
    have hnone : attachedTo h.outputs = none := by
      simpa [detached] using haware.attached
    rw [hnone] at hpaired
    refine iff_of_true ⟨⟨_, .attach hpaired attached⟩, fun _ => Option.some_ne_none _⟩ ?_
    intro hattached
    rw [detached] at hattached
    cases hattached
  -- the group is looked up again while the window is in one
  | asks answer attached =>
    refine iff_of_true ⟨⟨_, hsame⟩, fun _ => Option.some_ne_none _⟩ fun _ => ⟨?_, ?_⟩
    · simp [answer]
    · intro hhidden
      simp [SurfaceGroupClient.answer?, hhidden] at answer
  -- the look-up fails: whoever was in a group has lost the way to leave it
  | loses answer =>
    by_cases hattached : h.state.attached = true
    · exact iff_of_false (fun hproper' => hproper'.hasGroup hattached rfl)
        fun hkeeps => (hkeeps hattached).1 answer
    · exact iff_of_true ⟨⟨_, hsame⟩, fun hattached' => absurd hattached' hattached⟩
        fun hattached' => absurd hattached' hattached
  -- the window leaves the group that is kept now, which should be the one it joined
  | detaches window hidden attached =>
    have hsilent : h.state.answer? s ≠ some none := by
      simp [SurfaceGroupClient.answer?, hidden]
    obtain ⟨group, hgroup⟩ := Option.isSome_iff_exists.mp (haware.attached.symm.trans attached)
    constructor
    · intro h' _
      obtain ⟨group', hpaired'⟩ := h'.paired
      exact ⟨hsilent, fun _ => hpaired'.of_detach.2.eq_attachedTo⟩
    · intro hkeeps
      have hheld := (hkeeps attached).2 hidden
      refine ⟨⟨none, ?_⟩, (fun hattached => by cases hattached)⟩
      show Paired (h.outputs ++ [.detachSurface h.state.surfaceGroup window]) none
      rw [hheld, hgroup]
      rw [hgroup] at hpaired
      exact .detach window hpaired
  -- nothing is asked, and nothing changes
  | ignores silent stays =>
    refine iff_of_true ⟨⟨_, hsame⟩, hproper.hasGroup⟩ fun hattached => ⟨?_, fun hhidden => ?_⟩
    · simp [silent]
    · rcases stays with hvisible | hdetached
      · rw [hhidden] at hvisible
        cases hvisible
      · rw [hattached] at hdetached
        cases hdetached

/-- A setter leaves the surface alone. -/
theorem aware_sameSurface (haware : Aware h) (inputs : List (ClientEvent Window Group))
    {c : SurfaceGroupClient Window Group} (hsame : h.state.SameSurface c) :
    Aware (after h inputs (c, [])) := by
  refine ⟨hsame.ready haware.ready, ?_⟩
  show c.attached = (attachedTo (h.outputs ++ [])).isSome
  rw [List.append_nil, hsame.attached, haware.attached]

/-- A setter leaves the calls paired. -/
theorem proper_sameSurface (hproper : Proper h) (inputs : List (ClientEvent Window Group))
    {c : SurfaceGroupClient Window Group} (hsame : h.state.SameSurface c) :
    Proper (after h inputs (c, [])) := by
  obtain ⟨group, hpaired⟩ := hproper.paired
  refine ⟨⟨group, ?_⟩, fun hattached => ?_⟩
  · show Paired (h.outputs ++ []) group
    rwa [List.append_nil]
  · have hattached' : h.state.attached = true := hsame.attached.symm.trans hattached
    show c.surfaceGroup ≠ none
    rw [hsame.surfaceGroup]
    exact hproper.hasGroup hattached'

end Steps

variable {h : ClientHistory Window Group}

/-- Whatever happens, the client knows whether it is attached. -/
theorem aware_step (haware : Aware h) (event : ClientEvent Window Group) :
    Aware ((surfaceGroupClient Window Group).step h event) := by
  cases event with
  | handleWindowVisibility s =>
    exact aware_notified haware _ (.handleWindowVisibility haware.ready)
  | componentComplete s => exact aware_notified haware _ (.componentComplete haware.ready)
  | setWebOSWindow webOSWindow => exact aware_sameSurface haware _ (.setWebOSWindow _ _)
  | setGroupName groupName => exact aware_sameSurface haware _ (.setGroupName _ _)
  | setLayerName layerName => exact aware_sameSurface haware _ (.setLayerName _ _)

/-- The step lemma: the calls stay paired, just in case the event meets its condition. It is put
together from the lemmas about notifications and setters. -/
theorem proper_step_iff (haware : Aware h) (hproper : Proper h)
    (event : ClientEvent Window Group) :
    Proper ((surfaceGroupClient Window Group).step h event) ↔ KeepsGroup h event := by
  cases event with
  | handleWindowVisibility s =>
    exact proper_notified_iff haware hproper _ (.handleWindowVisibility haware.ready)
  | componentComplete s =>
    exact proper_notified_iff haware hproper _ (.componentComplete haware.ready)
  | setWebOSWindow webOSWindow =>
    exact iff_of_true (proper_sameSurface hproper _ (.setWebOSWindow _ _)) trivial
  | setGroupName groupName =>
    exact iff_of_true (proper_sameSurface hproper _ (.setGroupName _ _)) trivial
  | setLayerName layerName =>
    exact iff_of_true (proper_sameSurface hproper _ (.setLayerName _ _)) trivial

/-- **Paired calls.** In every run of a client that has not been attached yet, attaching and
detaching are paired and an attached surface has a group, just in case each step of the run keeps
the group.

By `Machine.always_iff_admits` with `Aware`: the client knows whether it has attached, though not
always to which group. -/
theorem paired_iff (c : SurfaceGroupClient Window Group) (hdetached : c.attached = false)
    (es : List (ClientEvent Window Group)) :
    (surfaceGroupClient Window Group).Always Proper (.init c) es ↔
      (surfaceGroupClient Window Group).Admits KeepsGroup (.init c) es := by
  have hnot : c.attached ≠ true := by simp [hdetached]
  have haware : Aware (.init c : ClientHistory Window Group) :=
    ⟨fun hattached => absurd hattached hnot, hdetached⟩
  have hproper : Proper (.init c : ClientHistory Window Group) :=
    ⟨⟨none, .nil⟩, fun hattached => absurd hattached hnot⟩
  exact Machine.always_iff_admits (I := Aware) (P := Proper) (C := KeepsGroup)
    (E := fun _ _ => True) (fun _ event h _ => aware_step h event)
    (fun _ event haware hproper _ => proper_step_iff haware hproper event) haware hproper
    (Machine.admits_true _ _ es)

/-- The surface is attached to one group, and when it is visible again to another one. -/
theorem paired_iff_twice :
    (surfaceGroupClient Nat Char).Always Proper
      (.init { webOSWindow := some 1, groupName := "group", layerName := "layer" })
      [.handleWindowVisibility ⟨true, some (some 'a')⟩, .componentComplete ⟨true, some (some 'a')⟩,
        .handleWindowVisibility ⟨false, none⟩, .handleWindowVisibility ⟨true, some none⟩,
        .handleWindowVisibility ⟨true, some (some 'b')⟩, .handleWindowVisibility ⟨false, none⟩] :=
  (paired_iff _ rfl _).mpr (by decide)

/-- The window is visible before the component is complete, and the compositor answers with another
group the second time. That group is the one the surface is detached from. -/
theorem paired_counterexample :
    ¬ ∀ es : List (ClientEvent Nat Char), (surfaceGroupClient Nat Char).Always Proper
      (.init { webOSWindow := some 1, groupName := "group" }) es := by
  intro hall
  obtain ⟨group, hpaired⟩ := (hall [.handleWindowVisibility ⟨true, some (some 'a')⟩,
    .componentComplete ⟨true, some (some 'b')⟩, .handleWindowVisibility ⟨false, none⟩]).last.paired
  have hdetached :
      Paired ([.attachAnonymousSurface 'a' 1] ++ [.detachSurface (some 'b') 1]) group := hpaired
  have hattached := hdetached.of_detach.2.eq_attachedTo
  revert hattached
  decide

end Eos
