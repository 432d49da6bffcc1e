import Mathlib.Logic.Function.Basic
import WebosFramework.Lib.EventLoop

/-!
# Exclusive groups

`ExclusiveGroup` and `CheckableItem` of `Eos/Controls`. When an item is put into a group, the group
adds it to its list and connects itself to its signal `toggled`. A group that hears of an item that
has been activated unchecks all others in its list.

* Items and groups are known by a number. Each group has a list of its own, as the script that
  declares it is not a library.
* An item can be moved to another group, but `unbindCheckable` does nothing. So the old group keeps
  the item in its list, and still listens to it.
* **`exclusive_iff`**: an activation unchecks the others of the group and nobody else, exactly when
  no checked item of another group has ever shared a group with the activated one.

Activating an item changes which items are checked and which one is current, never who is bound to
whom (`SameBindings`); `Adjusts` is all that it changes, and it composes along the lists. So the
bindings of a run are those of the assignments alone (`Bound`).
-/

namespace Eos

open EventLoop

/-- What an item knows of itself and of its group. -/
structure CheckableItem where
  checked : Bool := false
  exclusiveGroup : Option Nat := none
  /-- The groups that are connected to the signal, in the order of their connections. -/
  toggled : List Nat := []

/-- A group: the item that was activated last, and the items that were put into it. -/
structure ExclusiveGroup where
  current : Option Nat := none
  itemArray : List Nat := []

/-- All items and all groups. -/
structure Checkables where
  items : Nat → CheckableItem := fun _ => {}
  groups : Nat → ExclusiveGroup := fun _ => {}

/-- The keys that an item is activated by, and the others. -/
inductive Key where
  | keyEnter
  | keyReturn
  | other

/-- What may happen: an item is put into a group or taken out of one, is checked by somebody else,
or is activated. -/
inductive CheckableEvent where
  | setExclusiveGroup (item : Nat) (exclusiveGroup : Option Nat)
  | setChecked (item : Nat) (checked : Bool)
  | mouseReleased (item : Nat)
  | keyReleased (item : Nat) (key : Key)

namespace Checkables

variable (s : Checkables)

/-- One item changes. -/
def setItem (item : Nat) (c : CheckableItem) : Checkables :=
  { s with items := Function.update s.items item c }

/-- One group changes. -/
def setGroup (group : Nat) (g : ExclusiveGroup) : Checkables :=
  { s with groups := Function.update s.groups group g }

/-- The other items stay as they are. -/
theorem items_setItem (item item' : Nat) (c : CheckableItem) :
    (s.setItem item c).items item' = if item' = item then c else s.items item' :=
  Function.update_apply ..

/-- The other groups stay as they are. -/
theorem groups_setGroup (group group' : Nat) (g : ExclusiveGroup) :
    (s.setGroup group g).groups group' = if group' = group then g else s.groups group' :=
  Function.update_apply ..

@[simp] theorem groups_setItem (item : Nat) (c : CheckableItem) :
    (s.setItem item c).groups = s.groups := rfl

@[simp] theorem items_setGroup (group : Nat) (g : ExclusiveGroup) :
    (s.setGroup group g).items = s.items := rfl

/-- An assignment to `checked`. -/
def setChecked (item : Nat) (checked : Bool) : Checkables :=
  s.setItem item { s.items item with checked }

/-- `bindCheckable`: the item joins the list, and the group is connected to its signal. -/
def bindCheckable (group object : Nat) : Checkables :=
  (s.setGroup group
      { s.groups group with itemArray := (s.groups group).itemArray ++ [object] }).setItem
    object { s.items object with toggled := (s.items object).toggled ++ [group] }

/-- `adjustCheckableItemStates`: the sender becomes the current item, and all others in the list
are unchecked. -/
def adjustCheckableItemStates (sender group : Nat) : Checkables :=
  (s.groups group).itemArray.foldl
    (fun s item => if item ≠ sender then s.setChecked item false else s)
    (s.setGroup group { s.groups group with current := some sender })

/-- An assignment to the property, with `onExclusiveGroupChanged`. -/
def setExclusiveGroup (item : Nat) (exclusiveGroup : Option Nat) : Checkables :=
  if (s.items item).exclusiveGroup = exclusiveGroup then s
  else
    let s := s.setItem item { s.items item with exclusiveGroup }
    match exclusiveGroup with
    | some group => s.bindCheckable group item
    -- the handler fails
    | none => s

/-- The signal `toggled`. -/
def toggle (item : Nat) (connected : List Nat) : Checkables :=
  connected.foldl (fun s group => s.adjustCheckableItemStates item group) s

/-- What the handlers of the mouse and the keys have in common. -/
def activate (item : Nat) : Checkables :=
  let root := s.items item
  let checked :=
    if root.checked = false then true
    else if root.checked = true ∧ root.exclusiveGroup = none then false
    else root.checked
  (s.setChecked item checked).toggle item root.toggled

end Checkables

/-- The item that an event activates. -/
def CheckableEvent.activated : CheckableEvent → Option Nat
  | .mouseReleased item => some item
  | .keyReleased item .keyEnter => some item
  | .keyReleased item .keyReturn => some item
  | _ => none

/-- Items and groups reacting to one event after the other. They put nothing out. -/
def checkables : Machine Checkables CheckableEvent Empty where
  handle s
    | .setExclusiveGroup item exclusiveGroup => (s.setExclusiveGroup item exclusiveGroup, [])
    | .setChecked item checked => (s.setChecked item checked, [])
    | .mouseReleased item => (s.activate item, [])
    | .keyReleased item .keyEnter => (s.activate item, [])
    | .keyReleased item .keyReturn => (s.activate item, [])
    | .keyReleased _ .other => (s, [])

/-! ## What is bound

Who is in a group, who is listened to, and who is in the list of a group. `SameBindings` and
`Adjusts` compose, so that nested signals can be followed step by step. -/

/-- The two states differ in what is checked and current only. -/
structure Checkables.SameBindings (s s' : Checkables) : Prop where
  /-- Items are in the same groups, are listened to by the same ones, and groups have the same
  lists. -/
  exclusiveGroup : ∀ item, (s'.items item).exclusiveGroup = (s.items item).exclusiveGroup
  toggled : ∀ item, (s'.items item).toggled = (s.items item).toggled
  itemArray : ∀ group, (s'.groups group).itemArray = (s.groups group).itemArray

namespace Checkables.SameBindings

variable {s s' s'' : Checkables}

/-- Nothing changes. -/
theorem refl (s : Checkables) : s.SameBindings s := ⟨fun _ => rfl, fun _ => rfl, fun _ => rfl⟩

/-- Two steps, one after the other. -/
theorem trans (h : s.SameBindings s') (h' : s'.SameBindings s'') : s.SameBindings s'' where
  exclusiveGroup item := (h'.exclusiveGroup item).trans (h.exclusiveGroup item)
  toggled item := (h'.toggled item).trans (h.toggled item)
  itemArray group := (h'.itemArray group).trans (h.itemArray group)

/-- An item may change, if it is not put into another group. -/
theorem setItem {item : Nat} {c : CheckableItem}
    (hgroup : c.exclusiveGroup = (s.items item).exclusiveGroup)
    (htoggled : c.toggled = (s.items item).toggled) : s.SameBindings (s.setItem item c) := by
  refine ⟨fun item' => ?_, fun item' => ?_, fun _ => rfl⟩ <;> rw [items_setItem]
  · split
    · rename_i heq
      rw [heq, hgroup]
    · rfl
  · split
    · rename_i heq
      rw [heq, htoggled]
    · rfl

/-- Checking or unchecking an item binds nothing. -/
theorem setChecked (s : Checkables) (item : Nat) (checked : Bool) :
    s.SameBindings (s.setChecked item checked) := setItem rfl rfl

/-- A group may change, if its list does not. -/
theorem setGroup {group : Nat} {g : ExclusiveGroup}
    (harray : g.itemArray = (s.groups group).itemArray) : s.SameBindings (s.setGroup group g) := by
  refine ⟨fun _ => rfl, fun _ => rfl, fun group' => ?_⟩
  rw [groups_setGroup]
  split
  · rename_i heq
    rw [heq, harray]
  · rfl

end Checkables.SameBindings

/-- What an activation leaves behind: the sender is current in the groups `connected`, and of the
items in `list` only the sender is as it was. -/
structure Checkables.Adjusts (sender : Nat) (connected list : List Nat) (s s' : Checkables) :
    Prop where
  /-- Nobody is bound to anybody else. -/
  same : s.SameBindings s'
  /-- Who is in the list is unchecked, but for the sender. -/
  checked : ∀ item, (s'.items item).checked = true ↔
    (s.items item).checked = true ∧ (item = sender ∨ item ∉ list)
  /-- The groups that are connected have the sender for the current item. -/
  current : ∀ group, (s'.groups group).current =
    if group ∈ connected then some sender else (s.groups group).current

namespace Checkables.Adjusts

variable {sender : Nat} {connected connected' list list' : List Nat} {s s' s'' : Checkables}

/-- Nothing changes. -/
theorem refl : s.Adjusts sender [] [] s := ⟨.refl s, fun _ => by simp, fun _ => rfl⟩

/-- Two steps for one sender: the lists are put together. -/
theorem trans (h : s.Adjusts sender connected list s')
    (h' : s'.Adjusts sender connected' list' s'') :
    s.Adjusts sender (connected ++ connected') (list ++ list') s'' where
  same := h.same.trans h'.same
  checked item := by
    rw [h'.checked, h.checked]
    simp only [List.mem_append]
    tauto
  current group := by
    rw [h'.current, h.current]
    by_cases hgroup : group ∈ connected' <;> simp [hgroup]

/-- Another item is unchecked. -/
theorem uncheck {item : Nat} (hne : item ≠ sender) :
    s.Adjusts sender [] [item] (s.setChecked item false) where
  same := .setChecked s item false
  checked item' := by
    unfold Checkables.setChecked
    rw [items_setItem]
    by_cases heq : item' = item
    · subst heq
      simp [hne]
    · simp [heq]
  current group := rfl

/-- The sender may be in the list as well. -/
theorem keep : s.Adjusts sender [] [sender] s where
  same := .refl s
  checked item := by
    rw [List.mem_singleton]
    tauto
  current _ := rfl

/-- The loop over a list. By induction on it. -/
theorem foldl (sender : Nat) (list : List Nat) (s : Checkables) :
    s.Adjusts sender [] list
      (list.foldl (fun s item => if item ≠ sender then s.setChecked item false else s) s) := by
  induction list generalizing s with
  | nil => exact .refl
  | cons item list ih =>
    rw [List.foldl_cons]
    by_cases hne : item ≠ sender
    · rw [if_pos hne]
      exact (uncheck hne).trans (ih _)
    · rw [if_neg hne, not_ne_iff.mp hne]
      exact keep.trans (ih s)

/-- The group has another current item. -/
theorem setCurrent (sender group : Nat) (s : Checkables) :
    s.Adjusts sender [group] []
      (s.setGroup group { s.groups group with current := some sender }) where
  same := .setGroup rfl
  checked item := by simp
  current group' := by
    rw [Checkables.groups_setGroup]
    by_cases hgroup : group' = group <;> simp [hgroup]

/-- All of `adjustCheckableItemStates`. -/
theorem adjust (sender group : Nat) (s : Checkables) :
    s.Adjusts sender [group] (s.groups group).itemArray
      (s.adjustCheckableItemStates sender group) :=
  (setCurrent sender group s).trans (foldl sender _ _)

/-- All groups that hear of an activation have adjusted their items. -/
theorem toggle (sender : Nat) (connected : List Nat) (s : Checkables) :
    s.Adjusts sender connected (connected.flatMap fun group => (s.groups group).itemArray)
      (s.toggle sender connected) := by
  induction connected generalizing s with
  | nil => exact .refl
  | cons group connected ih =>
    have hfirst := adjust sender group s
    have hrest := ih (s.adjustCheckableItemStates sender group)
    -- the lists are still the same
    simp only [hfirst.same.itemArray] at hrest
    exact hfirst.trans hrest

end Checkables.Adjusts

/-! ## An activation

The signal runs the handlers of all groups that have ever been connected to the item, each of
which walks its own list. -/

section Activation

variable {s : Checkables} {item group : Nat}

/-- An activation binds nothing. -/
theorem sameBindings_activate (s : Checkables) (item : Nat) : s.SameBindings (s.activate item) :=
  (Checkables.SameBindings.setChecked s item _).trans (Checkables.Adjusts.toggle item _ _).same

/-- **What an activation does**: the item is checked, and of the others those that are in a list
of a connected group are not. -/
theorem activate_checked (hgroup : (s.items item).exclusiveGroup = some group) (x : Nat) :
    ((s.activate item).items x).checked = true ↔
      x = item ∨ (s.items x).checked = true ∧
        ∀ g ∈ (s.items item).toggled, x ∉ (s.groups g).itemArray := by
  have hchecked : (if (s.items item).checked = false then true
      else if (s.items item).checked = true ∧ (s.items item).exclusiveGroup = none then false
      else (s.items item).checked) = true := by
    cases (s.items item).checked <;> simp [hgroup]
  unfold Checkables.activate
  dsimp only
  rw [hchecked, (Checkables.Adjusts.toggle item _ _).checked, Checkables.setChecked,
    Checkables.items_setItem]
  by_cases hx : x = item
  · simp [hx]
  · simp [hx]

/-- Each connected group has it for its current item. -/
theorem activate_current (hmem : group ∈ (s.items item).toggled) :
    ((s.activate item).groups group).current = some item := by
  unfold Checkables.activate
  dsimp only
  rw [(Checkables.Adjusts.toggle item _ _).current, if_pos hmem]

end Activation

/-! ## Runs

An item stays in the list of every group that it was put into. So what an activation unchecks is
told by the assignments of the past. -/

/-- The item was put into the group at some time. -/
def Assigned (es : List CheckableEvent) (item group : Nat) : Prop :=
  .setExclusiveGroup item (some group) ∈ es

section Steps

variable (h : History Checkables CheckableEvent Empty) (e : CheckableEvent)

/-- An activation of an item in a group leaves it as the only checked one of the group and the
current one, and the others as they were. -/
def Exclusive : Prop :=
  ∀ item group, e.activated = some item → (h.state.items item).exclusiveGroup = some group →
    let after := (checkables.step h e).state
    (∀ x, (after.items x).exclusiveGroup = some group →
        ((after.items x).checked = true ↔ x = item)) ∧
      (after.groups group).current = some item ∧
      ∀ x, (after.items x).exclusiveGroup ≠ some group →
        (after.items x).checked = (h.state.items x).checked

/-- No checked item outside the group of the activated item has ever been in a group that the
activated one has been in. -/
def SharesNoGroup : Prop :=
  ∀ item group, e.activated = some item → (h.state.items item).exclusiveGroup = some group →
    ∀ x, (h.state.items x).exclusiveGroup ≠ some group → (h.state.items x).checked = true →
      ∀ g, Assigned h.inputs item g → ¬ Assigned h.inputs x g

/-- Whatever was put into a group stays in its list and is listened to. -/
structure Bound : Prop where
  /-- The groups that listen to an item are those it was ever put into. -/
  toggled : ∀ item group, group ∈ (h.state.items item).toggled ↔ Assigned h.inputs item group
  /-- The items in the list of a group are those that were ever put into it. -/
  itemArray : ∀ item group, item ∈ (h.state.groups group).itemArray ↔ Assigned h.inputs item group
  /-- The group of an item is one of those. -/
  exclusiveGroup : ∀ item group, (h.state.items item).exclusiveGroup = some group →
    Assigned h.inputs item group

variable {h e}

/-- Enter, return and the mouse activate alike. -/
theorem handle_of_activated {item : Nat} (h : e.activated = some item) (s : Checkables) :
    (checkables.handle s e).1 = s.activate item := by
  cases e with
  | mouseReleased item' =>
    cases h
    rfl
  | keyReleased item' key =>
    cases key <;> cases h <;> rfl
  | setExclusiveGroup item' exclusiveGroup => cases h
  | setChecked item' checked => cases h

/-- **One activation** unchecks whom it should exactly if no item it unchecks belongs to another
group. -/
theorem exclusive_step_iff (hI : Bound h) : Exclusive h e ↔ SharesNoGroup h e := by
  refine forall₂_congr fun item group => ?_
  refine forall₂_congr fun hactivated hgroup => ?_
  have hsame := sameBindings_activate h.state item
  have hmem : group ∈ (h.state.items item).toggled :=
    (hI.toggled item group).mpr (hI.exclusiveGroup item group hgroup)
  dsimp only
  rw [Machine.step_state, handle_of_activated hactivated]
  simp only [hsame.exclusiveGroup]
  constructor
  · -- the activation leaves every other item alone: then none of them is shown by a shared group
    rintro ⟨-, -, hothers⟩ x hx hchecked g hitem hshared
    -- the group would have unchecked it
    have hstill : ((h.state.activate item).items x).checked = true := by rw [hothers x hx, hchecked]
    rcases (activate_checked hgroup x).mp hstill with rfl | ⟨-, hnone⟩
    · exact hx hgroup
    · exact hnone g ((hI.toggled item g).mpr hitem) ((hI.itemArray x g).mpr hshared)
  · -- and if they share no group with the item, its activation unchecks none of them
    intro hshares
    refine ⟨fun x hx => ?_, activate_current hmem, fun x hx => ?_⟩
    · rw [activate_checked hgroup]
      refine ⟨fun hchecked => hchecked.resolve_right fun hother => ?_, Or.inl⟩
      exact hother.2 group hmem ((hI.itemArray x group).mpr (hI.exclusiveGroup x group hx))
    · apply Bool.eq_iff_iff.mpr
      rw [activate_checked hgroup]
      constructor
      · rintro (rfl | ⟨hchecked, -⟩)
        · exact absurd hgroup hx
        · exact hchecked
      · intro hchecked
        refine .inr ⟨hchecked, fun g hg hmem' => ?_⟩
        exact hshares x hx hchecked g ((hI.toggled item g).mp hg) ((hI.itemArray x g).mp hmem')

/-- An event that binds nothing, and is no assignment either, keeps what is known. -/
theorem Bound.of_same {s : Checkables} (hI : Bound h) (hsame : h.state.SameBindings s)
    (hstate : (checkables.handle h.state e).1 = s)
    (he : ∀ item group, e ≠ .setExclusiveGroup item (some group)) :
    Bound (checkables.step h e) := by
  have hassigned : ∀ item group, Assigned (checkables.step h e).inputs item group ↔
      Assigned h.inputs item group := by
    intro item group
    simp [Assigned, (he item group).symm]
  refine ⟨fun item group => ?_, fun item group => ?_, fun item group => ?_⟩ <;>
    rw [Machine.step_state, hstate, hassigned]
  · rw [hsame.toggled]
    exact hI.toggled item group
  · rw [hsame.itemArray]
    exact hI.itemArray item group
  · rw [hsame.exclusiveGroup]
    exact hI.exclusiveGroup item group

/-- One more assignment. -/
theorem assigned_setExclusiveGroup (item : Nat) (exclusiveGroup : Option Nat) (x group : Nat) :
    Assigned (checkables.step h (.setExclusiveGroup item exclusiveGroup)).inputs x group ↔
      Assigned h.inputs x group ∨ x = item ∧ exclusiveGroup = some group := by
  unfold Assigned
  rw [Machine.step_inputs, List.mem_append, List.mem_singleton,
    CheckableEvent.setExclusiveGroup.injEq, @eq_comm _ (some group)]

/-- The item is in the group that it was put into last. -/
theorem exclusiveGroup_setExclusiveGroup (s : Checkables) (item x : Nat)
    (exclusiveGroup : Option Nat) :
    ((s.setExclusiveGroup item exclusiveGroup).items x).exclusiveGroup =
      if x = item then exclusiveGroup else (s.items x).exclusiveGroup := by
  unfold Checkables.setExclusiveGroup
  by_cases hsame : (s.items item).exclusiveGroup = exclusiveGroup
  · rw [if_pos hsame]
    split
    · rename_i hx
      rw [hx, hsame]
    · rfl
  · rw [if_neg hsame]
    cases exclusiveGroup <;>
      simp only [Checkables.bindCheckable, Checkables.items_setItem, Checkables.items_setGroup] <;>
      by_cases hx : x = item <;> simp [hx]

/-- An item that is in a group already is listened to by it, and is not bound again. -/
theorem mem_toggled_setExclusiveGroup {s : Checkables} {item x group : Nat}
    {exclusiveGroup : Option Nat}
    (hbound : (s.items item).exclusiveGroup = some group → group ∈ (s.items item).toggled) :
    group ∈ ((s.setExclusiveGroup item exclusiveGroup).items x).toggled ↔
      group ∈ (s.items x).toggled ∨ x = item ∧ exclusiveGroup = some group := by
  unfold Checkables.setExclusiveGroup
  by_cases hsame : (s.items item).exclusiveGroup = exclusiveGroup
  · rw [if_pos hsame]
    refine (or_iff_left_of_imp ?_).symm
    rintro ⟨rfl, hgroup⟩
    exact hbound (hsame.trans hgroup)
  · rw [if_neg hsame]
    cases exclusiveGroup <;>
      simp only [Checkables.bindCheckable, Checkables.items_setItem, Checkables.items_setGroup] <;>
      by_cases hx : x = item <;> simp [hx, eq_comm]

/-- The item joins the list of its new group, and stays in all others. -/
theorem mem_itemArray_setExclusiveGroup {s : Checkables} {item x group : Nat}
    {exclusiveGroup : Option Nat}
    (hbound : (s.items item).exclusiveGroup = some group → item ∈ (s.groups group).itemArray) :
    x ∈ ((s.setExclusiveGroup item exclusiveGroup).groups group).itemArray ↔
      x ∈ (s.groups group).itemArray ∨ x = item ∧ exclusiveGroup = some group := by
  unfold Checkables.setExclusiveGroup
  by_cases hsame : (s.items item).exclusiveGroup = exclusiveGroup
  · rw [if_pos hsame]
    refine (or_iff_left_of_imp ?_).symm
    rintro ⟨rfl, hgroup⟩
    exact hbound (hsame.trans hgroup)
  · rw [if_neg hsame]
    cases exclusiveGroup with
    | none => simp
    | some group' =>
      simp only [Checkables.bindCheckable, Checkables.groups_setItem, Checkables.groups_setGroup]
      by_cases hgroup : group = group'
      · simp [hgroup]
      · simp [hgroup, Ne.symm hgroup]

/-- An assignment adds one to each of the three. -/
theorem bound_setExclusiveGroup (hI : Bound h) (item : Nat) (exclusiveGroup : Option Nat) :
    Bound (checkables.step h (.setExclusiveGroup item exclusiveGroup)) := by
  have hassigned := hI.exclusiveGroup item
  refine ⟨fun x group => ?_, fun x group => ?_, fun x group => ?_⟩ <;>
    rw [assigned_setExclusiveGroup]
  · rw [← hI.toggled]
    exact mem_toggled_setExclusiveGroup fun hgroup => (hI.toggled item group).mpr
      (hassigned group hgroup)
  · rw [← hI.itemArray]
    exact mem_itemArray_setExclusiveGroup fun hgroup => (hI.itemArray item group).mpr
      (hassigned group hgroup)
  · show ((h.state.setExclusiveGroup item exclusiveGroup).items x).exclusiveGroup = some group → _
    rw [exclusiveGroup_setExclusiveGroup]
    split
    · rename_i hx
      exact fun hnew => .inr ⟨hx, hnew⟩
    · exact fun hold => .inl (hI.exclusiveGroup x group hold)

/-- So every event keeps what is known of the bindings. -/
theorem bound_step (hI : Bound h) : Bound (checkables.step h e) := by
  cases e with
  | setExclusiveGroup item exclusiveGroup => exact bound_setExclusiveGroup hI item exclusiveGroup
  | setChecked item checked =>
    exact hI.of_same (.setChecked h.state item checked) rfl (fun _ _ he => by cases he)
  | mouseReleased item =>
    exact hI.of_same (sameBindings_activate h.state item) rfl (fun _ _ he => by cases he)
  | keyReleased item key =>
    cases key with
    | keyEnter =>
      exact hI.of_same (sameBindings_activate h.state item) rfl (fun _ _ he => by cases he)
    | keyReturn =>
      exact hI.of_same (sameBindings_activate h.state item) rfl (fun _ _ he => by cases he)
    | other => exact hI.of_same (.refl h.state) rfl (fun _ _ he => by cases he)

end Steps

/-- **One checked member.** In every run: each activation of an item in a group leaves it as the
only checked one there, and all items outside as they were, exactly when no checked one of these
has shared a group with it.

By `Machine.admits_congr` with `Bound`: an item is never taken out of the list of a group, so a
group reaches every item that was ever put into it. -/
theorem exclusive_iff (es : List CheckableEvent) :
    checkables.Admits Exclusive (.init {}) es ↔ checkables.Admits SharesNoGroup (.init {}) es := by
  refine Machine.admits_congr (E := fun _ _ => True) (I := Bound) (fun _ _ hI _ => bound_step hI)
    (fun _ _ hI _ => exclusive_step_iff hI) ?_ (checkables.admits_true _ es)
  exact ⟨fun _ _ => by simp [History.init, Assigned], fun _ _ => by simp [History.init, Assigned],
    fun _ _ hgroup => by cases hgroup⟩

/-- Two items of one group. The second is moved to another group and activated there, then the first
one is activated. -/
def movedItem : List CheckableEvent :=
  [.setExclusiveGroup 1 (some 1), .setExclusiveGroup 2 (some 1), .setExclusiveGroup 2 (some 2),
    .mouseReleased 2, .mouseReleased 1]

/-- The item that was moved unchecks an item of its old group. -/
theorem not_exclusive_movedItem : ¬ checkables.Admits Exclusive (.init {}) movedItem := by
  intro hall
  have hexclusive := hall.2.2.2.2.1
  have hother := (hexclusive 1 1 rfl (by decide)).2.2 2 (by decide)
  revert hother
  decide

end Eos
