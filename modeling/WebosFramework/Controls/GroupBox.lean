import Mathlib.Data.List.Nodup

/-!
# The children of a group box

`GroupBox` of `Eos/Controls` moves its children into `contentItemContainer`, except for its internal
container. The handler `onChildrenChanged` walks the list of children by an index. A child that gets
another parent leaves the list, which runs the handler again before the assignment has returned.

* A run starts from a list of children that is there already, of any length. That children are added
  is not modelled: Qt signals `childrenChanged`, and so runs the handler, at every single addition,
  so that a run which starts while the handler is connected finds one new child at most. A longer
  list is one that has come together without the handler, or while it was not connected yet.
* The loop is given fuel, and has no result if it runs out.
* A toolkit that gives a child another parent tells the old parent before or after it adds the child
  to the new one; Qt does so before.
* **`adopts_iff`**: the nested runs move all children, and a group box that has been told after the
  child was added keeps their order. Otherwise the last child arrives first, so that the order is
  kept only if there is one child at most.

The nested run starts from the beginning of a list that is shorter by one child. So the loop is
described by induction on the children that are to be moved (`loop_eq`), with the index where it
is and fuel for what is left.
-/

namespace Eos

/-- A child of a group box. Its name says whether it is the internal container. -/
structure Child where
  id : Nat
  objectName : String
  deriving DecidableEq

/-- The test of the handler. -/
def Child.isInternal (c : Child) : Bool := c.objectName = "__internalContainer"

/-- When the old parent of a child is told that the child is gone. -/
inductive Announcement where
  | beforeAdding
  | afterAdding
  deriving DecidableEq

/-- The children of the box, and those that it has moved. -/
structure GroupBox where
  children : List Child
  /-- The children of `contentItemContainer`. -/
  contentItems : List Child := []
  deriving DecidableEq

namespace GroupBox

/-- A child leaves the box. -/
def remove (box : GroupBox) (c : Child) : GroupBox :=
  { box with children := box.children.erase c }

/-- A child arrives in the container, behind those that are there. -/
def add (box : GroupBox) (c : Child) : GroupBox :=
  { box with contentItems := box.contentItems ++ [c] }

/-- The loop of `onChildrenChanged` from the index `i` on. -/
def loop (announcement : Announcement) : Nat → Nat → GroupBox → Option GroupBox
  | 0, _, _ => none
  | fuel + 1, i, box =>
    match box.children[i]? with
    | none => some box
    | some c =>
      if c.isInternal then loop announcement fuel (i + 1) box
      else
        -- the handler runs again in the middle of the assignment, or at its end
        match announcement with
        | .beforeAdding =>
          (loop announcement fuel 0 (box.remove c)).bind fun box =>
            loop announcement fuel (i + 1) (box.add c)
        | .afterAdding =>
          (loop announcement fuel 0 ((box.remove c).add c)).bind fun box =>
            loop announcement fuel (i + 1) box

/-- `onChildrenChanged`, with the index at the start. -/
def onChildrenChanged (announcement : Announcement) (fuel : Nat) (box : GroupBox) :
    Option GroupBox :=
  loop announcement fuel 0 box

/-- The children that are to be moved. -/
def others (children : List Child) : List Child := children.filter fun c => !c.isInternal

/-- Exactly one child is the internal container. -/
def HasInternal (children : List Child) (internal : Child) : Prop :=
  children.filter Child.isInternal = [internal]

instance (children : List Child) (internal : Child) : Decidable (HasInternal children internal) :=
  inferInstanceAs (Decidable (_ = _))

/-- The order in which the children arrive. -/
def arrive (announcement : Announcement) (cs : List Child) : List Child :=
  match announcement with
  | .beforeAdding => cs.reverse
  | .afterAdding => cs

/-! ## The nested runs

Moving a child changes the list of children, so the handler runs again inside of the loop. The
nested run moves all that is left, and the outer loop then finds nothing to do. -/

variable {announcement : Announcement} {box : GroupBox} {fuel i : Nat} {internal c : Child}
  {cs : List Child}

/-- The internal child is one that the handler leaves alone. -/
theorem isInternal_of_hasInternal (h : HasInternal cs internal) : internal.isInternal = true := by
  have hmem : internal ∈ cs.filter Child.isInternal := by
    rw [h]
    exact List.mem_singleton_self internal
  exact (List.mem_filter.mp hmem).2

/-- A loop whose index has come to the end. -/
theorem loop_of_length_le (hi : box.children.length ≤ i) :
    loop announcement (fuel + 1) i box = some box := by
  unfold loop
  rw [List.getElem?_eq_none hi]

/-- The loop goes past the internal container. -/
theorem loop_of_isInternal (hi : box.children[i]? = some c) (hc : c.isInternal = true) :
    loop announcement (fuel + 1) i box = loop announcement fuel (i + 1) box := by
  conv_lhs => unfold loop
  rw [hi]
  dsimp only
  rw [if_pos hc]

/-- The loop ends with the nested run, if that leaves the internal container only. The child is
added after the nested run or before it, depending on when the old parent is told. -/
theorem loop_of_nested (hi : box.children[i]? = some c) (hc : c.isInternal = false)
    (hnested : ∀ items, loop announcement (fuel + 1) 0 ⟨box.children.erase c, items⟩ =
      some ⟨[internal], items ++ arrive announcement cs⟩) :
    loop announcement (fuel + 2) i box =
      some ⟨[internal], box.contentItems ++ arrive announcement (c :: cs)⟩ := by
  unfold loop
  rw [hi]
  dsimp only
  rw [if_neg (by simp [hc])]
  cases announcement with
  | beforeAdding =>
    have hrun := hnested box.contentItems
    dsimp only [remove]
    rw [hrun, Option.bind_some, loop_of_length_le (by simp [add])]
    simp [add, arrive]
  | afterAdding =>
    have hrun := hnested (box.contentItems ++ [c])
    dsimp only [remove, add]
    rw [hrun, Option.bind_some, loop_of_length_le (by simp)]
    simp [arrive]

/-- Where the loop finds the first child to be moved: at its first step or at its second. In each
case the internal container is still there once in what is left, so that the induction goes on. -/
theorem hasInternal_cases (h : HasInternal cs internal) :
    cs = [internal] ∨
    (∃ c rest, cs = c :: rest ∧ c.isInternal = false ∧ HasInternal rest internal) ∨
    ∃ c rest, cs = internal :: c :: rest ∧ c.isInternal = false ∧
      HasInternal (internal :: rest) internal := by
  have hinternal := isInternal_of_hasInternal h
  cases cs with
  | nil => cases h
  | cons c rest =>
    unfold HasInternal at h
    by_cases hc : c.isInternal = true
    · rw [List.filter_cons_of_pos hc] at h
      obtain ⟨rfl, hrest⟩ := List.cons.inj h
      cases rest with
      | nil => exact .inl rfl
      | cons d rest =>
        have hd : d.isInternal = false := by
          simpa using List.filter_eq_nil_iff.mp hrest d List.mem_cons_self
        rw [List.filter_cons_of_neg (by simp [hd])] at hrest
        refine .inr (.inr ⟨d, rest, rfl, hd, ?_⟩)
        rw [HasInternal, List.filter_cons_of_pos hc, hrest]
    · rw [List.filter_cons_of_neg hc] at h
      exact .inr (.inl ⟨c, rest, rfl, by simpa using hc, h⟩)

/-- The other children are those that are moved. -/
theorem others_cons (hc : c.isInternal = false) : others (c :: cs) = c :: others cs := by
  simp [others, hc]

/-- The internal container is not one of them. -/
theorem others_internal (hinternal : internal.isInternal = true) :
    others (internal :: cs) = others cs := by
  simp [others, hinternal]

/-- Every run with enough fuel ends, and moves all children but the internal container. Each child
costs two steps at most, one for itself and one for the internal container that is stepped over. -/
theorem loop_eq (announcement : Announcement) {internal : Child} {cs : List Child}
    (hinternal : HasInternal cs internal) (items : List Child) (fuel : Nat)
    (hfuel : 2 * cs.length ≤ fuel) :
    loop announcement fuel 0 ⟨cs, items⟩ =
      some ⟨[internal], items ++ arrive announcement (others cs)⟩ := by
  have hname := isInternal_of_hasInternal hinternal
  -- by the length of the list, which each nested run finds shorter by one
  induction hn : cs.length generalizing cs items fuel with
  | zero =>
    rw [List.length_eq_zero_iff.mp hn] at hinternal
    cases hinternal
  | succ n ih =>
    rcases hasInternal_cases hinternal with rfl | ⟨c, rest, rfl, hc, hrest⟩ |
      ⟨c, rest, rfl, hc, hrest⟩
    · -- the internal container is alone, and the loop steps over it
      obtain ⟨k, rfl⟩ : ∃ k, fuel = k + 2 := ⟨fuel - 2, by simp at hfuel; omega⟩
      rw [loop_of_isInternal rfl hname, loop_of_length_le (by simp), others_internal hname]
      cases announcement <;> simp [arrive, others]
    · -- the first child is one to be moved, and the nested run starts over on what is left
      rw [List.length_cons] at hn hfuel
      obtain ⟨k, rfl⟩ : ∃ k, fuel = k + 2 := ⟨fuel - 2, by omega⟩
      rw [others_cons hc]
      refine loop_of_nested rfl hc fun items => ?_
      rw [List.erase_cons_head]
      exact ih hrest items _ (by omega) (by omega)
    · -- the internal container comes first and is stepped over, then the second child is moved
      rw [List.length_cons, List.length_cons] at hn hfuel
      obtain ⟨k, rfl⟩ : ∃ k, fuel = k + 3 := ⟨fuel - 3, by omega⟩
      have hne : internal ≠ c := by
        rintro rfl
        cases hname.symm.trans hc
      rw [loop_of_isInternal rfl hname, others_internal hname, others_cons hc]
      refine loop_of_nested rfl hc fun items => ?_
      rw [List.erase_cons_tail (by simpa using hne), List.erase_cons_head,
        ← others_internal hname]
      exact ih hrest items _ (by rw [List.length_cons]; omega) (by rw [List.length_cons]; omega)

/-! ## The order of the children

The children arrive in the order in which the nested runs reach them, which depends on when the
old parent of a child is told. -/

/-- With enough fuel the handler ends, only the internal container is left, and every other child
has been added to the content once, in the order there was. -/
def Adopts (announcement : Announcement) (box : GroupBox) (internal : Child) : Prop :=
  ∃ enough, ∀ fuel, enough ≤ fuel →
    onChildrenChanged announcement fuel box =
      some ⟨[internal], box.contentItems ++ others box.children⟩

/-- A list without repetitions that is its own reverse has one element at most. -/
theorem length_le_one_of_reverse_eq (hnodup : cs.Nodup) (h : cs.reverse = cs) : cs.length ≤ 1 := by
  rcases cs.eq_nil_or_concat with rfl | ⟨front, last, rfl⟩
  · exact Nat.zero_le 1
  · rw [List.concat_eq_append] at h hnodup ⊢
    cases front with
    | nil => exact Nat.le_refl 1
    | cons c front =>
      -- the last one would be the first one
      have hfirst : last = c := by
        rw [List.reverse_concat] at h
        exact (List.cons.inj h).1
      subst hfirst
      simp at hnodup

/-- Children arrive in their order if each is added before the box hears of it, or if there are
not two. -/
theorem arrive_eq_iff (hnodup : cs.Nodup) :
    arrive announcement cs = cs ↔ announcement = .afterAdding ∨ cs.length ≤ 1 := by
  cases announcement with
  | afterAdding => exact ⟨fun _ => .inl rfl, fun _ => rfl⟩
  | beforeAdding =>
    show cs.reverse = cs ↔ _
    constructor
    · exact fun h => .inr (length_le_one_of_reverse_eq hnodup h)
    · rintro (h | h)
      · cases h
      · match cs, h with
        | [], _ => rfl
        | [_], _ => rfl

/-- **All children.** A group box whose children contain its internal container once adopts the
others in their order, exactly when the old parent is told after the child has been added, or there
is at most one other child.

The run of the handler is computed by `loop_eq`: it moves the children one by one, in the order in
which the nested runs come to them, and that is the order of the list just in case `arrive_eq_iff`
says so. -/
theorem adopts_iff (announcement : Announcement) (box : GroupBox) {internal : Child}
    (hinternal : HasInternal box.children internal) (hnodup : box.children.Nodup) :
    Adopts announcement box internal ↔
      announcement = .afterAdding ∨ (others box.children).length ≤ 1 := by
  have hrun := loop_eq announcement hinternal box.contentItems
  have hothers : (others box.children).Nodup := hnodup.filter _
  rw [← arrive_eq_iff hothers]
  constructor
  · rintro ⟨enough, hadopts⟩
    have hsame := hadopts (enough + 2 * box.children.length) (by omega)
    unfold onChildrenChanged at hsame
    rw [hrun _ (by omega)] at hsame
    exact List.append_cancel_left (congrArg contentItems (Option.some.inj hsame))
  · intro horder
    refine ⟨2 * box.children.length, fun fuel hfuel => ?_⟩
    unfold onChildrenChanged
    rw [hrun fuel hfuel, horder]

/-- The container that a group box has. -/
def internalContainer : Child := ⟨0, "__internalContainer"⟩

/-- One child is moved, and there is no order to keep. -/
theorem adopts_single :
    Adopts .beforeAdding ⟨[internalContainer, ⟨1, "column"⟩], []⟩ internalContainer :=
  (adopts_iff .beforeAdding ⟨[internalContainer, ⟨1, "column"⟩], []⟩ (by decide) (by decide)).mpr
    (by decide)

/-- Two children of a toolkit that tells the old parent first. -/
theorem not_adopts_two :
    HasInternal [⟨1, ""⟩, ⟨2, ""⟩, internalContainer] internalContainer ∧
      onChildrenChanged .beforeAdding 6 ⟨[⟨1, ""⟩, ⟨2, ""⟩, internalContainer], []⟩ =
        some ⟨[internalContainer], [⟨2, ""⟩, ⟨1, ""⟩]⟩ ∧
      ¬ Adopts .beforeAdding ⟨[⟨1, ""⟩, ⟨2, ""⟩, internalContainer], []⟩ internalContainer := by
  have hinternal : HasInternal [⟨1, ""⟩, ⟨2, ""⟩, internalContainer] internalContainer := by decide
  refine ⟨hinternal, by decide, ?_⟩
  rintro ⟨enough, hadopts⟩
  have hsame := hadopts (enough + 6) (by omega)
  unfold onChildrenChanged at hsame
  rw [loop_eq .beforeAdding hinternal [] _ (by simp)] at hsame
  revert hsame
  decide

end GroupBox

end Eos
