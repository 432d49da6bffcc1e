import WebosFramework.Items.RibbonEditor

/-!
# Tiles that are not editable

`moveInModel` of `Eos/Items/RibbonEditor.qml` does not move an item away from a place that is not
editable, or to one. It does not look at the places in between, whose items the move of a list
shifts.

**`keepsUneditable_iff`**: in all edit sessions the items at places that are not editable stay there
just in case none of these places lies between two editable ones.

The editor is taken apart from the list here: `Moves` says that whatever runs makes the moves it
signals, between editable places only, and `getElem?_replay_move` what such a move does to the
place of an item. The failing session is a drag over a place that is not editable.
-/

namespace Eos

open EventLoop ListMove

variable {α : Type}

/-- The rows of the model after the moves that have been signalled. The model may refuse a move,
and the rows stay as they are then. -/
def replay (model : List α) : List EditorSignal → List α
  | [] => model
  | .move source target :: signals =>
    replay (({ model } : Ribbon α).modelMove source target).model signals
  | .moved .. :: signals => replay model signals

/-- Each move leaves the items at the places that are not editable where they were. This is said
of every move by itself, so that an item which is moved away and back again is not kept. -/
def KeepsUneditable (ribbon : Ribbon α) (signals : List EditorSignal) : Prop :=
  ∀ before source target after, signals = before ++ .move source target :: after →
    ∀ i ∈ ribbon.uneditableIndexes, 0 ≤ i →
      (replay ribbon.model (before ++ [.move source target]))[i.toNat]? =
        (replay ribbon.model before)[i.toNat]?

/-- No place between two editable ones is not editable: those that are not come first or last. -/
def UneditableAtEnds (ribbon : Ribbon α) : Prop :=
  ∀ a i b, 0 ≤ a → a < i → i < b → b < ribbon.count → ribbon.indexEditable a = true →
    ribbon.indexEditable b = true → ribbon.indexEditable i = true

/-- Moves that follow others start from the rows that these have left. -/
theorem replay_append (model : List α) (ss ts : List EditorSignal) :
    replay model (ss ++ ts) = replay (replay model ss) ts := by
  induction ss generalizing model with
  | nil => rfl
  | cons s ss ih =>
    cases s with
    | move source target => exact ih _
    | moved source target => exact ih _

/-- One move of a ribbon is a move of its rows. -/
theorem model_modelMove (ribbon : Ribbon α) (source target : Int) :
    (ribbon.modelMove source target).model = replay ribbon.model [.move source target] := by
  have hrows : ribbon.model = ({ model := ribbon.model } : Ribbon α).model := rfl
  exact Ribbon.model_modelMove_congr hrows source target

/-- A place that is not editable stays one, whatever item is there. -/
theorem uneditableIndexes_modelMove (ribbon : Ribbon α) (source target : Int) :
    (ribbon.modelMove source target).uneditableIndexes = ribbon.uneditableIndexes := by
  unfold Ribbon.modelMove
  split <;> rfl

namespace RibbonEditor

/-! ## What the editor does to the ribbon

Whatever the editor does to the rows, it does by moves between editable places. `Moves` composes,
so it is shown for each function, from the inside to the outside. -/

/-- Some code has run: it has made the moves that it has signalled, between editable places, and
nothing else to the rows. -/
structure Moves (e : RibbonEditor α) (result : RibbonEditor α × List EditorSignal) : Prop where
  uneditable : result.1.ribbon.uneditableIndexes = e.ribbon.uneditableIndexes
  model : result.1.ribbon.model = replay e.ribbon.model result.2
  editable : ∀ source target, .move source target ∈ result.2 →
    e.ribbon.indexEditable source = true ∧ e.ribbon.indexEditable target = true

variable {e e' : RibbonEditor α}

/-- Code that signals nothing and leaves the rows alone has made no moves. -/
theorem Moves.of_ribbon (huneditable : e'.ribbon.uneditableIndexes = e.ribbon.uneditableIndexes)
    (hmodel : e'.ribbon.model = e.ribbon.model) : Moves e (e', []) :=
  ⟨huneditable, hmodel, by simp⟩

theorem Moves.refl (e : RibbonEditor α) : Moves e (e, []) := .of_ribbon rfl rfl

/-- The moves of two pieces of code that run one after the other. The second one sees the same
places that are not editable as the first one. -/
theorem Moves.append {result : RibbonEditor α × List EditorSignal} (h : Moves e result)
    {result' : RibbonEditor α × List EditorSignal} (h' : Moves result.1 result') :
    Moves e (result'.1, result.2 ++ result'.2) where
  uneditable := h'.uneditable.trans h.uneditable
  model := by
    rw [replay_append, ← h.model]
    exact h'.model
  editable source target hmem := by
    rcases List.mem_append.mp hmem with hmem | hmem
    · exact h.editable source target hmem
    · have heditable := h'.editable source target hmem
      unfold Ribbon.indexEditable at heditable ⊢
      rwa [h.uneditable] at heditable

/-- All that `clearCurrentIndex` does is to assign some index. -/
theorem clearCurrentIndex_eq (e : RibbonEditor α) :
    ∃ index, e.clearCurrentIndex = e.setCurrentIndex index := by
  unfold clearCurrentIndex
  split
  · exact ⟨e.ribbon.currentIndex, rfl⟩
  · split
    · exact ⟨-1, rfl⟩
    · exact ⟨e.targetIndex, rfl⟩

/-- The two end points of a move are editable, as `moveInModel` asks for both before it moves
anything. -/
theorem moves_moveInModel (e : RibbonEditor α) (scroll : ScrollState) :
    Moves e (e.moveInModel scroll) := by
  unfold moveInModel
  split
  · exact .refl e
  · rename_i htarget
    split
    · exact .refl e
    · rename_i hcurrent
      obtain ⟨index, hcleared⟩ := e.clearCurrentIndex_eq
      rw [hcleared]
      dsimp only
      split
      · exact .of_ribbon rfl rfl
      · refine ⟨?_, ?_, ?_⟩
        · exact uneditableIndexes_modelMove _ _ _
        · exact model_modelMove (e.setCurrentIndex index).ribbon _ _
        · intro source target hmem
          obtain ⟨rfl, rfl⟩ := by simpa using hmem
          have htarget' : e.ribbon.indexEditable e.targetIndex = true := by simpa using htarget
          exact ⟨htarget', by simpa using hcurrent⟩

/-- Where the edited item is does not change. -/
theorem targetIndex_clearCurrentIndex (e : RibbonEditor α) :
    e.clearCurrentIndex.targetIndex = e.targetIndex := by
  obtain ⟨index, hcleared⟩ := e.clearCurrentIndex_eq
  rw [hcleared]
  rfl

/-- Between editable places, and with nothing being scrolled, the item is moved. -/
theorem signals_moveInModel (htarget : e.ribbon.indexEditable e.targetIndex = true)
    (hcurrent : e.ribbon.indexEditable e.ribbon.currentIndex = true) :
    (e.moveInModel {}).2 = [.move e.targetIndex e.ribbon.currentIndex] := by
  have hallowed : ∀ source target, ({} : ScrollState).allowedMoveInModel source target = true :=
    fun _ _ => rfl
  unfold moveInModel
  simp [htarget, hcurrent, hallowed, targetIndex_clearCurrentIndex]

mutual

/-- Whatever an assignment sets off, by induction on the tree of it: the handler may run others
first, and then it makes one move at most. -/
theorem moves_change (e : RibbonEditor α) : ∀ c : Change, Moves e (e.change c)
  | .followed => by
    unfold change
    split
    · exact .of_ribbon rfl rfl
    · exact .refl e
  | .assigned index autoScrolling nested scroll => by
    unfold change
    split
    · exact .refl e
    · split
      · exact .of_ribbon rfl rfl
      · split
        · exact .of_ribbon rfl rfl
        · have hassigned : Moves e (e.setCurrentIndex index, []) := .of_ribbon rfl rfl
          have hvisible : Moves (e.setCurrentIndex index)
              (if autoScrolling then (e.setCurrentIndex index, [])
                else (e.setCurrentIndex index).changes nested) := by
            split
            · exact .refl _
            · exact moves_changes (e.setCurrentIndex index) nested
          exact (hassigned.append hvisible).append (moves_moveInModel _ scroll)

/-- Several changes, one after the other. -/
theorem moves_changes (e : RibbonEditor α) : ∀ cs : List Change, Moves e (e.changes cs)
  | [] => .refl e
  | c :: cs => by
    unfold changes
    exact (moves_change e c).append (moves_changes (e.change c).1 cs)

end

/-- Beginning a session moves nothing by itself, but it may run what has been postponed. -/
theorem moves_editCurrentItem (e : RibbonEditor α) (nested : List Change) :
    Moves e (e.editCurrentItem nested) := by
  unfold editCurrentItem
  extract_lets index started
  split
  · exact .refl e
  · split
    · have hstarted : Moves e (started, []) := .of_ribbon rfl rfl
      exact hstarted.append (moves_changes started nested)
    · exact .of_ribbon rfl rfl

/-- The end of a session moves nothing, and the signal `moved` is not a move. -/
theorem moves_finishEditing (e : RibbonEditor α) : Moves e e.finishEditing := by
  unfold finishEditing
  split
  · exact ⟨rfl, rfl, by simp⟩
  · exact .of_ribbon rfl rfl

/-- **One event**, whatever state the editor is in: it need not be active, nor know where its item
is. -/
theorem moves_handle (e : RibbonEditor α) (event : EditorEvent) :
    Moves e ((ribbonEditor α).handle e event) := by
  cases event with
  | editCurrentItem nested => exact moves_editCurrentItem e nested
  | change c => exact moves_change e c
  | finishEditing => exact moves_finishEditing e
  | stopEdit animateEditItemDown =>
    show Moves e (e.stopEdit animateEditItemDown)
    unfold stopEdit
    split
    · exact moves_finishEditing e
    · exact .refl e

/-- A run is made of such moves. -/
theorem moves_run (e : RibbonEditor α) (es : List EditorEvent) :
    Moves e (((ribbonEditor α).run (.init e) es).state,
      ((ribbonEditor α).run (.init e) es).outputs) :=
  Machine.invariant (I := fun h => Moves e (h.state, h.outputs)) (E := fun _ _ => True)
    (fun h event hmoves _ => hmoves.append (moves_handle h.state event)) (.refl e)
    (Machine.admits_true _ _ es)

end RibbonEditor

/-! ## Where the items are

A move shifts what is between its two places. If nothing there is uneditable all such items stay;
otherwise there is a drag that shifts one. -/

section Places

variable {ribbon : Ribbon α}

/-- Moves neither add rows nor take any away. -/
theorem length_replay (model : List α) (signals : List EditorSignal) :
    (replay model signals).length = model.length := by
  induction signals generalizing model with
  | nil => rfl
  | cons s signals ih =>
    cases s with
    | moved source target => exact ih model
    | move source target => exact (ih _).trans (Ribbon.length_modelMove { model } source target)

/-- A move between editable places that has no other place in between leaves the rest alone. A place
that is not editable is at one of the ends, so it is not between the two. -/
theorem getElem?_replay_move (hends : UneditableAtEnds ribbon) {model : List α}
    (hmodel : (model.length : Int) = ribbon.count) {source target : Int}
    (hsource : ribbon.indexEditable source = true) (htarget : ribbon.indexEditable target = true)
    {i : Int} (hi : i ∈ ribbon.uneditableIndexes) (h0 : 0 ≤ i) :
    (replay model [.move source target])[i.toNat]? = model[i.toNat]? := by
  have hnot : ribbon.indexEditable i = false := by simpa [Ribbon.indexEditable] using hi
  have hsource' : i ≠ source := fun h => by simp [h, hsource] at hnot
  have htarget' : i ≠ target := fun h => by simp [h, htarget] at hnot
  show (({ model } : Ribbon α).modelMove source target).model[i.toNat]? = _
  unfold Ribbon.modelMove
  split
  · rename_i hcan
    have hplaces := Ribbon.canMove_eq_true_iff.mp hcan
    have hcount : ({ model } : Ribbon α).count = model.length := rfl
    rw [hcount] at hplaces
    -- otherwise the place would be between the two
    have hforward : ¬ (source < i ∧ i < target) := fun h => by
      have := hends source i target hplaces.1 h.1 h.2 (by omega) hsource htarget
      simp [this] at hnot
    have hbackward : ¬ (target < i ∧ i < source) := fun h => by
      have := hends target i source hplaces.2.2.1 h.1 h.2 (by omega) htarget hsource
      simp [this] at hnot
    exact getElem?_move_of_outside (l := model) (by omega) (by omega)
  · rfl

/-- If the places that are not editable are at the ends, then no list of moves between editable
places touches them. Each move is looked at from the rows that those before it have left. -/
theorem keepsUneditable_of_ends (hends : UneditableAtEnds ribbon) {signals : List EditorSignal}
    (heditable : ∀ source target, .move source target ∈ signals →
      ribbon.indexEditable source = true ∧ ribbon.indexEditable target = true) :
    KeepsUneditable ribbon signals := by
  intro before source target after hsignals i hi h0
  obtain ⟨hsource, htarget⟩ := heditable source target (by simp [hsignals])
  rw [replay_append]
  refine getElem?_replay_move hends ?_ hsource htarget hi h0
  rw [length_replay]
  rfl

/-- The item at `source` is picked up, and the mouse is moved over the one at `target`. -/
def drag (source target : Int) : List EditorEvent :=
  [.change (.assigned source false [] {}), .editCurrentItem [],
    .change (.assigned target false [] {})]

/-- A drag over the view makes one move, from the first place to the second. This is the shortest
session that goes over a place that is not editable, and the state before it does not matter. -/
theorem outputs_drag {source target : Int} (hplaces : 0 ≤ source ∧ source < target ∧
    target < ribbon.count) (hsource : ribbon.indexEditable source = true)
    (htarget : ribbon.indexEditable target = true) :
    ((ribbonEditor α).run (.init { ribbon }) (drag source target)).outputs =
      [.move source target] := by
  let there : RibbonEditor α := { ribbon := { ribbon with currentIndex := source } }
  -- the place is selected, or was the current one already
  have hselect : (({ ribbon } : RibbonEditor α).change (.assigned source false [] {})) =
      (there, []) := by
    unfold RibbonEditor.change
    by_cases hsame : source = ribbon.currentIndex
    · rw [if_pos hsame]
      simp [there, hsame]
    · rw [if_neg hsame, if_pos (by simp)]
      rfl
  let edited : RibbonEditor α :=
    { there with sourceIndex := source, targetIndex := source, active := true }
  -- the item there can be edited, and becomes the one that is moved
  have hedit : there.editCurrentItem [] = (edited, []) := by
    have heditable : there.ribbon.indexEditable there.ribbon.currentIndex = true := hsource
    have hcurrent : there.ribbon.hasCurrentItem = true :=
      decide_eq_true ⟨hplaces.1, Int.lt_trans hplaces.2.1 hplaces.2.2⟩
    unfold RibbonEditor.editCurrentItem
    dsimp only
    rw [heditable, hcurrent]
    rfl
  -- the second place is editable as well, so the handler goes on to the model
  have hmove : (edited.change (.assigned target false [] {})).2 = [.move source target] := by
    have hother : target ≠ edited.ribbon.currentIndex := by
      show target ≠ source
      omega
    unfold RibbonEditor.change
    rw [if_neg hother, if_neg, if_neg (by omega)]
    · exact RibbonEditor.signals_moveInModel (e := edited.setCurrentIndex target) hsource htarget
    · show ¬ ((!true || decide (source = target)) = true)
      simp
      omega
  show [] ++ _ ++ _ ++ _ = _
  dsimp only [Machine.step, ribbonEditor, History.init]
  rw [hselect]
  dsimp only
  rw [hedit]
  dsimp only
  rw [hmove]
  rfl

/-- **Which tiles stay in place.** If the places that are not editable are all at the ends, then
no edit session, from any state of the editor, moves the item at one of them. If one is between
two editable places and the items differ, then some session does: it drags an item over that
place.

That the items differ is needed for the second half only: of two equal items one cannot say which
of them has been moved. -/
theorem keepsUneditable_iff (ribbon : Ribbon α) :
    (UneditableAtEnds ribbon → ∀ e : RibbonEditor α, e.ribbon = ribbon → ∀ es,
      ((ribbonEditor α).run (.init e) es).state.ribbon.model =
          replay ribbon.model ((ribbonEditor α).run (.init e) es).outputs ∧
        KeepsUneditable ribbon ((ribbonEditor α).run (.init e) es).outputs) ∧
      (ribbon.model.Nodup → ¬ UneditableAtEnds ribbon →
        ∃ es, ¬ KeepsUneditable ribbon ((ribbonEditor α).run (.init { ribbon }) es).outputs) := by
  refine ⟨fun hends e hribbon es => ?_, fun hdistinct hnot => ?_⟩
  · have hmoves := RibbonEditor.moves_run e es
    subst hribbon
    exact ⟨hmoves.model, keepsUneditable_of_ends hends hmoves.editable⟩
  · unfold UneditableAtEnds at hnot
    push Not at hnot
    obtain ⟨a, i, b, h0, hai, hib, hb, heditable, heditable', huneditable⟩ := hnot
    refine ⟨drag a b, fun hkeeps => ?_⟩
    rw [outputs_drag ⟨h0, by omega, hb⟩ heditable heditable'] at hkeeps
    have hmem : i ∈ ribbon.uneditableIndexes := by simpa [Ribbon.indexEditable] using huneditable
    have hsame := hkeeps [] a b [] rfl i hmem (by omega)
    -- but the next item has moved there
    have hlength : ribbon.count = ribbon.model.length := rfl
    have hmoved : (replay ribbon.model [.move a b])[i.toNat]? = ribbon.model[i.toNat + 1]? := by
      rw [← model_modelMove, Ribbon.model_modelMove (by omega) (by omega)]
      exact getElem?_move_between (by omega) (by omega) (by omega)
    have heq : ribbon.model[i.toNat + 1]? = ribbon.model[i.toNat]? := hmoved.symm.trans hsame
    have := (List.getElem?_inj (by omega) hdistinct).mp heq
    omega

/-- The first two of six places and the last one are not editable; the items in between are moved
in both directions, and a move to the last place is refused. -/
theorem keepsUneditable_iff_ends :
    let ribbon : Ribbon Char := ⟨['a', 'b', 'c', 'd', 'e', 'f'], 2, [5, 0, 1]⟩
    let es : List EditorEvent := [.editCurrentItem [], .change (.assigned 4 false [] {}),
      .change (.assigned 3 false [] {}), .change (.assigned 5 false [] {})]
    (((ribbonEditor Char).run (.init { ribbon }) es).state.ribbon.model =
        replay ribbon.model ((ribbonEditor Char).run (.init { ribbon }) es).outputs ∧
      KeepsUneditable ribbon ((ribbonEditor Char).run (.init { ribbon }) es).outputs) ∧
      ((ribbonEditor Char).run (.init { ribbon }) es).outputs = [.move 2 4, .move 4 3] := by
  refine ⟨(keepsUneditable_iff _).1 ?_ _ rfl _, by decide⟩
  intro a i b h0 hai hib hb heditable heditable'
  have hcount : (⟨['a', 'b', 'c', 'd', 'e', 'f'], 2, [5, 0, 1]⟩ : Ribbon Char).count = 6 := rfl
  simp only [Ribbon.indexEditable, List.mem_cons, List.not_mem_nil, or_false,
    decide_eq_true_eq] at *
  omega

/-- The second of three items is not editable. The first one is dragged to the third place, and the
second one goes to the first place. -/
theorem keepsUneditable_counterexample :
    ¬ ∀ (ribbon : Ribbon Char) (es : List EditorEvent),
      KeepsUneditable ribbon ((ribbonEditor Char).run (.init { ribbon }) es).outputs := by
  intro hall
  have hkeeps := hall ⟨['a', 'b', 'c'], 0, [1]⟩ (drag 0 2)
  have hsame := hkeeps [] 0 2 [] (by decide) 1 (by decide) (by decide)
  revert hsame
  decide

end Places

end Eos
