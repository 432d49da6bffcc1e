import WebosFramework.Common.QuickWindow

/-!
# The last write of a window property

A property that is written while a `WebOSQuickWindow` is hidden is set on the shell surface when the
window becomes visible. The pending value stays behind, so that it is set again whenever the window
becomes visible, over what has been written in the meantime.

**`lastWrite_wins_iff`**: the surface of a visible window holds the last write of every property
exactly when each update finds the last writes in what it replays, and no setter of a visible window
is misled by an equal variant with another text.

`PropertiesInv` ties what the window has stored to what has been written and to what the surface
has. Each kind of event has a lemma that says what becomes of it and of the last write;
`handle_spec` puts them together, and the runs follow from it.
-/

namespace WebOSQuickWindow

open EventLoop Qt

variable {R : Type} {same : Variant → Variant → Bool}

/-! ## Writes

The setters of the properties differ in their keys and in how they turn a value into text. For an
event `write` gives both, and `handle_write` is the specification of all of them. -/

/-- The property and the value that an event is about. -/
def WindowEvent.write : WindowEvent R → Option (String × Variant)
  | .setTitle title => some (wpTitle, .string title)
  | .setSubtitle subtitle => some (wpSubtitle, .string subtitle)
  | .setWindowType type => some (wpWindowType, .string type)
  | .setAppId id => some (wpAppId, .string id)
  | .setDisplayAffinity affinity => some (wpDisplayAffinity, .int affinity)
  | .setLaunchParams launchParams => some (wpParams, .string launchParams)
  | .updateWindowProperties key value => some (key, value)
  | _ => none

/-- The text of the last write to `key`. -/
def lastWrite (writes : List (String × Variant)) (key : String) : Option String :=
  (writes.filter (·.1 = key)).getLast?.map fun write => write.2.toString

@[simp] theorem lastWrite_concat (writes : List (String × Variant)) (key key' : String)
    (value : Variant) :
    lastWrite (writes ++ [(key, value)]) key' =
      if key = key' then some value.toString else lastWrite writes key' := by
  unfold lastWrite
  by_cases hkey : key = key'
  · simp [hkey]
  · simp [hkey]

/-- The setter takes the value for the one that the property has. -/
def WindowEvent.isDropped (same : Variant → Variant → Bool) (w : Window R) :
    WindowEvent R → Bool
  | .updateWindowProperties _ _ => false
  | e => e.write.any fun write => (w.windowProperties[write.1]?).any (same write.2)

/-- The property gets the value, and the surface as well if it can. -/
def Window.written (w : Window R) (key : String) (value : Variant) : Window R :=
  { w with windowProperties := w.windowProperties.insert key value }.setWindowProperty key
    value.toString

/-- **What a write does**: it is dropped, or it is stored and set. -/
theorem handle_write (same : Variant → Variant → Bool) (w : Window R) {e : WindowEvent R}
    {key : String} {value : Variant} (he : e.write = some (key, value)) :
    ((window R same).handle w e).1 =
      if e.isDropped same w then w else w.written key value := by
  -- every write but the one that QML makes is that of a setter
  have hsetter (key : String) (value : Variant) (text : String) (htext : value.toString = text)
      (changed : Signal) : (w.setStored same key value text changed).1 =
        if (w.windowProperties[key]?).any (same value) then w else w.written key value := by
    subst htext
    unfold Window.setStored
    split <;> rfl
  cases e <;> cases he
  case updateWindowProperties => rfl
  all_goals exact hsetter _ _ _ rfl _

/-! ## What the other events leave alone

Everything that does not write a property leaves the properties alone, those that are pending and
those of the surface. -/

/-- The two windows do not differ in anything that properties depend on. -/
structure Window.SameProperties (w w' : Window R) : Prop where
  /-- The two windows are visible, updated and have a surface alike. -/
  isVisible : w'.isVisible = w.isVisible
  isUpdated : w'.isUpdated = w.isUpdated
  hasSurface : w'.hasSurface = w.hasSurface
  properties : w'.surface.properties = w.surface.properties
  windowProperties : w'.windowProperties = w.windowProperties
  pendingProperties : w'.pendingProperties = w.pendingProperties

/-- A window has the properties it has. -/
theorem Window.SameProperties.refl (w : Window R) : w.SameProperties w := by
  constructor <;> rfl

/-- An input region is no property. -/
theorem sameProperties_setInputRegion (w : Window R) (region : Option R) :
    w.SameProperties (w.setInputRegion region) := by
  obtain ⟨_, _, hset⟩ := w.exists_setInputRegion_eq region
  rw [hset]
  constructor <;> rfl

/-- The settings are no properties. -/
theorem sameProperties_updatePendingSettings (w : Window R) :
    w.SameProperties w.updatePendingSettings := by
  obtain ⟨_, _, hupdate, hproperties, -⟩ := w.exists_updatePendingSettings_eq
  rw [hupdate]
  exact ⟨rfl, rfl, rfl, hproperties, rfl, rfl⟩

/-- Any other event leaves the properties alone. A case for each event. A setting and a property are
kept in different members, so this is a frame lemma. -/
theorem handle_other (same : Variant → Variant → Bool) (w : Window R) {e : WindowEvent R}
    (he : e.write = none)
    (hvisible : ∀ visible, e ≠ .setVisible visible) (hchanged : e ≠ .visibleChanged)
    (hsurface : ∀ present, e ≠ .setSurface present) :
    w.SameProperties ((window R same).handle w e).1 := by
  cases e with
  -- events that are about a setting of another kind
  | setInternalWindowState state windowState =>
    obtain ⟨_, _, hset⟩ := w.exists_setInternalWindowState_eq state windowState
    simp only [window, hset]
    constructor <;> rfl
  | setLocationHint hint =>
    obtain ⟨_, _, hset⟩ := w.exists_setLocationHint_eq hint
    simp only [window, hset]
    constructor <;> rfl
  | setAddon addon =>
    obtain ⟨_, _, hset⟩ := w.exists_setAddon_eq addon
    simp only [window, hset]
    constructor <;> rfl
  | resetAddon =>
    obtain ⟨_, _, hset⟩ := w.exists_resetAddon_eq
    simp only [window, hset]
    constructor <;> rfl
  | setInputRegion region => exact sameProperties_setInputRegion w region
  | setKeyMask keyMask =>
    obtain ⟨_, hset⟩ := w.exists_setKeyMask_eq keyMask
    simp only [window, hset]
    constructor <;> rfl
  | expose => exact sameProperties_setInputRegion w w.inputRegion
  | surfaceSignal signal => exact .refl w
  -- the events that have lemmas of their own
  | setVisible visible => exact absurd rfl (hvisible visible)
  | visibleChanged => exact absurd rfl hchanged
  | setSurface present => exact absurd rfl (hsurface present)
  | _ => cases he

/-! ## The replay

An update sets on the surface what is pending, key by key. Later writes to a key replace earlier
ones, as in any map. -/

/-- On a visible window the pending properties are set on the surface, one after the other. -/
theorem foldl_setWindowProperty {w : Window R} (hsurface : w.hasSurface = true)
    (hvisible : w.isVisible = true) (entries : List (String × String)) :
    entries.foldl (fun w entry => w.setWindowProperty entry.1 entry.2) w =
      { w with surface :=
        entries.foldl (fun ss entry => ss.setProperty entry.1 entry.2) w.surface } := by
  induction entries generalizing w with
  | nil => rfl
  | cons entry entries ih =>
    have hset : w.setWindowProperty entry.1 entry.2 =
        { w with surface := w.surface.setProperty entry.1 entry.2 } := by
      simp [Window.setWindowProperty, hsurface, hvisible]
    rw [List.foldl_cons, List.foldl_cons, hset]
    exact ih hsurface hvisible

/-- The surface has the properties of the list afterwards, as a map would. -/
theorem foldl_setProperty (ss : ShellSurface R) (entries : List (String × String)) :
    (entries.foldl (fun ss entry => ss.setProperty entry.1 entry.2) ss).properties =
      entries.foldl (fun m entry => m.insert entry.1 entry.2) ss.properties := by
  induction entries generalizing ss with
  | nil => rfl
  | cons entry entries ih => exact ih (ss.setProperty entry.1 entry.2)

/-- An update sets what is pending, and nothing else, on the surface of a visible window. -/
theorem updatePendingWindowProperties_of_visible {w : Window R} (hsurface : w.hasSurface = true)
    (hvisible : w.isVisible = true) :
    w.updatePendingWindowProperties.surface.properties =
        w.surface.properties.insertAll w.pendingProperties ∧
      w.updatePendingWindowProperties.isVisible = true ∧
      w.updatePendingWindowProperties.hasSurface = true ∧
      w.updatePendingWindowProperties.windowProperties = w.windowProperties ∧
      w.updatePendingWindowProperties.pendingProperties = w.pendingProperties := by
  have hsame := sameProperties_updatePendingSettings w
  unfold Window.updatePendingWindowProperties
  rw [if_pos hvisible, if_pos hsurface]
  dsimp only
  rw [foldl_setWindowProperty (hsame.hasSurface.trans hsurface) (hsame.isVisible.trans hvisible)]
  refine ⟨?_, hsame.isVisible.trans hvisible, hsame.hasSurface.trans hsurface,
    hsame.windowProperties, hsame.pendingProperties⟩
  dsimp only
  rw [foldl_setProperty, hsame.pendingProperties, hsame.properties]
  rfl

section Invariant

variable (ws : List (String × Variant)) (w : Window R)

/-- The surface of a visible window that has been updated holds the last write of each property. -/
def LastWriteWins : Prop :=
  w.isVisible = true → w.hasSurface = true → w.isUpdated = true →
    ∀ write ∈ ws, w.surface.properties[write.1]? = lastWrite ws write.1

/-- The value of a property after the next update, as far as the window knows: what is pending for
it, or else what it has been set to. -/
def Window.toReplay (key : String) : Option String :=
  w.pendingProperties[key]?.or (w.windowProperties[key]?.map Variant.toString)

/-- An update of a visible window finds the last write of each property in what it replays. A setter
of a visible window that drops its value would have repeated the last write. -/
def KeepsLastWrites (same : Variant → Variant → Bool) : WindowEvent R → Prop
  | .visibleChanged => w.isVisible = true →
      ∀ write ∈ ws, w.toReplay write.1 = lastWrite ws write.1
  | e => w.isVisible = true → w.isUpdated = true → e.isDropped same w = true →
      ∀ write ∈ e.write, lastWrite ws write.1 = some write.2.toString

instance (same : Variant → Variant → Bool) (e : WindowEvent R) :
    Decidable (KeepsLastWrites ws w same e) := by
  cases e <;> unfold KeepsLastWrites <;> infer_instance

/-- What holds in every run: a property that has been written has a value in the window, which the
surface has too unless something is pending for the property. -/
structure PropertiesInv : Prop where
  /-- A visible window has a surface. -/
  surface : w.isVisible = true → w.hasSurface = true
  /-- Whatever has been written is stored. -/
  written : ∀ key : String, (lastWrite ws key).isSome = (w.windowProperties[key]?).isSome
  /-- What is stored and not pending is on the surface. -/
  shown : ∀ (key : String) (stored : Variant), w.windowProperties[key]? = some stored →
    w.pendingProperties[key]? = none → w.surface.properties[key]? = some stored.toString

instance : Decidable (LastWriteWins ws w) := by
  unfold LastWriteWins
  infer_instance

variable {ws} {w}

/-- The written properties are those that have a last write. -/
theorem forall_lastWrite_iff (held : String → Option String) :
    (∀ write ∈ ws, held write.1 = lastWrite ws write.1) ↔
      ∀ key text, lastWrite ws key = some text → held key = some text := by
  have hmem (key : String) : (lastWrite ws key).isSome ↔ ∃ value, (key, value) ∈ ws := by
    rw [lastWrite, Option.isSome_map, List.getLast?_isSome, Ne, List.filter_eq_nil_iff]
    simp
  constructor
  · intro h key text htext
    obtain ⟨value, hvalue⟩ := (hmem key).mp (by simp [htext])
    exact (h _ hvalue).trans htext
  · intro h write hwrite
    obtain ⟨text, htext⟩ := Option.isSome_iff_exists.mp ((hmem write.1).mpr ⟨write.2, hwrite⟩)
    rw [htext]
    exact h _ _ htext

/-- What the definition says, for each key and text. -/
theorem lastWriteWins_iff : LastWriteWins ws w ↔
    (w.isVisible = true → w.hasSurface = true → w.isUpdated = true →
      ∀ key text, lastWrite ws key = some text → w.surface.properties[key]? = some text) :=
  imp_congr_right fun _ => imp_congr_right fun _ => imp_congr_right fun _ =>
    forall_lastWrite_iff fun key => w.surface.properties[key]?

end Invariant

section Written

variable (w : Window R) (key : String) (value : Variant)

/-- What is written is stored. -/
theorem written_windowProperties :
    (w.written key value).windowProperties = w.windowProperties.insert key value := by
  unfold Window.written Window.setWindowProperty
  split <;> rfl

/-- Writing does not show or update the window. -/
theorem written_state : (w.written key value).isVisible = w.isVisible ∧
    (w.written key value).isUpdated = w.isUpdated ∧
    (w.written key value).hasSurface = w.hasSurface := by
  unfold Window.written Window.setWindowProperty
  split <;> exact ⟨rfl, rfl, rfl⟩

/-- A write goes to the surface or to what is pending, and leaves the other one alone. -/
theorem written_cases :
    (w.hasSurface = true ∧ w.isVisible = true ∧
      (w.written key value).surface.properties =
        w.surface.properties.insert key value.toString ∧
      (w.written key value).pendingProperties = w.pendingProperties) ∨
    (¬ (w.hasSurface = true ∧ w.isVisible = true) ∧
      (w.written key value).surface.properties = w.surface.properties ∧
      (w.written key value).pendingProperties =
        w.pendingProperties.insert key value.toString) := by
  unfold Window.written Window.setWindowProperty
  split
  · rename_i hready
    rw [Bool.and_eq_true] at hready
    exact .inl ⟨hready.1, hready.2, rfl, rfl⟩
  · rename_i hready
    rw [Bool.and_eq_true] at hready
    exact .inr ⟨hready, rfl, rfl⟩

end Written

section Steps

variable {ws : List (String × Variant)} {w w' : Window R} {key : String} {value : Variant}

/-! ### The invariant

A property that was written has a value in the window. The surface has it as well, unless
something is still pending for it. -/

/-- The invariant is about the properties only. -/
theorem PropertiesInv.of_same (hI : PropertiesInv ws w) (hsame : w.SameProperties w') :
    PropertiesInv ws w' where
  surface := by
    rw [hsame.isVisible, hsame.hasSurface]
    exact hI.surface
  written := by
    rw [hsame.windowProperties]
    exact hI.written
  shown := by
    rw [hsame.windowProperties, hsame.pendingProperties, hsame.properties]
    exact hI.shown

/-- A write is stored, and is on the surface or pending. A hidden window has nothing to be compared
with, so the write is pending there until the window is shown. -/
theorem PropertiesInv.write (hI : PropertiesInv ws w) (key : String) (value : Variant) :
    PropertiesInv (ws ++ [(key, value)]) (w.written key value) where
  surface := by
    obtain ⟨hvisible, -, hsurface⟩ := written_state w key value
    rw [hvisible, hsurface]
    exact hI.surface
  -- the write is the last one of its key
  written := by
    intro key'
    rw [written_windowProperties, lastWrite_concat, QMap.getElem?_insert]
    split
    · rfl
    · exact hI.written key'
  shown := by
    intro key' stored hstored hpending
    rw [written_windowProperties, QMap.getElem?_insert] at hstored
    rcases written_cases w key value with
      ⟨-, -, hproperties, hpending'⟩ | ⟨-, hproperties, hpending'⟩
    · -- the surface takes the write
      rw [hproperties, QMap.getElem?_insert]
      rw [hpending'] at hpending
      split at hstored
      · rename_i hkey
        rw [if_pos hkey, Option.some.inj hstored]
      · rename_i hkey
        rw [if_neg hkey]
        exact hI.shown key' stored hstored hpending
    · -- the write is pending, so nothing is said of its key
      rw [hpending', QMap.getElem?_insert] at hpending
      split at hpending
      · cases hpending
      · rename_i hkey
        rw [if_neg hkey] at hstored
        rw [hproperties]
        exact hI.shown key' stored hstored hpending

/-- A write is dropped only if something is stored under its key. -/
theorem PropertiesInv.drop (hI : PropertiesInv ws w)
    (hstored : (w.windowProperties[key]?).isSome = true) :
    PropertiesInv (ws ++ [(key, value)]) w where
  surface := hI.surface
  written := by
    intro key'
    rw [lastWrite_concat]
    split
    · rename_i hkey
      rw [← hkey, hstored]
      rfl
    · exact hI.written key'
  shown := hI.shown

/-- An update sets what is pending, which stays stored and pending. -/
theorem PropertiesInv.update (hI : PropertiesInv ws w) :
    PropertiesInv ws { w.updatePendingWindowProperties with isUpdated := true } := by
  by_cases hvisible : w.isVisible = true
  · obtain ⟨hproperties, hvisible', hsurface', hwindow, hpending⟩ :=
      updatePendingWindowProperties_of_visible (hI.surface hvisible) hvisible
    constructor
    · exact fun _ => hsurface'
    · dsimp only
      rw [hwindow]
      exact hI.written
    · intro key stored hstored hnone
      dsimp only at hstored hnone ⊢
      rw [hwindow] at hstored
      rw [hpending] at hnone
      rw [hproperties, QMap.getElem?_insertAll, hnone]
      exact hI.shown key stored hstored hnone
  · rw [Window.updatePendingWindowProperties, if_neg hvisible]
    exact { hI with }

/-! ### The last write

What each kind of event does to the property that is to be proved, from a state with the
invariant. -/

/-- What wins does not change with anything else. -/
theorem LastWriteWins.of_same (hsame : w.SameProperties w') (hwins : LastWriteWins ws w) :
    LastWriteWins ws w' := by
  intro hvisible hsurface hupdated
  rw [hsame.properties]
  exact hwins (hsame.isVisible ▸ hvisible) (hsame.hasSurface ▸ hsurface)
    (hsame.isUpdated ▸ hupdated)

/-- A write that is not dropped wins. On the surface it replaces what was there under its key, and
other keys are as before. -/
theorem LastWriteWins.write (hwins : LastWriteWins ws w) :
    LastWriteWins (ws ++ [(key, value)]) (w.written key value) := by
  rw [lastWriteWins_iff] at hwins ⊢
  intro hvisible hsurface hupdated key' text htext
  obtain ⟨hvisible', hupdated', hsurface'⟩ := written_state w key value
  rw [hvisible'] at hvisible
  rw [hsurface'] at hsurface
  rw [hupdated'] at hupdated
  rcases written_cases w key value with
    ⟨-, -, hproperties, -⟩ | ⟨hhidden, -, -⟩
  · rw [hproperties, QMap.getElem?_insert]
    rw [lastWrite_concat] at htext
    split at htext
    · rename_i hkey
      rw [if_pos hkey]
      exact htext
    · rename_i hkey
      rw [if_neg hkey]
      exact hwins hvisible hsurface hupdated key' text htext
  · exact absurd ⟨hsurface, hvisible⟩ hhidden

/-- A dropped write is kept exactly if it repeats the last one. The surface still has the last write
before, so a dropped one of another value is lost. -/
theorem lastWriteWins_drop_iff (hI : PropertiesInv ws w) (hwins : LastWriteWins ws w)
    (hstored : (w.windowProperties[key]?).isSome = true) :
    LastWriteWins (ws ++ [(key, value)]) w ↔
      (w.isVisible = true → w.isUpdated = true → lastWrite ws key = some value.toString) := by
  rw [lastWriteWins_iff] at hwins ⊢
  constructor
  · intro hdropped hvisible hupdated
    have hsurface := hI.surface hvisible
    -- the surface cannot hold two texts
    obtain ⟨text, htext⟩ := Option.isSome_iff_exists.mp ((hI.written key).trans hstored)
    have hold := hwins hvisible hsurface hupdated key text htext
    have hnew := hdropped hvisible hsurface hupdated key value.toString (by simp)
    rw [htext, ← hold, hnew]
  · intro hrepeats hvisible hsurface hupdated key' text htext
    rw [lastWrite_concat] at htext
    refine hwins hvisible hsurface hupdated key' text ?_
    split at htext
    · rename_i hkey
      rw [← hkey, hrepeats hvisible hupdated]
      exact htext
    · exact htext

/-- After an update the last writes have won exactly if they are what it has set. What the update
sets is `toReplay`: the pending write of a key, or else the stored one. -/
theorem lastWriteWins_update_iff (hI : PropertiesInv ws w) :
    LastWriteWins ws { w.updatePendingWindowProperties with isUpdated := true } ↔
      (w.isVisible = true → ∀ write ∈ ws, w.toReplay write.1 = lastWrite ws write.1) := by
  rw [lastWriteWins_iff, forall_lastWrite_iff w.toReplay]
  by_cases hvisible : w.isVisible = true
  · obtain ⟨hproperties, hvisible', hsurface', -, -⟩ :=
      updatePendingWindowProperties_of_visible (hI.surface hvisible) hvisible
    -- the replay overwrites what is pending, and the rest is on the surface already
    have hreplay (key text : String) (htext : lastWrite ws key = some text) :
        w.updatePendingWindowProperties.surface.properties[key]? = w.toReplay key := by
      rw [hproperties, QMap.getElem?_insertAll, Window.toReplay]
      obtain ⟨stored, hstored⟩ := Option.isSome_iff_exists.mp
        ((hI.written key).symm.trans (Option.isSome_iff_exists.mpr ⟨text, htext⟩))
      cases hpending : w.pendingProperties[key]? with
      | some pending => rfl
      | none => simp [hI.shown key stored hstored hpending, hstored]
    constructor
    · intro hwins _ key text htext
      rw [← hreplay key text htext]
      exact hwins hvisible' hsurface' rfl key text htext
    · intro hlast _ _ _ key text htext
      exact (hreplay key text htext).trans (hlast hvisible key text htext)
  · rw [Window.updatePendingWindowProperties, if_neg hvisible]
    exact ⟨fun _ h => absurd h hvisible, fun _ h => absurd h hvisible⟩

/-! ### Single events

The three kinds of events, put together: writes, updates, and the others. -/

/-- Events that write nothing keep the last writes, but for an update. -/
theorem keepsLastWrites_of_none (ws : List (String × Variant)) (w : Window R)
    (same : Variant → Variant → Bool) {e : WindowEvent R} (he : e.write = none)
    (hchanged : e ≠ .visibleChanged) : KeepsLastWrites ws w same e := by
  cases e
  case visibleChanged => exact absurd rfl hchanged
  all_goals
    intro _ _ _ write hwrite
    rw [he] at hwrite
    cases hwrite

/-- Where a write is dropped something equal is stored. -/
theorem isSome_of_isDropped {e : WindowEvent R} (he : e.write = some (key, value))
    (hdropped : e.isDropped same w = true) : (w.windowProperties[key]?).isSome = true := by
  have hany : (w.windowProperties[key]?).any (same value) = true := by
    cases e <;> cases he
    case updateWindowProperties => cases hdropped
    all_goals simpa [WindowEvent.isDropped, WindowEvent.write] using hdropped
  obtain ⟨stored, hstored, -⟩ := (Option.any_eq_true _ _).mp hany
  simp [hstored]

/-- A write keeps the last write unless it is dropped and is a new one. -/
theorem keepsLastWrites_of_write {e : WindowEvent R} (he : e.write = some (key, value)) :
    KeepsLastWrites ws w same e ↔ (w.isVisible = true → w.isUpdated = true →
      e.isDropped same w = true → lastWrite ws key = some value.toString) := by
  have hkeeps : KeepsLastWrites ws w same e ↔ (w.isVisible = true → w.isUpdated = true →
      e.isDropped same w = true →
        ∀ write ∈ e.write, lastWrite ws write.1 = some write.2.toString) := by
    cases e
    case visibleChanged => cases he
    all_goals exact Iff.rfl
  rw [hkeeps, he]
  simp

end Steps

section Runs

variable {ws constructed : List (String × Variant)}
  {h : History (Window R) (WindowEvent R) Signal} {e : WindowEvent R}

/-- All writes so far, after those of the constructor. -/
def writes (constructed : List (String × Variant))
    (h : History (Window R) (WindowEvent R) Signal) : List (String × Variant) :=
  constructed ++ h.inputs.filterMap WindowEvent.write

/-- The writes of an event come behind those before. -/
theorem writes_step : writes constructed ((window R same).step h e) =
    writes constructed h ++ e.write.toList := by
  rw [writes, Machine.step_inputs, List.filterMap_append, writes, List.append_assoc]
  cases hwrite : e.write <;> simp [hwrite]

/-- There is a shell surface whenever the window is visible. -/
def SurfaceWhileVisible (w : Window R) : WindowEvent R → Prop
  | .setVisible visible => visible = true → w.hasSurface = true
  | .setSurface present => present = false → w.isVisible = false
  | _ => True

instance (w : Window R) (e : WindowEvent R) : Decidable (SurfaceWhileVisible w e) := by
  cases e <;> unfold SurfaceWhileVisible <;> infer_instance

/-- What one event does to the invariant and to the last write. The two parts go together, as a
write that is stored is what later updates replay. -/
theorem handle_spec {w : Window R} (hI : PropertiesInv ws w) (hE : SurfaceWhileVisible w e) :
    PropertiesInv (ws ++ e.write.toList) ((window R same).handle w e).1 ∧
      (LastWriteWins ws w →
        (LastWriteWins (ws ++ e.write.toList) ((window R same).handle w e).1 ↔
          KeepsLastWrites ws w same e)) := by
  cases hwrite : e.write with
  | some write =>
    obtain ⟨key, value⟩ := write
    rw [handle_write same w hwrite, keepsLastWrites_of_write hwrite]
    cases hdropped : e.isDropped same w with
    | true =>
      -- the setter has taken the value for the one that is there
      have hstored := isSome_of_isDropped hwrite hdropped
      refine ⟨hI.drop hstored, fun hwins => (lastWriteWins_drop_iff hI hwins hstored).trans ?_⟩
      exact ⟨fun h hvisible hupdated _ => h hvisible hupdated,
        fun h hvisible hupdated => h hvisible hupdated rfl⟩
    | false =>
      -- nothing is dropped, so nothing is asked for
      refine ⟨hI.write key value, fun hwins => ⟨fun _ _ _ h => absurd h (by simp), ?_⟩⟩
      exact fun _ => hwins.write
  | none =>
    rw [Option.toList_none, List.append_nil]
    by_cases hchanged : e = .visibleChanged
    · subst hchanged
      exact ⟨hI.update, fun _ => lastWriteWins_update_iff hI⟩
    -- every other event keeps both, whatever has been written
    have hkeeps := keepsLastWrites_of_none ws w same hwrite hchanged
    suffices hkept : PropertiesInv ws ((window R same).handle w e).1 ∧
        (LastWriteWins ws w → LastWriteWins ws ((window R same).handle w e).1) from
      ⟨hkept.1, fun hwins => ⟨fun _ => hkeeps, fun _ => hkept.2 hwins⟩⟩
    by_cases hset : ∃ visible, e = .setVisible visible
    · obtain ⟨visible, rfl⟩ := hset
      dsimp only [window]
      split
      · exact ⟨hI, id⟩
      · -- until its handler has run, nothing is said about a change
        exact ⟨{ hI with surface := hE }, fun _ _ _ hupdated => by cases hupdated⟩
    by_cases hsurface : ∃ present, e = .setSurface present
    · obtain ⟨present, rfl⟩ := hsurface
      have hkeep : w.isVisible = true → present = true := by
        intro hshown
        by_contra hgone
        have hhidden := hE (by simpa using hgone)
        rw [hshown] at hhidden
        cases hhidden
      exact ⟨{ hI with surface := hkeep },
        fun hwins hshown _ hupdated => hwins hshown (hI.surface hshown) hupdated⟩
    have hsame := handle_other same w hwrite (fun v h => hset ⟨v, h⟩) hchanged
      (fun v h => hsurface ⟨v, h⟩)
    exact ⟨hI.of_same hsame, LastWriteWins.of_same hsame⟩

/-! ## Runs of a window

A window starts with the writes of its constructor, so that the past is never empty. -/

/-- What the constructor writes. -/
def constructorWrites (applicationName : String) (displayId : Option Int) :
    List (String × Variant) :=
  (wpAppId, .string applicationName) ::
    displayId.toList.map fun displayId => (wpDisplayAffinity, .int displayId)

/-- A new window has what its constructor has written, and is not visible. The writes of the
constructor are those of any caller, made to a window without properties. -/
theorem propertiesInv_new (same : Variant → Variant → Bool) (applicationName : String)
    (displayId : Option Int) (hasSurface : Bool) :
    PropertiesInv (constructorWrites applicationName displayId)
      (Window.new same applicationName displayId hasSurface : Window R) ∧
    (Window.new same applicationName displayId hasSurface : Window R).isVisible = false := by
  have hempty : PropertiesInv [] ({ hasSurface } : Window R) := by
    constructor <;> simp [lastWrite]
  have hname := hempty.write wpAppId (.string applicationName)
  have hhidden := (written_state ({ hasSurface } : Window R) wpAppId (.string applicationName)).1
  cases displayId with
  | none => exact ⟨hname, hhidden⟩
  | some displayId =>
    -- the display affinity is a write of its own, to another key
    have hnew : (Window.new same applicationName (some displayId) hasSurface : Window R) =
        (({ hasSurface } : Window R).written wpAppId (.string applicationName)).written
          wpDisplayAffinity (.int displayId) := by
      have hdrop : (WindowEvent.setDisplayAffinity displayId : WindowEvent R).isDropped same
          (({ hasSurface } : Window R).written wpAppId (.string applicationName)) = false := by
        simp [WindowEvent.isDropped, WindowEvent.write, written_windowProperties,
          QMap.getElem?_insert, wpAppId, wpDisplayAffinity]
      have hset := handle_write same
        (({ hasSurface } : Window R).written wpAppId (.string applicationName))
        (e := .setDisplayAffinity displayId) rfl
      rw [hdrop] at hset
      exact hset
    rw [hnew]
    exact ⟨hname.write wpDisplayAffinity (.int displayId), (written_state _ _ _).1.trans hhidden⟩

/-- The exactness rule for the runs of a new window in which there is a shell surface whenever the
window is visible. A new window is hidden. -/
theorem always_iff_admits_of_surface {applicationName : String} {displayId : Option Int}
    {hasSurface : Bool} {P : History (Window R) (WindowEvent R) Signal → Prop}
    {C : History (Window R) (WindowEvent R) Signal → WindowEvent R → Prop}
    (hexact : ∀ h e, PropertiesInv (writes (constructorWrites applicationName displayId) h) h.state →
      P h → SurfaceWhileVisible h.state e → (P ((window R same).step h e) ↔ C h e))
    (hnew : (Window.new same applicationName displayId hasSurface : Window R).isVisible = false →
      P (.init (.new same applicationName displayId hasSurface)))
    {es : List (WindowEvent R)}
    (hes : (window R same).Admits (fun h => SurfaceWhileVisible h.state)
      (.init (.new same applicationName displayId hasSurface)) es) :
    (window R same).Always P (.init (.new same applicationName displayId hasSurface)) es ↔
      (window R same).Admits C (.init (.new same applicationName displayId hasSurface)) es := by
  obtain ⟨hinv, hhidden⟩ := propertiesInv_new (R := R) same applicationName displayId hasSurface
  refine Machine.always_iff_admits
    (I := fun h => PropertiesInv (writes (constructorWrites applicationName displayId) h) h.state)
    ?_ hexact ?_ (hnew hhidden) hes
  · intro h e hI hE
    rw [writes_step]
    exact (handle_spec hI hE).1
  · simpa [writes, History.init] using hinv

/-- In every run in which there is a shell surface whenever the window is visible: a visible window
that has been updated always has a surface with the last write of every property, if and only if no
step misses one.

By `Machine.always_iff_admits` with `PropertiesInv`; a new window is hidden, so the property holds
at first, and `handle_spec` says of each event whether it still does. -/
theorem lastWrite_wins_iff (same : Variant → Variant → Bool) (applicationName : String)
    (displayId : Option Int) (hasSurface : Bool) (es : List (WindowEvent R))
    (hes : (window R same).Admits (fun h => SurfaceWhileVisible h.state)
      (.init (.new same applicationName displayId hasSurface)) es) :
    (window R same).Always
        (fun h => LastWriteWins (writes (constructorWrites applicationName displayId) h) h.state)
        (.init (.new same applicationName displayId hasSurface)) es ↔
      (window R same).Admits
        (fun h => KeepsLastWrites (writes (constructorWrites applicationName displayId) h)
          h.state same)
        (.init (.new same applicationName displayId hasSurface)) es := by
  refine always_iff_admits_of_surface ?_ ?_ hes
  · intro h e hI hwins hE
    rw [writes_step]
    exact (handle_spec hI hE).2 hwins
  · intro hhidden hvisible
    cases hhidden.symm.trans hvisible

/-- Variants of one type are equal if their values are, and others are not. -/
def sameVariant (a b : Variant) : Bool := a = b

/-- The title is set while the window is hidden, and once more when it has been shown. -/
def titleBeforeShow : List (WindowEvent Unit) :=
  [.setTitle "Loading", .setVisible true, .visibleChanged, .setTitle "Ready",
    .setDisplayAffinity 1]

/-- The title is set while the window is hidden, and the surface has it after the show. -/
theorem lastWrite_wins_iff_titleBeforeShow :
    (window Unit sameVariant).Always
      (fun h => LastWriteWins (writes (constructorWrites "app" none) h) h.state)
      (.init (.new sameVariant "app" none true)) titleBeforeShow :=
  (lastWrite_wins_iff sameVariant "app" none true titleBeforeShow (by decide)).mpr (by decide)

/-- And then the window is hidden and shown again. -/
def titleBeforeSecondShow : List (WindowEvent Unit) :=
  titleBeforeShow ++ [.setVisible false, .visibleChanged, .setVisible true, .visibleChanged]

/-- The surface has the old title again after the second show. -/
theorem not_lastWriteWins_titleBeforeSecondShow :
    (window Unit sameVariant).Admits (fun h => SurfaceWhileVisible h.state)
      (.init (.new sameVariant "app" none true)) titleBeforeSecondShow ∧
    ¬ (window Unit sameVariant).Always
      (fun h => LastWriteWins (writes (constructorWrites "app" none) h) h.state)
      (.init (.new sameVariant "app" none true)) titleBeforeSecondShow := by
  refine ⟨by decide, fun hall => ?_⟩
  have hlast := hall.last
  revert hlast
  decide

end Runs

end WebOSQuickWindow
