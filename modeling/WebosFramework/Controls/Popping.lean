import WebosFramework.Controls.Settled

/-!
# Popping a page

`pop` shortens the array before it looks at what it has taken out of it. If that is not a page, or
what is then on top is none, the call throws or leaves the stack without a current page, and the
array stays short.

* `Placed`: in every run a page is only ever at the place its incubator was created for, so no page
  is in the array twice.
* `allOrNothing_iff`: which states `pop` leaves alone or takes exactly the current page from.
* `pops_allOrNothing_iff`: all calls of a run are like that, and every pending incubation keeps the
  entry reserved for its page, exactly in the runs that only call `pop` in such states.
-/

namespace Eos

open EventLoop

namespace PageStack

/-! ## Where the pages are

An incubator knows the place in the array that was reserved for its page. Incubations and
transitions keep every page at the place of its incubator. -/

/-- The place in the array that an incubator was created for. -/
def place (s : PageStack) (id : IncubatorId) : Option Nat :=
  s.incubators[id]?.map (·.pushAtPos)

/-- Incubators and pages are at the places the incubators were created for. -/
structure Placed (s : PageStack) : Prop where
  /-- An incubator is kept at the place it was made for. -/
  incubator : ∀ (i : Nat) (id : IncubatorId), s.incubator[i]? = some (some id) →
    s.place id = some i
  /-- A page is at the place of its incubator. -/
  page : ∀ (i : Nat) (p : PageId), s.pageStack[i]? = some (.page p) → s.place p = some i

/-- In a new stack there is nothing to be placed. -/
theorem placed_init (delegate : PageStackDelegate) : ({ delegate } : PageStack).Placed := by
  constructor <;> simp

section Placed

variable {s s' : PageStack}

/-- A step keeps this if it leaves the places alone and puts nothing new but where it belongs. -/
theorem Placed.of_step (h : s.Placed) (hplace : ∀ id i, s.place id = some i → s'.place id = some i)
    (hincubator : ∀ (i : Nat) (id : IncubatorId), s'.incubator[i]? = some (some id) →
      s.incubator[i]? = some (some id) ∨ s'.place id = some i)
    (hpage : ∀ (i : Nat) (p : PageId), s'.pageStack[i]? = some (.page p) →
      s.pageStack[i]? = some (.page p) ∨ s'.place p = some i) : s'.Placed where
  incubator i id hid := by
    rcases hincubator i id hid with hold | hnew
    · exact hplace id i (h.incubator i id hold)
    · exact hnew
  page i p hp := by
    rcases hpage i p hp with hold | hnew
    · exact hplace p i (h.page i p hold)
    · exact hnew

/-- Reserving an entry makes an incubator for it. -/
theorem Placed.reserve (h : s.Placed) (push : Incubator) : (s.reserve push).Placed := by
  have hold (id : IncubatorId) (i : Nat) (hid : s.place id = some i) :
      (s.reserve push).place id = some i := by
    obtain ⟨push', hpush', hpos⟩ := Option.map_eq_some_iff.mp hid
    have hlt : id < s.incubators.length := (List.getElem?_eq_some_iff.mp hpush').1
    have hpush'' : (s.incubators ++ [push])[id]? = some push' := by
      rw [List.getElem?_append_left hlt, hpush']
    exact Option.map_eq_some_iff.mpr ⟨push', hpush'', hpos⟩
  refine h.of_step hold (fun i id hid => ?_) (fun i p hp => ?_)
  · rcases of_getElem?_assign hid with ⟨rfl, heq⟩ | hid | heq
    · -- the new incubator
      obtain rfl := Option.some.inj heq
      exact .inr (congrArg (Option.map _) (incubators_reserve_self s push))
    · exact .inl hid
    · cases heq
  · rcases of_getElem?_assign hp with ⟨-, heq⟩ | hp | heq
    · cases heq
    · exact .inl hp
    · cases heq

/-- Incubators keep their places when their status changes. -/
theorem Placed.setStatus (h : s.Placed) {id : IncubatorId} {push : Incubator}
    (hid : s.incubators[id]? = some push) (status : Status) :
    (s.setStatus id push status).Placed := by
  refine h.of_step (fun id' i hid' => ?_) (fun _ _ => .inl) (fun _ _ => .inl)
  by_cases hsame : id = id'
  · subst hsame
    rw [place, incubators_setStatus_self hid]
    rwa [place, hid] at hid'
  · rwa [place, incubators_setStatus_ne hsame]

/-- A failed incubation leaves no page. -/
theorem Placed.failed (h : s.Placed) (pos : Nat) :
    { s with pageStack := s.failed pos }.Placed := by
  refine h.of_step (fun _ _ => id) (fun _ _ => .inl) (fun i p hp => .inl ?_)
  simp only [PageStack.failed] at hp
  split at hp
  · rw [List.getElem?_dropLast] at hp
    split at hp
    · exact hp
    · cases hp
  · rcases of_getElem?_assign hp with ⟨-, heq⟩ | hp | heq
    · cases heq
    · exact hp
    · cases heq

/-- A transition moves no page. -/
theorem Placed.enter (h : s.Placed) (pos : Nat) : (s.enter pos).1.Placed := by
  have hforget : { s with incubator := assign none s.incubator pos none }.Placed := by
    refine h.of_step (fun _ _ => id) (fun i id hid => .inl ?_) (fun _ _ => .inl)
    rcases of_getElem?_assign hid with ⟨-, heq⟩ | hid | heq
    · cases heq
    · exact hid
    · cases heq
  unfold PageStack.enter
  dsimp only
  split
  · exact { h with }
  · split <;> exact { hforget with }

/-- A page that is ready is put at the place of its incubator. An incubation that fails takes an
entry away and moves no other one. -/
theorem Placed.wrap (h : s.Placed) (push : Incubator) (status : Status) :
    (s.wrap push status).1.Placed := by
  unfold PageStack.wrap
  split
  · exact h.failed push.pushAtPos
  split
  · split
    · exact h
    · rename_i theObject hobject
      -- the object is that of the incubator at this place
      have hplace : s.place theObject = some push.pushAtPos := by
        unfold incubatedObject at hobject
        split at hobject
        · rename_i id hid
          split at hobject
          · split at hobject
            · obtain rfl := Option.some.inj hobject
              exact h.incubator _ _ hid
            · cases hobject
          · cases hobject
        · cases hobject
      apply Placed.enter
      refine h.of_step (fun _ _ => id) (fun _ _ => .inl) (fun i p hp => ?_)
      rcases of_getElem?_assign hp with ⟨rfl, heq⟩ | hp | heq
      · obtain rfl := Entry.page.inj heq
        exact .inr hplace
      · exact .inl hp
      · cases heq
  · exact h

/-- Pushing reserves an entry, and may find the page ready. -/
theorem Placed.push (h : s.Placed) (pageUrl : String) (component : Component)
    (incubation : Status) : (s.push pageUrl component incubation).1.Placed := by
  unfold PageStack.push
  split
  · exact h
  · dsimp only
    split
    · exact (h.reserve _).wrap _ _
    · exact h.reserve _

/-- An incubation that comes to its end has a place. -/
theorem Placed.statusChanged (h : s.Placed) (id : IncubatorId) (status : Status) :
    (s.statusChanged id status).1.Placed := by
  unfold PageStack.statusChanged
  split
  · exact h
  · rename_i push hid
    split
    · exact (h.setStatus hid status).wrap push status
    · exact h

end Placed

/-! ## One call of `pop`

What `pop` removes, and what it finds below. The condition is read off the array, so it can be
decided before the call. -/

/-- Every entry that `pop` leaves in the array was there before, and no incubator is touched. -/
theorem frame_pop (s : PageStack) : s.pop.1.pageStack <+: s.pageStack ∧
    s.pop.1.incubators = s.incubators ∧ s.pop.1.incubator = s.incubator := by
  have hpre : removeUndefined s.pageStack.dropLast <+: s.pageStack :=
    (removeUndefined_isPrefixOf _).trans (List.dropLast_prefix _)
  unfold PageStack.pop
  split
  · exact ⟨List.prefix_refl _, rfl, rfl⟩
  · dsimp only
    split
    · exact ⟨hpre, rfl, rfl⟩
    · split
      · exact ⟨hpre, rfl, rfl⟩
      · split
        · exact ⟨hpre, rfl, rfl⟩
        · split <;> exact ⟨hpre, rfl, rfl⟩

/-- What `pop` does to the array, whatever else happens. -/
theorem pageStack_pop {s : PageStack} (hguard : ¬ (s.length < 2 ∨ s.getObjectsNumber < 2)) :
    s.pop.1.pageStack = removeUndefined s.pageStack.dropLast := by
  rw [PageStack.pop, if_neg hguard]
  dsimp only
  split
  · rfl
  · split
    · rfl
    · split
      · rfl
      · split <;> rfl

/-- A page on top is what `pop` removes, by a transition or at once. -/
theorem pop_removes_top {s : PageStack} (hguard : ¬ (s.length < 2 ∨ s.getObjectsNumber < 2))
    {init : List Entry} {p : PageId} (hstack : s.pageStack = init ++ [.page p]) :
    s.pop.1.pageStack = removeUndefined init ∧
      (.pop p ∈ s.pop.1.transitions ∨ .destroyed p ∈ s.pop.2) := by
  have hobjects : 2 ≤ s.getObjectsNumber := Nat.le_of_not_lt (not_or.mp hguard).2
  obtain ⟨below, htop, hdefined⟩ := exists_below hobjects hstack
  obtain ⟨enterItem, hbelow⟩ : ∃ enterItem, below.toItem = some enterItem := by
    cases below with
    | undefined => exact absurd rfl hdefined
    | null => exact ⟨none, rfl⟩
    | page q => exact ⟨some q, rfl⟩
  refine ⟨by rw [pageStack_pop hguard, hstack, List.dropLast_concat], ?_⟩
  rw [pop_eq hguard hstack htop hbelow]
  dsimp only
  split
  · exact .inl (by simp)
  · exact .inr (by simp [destroy])

/-- No page is moved by a `pop`. -/
theorem Placed.pop {s : PageStack} (h : s.Placed) : s.pop.1.Placed := by
  obtain ⟨hpre, hincubators, hincubator⟩ := s.frame_pop
  refine h.of_step (fun id i hid => ?_) (fun i id hid => .inl (hincubator ▸ hid))
    (fun i p hp => .inl ?_)
  · rwa [place, hincubators]
  · obtain ⟨dropped, hdropped⟩ := hpre
    rw [← hdropped, List.getElem?_append_left (List.getElem?_eq_some_iff.mp hp).1]
    exact hp

/-- Nor by a transition that stops. -/
theorem Placed.stopped {s : PageStack} (h : s.Placed) (n : Nat) : (s.stopped n).1.Placed := by
  unfold PageStack.stopped
  split
  · exact h
  · dsimp only
    split <;> exact { h with }

/-- The call has removed the current page `p` and nothing else but entries whose incubation has
failed, and has made the page `q` below it the current one. It has not thrown, and if it has
destroyed a page then that is `p`. -/
structure Pops (s : PageStack) (p q : PageId) : Prop where
  /-- The current page goes. -/
  current : s.currentPage = some p
  /-- Only that page and failed entries below it are taken out. -/
  removed : ∃ failed : List Entry, (∀ entry ∈ failed, entry = .undefined) ∧
    s.pageStack = s.pop.1.pageStack ++ failed ++ [.page p]
  /-- Another page is on top then. -/
  below : s.pop.1.pageStack.getLast? = some (.page q)
  /-- It is the current one. -/
  currentPage : s.pop.1.currentPage = some q
  /-- The length is that of the array. -/
  length : s.pop.1.length = s.pop.1.pageStack.length
  /-- The call does not throw. -/
  completes : ∀ out ∈ s.pop.2, out = .destroyed p

/-- A call of `pop` leaves the stack as it is, or pops the current page. -/
def AllOrNothing (s : PageStack) : Prop :=
  (s.pop.1.pageStack = s.pageStack ∧ s.pop.1.length = s.length ∧
    s.pop.1.currentPage = s.currentPage) ∨ ∃ p q, s.Pops p q

/-- The current page is on top, and what `pop` will find on top without it is a page. -/
def PageBelow (s : PageStack) : Prop :=
  match s.pageStack.getLast?, (removeUndefined s.pageStack.dropLast).getLast? with
  | some (.page p), some (.page _) => s.currentPage = some p
  | _, _ => False

instance (s : PageStack) : Decidable s.PageBelow := by
  unfold PageBelow
  split <;> infer_instance

/-- The guard of `pop` returns, or there is a page to remove and one to go back to. -/
def PopsCleanly (s : PageStack) : Prop :=
  s.length < 2 ∨ s.getObjectsNumber < 2 ∨ s.PageBelow

instance (s : PageStack) : Decidable s.PopsCleanly :=
  inferInstanceAs (Decidable (_ ∨ _ ∨ _))

/-- The same with the array written out. -/
theorem pageBelow_iff {s : PageStack} : s.PageBelow ↔ ∃ init p q,
    s.pageStack = init ++ [.page p] ∧ s.currentPage = some p ∧
      (removeUndefined init).getLast? = some (.page q) := by
  unfold PageBelow
  constructor
  · intro h
    split at h
    · rename_i p q htop hbelow
      obtain ⟨init, hinit⟩ := List.getLast?_eq_some_iff.mp htop
      rw [hinit, List.dropLast_concat] at hbelow
      exact ⟨init, p, q, hinit, h, hbelow⟩
    · exact absurd h id
  · intro ⟨init, p, q, hstack, hcurrent, hbelow⟩
    simp only [hstack, List.getLast?_concat, List.dropLast_concat, hbelow]
    exact hcurrent

/-- What `removeUndefined` takes away are failed entries. -/
theorem removeUndefined_append (pageStack : List Entry) : ∃ failed : List Entry,
    (∀ entry ∈ failed, entry = .undefined) ∧ pageStack = removeUndefined pageStack ++ failed := by
  refine ⟨pageStack.rtakeWhile (· = .undefined), fun entry hentry => ?_, ?_⟩
  · simpa using List.mem_rtakeWhile_imp hentry
  · rw [removeUndefined, List.rdropWhile, List.rtakeWhile, ← List.reverse_append,
      List.takeWhile_append_dropWhile, List.reverse_reverse]

/-- **One call.** It is all or nothing exactly in the states in which it finds a page on top of
another one, or returns at once. -/
theorem allOrNothing_iff {s : PageStack} (h : s.Placed) : s.AllOrNothing ↔ s.PopsCleanly := by
  -- the guard returns: nothing has changed, and nothing had to be on top
  by_cases hguard : s.length < 2 ∨ s.getObjectsNumber < 2
  · have hpop : s.pop = (s, []) := if_pos hguard
    refine ⟨fun _ => ?_, fun _ => .inl ?_⟩
    · exact hguard.elim .inl fun hobjects => .inr (.inl hobjects)
    · rw [hpop]
      exact ⟨rfl, rfl, rfl⟩
  have hiff : s.PopsCleanly ↔ s.PageBelow := by
    rw [not_or] at hguard
    exact ⟨fun h => (h.resolve_left hguard.1).resolve_left hguard.2, fun h => .inr (.inr h)⟩
  rw [hiff, pageBelow_iff]
  constructor
  · rintro (⟨hsame, -, -⟩ | ⟨p, q, hpops⟩)
    · -- something has been taken out of the array
      have hne : s.pageStack ≠ [] := fun hnil => hguard (.inr (by simp [getObjectsNumber, hnil]))
      have hle := (removeUndefined_isPrefixOf s.pageStack.dropLast).length_le
      have hpos := List.length_pos_of_ne_nil hne
      rw [← pageStack_pop hguard, hsame, List.length_dropLast] at hle
      omega
    -- the pop was complete, so the pages it speaks of are the two last entries
    · obtain ⟨failed, hfailed, hstack⟩ := hpops.removed
      have hbelow := hpops.below
      rw [pageStack_pop hguard, hstack, List.dropLast_concat] at hbelow
      exact ⟨_, p, q, hstack, hpops.current, hbelow⟩
  -- the two pages are there: `pop` is computed, branch by branch
  · intro hpage
    obtain ⟨init, p, q, hstack, hcurrent, hbelow⟩ := hpage
    obtain ⟨failed, hfailed, hinit⟩ := removeUndefined_append init
    -- `p` is only on top, so `q` is another page
    have hne : p ≠ q := by
      rintro rfl
      rw [List.getLast?_eq_getElem?] at hbelow
      have hlt := (List.getElem?_eq_some_iff.mp hbelow).1
      have hbelow' : s.pageStack[(removeUndefined init).length - 1]? = some (.page p) := by
        rw [hstack]
        exact (getElem?_of_removeUndefined (List.prefix_append _ _) hbelow).2
      have htop : s.pageStack[init.length]? = some (.page p) := by simp [hstack]
      have hplace := (h.page _ p hbelow').symm.trans (h.page _ p htop)
      have hle := (removeUndefined_isPrefixOf init).length_le
      have hlength := Option.some.inj hplace
      omega
    have hpageStack : s.pop.1.pageStack = removeUndefined init := by
      rw [pageStack_pop hguard, hstack, List.dropLast_concat]
    have hpop := pop_eq hguard hstack hbelow rfl
    refine .inr ⟨p, q, hcurrent, ⟨failed, hfailed, ?_⟩, hpageStack ▸ hbelow, ?_, ?_, ?_⟩
    · rw [hpageStack, ← hinit, hstack]
    · rw [hpop]
      dsimp only
      split
      · rfl
      · simp [destroy, Ne.symm hne]
    · rw [hpop]
      dsimp only
      split <;> rfl
    · rw [hpop]
      dsimp only
      split
      · exact fun out hout => absurd hout List.not_mem_nil
      · exact fun out hout => List.mem_singleton.mp hout

/-! ## Pending pages

The reserved entries of incubations that are still going on, through every kind of event. -/

section Pending

variable {s : PageStack}

/-- Reserved entries are kept if the array keeps its `null`s. -/
theorem PendingKept.of_eq {s' : PageStack} (hkept : s.PendingKept)
    (hstack : ∀ i : Nat, s.pageStack[i]? = some .null → s'.pageStack[i]? = some .null)
    (hincubators : s'.incubators = s.incubators) (hincubator : s'.incubator = s.incubator) :
    s'.PendingKept := by
  intro id push hid hloading
  rw [hincubators] at hid
  obtain ⟨hnull, hplace⟩ := hkept id push hid hloading
  exact ⟨hstack _ hnull, hincubator ▸ hplace⟩

/-- A call that is all or nothing takes no pending entry away. -/
theorem PendingKept.pop (hkept : s.PendingKept) (hall : s.AllOrNothing) : s.pop.1.PendingKept := by
  obtain ⟨-, hincubators, hincubator⟩ := s.frame_pop
  refine hkept.of_eq (fun i hnull => ?_) hincubators hincubator
  rcases hall with ⟨hsame, -, -⟩ | ⟨p, q, hpops⟩
  · rw [hsame, hnull]
  · obtain ⟨failed, hfailed, hstack⟩ := hpops.removed
    rw [hstack, List.append_assoc, List.getElem?_append] at hnull
    split at hnull
    · exact hnull
    · rcases List.mem_append.mp (List.mem_of_getElem? hnull) with hmem | hmem
      · cases hfailed _ hmem
      · cases List.mem_singleton.mp hmem

/-- A push reserves one more. -/
theorem PendingKept.push (hkept : s.PendingKept) (pageUrl : String) (component : Component)
    (incubation : Status) : (s.push pageUrl component incubation).1.PendingKept := by
  unfold PageStack.push
  split
  · exact hkept
  let pending : Incubator :=
    { pUrl := pageUrl, component, pushAtPos := s.pageStack.length, status := .loading }
  cases incubation with
  | loading | error => exact hkept.reserve rfl
  | ready =>
    -- as if the incubator had been loading for a moment
    have hreserve : (s.reserve pending).PendingKept := hkept.reserve rfl
    have hready := hreserve.ready (incubators_reserve_self s pending) rfl
    rw [setStatus_reserve] at hready
    exact hready

/-- An incubation that comes to its end gives up its own entry only. -/
theorem PendingKept.statusChanged (hkept : s.PendingKept) (id : IncubatorId) (status : Status) :
    (s.statusChanged id status).1.PendingKept := by
  unfold PageStack.statusChanged
  split
  · exact hkept
  rename_i push hid
  split
  · rename_i hloading
    cases status with
    | error => exact hkept.error hid hloading
    | ready => exact hkept.ready hid hloading
    | loading =>
      rw [setStatus_loading hid hloading]
      exact hkept
  · exact hkept

/-- A transition that stops gives up none. -/
theorem PendingKept.stopped (hkept : s.PendingKept) (n : Nat) : (s.stopped n).1.PendingKept := by
  unfold PageStack.stopped
  split
  · exact hkept
  · dsimp only
    split <;> exact hkept

end Pending

end PageStack

/-! ## Runs

The two invariants are kept by all events, the second one as long as no call of `pop` goes wrong. -/

/-- If the event is a call of `pop`, the stack meets `P` at that time. -/
def WhenPopped (P : PageStack → Prop) (h : History PageStack PageStackEvent PageStackOutput)
    (e : PageStackEvent) : Prop :=
  e = .pop → P h.state

instance (P : PageStack → Prop) [DecidablePred P]
    (h : History PageStack PageStackEvent PageStackOutput) (e : PageStackEvent) :
    Decidable (WhenPopped P h e) :=
  inferInstanceAs (Decidable (_ → _))

/-- Every event keeps pages in their places. -/
theorem placed_step {h : History PageStack PageStackEvent PageStackOutput}
    (hplaced : h.state.Placed) (e : PageStackEvent) : (pageStackMachine.step h e).state.Placed := by
  cases e with
  | push pageUrl component incubation => exact hplaced.push pageUrl component incubation
  | statusChanged id status => exact hplaced.statusChanged id status
  | pop => exact hplaced.pop
  | stopped n => exact hplaced.stopped n

/-- So it does with reserved entries, if calls of `pop` take all or nothing. -/
theorem pendingKept_step {h : History PageStack PageStackEvent PageStackOutput}
    (hkept : h.state.PendingKept) {e : PageStackEvent} (he : WhenPopped PageStack.AllOrNothing h e) :
    (pageStackMachine.step h e).state.PendingKept := by
  cases e with
  | push pageUrl component incubation => exact hkept.push pageUrl component incubation
  | statusChanged id status => exact hkept.statusChanged id status
  | pop => exact hkept.pop (he rfl)
  | stopped n => exact hkept.stopped n

/-- **Popping pages.** In every run of pushes, of incubations that become ready or fail in any
order, and of pops: every call of `pop` is all or nothing, and every pending page keeps its entry at
all times, exactly if each call finds a page on top of another one or returns at once.

With `Placed`, which ties every page to the place of its incubator, each call of `pop` is all or
nothing just in case it finds the two pages. Calls that are keep the pending entries. -/
theorem pops_allOrNothing_iff (delegate : PageStackDelegate) (es : List PageStackEvent) :
    pageStackMachine.Admits (WhenPopped PageStack.AllOrNothing) (.init { delegate }) es ∧
        pageStackMachine.Always (fun h => h.state.PendingKept) (.init { delegate }) es ↔
      pageStackMachine.Admits (WhenPopped PageStack.PopsCleanly) (.init { delegate }) es := by
  have hsame : pageStackMachine.Admits (WhenPopped PageStack.AllOrNothing) (.init { delegate }) es ↔
      pageStackMachine.Admits (WhenPopped PageStack.PopsCleanly) (.init { delegate }) es :=
    Machine.admits_congr (I := fun h => h.state.Placed)
      (fun _ e hplaced _ => placed_step hplaced e)
      (fun _ _ hplaced _ => forall_congr' fun _ => PageStack.allOrNothing_iff hplaced)
      (PageStack.placed_init delegate) (pageStackMachine.admits_true _ es)
  rw [← hsame]
  refine and_iff_left_of_imp fun hpops => ?_
  have hkept : ({ delegate } : PageStack).PendingKept := fun id push hid => by simp at hid
  exact Machine.always_of_admits (fun _ _ h he => pendingKept_step h he) hkept hpops

/-- A page is popped while another one is being incubated on top of it. -/
def pendingPopped : List PageStackEvent :=
  [.push "first.qml" {} .ready, .push "second.qml" {} .ready, .push "third.qml" {} .loading, .pop]

/-- The call throws, and has popped the entry of the pending page, which is put back later. -/
theorem not_allOrNothing_pendingPopped :
    (pageStackMachine.run (.init {}) pendingPopped).outputs = [.exception] ∧
      ¬ pageStackMachine.Admits (WhenPopped PageStack.AllOrNothing) (.init {}) pendingPopped ∧
      ¬ pageStackMachine.Always (fun h => h.state.PendingKept) (.init {}) pendingPopped ∧
      (pageStackMachine.run (.init {}) pendingPopped).state.pageStack = [.page 0, .page 1] ∧
      (pageStackMachine.run (.init {})
        (pendingPopped ++ [.statusChanged 2 .ready])).state.pageStack =
          [.page 0, .page 1, .page 2] := by
  refine ⟨by decide, fun hpops => ?_, fun hkept => ?_, by decide, by decide⟩
  · obtain ⟨-, -, -, hpop, -⟩ := hpops
    rcases hpop rfl with ⟨hsame, -⟩ | ⟨p, q, hpops⟩
    · revert hsame
      decide
    · cases hpops.completes .exception (by decide)
  · have hnull := (hkept.last 2 _ rfl rfl).1
    revert hnull
    decide

end Eos
