import WebosFramework.Controls.PageStack

/-!
# A page stack that has settled

While pages are being incubated, `length` and `currentPage` of a `PageStack` may be behind its
array. `agrees_when_settled` is about what they are once no incubation is pending.

* `Tracks` is the invariant: the entries of the array match the incubators, and a page on top is
  what `currentPage` and `length` say.
* Every step keeps it but one. When the topmost incubation fails, `wrap` shortens the array and
  leaves `length` and `currentPage` as they are, so it depends on what comes to light below
  (`FailsCleanly`). This is exact when nothing else is pending (`Tracks.agrees_error_iff`).

`PendingKept` is the part of `Tracks` about pending incubations: it does without the rest, so that
`Popping` can use it. The steps are proved for it first, and `Tracks` adds what is on top.
-/

namespace Eos

open EventLoop

namespace PageStack

/-! ## What the stack keeps track of

While incubations are pending the three may disagree, but only in a way that is known: `Tracks`
says how. In a stack that has settled they agree (`Tracks.agrees`). -/

/-- No incubation is pending. -/
def Settled (s : PageStack) : Prop :=
  ∀ push ∈ s.incubators, push.status ≠ .loading

instance (s : PageStack) : Decidable s.Settled :=
  inferInstanceAs (Decidable (∀ push ∈ s.incubators, push.status ≠ .loading))

/-- `length` is the length of the array, and `currentPage` is the page on top of it. -/
def Agrees (s : PageStack) : Prop :=
  s.length = s.pageStack.length ∧ s.pageStack.getLast? = s.currentPage.map .page

instance (s : PageStack) : Decidable s.Agrees :=
  inferInstanceAs (Decidable (_ ∧ _))

/-- Every incubation that is pending still has the entry that was reserved for its page. -/
def PendingKept (s : PageStack) : Prop :=
  ∀ (id : IncubatorId) (push : Incubator), s.incubators[id]? = some push →
    push.status = .loading → s.pageStack[push.pushAtPos]? = some .null ∧
      s.incubator[push.pushAtPos]? = some (some id)

/-- The entries of the array match the incubators, and the page on top is what `currentPage` and
`length` say; while the entry on top is pending they may be behind. -/
structure Tracks (s : PageStack) : Prop where
  /-- An entry that is `null` has an incubation pending. -/
  null_entry : ∀ i : Nat, s.pageStack[i]? = some .null →
    ∃ (id : IncubatorId) (push : Incubator), s.incubators[id]? = some push ∧
      push.status = .loading ∧ push.pushAtPos = i
  /-- A pending incubation has its entry, and is kept in `d.incubator`. -/
  loading : ∀ (id : IncubatorId) (push : Incubator), s.incubators[id]? = some push →
    push.status = .loading → s.pageStack[push.pushAtPos]? = some .null ∧
      s.incubator[push.pushAtPos]? = some (some id)
  /-- A page is in the entry of its incubator, which is ready. -/
  page_entry : ∀ (i : Nat) (p : PageId), s.pageStack[i]? = some (.page p) →
    ∃ push : Incubator, s.incubators[p]? = some push ∧ push.status = .ready ∧ push.pushAtPos = i
  /-- A page that is to be destroyed is not in the array. -/
  popped : ∀ p : PageId, .pop p ∈ s.transitions → .page p ∉ s.pageStack ∧
    ∃ push : Incubator, s.incubators[p]? = some push ∧ push.status = .ready
  /-- The current page is in the array. -/
  current : ∀ p, s.currentPage = some p → .page p ∈ s.pageStack
  /-- A failed incubation is not on top. -/
  top_defined : s.pageStack.getLast? ≠ some .undefined
  /-- A page on top is the current one, and `length` is right. -/
  top_page : ∀ p, s.pageStack.getLast? = some (.page p) →
    s.currentPage = some p ∧ s.length = s.pageStack.length
  /-- Without a page the length is 0. -/
  no_page : (∀ p, .page p ∉ s.pageStack) → s.length = 0

/-- When nothing is pending there is a page on top, or none at all. The entry on top is not
undefined, and it is not pending, so it is the page that `Tracks` speaks of. -/
theorem Tracks.agrees {s : PageStack} (ht : s.Tracks) (hs : s.Settled) : s.Agrees := by
  cases htop : s.pageStack.getLast? with
  | none =>
    have hnil : s.pageStack = [] := List.getLast?_eq_none_iff.mp htop
    have hcurrent : s.currentPage = none := by
      rw [Option.eq_none_iff_forall_ne_some]
      intro p hp
      simpa [hnil] using ht.current p hp
    exact ⟨by simp [ht.no_page, hnil], by simp [htop, hcurrent]⟩
  | some entry =>
    cases entry with
    | undefined => exact absurd htop ht.top_defined
    | null =>
      -- a pending entry has an incubator that is loading
      rw [List.getLast?_eq_getElem?] at htop
      obtain ⟨id, push, hpush, hloading, -⟩ := ht.null_entry _ htop
      exact absurd hloading (hs push (List.mem_of_getElem? hpush))
    | page p =>
      obtain ⟨hcurrent, hlength⟩ := ht.top_page p htop
      exact ⟨hlength, by simp [htop, hcurrent]⟩

/-- A new stack is empty. -/
theorem tracks_init (delegate : PageStackDelegate) : ({ delegate } : PageStack).Tracks := by
  constructor <;> simp

/-- The incubators of two pending entries are different, and so are their places. -/
theorem PendingKept.pushAtPos_injective {s : PageStack} (hkept : s.PendingKept)
    {id id' : IncubatorId} {push push' : Incubator} (hid : s.incubators[id]? = some push)
    (hid' : s.incubators[id']? = some push') (hpush : push.status = .loading)
    (hpush' : push'.status = .loading) (hpos : push.pushAtPos = push'.pushAtPos) : id = id' := by
  have h := (hkept id push hid hpush).2
  have h' := (hkept id' push' hid' hpush').2
  rw [hpos, h'] at h
  exact (Option.some.inj (Option.some.inj h)).symm

/-- The entry that is reserved is a new one. -/
theorem pageStack_reserve {s : PageStack} {push : Incubator}
    (hpos : push.pushAtPos = s.pageStack.length) :
    (s.reserve push).pageStack = s.pageStack ++ [.null] := by
  simp [PageStack.reserve, hpos]

/-- The entry of a new page is the next one, so no other incubation loses its own. The array of
incubators grows with it, at the same place. -/
theorem PendingKept.reserve {s : PageStack} (hkept : s.PendingKept) {push : Incubator}
    (hpos : push.pushAtPos = s.pageStack.length) : (s.reserve push).PendingKept := by
  intro id push' hid hloading'
  rw [pageStack_reserve hpos]
  simp only [PageStack.reserve] at hid ⊢
  rw [List.getElem?_append] at hid
  split at hid
  · obtain ⟨hnull, hincubator⟩ := hkept id push' hid hloading'
    have hlt : push'.pushAtPos < s.pageStack.length := (List.getElem?_eq_some_iff.mp hnull).1
    have hlt' : push'.pushAtPos < s.incubator.length :=
      (List.getElem?_eq_some_iff.mp hincubator).1
    refine ⟨?_, ?_⟩
    · rw [List.getElem?_append_left hlt]
      exact hnull
    · exact (getElem?_assign_of_lt hlt' (by omega)).trans hincubator
  · -- the incubator is the new one
    rename_i hge
    have hsame : id = s.incubators.length := by
      have hlt := (List.getElem?_eq_some_iff.mp hid).1
      exact Nat.le_antisymm (by simpa [Nat.sub_eq_zero_iff_le] using hlt) (Nat.le_of_not_lt hge)
    subst hsame
    simp only [Nat.sub_self, List.getElem?_cons_zero, Option.some.injEq] at hid
    subst hid
    simp [hpos]

/-- A push reserves an entry on top, which is not a page yet. So nothing is said of `currentPage`
and `length` for the time being, and the rest is as before. -/
theorem Tracks.reserve {s : PageStack} (ht : s.Tracks) {push : Incubator}
    (hpos : push.pushAtPos = s.pageStack.length) (hloading : push.status = .loading) :
    (s.reserve push).Tracks := by
  have hstack : (s.reserve push).pageStack = s.pageStack ++ [.null] := pageStack_reserve hpos
  have hentry (p : PageId) : .page p ∈ (s.reserve push).pageStack ↔ .page p ∈ s.pageStack := by
    simp [hstack]
  have hold (id : IncubatorId) (push' : Incubator) (h : s.incubators[id]? = some push') :
      (s.reserve push).incubators[id]? = some push' := by
    have hid : id < s.incubators.length := (List.getElem?_eq_some_iff.mp h).1
    simpa [PageStack.reserve, List.getElem?_append_left hid] using h
  constructor
  -- the pending entry that is added has its incubator, and the old ones keep theirs
  case null_entry =>
    intro i hi
    rw [hstack, List.getElem?_append] at hi
    split at hi
    · -- an old entry
      obtain ⟨id, push', hpush', hrest⟩ := ht.null_entry i hi
      exact ⟨id, push', hold id push' hpush', hrest⟩
    · -- the new entry
      have hlast : i = s.pageStack.length := by
        have := (List.getElem?_eq_some_iff.mp hi).1
        simp at this
        omega
      exact ⟨s.incubators.length, push, by simp [PageStack.reserve], hloading,
        hpos.trans hlast.symm⟩
  case loading => exact PendingKept.reserve ht.loading hpos
  case page_entry =>
    intro i p hi
    rw [hstack, List.getElem?_append] at hi
    split at hi
    · obtain ⟨push', hpush', hrest⟩ := ht.page_entry i p hi
      exact ⟨push', hold p push' hpush', hrest⟩
    · have := List.mem_of_getElem? hi
      simp at this
  -- a page that left before is not brought back by a pending entry
  case popped =>
    intro p hp
    obtain ⟨hnot, push', hpush', hready⟩ := ht.popped p hp
    exact ⟨fun h => hnot ((hentry p).mp h), push', hold p push' hpush', hready⟩
  case current =>
    intro p hp
    exact (hentry p).mpr (ht.current p hp)
  case top_defined => simp [hstack]
  case top_page => simp [hstack]
  case no_page =>
    intro hnone
    exact ht.no_page fun p hp => hnone p ((hentry p).mpr hp)

section StatusChanged

variable {s : PageStack} {id : IncubatorId} {push : Incubator} {status : Status}

/-- The incubator has its new status. -/
theorem incubators_setStatus_self (hid : s.incubators[id]? = some push) :
    (s.setStatus id push status).incubators[id]? = some { push with status := status } :=
  List.getElem?_set_self (List.getElem?_eq_some_iff.mp hid).1

/-- An incubator that goes on loading has not changed. -/
theorem setStatus_loading (hid : s.incubators[id]? = some push) (hloading : push.status = .loading) :
    s.setStatus id push .loading = s := by
  have hpush : ({ push with status := .loading } : Incubator) = push := by rw [← hloading]
  have hset : s.incubators.set id push = s.incubators := by
    obtain ⟨hlt, rfl⟩ := List.getElem?_eq_some_iff.mp hid
    exact List.set_getElem_self hlt
  rw [setStatus, hpush, hset]

/-- The new incubator is the last one. -/
theorem incubators_reserve_self (s : PageStack) (push : Incubator) :
    (s.reserve push).incubators[s.incubators.length]? = some push := by
  simp [PageStack.reserve]

/-- A page that is ready at once has the same effect as one that becomes ready. -/
theorem setStatus_reserve (s : PageStack) (push : Incubator) (status : Status) :
    (s.reserve push).setStatus s.incubators.length push status =
      s.reserve { push with status := status } := by
  simp [setStatus, PageStack.reserve]

/-- The other incubators keep theirs. -/
theorem incubators_setStatus_ne {id' : IncubatorId} (hne : id ≠ id') :
    (s.setStatus id push status).incubators[id']? = s.incubators[id']? :=
  List.getElem?_set_ne hne

/-- An incubator that is loading is not that of a page. -/
theorem ne_of_ready (hid : s.incubators[id]? = some push) (hloading : push.status = .loading)
    {p : PageId} {push' : Incubator} (hp : s.incubators[p]? = some push')
    (hready : push'.status = .ready) : id ≠ p := by
  intro hsame
  subst hsame
  rw [hid] at hp
  obtain rfl := Option.some.inj hp
  rw [hloading] at hready
  cases hready

/-- The status of an incubator that is ready or has failed does not change. -/
theorem incubators_setStatus_of_ready (hid : s.incubators[id]? = some push)
    (hloading : push.status = .loading) {p : PageId} {push' : Incubator}
    (hp : s.incubators[p]? = some push') (hready : push'.status = .ready) :
    (s.setStatus id push status).incubators[p]? = some push' :=
  (incubators_setStatus_ne (ne_of_ready hid hloading hp hready)).trans hp

/-- An incubator that is still loading after the change was so before, and is another one. -/
theorem incubators_setStatus_loading (hid : s.incubators[id]? = some push)
    (hstatus : status ≠ .loading) {id' : IncubatorId} {push' : Incubator}
    (hid' : (s.setStatus id push status).incubators[id']? = some push')
    (hloading' : push'.status = .loading) : id ≠ id' ∧ s.incubators[id']? = some push' := by
  have hne : id ≠ id' := by
    intro hsame
    subst hsame
    rw [incubators_setStatus_self hid] at hid'
    obtain rfl := Option.some.inj hid'
    exact hstatus hloading'
  exact ⟨hne, (incubators_setStatus_ne hne).symm.trans hid'⟩

/-- The other pending entries are so after the change, and their incubators are still loading. -/
theorem Tracks.null_entry_of_ne (ht : s.Tracks) (hid : s.incubators[id]? = some push) {i : Nat}
    (hi : s.pageStack[i]? = some .null) (hne : i ≠ push.pushAtPos) :
    ∃ (id' : IncubatorId) (push' : Incubator),
      (s.setStatus id push status).incubators[id']? = some push' ∧
        push'.status = .loading ∧ push'.pushAtPos = i := by
  obtain ⟨id', push', hid', hloading', hpos'⟩ := ht.null_entry i hi
  refine ⟨id', push', (incubators_setStatus_ne fun hsame => ?_).trans hid', hloading', hpos'⟩
  subst hsame
  rw [hid] at hid'
  obtain rfl := Option.some.inj hid'
  exact hne hpos'.symm

/-- The other pending incubations keep their entries. -/
theorem PendingKept.still_loading (hkept : s.PendingKept) (hid : s.incubators[id]? = some push)
    (hloading : push.status = .loading) (hstatus : status ≠ .loading) {id' : IncubatorId}
    {push' : Incubator} (hid' : (s.setStatus id push status).incubators[id']? = some push')
    (hloading' : push'.status = .loading) :
    push'.pushAtPos ≠ push.pushAtPos ∧ s.pageStack[push'.pushAtPos]? = some .null ∧
      s.incubator[push'.pushAtPos]? = some (some id') := by
  obtain ⟨hne, hid'⟩ := incubators_setStatus_loading hid hstatus hid' hloading'
  refine ⟨fun hsame => hne ?_, hkept id' push' hid' hloading'⟩
  exact hkept.pushAtPos_injective hid hid' hloading hloading' hsame.symm

/-- A failed incubation takes away its own entry and no other. On top the entry is removed, and
elsewhere it becomes undefined, which is why undefined entries are left out here. -/
theorem getElem?_failed {pos : Nat} (hpos : pos < s.pageStack.length) {i : Nat} {entry : Entry}
    (hentry : entry ≠ .undefined) :
    (s.failed pos)[i]? = some entry ↔ i ≠ pos ∧ s.pageStack[i]? = some entry := by
  unfold failed
  split
  · rw [List.getElem?_dropLast]
    split
    · rename_i hi
      exact ⟨fun h => ⟨by omega, h⟩, fun h => h.2⟩
    · rename_i hi
      refine ⟨fun h => absurd h (by simp), fun ⟨hne, h⟩ => ?_⟩
      have := (List.getElem?_eq_some_iff.mp h).1
      omega
  · rw [assign_of_lt hpos]
    by_cases hi : i = pos
    · subst hi
      rw [List.getElem?_set_self hpos]
      exact ⟨fun h => absurd (Option.some.inj h).symm hentry, fun h => absurd rfl h.1⟩
    · rw [List.getElem?_set_ne (Ne.symm hi)]
      exact ⟨fun h => ⟨hi, h⟩, fun h => h.2⟩

/-- No page is lost by a failed incubation. -/
theorem mem_failed {pos : Nat} (hnull : s.pageStack[pos]? = some .null) {p : PageId} :
    .page p ∈ s.failed pos ↔ .page p ∈ s.pageStack := by
  have hpos : pos < s.pageStack.length := (List.getElem?_eq_some_iff.mp hnull).1
  simp only [List.mem_iff_getElem?]
  refine exists_congr fun i => (getElem?_failed hpos (by simp)).trans ⟨fun h => h.2, fun h => ?_⟩
  refine ⟨fun hsame => ?_, h⟩
  rw [hsame, hnull] at h
  cases h

/-- A write below the top leaves the top alone. -/
theorem getLast?_set_of_ne {pageStack : List Entry} {pos : Nat} (hpos : pos < pageStack.length)
    (htop : pos + 1 ≠ pageStack.length) (entry : Entry) :
    (pageStack.set pos entry).getLast? = pageStack.getLast? := by
  rw [List.getLast?_eq_getElem?, List.getLast?_eq_getElem?, List.length_set,
    List.getElem?_set_ne (by omega)]

/-- So does a failure below the top. -/
theorem getLast?_failed {pos : Nat} (hpos : pos < s.pageStack.length)
    (htop : pos + 1 ≠ s.pageStack.length) :
    (s.failed pos).getLast? = s.pageStack.getLast? ∧
      (s.failed pos).length = s.pageStack.length := by
  rw [failed, if_neg htop, assign_of_lt hpos]
  exact ⟨getLast?_set_of_ne hpos htop .undefined, List.length_set⟩

/-- What is under the entry of a failed incubation, if that is the topmost entry: nothing, a pending
entry, or the page that `currentPage` and `length` are about. -/
def FailsCleanly (s : PageStack) (push : Incubator) : Prop :=
  push.pushAtPos + 1 = s.pageStack.length →
    match s.pageStack.dropLast.getLast? with
    | none => True
    | some .null => True
    | some .undefined => False
    | some (.page p) => s.currentPage = some p ∧ s.length = push.pushAtPos

instance : Decidable (s.FailsCleanly push) := by
  unfold FailsCleanly
  split <;> infer_instance

/-- A failed incubation takes no other incubation's entry away. -/
theorem PendingKept.error (hkept : s.PendingKept) (hid : s.incubators[id]? = some push)
    (hloading : push.status = .loading) :
    ((s.setStatus id push .error).wrap push .error).1.PendingKept := by
  have hpos : push.pushAtPos < s.pageStack.length :=
    (List.getElem?_eq_some_iff.mp (hkept id push hid hloading).1).1
  intro id' push' hid' hloading'
  obtain ⟨hne, hnull', hincubator⟩ := hkept.still_loading hid hloading (by simp) hid' hloading'
  exact ⟨(getElem?_failed hpos (by simp)).mpr ⟨hne, hnull'⟩, hincubator⟩

/-- **An incubation fails.** Below the top its entry becomes `undefined`, on top it is taken away,
and then what comes to light must be what `currentPage` and `length` say. -/
theorem Tracks.error (ht : s.Tracks) (hid : s.incubators[id]? = some push)
    (hloading : push.status = .loading) (hclean : s.FailsCleanly push) :
    ((s.setStatus id push .error).wrap push .error).1.Tracks := by
  obtain ⟨hnull, -⟩ := ht.loading id push hid hloading
  have hpos : push.pushAtPos < s.pageStack.length := (List.getElem?_eq_some_iff.mp hnull).1
  have hstack : ((s.setStatus id push .error).wrap push .error).1 =
      { s.setStatus id push .error with pageStack := s.failed push.pushAtPos } := rfl
  rw [hstack]
  constructor
  -- what is pending elsewhere is as pending as before
  case null_entry =>
    intro i hi
    obtain ⟨hne, hi⟩ := (getElem?_failed hpos (by simp)).mp hi
    exact ht.null_entry_of_ne hid hi hne
  case loading => exact PendingKept.error ht.loading hid hloading
  case page_entry =>
    intro i p hi
    obtain ⟨-, hi⟩ := (getElem?_failed hpos (by simp)).mp hi
    obtain ⟨push', hpush', hready, hi'⟩ := ht.page_entry i p hi
    exact ⟨push', incubators_setStatus_of_ready hid hloading hpush' hready, hready, hi'⟩
  case popped =>
    intro p hp
    obtain ⟨hnot, push', hpush', hready⟩ := ht.popped p hp
    exact ⟨fun h => hnot ((mem_failed hnull).mp h), push',
      incubators_setStatus_of_ready hid hloading hpush' hready, hready⟩
  case current =>
    intro p hp
    exact (mem_failed hnull).mpr (ht.current p hp)
  case no_page =>
    intro hnone
    exact ht.no_page fun p hp => hnone p ((mem_failed hnull).mpr hp)
  -- the failed entry may have been the top one, which is where the condition is needed
  case top_defined =>
    by_cases htop : push.pushAtPos + 1 = s.pageStack.length
    · -- the array is cut, and what comes to light is clean
      have hbelow := hclean htop
      dsimp only
      rw [failed, if_pos htop]
      intro hundefined
      simp [hundefined] at hbelow
    · exact (getLast?_failed hpos htop).1 ▸ ht.top_defined
  case top_page =>
    intro p hp
    by_cases htop : push.pushAtPos + 1 = s.pageStack.length
    · have hbelow := hclean htop
      dsimp only at hp ⊢
      rw [failed, if_pos htop] at hp ⊢
      simp only [hp] at hbelow
      exact ⟨hbelow.1, by rw [List.length_dropLast]; exact hbelow.2.trans (by omega)⟩
    · obtain ⟨hlast, hlength⟩ := getLast?_failed hpos htop
      dsimp only at hp ⊢
      rw [hlast] at hp
      rw [hlength]
      exact ht.top_page p hp

/-- Only an incubator that is done is taken out of `d.incubator`. -/
theorem PendingKept.forget (hkept : s.PendingKept) {pos : Nat}
    (hpos : s.pageStack[pos]? ≠ some .null) :
    { s with incubator := assign none s.incubator pos none }.PendingKept := by
  intro id push hid hloading
  obtain ⟨hnull, hincubator⟩ := hkept id push hid hloading
  refine ⟨hnull, (getElem?_assign_of_lt (List.getElem?_eq_some_iff.mp hincubator).1 ?_).trans
    hincubator⟩
  intro hsame
  exact hpos (hsame ▸ hnull)

/-- A transition touches no entry. -/
theorem PendingKept.enter (hkept : s.PendingKept) {pos : Nat}
    (hpos : s.pageStack[pos]? ≠ some .null) : (s.enter pos).1.PendingKept := by
  unfold PageStack.enter
  dsimp only
  split
  · exact hkept
  · split <;> exact hkept.forget hpos

/-- It touches neither the array nor what is known of it. -/
theorem Tracks.enter (ht : s.Tracks) {pos : Nat} (hpos : s.pageStack[pos]? ≠ some .null) :
    (s.enter pos).1.Tracks := by
  have hloading := PendingKept.forget ht.loading hpos
  have hpopped (p : PageId) (hp : .pop p ∈ s.transitions ++ [.push]) :
      .pop p ∈ s.transitions := by
    simpa using hp
  unfold PageStack.enter
  dsimp only
  split
  · exact { ht with }
  · split
    · exact { ht with loading := hloading, popped := fun p hp => ht.popped p (hpopped p hp) }
    · exact { ht with loading := hloading }

/-- A pending page is put into its entry, and becomes the current one if that is on top. -/
theorem wrap_ready (hkept : s.PendingKept) (hid : s.incubators[id]? = some push)
    (hloading : push.status = .loading) :
    (s.setStatus id push .ready).wrap push .ready =
      { s.setStatus id push .ready with
        pageStack := s.pageStack.set push.pushAtPos (.page id)
        length := s.pageStack.length
        currentPage := if push.pushAtPos + 1 = s.pageStack.length then some id
          else s.currentPage : PageStack }.enter push.pushAtPos := by
  obtain ⟨hnull, hincubator⟩ := hkept id push hid hloading
  have hpos : push.pushAtPos < (s.setStatus id push .ready).pageStack.length :=
    (List.getElem?_eq_some_iff.mp hnull).1
  have hobject : (s.setStatus id push .ready).incubatedObject push.pushAtPos = some id := by
    have hincubator' : (s.setStatus id push .ready).incubator[push.pushAtPos]? = some (some id) :=
      hincubator
    simp [incubatedObject, hincubator', incubators_setStatus_self hid]
  unfold wrap
  simp only [reduceCtorEq, if_false, if_true, hobject, assign_of_lt hpos, List.length_set]
  rfl

/-- A page that has become ready is put into its own entry. -/
theorem PendingKept.fill (hkept : s.PendingKept) (hid : s.incubators[id]? = some push)
    (hloading : push.status = .loading) {length : Nat} {currentPage : Option PageId} :
    { s.setStatus id push .ready with
      pageStack := s.pageStack.set push.pushAtPos (.page id), length, currentPage }.PendingKept := by
  intro id' push' hid' hloading'
  obtain ⟨hne, hnull', hincubator⟩ := hkept.still_loading hid hloading (by simp) hid' hloading'
  exact ⟨(List.getElem?_set_ne hne.symm).trans hnull', hincubator⟩

/-- A page that is ready takes its own entry. -/
theorem PendingKept.ready (hkept : s.PendingKept) (hid : s.incubators[id]? = some push)
    (hloading : push.status = .loading) :
    ((s.setStatus id push .ready).wrap push .ready).1.PendingKept := by
  have hpos : push.pushAtPos < s.pageStack.length :=
    (List.getElem?_eq_some_iff.mp (hkept id push hid hloading).1).1
  rw [wrap_ready hkept hid hloading]
  exact (hkept.fill hid hloading).enter (by simp [List.getElem?_set_self hpos])

/-- **A page is ready.** If it is on top it becomes the current one; below the top it only fills
its entry, and `length` becomes that of the array. -/
theorem Tracks.ready (ht : s.Tracks) (hid : s.incubators[id]? = some push)
    (hloading : push.status = .loading) :
    ((s.setStatus id push .ready).wrap push .ready).1.Tracks := by
  obtain ⟨hnull, -⟩ := ht.loading id push hid hloading
  have hpos : push.pushAtPos < s.pageStack.length := (List.getElem?_eq_some_iff.mp hnull).1
  -- the only entry that changes was pending
  have hentry {i : Nat} (hi : push.pushAtPos ≠ i) :
      (s.pageStack.set push.pushAtPos (.page id))[i]? = s.pageStack[i]? :=
    List.getElem?_set_ne hi
  have hself : (s.pageStack.set push.pushAtPos (.page id))[push.pushAtPos]? = some (.page id) :=
    List.getElem?_set_self hpos
  have hlast (htop : push.pushAtPos + 1 = s.pageStack.length) :
      (s.pageStack.set push.pushAtPos (.page id)).getLast? = some (.page id) := by
    rw [List.getLast?_eq_getElem?, List.length_set, ← htop]
    exact hself
  have hmem {p : PageId} (hp : .page p ∈ s.pageStack) :
      .page p ∈ s.pageStack.set push.pushAtPos (.page id) := by
    obtain ⟨i, hi⟩ := List.mem_iff_getElem?.mp hp
    refine List.mem_of_getElem? ((hentry fun hsame => ?_).trans hi)
    rw [← hsame, hnull] at hi
    cases hi
  rw [wrap_ready ht.loading hid hloading]
  refine Tracks.enter ?_ (by simp [hself])
  constructor
  -- the entry that was pending here has become a page
  case null_entry =>
    intro i hi
    dsimp only at hi
    by_cases hsame : push.pushAtPos = i
    · rw [← hsame, hself] at hi
      cases hi
    · rw [hentry hsame] at hi
      exact ht.null_entry_of_ne hid hi (Ne.symm hsame)
  case loading => exact PendingKept.fill ht.loading hid hloading
  case page_entry =>
    intro i p hi
    dsimp only at hi
    by_cases hsame : push.pushAtPos = i
    · rw [← hsame, hself] at hi
      obtain rfl := Entry.page.inj (Option.some.inj hi)
      exact ⟨_, incubators_setStatus_self hid, rfl, hsame⟩
    · rw [hentry hsame] at hi
      obtain ⟨push', hpush', hready, hi'⟩ := ht.page_entry i p hi
      exact ⟨push', incubators_setStatus_of_ready hid hloading hpush' hready, hready, hi'⟩
  -- the pages on their way out
  case popped =>
    intro p hp
    obtain ⟨hnot, push', hpush', hready⟩ := ht.popped p hp
    refine ⟨fun h => ?_, push',
      incubators_setStatus_of_ready hid hloading hpush' hready, hready⟩
    -- a page that was ready before is not the one that has become ready
    rcases List.mem_or_eq_of_mem_set h with h | h
    · exact hnot h
    · exact ne_of_ready hid hloading hpush' hready (Entry.page.inj h).symm
  case current =>
    intro p hp
    dsimp only at hp ⊢
    split at hp
    · obtain rfl := Option.some.inj hp
      exact List.mem_of_getElem? hself
    · exact hmem (ht.current p hp)
  case no_page =>
    intro hnone
    exact absurd (List.mem_of_getElem? hself) (hnone id)
  -- on top is the new page, or what was there before
  case top_defined =>
    dsimp only
    by_cases htop : push.pushAtPos + 1 = s.pageStack.length
    · simp [hlast htop]
    · rw [getLast?_set_of_ne hpos htop]
      exact ht.top_defined
  case top_page =>
    intro p hp
    dsimp only at hp ⊢
    rw [List.length_set]
    by_cases htop : push.pushAtPos + 1 = s.pageStack.length
    · rw [hlast htop] at hp
      obtain rfl := Entry.page.inj (Option.some.inj hp)
      exact ⟨if_pos htop, rfl⟩
    · rw [getLast?_set_of_ne hpos htop] at hp
      rw [if_neg htop]
      exact ⟨(ht.top_page p hp).1, rfl⟩

end StatusChanged

section Pop

variable {s : PageStack}

/-- A page that is not in the array may be destroyed. -/
theorem Tracks.destroy (ht : s.Tracks) {object : PageId} (hgone : .page object ∉ s.pageStack) :
    (s.destroy object).1.Tracks := by
  have hcurrent : s.currentPage ≠ some object := fun h => hgone (ht.current object h)
  have hclear : (if s.currentPage = some object then none else s.currentPage) = s.currentPage :=
    if_neg hcurrent
  unfold PageStack.destroy
  dsimp only
  rw [hclear]
  exact { ht with }

/-- A transition that stops destroys a page that has been popped. -/
theorem Tracks.stopped (ht : s.Tracks) (n : Nat) : (s.stopped n).1.Tracks := by
  unfold PageStack.stopped
  split
  · exact ht
  · rename_i transition htransition
    have herase : ({ s with transitions := s.transitions.eraseIdx n, busy := false } :
        PageStack).Tracks :=
      { ht with popped := fun p hp => ht.popped p (List.mem_of_mem_eraseIdx hp) }
    cases transition with
    | push => exact herase
    | pop object =>
      exact herase.destroy (ht.popped object (List.mem_of_getElem? htransition)).1

/-- When nothing is pending no entry is `null`. -/
theorem Tracks.getElem?_ne_null (ht : s.Tracks) (hs : s.Settled) (i : Nat) :
    s.pageStack[i]? ≠ some .null := by
  intro hi
  obtain ⟨id, push, hid, hloading, -⟩ := ht.null_entry i hi
  exact hs push (List.mem_of_getElem? hid) hloading

/-- What is left is a beginning of the array. -/
theorem removeUndefined_isPrefixOf (pageStack : List Entry) :
    removeUndefined pageStack <+: pageStack :=
  List.rdropWhile_prefix _ _

/-- Its entries are where they were. -/
theorem getElem?_of_removeUndefined {init pageStack : List Entry} (hinit : init <+: pageStack)
    {i : Nat} {entry : Entry} (hi : (removeUndefined init)[i]? = some entry) :
    i < init.length ∧ pageStack[i]? = some entry := by
  have hpre := removeUndefined_isPrefixOf init
  have hlt : i < (removeUndefined init).length := (List.getElem?_eq_some_iff.mp hi).1
  obtain ⟨dropped, hdropped⟩ := hpre.trans hinit
  refine ⟨Nat.lt_of_lt_of_le hlt hpre.length_le, ?_⟩
  rw [← hdropped, List.getElem?_append_left hlt]
  exact hi

/-- Every page is at the place its incubator was created for, so the one on top is nowhere else. -/
theorem Tracks.not_mem_removeUndefined (ht : s.Tracks) {init : List Entry} {p : PageId}
    (hstack : s.pageStack = init ++ [.page p]) : .page p ∉ removeUndefined init := by
  intro hmem
  obtain ⟨i, hi⟩ := List.mem_iff_getElem?.mp hmem
  obtain ⟨hlt, hi⟩ := getElem?_of_removeUndefined (hstack ▸ List.prefix_append _ _) hi
  obtain ⟨push, hpush, -, hpos⟩ := ht.page_entry i p hi
  obtain ⟨push', hpush', -, hpos'⟩ := ht.page_entry init.length p (by simp [hstack])
  rw [hpush] at hpush'
  obtain rfl := Option.some.inj hpush'
  omega

/-- With two objects there is one below the top, and the loop of `removeUndefined` stops there. -/
theorem exists_below {init : List Entry} {top : Entry} (hobjects : 2 ≤ s.getObjectsNumber)
    (hstack : s.pageStack = init ++ [top]) :
    ∃ below, (removeUndefined init).getLast? = some below ∧ below ≠ .undefined := by
  have hbelow : removeUndefined init ≠ [] := by
    intro hnil
    have hall := List.rdropWhile_eq_nil_iff.mp hnil
    have hnone : init.countP (· ≠ .undefined) = 0 := by
      rw [List.countP_eq_zero]
      simpa using hall
    have hone : [top].countP (· ≠ .undefined) ≤ 1 := List.countP_le_length
    simp only [getObjectsNumber, hstack, List.countP_append, hnone] at hobjects
    omega
  exact ⟨_, List.getLast?_eq_some_getLast hbelow,
    fun h => List.rdropWhile_last_not _ init hbelow (decide_eq_true h)⟩

/-- With nothing pending, `pop` finds a page on top of another one. Undefined entries may lie
between the two, and `pop` removes them with the page. -/
theorem Tracks.pages_on_top (ht : s.Tracks) (hs : s.Settled) (hobjects : 2 ≤ s.getObjectsNumber) :
    ∃ init p q, s.pageStack = init ++ [.page p] ∧
      (removeUndefined init).getLast? = some (.page q) := by
  have hpage {pageStack : List Entry} (hpre : pageStack <+: s.pageStack) {entry : Entry}
      (hlast : pageStack.getLast? = some entry) (hentry : entry ≠ .undefined) :
      ∃ p, entry = .page p := by
    cases entry with
    | undefined => exact absurd rfl hentry
    | page p => exact ⟨p, rfl⟩
    | null =>
      obtain ⟨i, hi⟩ := List.mem_iff_getElem?.mp (hpre.subset (List.mem_of_getLast? hlast))
      exact absurd hi (ht.getElem?_ne_null hs i)
  rcases List.eq_nil_or_concat' s.pageStack with hnil | ⟨init, top, hstack⟩
  · simp [getObjectsNumber, hnil] at hobjects
  have htop : s.pageStack.getLast? = some top := by simp [hstack]
  obtain ⟨p, rfl⟩ := hpage (List.prefix_refl _) htop fun h => ht.top_defined (h ▸ htop)
  obtain ⟨below, hlast, hdefined⟩ := exists_below hobjects hstack
  have hpre : removeUndefined init <+: s.pageStack :=
    (removeUndefined_isPrefixOf init).trans (hstack ▸ List.prefix_append _ _)
  obtain ⟨q, hq⟩ := hpage hpre hlast hdefined
  exact ⟨init, p, q, hstack, hq ▸ hlast⟩

/-- What `pop` does when it finds a page on top: `below` is what the page was on. The page is
destroyed at once, or at the end of the transition if there is one. -/
theorem pop_eq (hguard : ¬ (s.length < 2 ∨ s.getObjectsNumber < 2)) {init : List Entry}
    {p : PageId} (hstack : s.pageStack = init ++ [.page p]) {below : Entry}
    (htop : (removeUndefined init).getLast? = some below) {enterItem : Option PageId}
    (hbelow : below.toItem = some enterItem) :
    s.pop =
      let s' : PageStack := { s with
        pageStack := removeUndefined init
        length := (removeUndefined init).length
        currentPage := enterItem
        delegate := { s.delegate with exitItem := some p, enterItem := enterItem } }
      if s.delegate.popTransition then
        ({ s' with busy := true, transitions := s.transitions ++ [.pop p] }, [])
      else s'.destroy p := by
  have hlast : (removeUndefined init).getD ((removeUndefined init).length - 1) .undefined =
      below := by
    rw [List.getD_eq_getElem?_getD, ← List.getLast?_eq_getElem?, htop]
    rfl
  have hpos : (removeUndefined init).length ≠ 0 := by
    intro hzero
    simp [List.length_eq_zero_iff.mp hzero] at htop
  have hexit : (Entry.page p).toItem = some (some p) := rfl
  rw [PageStack.pop, if_neg hguard]
  simp only [hstack, List.getLast?_concat, Option.getD_some, List.dropLast_concat, hexit,
    entryAtLength, if_neg hpos, hlast, hbelow]

/-- **A page is popped** from a stack that has settled: there is another page below it, and it is
on top afterwards. -/
theorem Tracks.pop (ht : s.Tracks) (hs : s.Settled) : s.pop.1.Tracks := by
  by_cases hguard : s.length < 2 ∨ s.getObjectsNumber < 2
  · rw [PageStack.pop, if_pos hguard]
    exact ht
  obtain ⟨init, p, q, hstack, htop⟩ :=
    ht.pages_on_top hs (Nat.le_of_not_lt (not_or.mp hguard).2)
  obtain ⟨push, hpush, hready, -⟩ := ht.page_entry init.length p (by simp [hstack])
  -- the page on top is gone, and what is left was there before
  have hgone : .page p ∉ removeUndefined init := ht.not_mem_removeUndefined hstack
  have hpre : init <+: s.pageStack := hstack ▸ List.prefix_append _ _
  have hmem {entry : Entry} (h : entry ∈ removeUndefined init) : entry ∈ s.pageStack :=
    hpre.subset ((removeUndefined_isPrefixOf init).subset h)
  rw [pop_eq hguard hstack htop rfl]
  dsimp only
  -- the page may still be on screen, in a transition
  -- the transitions after the call are those before it and perhaps one for the page popped
  have hpopped (transitions : List Transition)
      (hsub : ∀ p', .pop p' ∈ transitions → .pop p' ∈ s.transitions ∨ p' = p) (p' : PageId)
      (hp' : .pop p' ∈ transitions) : .page p' ∉ removeUndefined init ∧
        ∃ push : Incubator, s.incubators[p']? = some push ∧ push.status = .ready := by
    rcases hsub p' hp' with h | rfl
    · obtain ⟨hnot, hready'⟩ := ht.popped p' h
      exact ⟨fun h => hnot (hmem h), hready'⟩
    · exact ⟨hgone, push, hpush, hready⟩
  have htracks (transitions : List Transition) (busy : Bool) (delegate : PageStackDelegate)
      (hsub : ∀ p', .pop p' ∈ transitions → .pop p' ∈ s.transitions ∨ p' = p) :
      ({ s with
        pageStack := removeUndefined init
        length := (removeUndefined init).length
        currentPage := some q
        transitions, busy, delegate } : PageStack).Tracks := by
    constructor
    case null_entry =>
      exact fun i hi => absurd (getElem?_of_removeUndefined hpre hi).2 (ht.getElem?_ne_null hs i)
    case loading =>
      exact fun id push hid hloading => absurd hloading (hs push (List.mem_of_getElem? hid))
    case page_entry =>
      exact fun i p' hi => ht.page_entry i p' (getElem?_of_removeUndefined hpre hi).2
    case popped => exact hpopped transitions hsub
    case current =>
      intro p' hp'
      obtain rfl := Option.some.inj hp'
      exact List.mem_of_getLast? htop
    case top_defined => simp [htop]
    case top_page =>
      intro p' hp'
      rw [htop] at hp'
      obtain rfl := Entry.page.inj (Option.some.inj hp')
      exact ⟨rfl, rfl⟩
    case no_page => exact fun hnone => absurd (List.mem_of_getLast? htop) (hnone q)
  split
  · refine htracks _ _ _ fun p' hp' => ?_
    simpa using hp'
  · exact (htracks _ _ _ fun p' hp' => .inl hp').destroy hgone

end Pop

/-! ## Runs of the page stack

There is one lemma for each operation above, and one for each event here, which are put together
from these. -/

section Runs

variable {s : PageStack}

/-- **A page is pushed**: the component cannot be loaded, the page is ready at once, or it is
pending. -/
theorem Tracks.push (ht : s.Tracks) (pageUrl : String) (component : Component)
    {incubation : Status} (hclean : component.status = .error ∨ incubation ≠ .error) :
    (s.push pageUrl component incubation).1.Tracks := by
  unfold PageStack.push
  split
  · exact ht
  rename_i hcomponent
  let pending : Incubator :=
    { pUrl := pageUrl, component, pushAtPos := s.pageStack.length, status := .loading }
  have hreserve : (s.reserve pending).Tracks := ht.reserve rfl rfl
  cases incubation with
  | loading => exact hreserve
  | error => exact absurd rfl (hclean.resolve_left hcomponent)
  | ready =>
    -- as if the incubator had been loading for a moment
    have hready := hreserve.ready (incubators_reserve_self s pending) rfl
    rw [setStatus_reserve] at hready
    exact hready

/-- **An incubation comes to its end.** A status that does not end it changes nothing. -/
theorem Tracks.statusChanged (ht : s.Tracks) (id : IncubatorId) (status : Status)
    (hclean : status = .error → ∀ push : Incubator, s.incubators[id]? = some push →
      push.status = .loading → s.FailsCleanly push) :
    (s.statusChanged id status).1.Tracks := by
  unfold PageStack.statusChanged
  split
  · exact ht
  rename_i push hid
  split
  · rename_i hloading
    cases status with
    | error => exact ht.error hid hloading (hclean rfl push hid hloading)
    | ready => exact ht.ready hid hloading
    | loading =>
      -- nothing has changed
      rw [setStatus_loading hid hloading]
      exact ht
  · exact ht

/-- The exact condition for the last incubation that is pending: if it fails, the stack agrees with
itself just in case it fails cleanly. -/
theorem Tracks.agrees_error_iff (ht : s.Tracks) {id : IncubatorId} {push : Incubator}
    (hid : s.incubators[id]? = some push) (hloading : push.status = .loading)
    (hs : ((s.setStatus id push .error).wrap push .error).1.Settled) :
    ((s.setStatus id push .error).wrap push .error).1.Agrees ↔ s.FailsCleanly push := by
  constructor
  · rintro ⟨hlength, hlast⟩ htop
    have hstack : ((s.setStatus id push .error).wrap push .error).1.pageStack =
        s.pageStack.dropLast := if_pos htop
    have hcurrent : ((s.setStatus id push .error).wrap push .error).1.currentPage =
        s.currentPage := rfl
    rw [hstack, hcurrent] at hlast
    rw [hstack, List.length_dropLast, ← htop, Nat.add_sub_cancel] at hlength
    rw [hlast]
    cases hpage : s.currentPage with
    | none => trivial
    | some p => exact ⟨rfl, hlength⟩
  · intro hclean
    exact (ht.error hid hloading hclean).agrees hs

end Runs

end PageStack

/-- Pages are popped only while no incubation is pending. -/
def PopsWhenSettled (h : History PageStack PageStackEvent PageStackOutput)
    (e : PageStackEvent) : Prop :=
  e = .pop → h.state.Settled

instance (h : History PageStack PageStackEvent PageStackOutput) (e : PageStackEvent) :
    Decidable (PopsWhenSettled h e) :=
  inferInstanceAs (Decidable (_ → _))

/-- An incubation that fails does so after `push` has returned, and cleanly. -/
def FailuresAreClean (h : History PageStack PageStackEvent PageStackOutput) :
    PageStackEvent → Prop
  | .push _ component incubation => component.status = .error ∨ incubation ≠ .error
  | .statusChanged id status => status = .error →
      ∀ push ∈ h.state.incubators[id]?, push.status = .loading → h.state.FailsCleanly push
  | _ => True

instance (h : History PageStack PageStackEvent PageStackOutput) (e : PageStackEvent) :
    Decidable (FailuresAreClean h e) := by
  cases e <;> unfold FailuresAreClean <;> infer_instance

/-- Whenever no incubation is pending, `length`, `currentPage` and the array agree, in every run in
which pages are popped only while nothing is pending and all failures are clean.

By induction with `Tracks`, which says for every entry what its incubator must be like, and which
remains true while something is pending. `Agrees` is what is left of it when nothing is. -/
theorem agrees_when_settled (delegate : PageStackDelegate) (es : List PageStackEvent)
    (hes : pageStackMachine.Admits (fun h e => PopsWhenSettled h e ∧ FailuresAreClean h e)
      (.init { delegate }) es) :
    pageStackMachine.Always (fun h => h.state.Settled → h.state.Agrees)
      (.init { delegate }) es := by
  have htracks : pageStackMachine.Always (fun h => h.state.Tracks) (.init { delegate }) es := by
    refine Machine.always_of_admits ?_ (PageStack.tracks_init delegate) hes
    intro h e ht ⟨hpop, hclean⟩
    cases e with
    | push pageUrl component incubation => exact ht.push pageUrl component hclean
    | statusChanged id status => exact ht.statusChanged id status hclean
    | pop => exact ht.pop (hpop rfl)
    | stopped n => exact ht.stopped n
  exact htracks.mono fun h ht hs => ht.agrees hs

/-- Three pages, of which the second one fails while the third one is still being incubated; the
third one is popped. -/
def secondFails : List PageStackEvent :=
  [.push "first.qml" {} .ready, .push "second.qml" {} .loading, .push "third.qml" {} .loading,
    .statusChanged 1 .error, .statusChanged 2 .ready, .pop]

/-- The failed entry is below the third page, and goes with it when that is popped. -/
theorem agrees_when_settled_secondFails :
    pageStackMachine.Always (fun h => h.state.Settled → h.state.Agrees) (.init {}) secondFails :=
  agrees_when_settled {} secondFails (by decide)

/-- Two pages, of which the first one is ready before the second one fails. -/
def topFails : List PageStackEvent :=
  [.push "first.qml" {} .loading, .push "second.qml" {} .loading, .statusChanged 0 .ready,
    .statusChanged 1 .error]

/-- The first page is on top then, and neither `length` nor `currentPage` says so. -/
theorem not_agrees_topFails :
    pageStackMachine.Admits PopsWhenSettled (.init {}) topFails ∧
      ¬ pageStackMachine.Always (fun h => h.state.Settled → h.state.Agrees) (.init {})
        topFails := by
  refine ⟨by decide, fun hall => ?_⟩
  have hlast : (pageStackMachine.run (.init {}) topFails).state.Agrees := hall.last (by decide)
  revert hlast
  decide

end Eos
