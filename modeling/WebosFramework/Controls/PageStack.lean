import Mathlib.Data.List.DropRight
import WebosFramework.Lib.EventLoop

/-!
# The page stack

`PageStack` of `Eos/Controls/PageStack.qml` keeps its pages in the array `pageStack`, next to a
`length` and a `currentPage` that it updates by hand. `push` reserves the next entry of the array
and has the page incubated. `wrap` puts the page there once it is ready, which may be after pages
that were pushed later have become ready or failed. `pop` removes the page on top.

* An entry of the array is a page, `null` while the page is being incubated, or `undefined` once the
  incubation has failed below the top.
* A page is named by the incubator that creates it, and an incubator by its place in the order of
  creation.
* An incubator remembers the call of `push` it was created by, which is what its callback closes
  over. Its status changes at most once.
* A call that throws leaves behind what it has done so far.
* A transition runs until its `stopped` event.

The array is a list of entries. JavaScript arrays grow when they are written to beyond their end,
which is `assign`. The replacement of pages and `remove` have modules of their own.
-/

namespace Eos

open EventLoop

/-- Incubators are numbered in the order of their creation. -/
abbrev IncubatorId := Nat

/-- A page has the number of its incubator. -/
abbrev PageId := IncubatorId

/-- An entry of the array. -/
inductive Entry where
  /-- The incubation has failed, or there never was anything. -/
  | undefined
  /-- The page is being incubated. -/
  | null
  | page (object : PageId)
  deriving DecidableEq

/-- What a property of type `Item` becomes; assigning `undefined` throws. -/
def Entry.toItem : Entry → Option (Option PageId)
  | .undefined => none
  | .null => some none
  | .page object => some (some object)

/-- `Component.status`, of a component or of an incubator -/
inductive Status where
  | loading
  | ready
  | error
  deriving DecidableEq

/-- What `Qt.createComponent` has returned. -/
structure Component where
  status : Status := .ready
  errorString : String := ""
  deriving DecidableEq

/-- An incubator, with the arguments of the `push` it belongs to. -/
structure Incubator where
  pUrl : String
  component : Component
  pushAtPos : Nat
  status : Status
  deriving DecidableEq

/-- A transition that is running, with the page that it destroys when it has stopped. -/
inductive Transition where
  | push
  | pop (object : PageId)
  deriving DecidableEq

/-- The properties of the delegate. A transition is there or not. -/
structure PageStackDelegate where
  enterItem : Option PageId := none
  exitItem : Option PageId := none
  popTransition : Bool := true
  pushTransition : Bool := true
  deriving DecidableEq

/-- The properties of a `PageStack`. -/
structure PageStack where
  pageStack : List Entry := []
  currentPage : Option PageId := none
  length : Nat := 0
  /-- The flag that transitions set and clear. -/
  busy : Bool := false
  delegate : PageStackDelegate := {}
  currentPageUrl : String := ""
  /-- `d.incubator` -/
  incubator : List (Option IncubatorId) := []
  /-- All incubators there have been. -/
  incubators : List Incubator := []
  /-- The transitions that are running. -/
  transitions : List Transition := []
  deriving DecidableEq

/-- What a call does to the outside. -/
inductive PageStackOutput where
  /-- The signal `creationFailed`. -/
  | creationFailed (uri errMsg : String)
  /-- `destroy()` of a page. -/
  | destroyed (object : PageId)
  /-- The call has thrown. -/
  | exception
  deriving DecidableEq

/-- `array[i] = value`: an array that is too short is filled up with `hole`. -/
def assign {α : Type} (hole : α) (array : List α) (i : Nat) (value : α) : List α :=
  if i < array.length then array.set i value
  else array ++ List.replicate (i - array.length) hole ++ [value]

namespace PageStack

/-- `d.incubator[pushAtPos].object`; there is none before the incubator is ready. -/
def incubatedObject (s : PageStack) (pushAtPos : Nat) : Option PageId :=
  match s.incubator[pushAtPos]? with
  | some (some id) =>
    match s.incubators[id]? with
    | some incubator => if incubator.status = .ready then some id else none
    | none => none
  | _ => none

/-- `container.pageStack[container.length-1]` -/
def entryAtLength (s : PageStack) : Entry :=
  if s.length = 0 then .undefined else s.pageStack.getD (s.length - 1) .undefined

/-- The end of `wrap`: the delegate animates the page that has been pushed. -/
def enter (s : PageStack) (pushAtPos : Nat) : PageStack × List PageStackOutput :=
  let s := { s with delegate := { s.delegate with enterItem := s.currentPage } }
  match s.entryAtLength.toItem with
  | none => (s, [.exception])
  | some exitItem =>
    let s := { s with delegate := { s.delegate with exitItem := exitItem } }
    let s := if s.delegate.pushTransition then
        { s with busy := true, transitions := s.transitions ++ [.push] }
      else s
    ({ s with incubator := assign none s.incubator pushAtPos none }, [])

/-- The array without an entry whose incubation has failed; below the top the entry is left to a
`pop` in the future. -/
def failed (s : PageStack) (pushAtPos : Nat) : List Entry :=
  if pushAtPos + 1 = s.pageStack.length then s.pageStack.dropLast
  else assign .undefined s.pageStack pushAtPos .undefined

/-- `wrap`, the callback of an incubation: it has failed, is ready, or goes on. -/
def wrap (s : PageStack) (push : Incubator) (status : Status) :
    PageStack × List PageStackOutput :=
  if status = .error then
    ({ s with pageStack := s.failed push.pushAtPos },
      [.creationFailed push.pUrl push.component.errorString])
  else if status = .ready then
    match s.incubatedObject push.pushAtPos with
    | none => (s, [.exception])
    | some theObject =>
      let pageStack := assign .undefined s.pageStack push.pushAtPos (.page theObject)
      let currentPage :=
        if push.pushAtPos + 1 = pageStack.length then some theObject else s.currentPage
      let s := { s with
        pageStack := pageStack, length := pageStack.length, currentPage := currentPage }
      s.enter push.pushAtPos
  else (s, [])

/-- The entry of the array for a page that is going to be incubated. -/
def reserve (s : PageStack) (push : Incubator) : PageStack :=
  { s with
    pageStack := assign .undefined s.pageStack push.pushAtPos .null
    currentPageUrl := push.pUrl
    incubator := assign none s.incubator push.pushAtPos (some s.incubators.length)
    incubators := s.incubators ++ [push] }

/-- `push`, with what `createComponent` returns and the status that the incubator has at once.
Only an incubator that is not ready calls back, and only when its status changes. -/
def push (s : PageStack) (pageUrl : String) (component : Component) (incubation : Status) :
    PageStack × List PageStackOutput :=
  if component.status = .error then (s, [.creationFailed pageUrl component.errorString])
  else
    let push : Incubator :=
      { pUrl := pageUrl, component, pushAtPos := s.pageStack.length, status := incubation }
    let s := s.reserve push
    if incubation = .ready then s.wrap push .ready else (s, [])

/-- The status of an incubator changes. -/
def setStatus (s : PageStack) (id : IncubatorId) (push : Incubator) (status : Status) :
    PageStack :=
  { s with incubators := s.incubators.set id { push with status := status } }

/-- An incubator that is loading gets another status and calls back. -/
def statusChanged (s : PageStack) (id : IncubatorId) (status : Status) :
    PageStack × List PageStackOutput :=
  match s.incubators[id]? with
  | none => (s, [])
  | some push =>
    if push.status = .loading then (s.setStatus id push status).wrap push status
    else (s, [])

/-- `getObjectsNumber`. An entry that is `null` counts. -/
def getObjectsNumber (s : PageStack) : Nat :=
  s.pageStack.countP (· ≠ .undefined)

/-- `removeUndefined`, which stops at the first entry that is not `undefined`. -/
def removeUndefined (pageStack : List Entry) : List Entry :=
  pageStack.rdropWhile (· = .undefined)

/-- A page that has been destroyed is in no property of type `Item` any more. -/
def destroy (s : PageStack) (object : PageId) : PageStack × List PageStackOutput :=
  let clear (item : Option PageId) := if item = some object then none else item
  ({ s with
    currentPage := clear s.currentPage
    delegate := { s.delegate with
      enterItem := clear s.delegate.enterItem, exitItem := clear s.delegate.exitItem } },
    [.destroyed object])

/-- Without a transition the object goes once `pop` has returned. -/
def pop (s : PageStack) : PageStack × List PageStackOutput :=
  if s.length < 2 ∨ s.getObjectsNumber < 2 then (s, [])
  else
    let object := s.pageStack.getLast?.getD .undefined
    let pageStack := removeUndefined s.pageStack.dropLast
    let s := { s with pageStack := pageStack, length := pageStack.length }
    match object.toItem with
    | none => (s, [.exception])
    | some exitItem =>
      let s := { s with delegate := { s.delegate with exitItem := exitItem } }
      match s.entryAtLength.toItem with
      | none => (s, [.exception])
      | some enterItem =>
        let s := { s with delegate := { s.delegate with enterItem := enterItem } }
        match exitItem with
        | none => (s, [.exception])
        | some object =>
          if s.delegate.popTransition then
            ({ s with
              busy := true
              transitions := s.transitions ++ [.pop object]
              currentPage := enterItem }, [])
          else { s with currentPage := enterItem }.destroy object

/-- The `n`-th of the running transitions has stopped. -/
def stopped (s : PageStack) (n : Nat) : PageStack × List PageStackOutput :=
  match s.transitions[n]? with
  | none => (s, [])
  | some transition =>
    let s := { s with transitions := s.transitions.eraseIdx n, busy := false }
    match transition with
    | .push => (s, [])
    | .pop object => s.destroy object

end PageStack

/-- What may happen: calls of the stack, incubations that come to an end, and transitions that
stop. -/
inductive PageStackEvent where
  | push (pageUrl : String) (component : Component) (incubation : Status)
  | statusChanged (id : IncubatorId) (status : Status)
  | pop
  | stopped (n : Nat)
  deriving DecidableEq

/-- A page stack reacting to one event after the other. -/
def pageStackMachine : Machine PageStack PageStackEvent PageStackOutput where
  handle s
    | .push pageUrl component incubation => s.push pageUrl component incubation
    | .statusChanged id status => s.statusChanged id status
    | .pop => s.pop
    | .stopped n => s.stopped n

section Assign

variable {α : Type} {hole value : α} {array : List α} {i j : Nat}

@[simp] theorem getElem?_assign_self : (assign hole array i value)[i]? = some value := by
  unfold assign
  split
  · rename_i hi
    exact List.getElem?_set_self hi
  · rename_i hi
    have hlength : (array ++ List.replicate (i - array.length) hole).length = i := by
      simp; omega
    rw [List.getElem?_append_right (by omega), hlength]
    simp

/-- Other entries that are there stay as they are. -/
theorem getElem?_assign_of_lt (hj : j < array.length) (hij : i ≠ j) :
    (assign hole array i value)[j]? = array[j]? := by
  unfold assign
  split
  · exact List.getElem?_set_ne hij
  · rw [List.append_assoc, List.getElem?_append_left hj]

/-- An entry is the new one, an old one, or what the array is filled up with. -/
theorem of_getElem?_assign {x : α} (hj : (assign hole array i value)[j]? = some x) :
    j = i ∧ x = value ∨ array[j]? = some x ∨ x = hole := by
  unfold assign at hj
  split at hj
  · rw [List.getElem?_set] at hj
    split at hj
    · rename_i hij
      subst hij
      simp_all
    · exact .inr (.inl hj)
  · rw [List.append_assoc, List.getElem?_append] at hj
    split at hj
    · exact .inr (.inl hj)
    · rw [List.getElem?_append, List.length_replicate] at hj
      split at hj
      · exact .inr (.inr (List.eq_of_mem_replicate (List.mem_of_getElem? hj)))
      · obtain ⟨hlt, rfl⟩ := List.getElem?_eq_some_iff.mp hj
        rw [List.length_singleton] at hlt
        exact .inl ⟨by omega, List.mem_singleton.mp (List.getElem_mem hlt)⟩

/-- A write to an entry that is there changes that entry. -/
theorem assign_of_lt (hi : i < array.length) :
    assign hole array i value = array.set i value :=
  if_pos hi

@[simp] theorem assign_length : assign hole array array.length value = array ++ [value] := by
  simp [assign]

end Assign

end Eos
