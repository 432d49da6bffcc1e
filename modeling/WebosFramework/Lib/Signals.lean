import Mathlib.Data.Option.Basic

/-!
# Signals and slots

A connection leads from a sender to a receiver, and is known by a handle. It ends when it is
disconnected by its handle, or when its sender or its receiver goes. This module knows nothing about
any particular sender or receiver. It holds

* `connect`, `disconnect` and `forget`, with what is connected after each of them;
* `Owned`: whoever keeps the handle of a connection in a variable, and puts another handle there,
  loses sight of the first connection. `Owned` says that this has not happened to any connection of
  a certain kind; then disconnecting by the variable leaves no connection of that kind.
-/

namespace Signals

/-- One connection, with the handle that it is disconnected by. -/
structure Connection (S R : Type) where
  handle : Nat
  sender : S
  receiver : R

/-- All connections, and the next handle. No handle is used twice. -/
structure Connections (S R : Type) where
  /-- The connections in the order they were made. -/
  entries : List (Connection S R) := []
  next : Nat := 0

namespace Connections

variable {S R : Type}

/-- A new connection with a new handle. Nothing looks for an equal one. -/
def connect (c : Connections S R) (sender : S) (receiver : R) : Connections S R where
  entries := c.entries ++ [⟨c.next, sender, receiver⟩]
  next := c.next + 1

/-- Nothing happens if there is no such connection any more. -/
def disconnect (c : Connections S R) (handle : Option Nat) : Connections S R :=
  { c with entries := c.entries.filter fun entry => handle ≠ some entry.handle }

/-- The connections of a sender or a receiver that goes. -/
def forget (c : Connections S R) (gone : S → R → Bool) : Connections S R :=
  { c with entries := c.entries.filter fun entry => !gone entry.sender entry.receiver }

/-- The receivers of a signal, in the order of their connections. -/
def receivers [DecidableEq S] (c : Connections S R) (sender : S) : List R :=
  (c.entries.filter fun entry => entry.sender = sender).map Connection.receiver

/-- There is a connection between the two. -/
def Connected (c : Connections S R) (sender : S) (receiver : R) : Prop :=
  ∃ entry ∈ c.entries, entry.sender = sender ∧ entry.receiver = receiver

/-- `handle` is the one of every connection of the kind `P`. -/
def Owned (c : Connections S R) (P : R → Prop) (handle : Option Nat) : Prop :=
  ∀ entry ∈ c.entries, P entry.receiver → handle = some entry.handle

variable {c : Connections S R} {sender sender' : S} {receiver receiver' : R} {P : R → Prop}
  {handle handle' : Option Nat}

/-- The receivers of a sender are those it is connected to. -/
theorem mem_receivers [DecidableEq S] :
    receiver ∈ c.receivers sender ↔ c.Connected sender receiver := by
  simp [receivers, Connected, and_assoc]

/-- A connection is made between the two, and the others stay. -/
theorem connected_connect : (c.connect sender receiver).Connected sender' receiver' ↔
    c.Connected sender' receiver' ∨ sender = sender' ∧ receiver = receiver' := by
  simp only [Connected, connect, List.mem_append, List.mem_singleton]
  constructor
  · rintro ⟨entry, hentry | rfl, hsender, hreceiver⟩
    · exact .inl ⟨entry, hentry, hsender, hreceiver⟩
    · exact .inr ⟨hsender, hreceiver⟩
  · rintro (⟨entry, hentry, h⟩ | h)
    · exact ⟨entry, .inl hentry, h⟩
    · exact ⟨_, .inr rfl, h⟩

/-- Forgetting ends what the test names, and nothing else. -/
theorem connected_forget {gone : S → R → Bool} : (c.forget gone).Connected sender receiver ↔
    c.Connected sender receiver ∧ gone sender receiver = false := by
  simp only [Connected, forget, List.mem_filter, Bool.not_eq_true']
  constructor
  · rintro ⟨entry, ⟨hentry, hgone⟩, rfl, rfl⟩
    exact ⟨⟨entry, hentry, rfl, rfl⟩, hgone⟩
  · rintro ⟨⟨entry, hentry, rfl, rfl⟩, hgone⟩
    exact ⟨entry, ⟨hentry, hgone⟩, rfl, rfl⟩

/-- Disconnecting anything leaves the others owned. -/
theorem Owned.disconnect (h : c.Owned P handle) (handle' : Option Nat) :
    (c.disconnect handle').Owned P handle :=
  fun entry hentry => h entry ((List.mem_filter.mp hentry).1)

/-- So does forgetting. -/
theorem Owned.forget (h : c.Owned P handle) (gone : S → R → Bool) :
    (c.forget gone).Owned P handle :=
  fun entry hentry => h entry ((List.mem_filter.mp hentry).1)

/-- A connection of another kind. -/
theorem Owned.connect (h : c.Owned P handle) (hreceiver : ¬ P receiver) :
    (c.connect sender receiver).Owned P handle := by
  intro entry hentry hP
  rcases List.mem_append.mp hentry with hentry | hentry
  · exact h entry hentry hP
  · rw [List.mem_singleton.mp hentry] at hP
    exact absurd hP hreceiver

/-- Disconnecting by the handle leaves no connection of the kind. -/
theorem Owned.not_connected (h : c.Owned P handle) (hP : P receiver) :
    ¬ (c.disconnect handle).Connected sender receiver := by
  rintro ⟨entry, hentry, -, rfl⟩
  obtain ⟨hmem, hne⟩ := List.mem_filter.mp hentry
  simp [h entry hmem hP] at hne

/-- A new connection is the only one of its kind if all others have been disconnected. -/
theorem Owned.reconnect (h : ∀ sender receiver, P receiver → ¬ c.Connected sender receiver) :
    (c.connect sender receiver).Owned P (some c.next) := by
  intro entry hentry hP
  rcases List.mem_append.mp hentry with hentry | hentry
  · exact absurd ⟨entry, hentry, rfl, rfl⟩ (h entry.sender entry.receiver hP)
  · rw [List.mem_singleton.mp hentry]

/-- Disconnecting makes no connection. -/
theorem connected_of_disconnect (h : (c.disconnect handle).Connected sender receiver) :
    c.Connected sender receiver := by
  obtain ⟨entry, hentry, h⟩ := h
  exact ⟨entry, (List.mem_filter.mp hentry).1, h⟩

end Connections

end Signals
