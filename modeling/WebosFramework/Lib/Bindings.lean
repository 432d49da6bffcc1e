import Mathlib.Order.Lattice

/-!
# Values kept up to date by notifications

Some values of a state are computed from others. Whoever changes a value notifies the listeners of
it; a listener recomputes its own value and notifies its listeners in turn, before the next
listener of the first value is notified. While this goes on, values are stale. A listener may have
been cut off, and then it is skipped.

A `Network` says what listens to what, and `fire` notifies a list of listeners. The graph has no
cycle: a listener is lower than what it listens to.

* **`upToDate_fire`**: if the values that are not up to date are among those notified, then all are
  up to date afterwards. Nothing is assumed of the order of the listeners, of values that are
  computed more than once, or of which listeners have been cut off.
* **`fire_preserves`**: what every single computation leaves alone stays as it is.
-/

namespace Bindings

variable {σ ν : Type}

/-- Who listens to what, and how a listener computes its value. The height of a value bounds how
far a change of it can travel. -/
structure Network (σ ν : Type) where
  /-- Who is notified of a change, in the order of the connections. -/
  listeners : ν → List ν
  /-- What a listener does when it is notified. -/
  calculate : ν → σ → σ
  height : ν → Nat
  /-- There are no cycles: a listener is lower than what it listens to. -/
  height_lt : ∀ n, ∀ m ∈ listeners n, height m < height n

namespace Network

variable (N : Network σ ν)

/-- Everything in the list is lower than this. -/
def top : List ν → Nat
  | [] => 0
  | n :: l => max (N.height n + 1) (top l)

/-- Each of the listeners is below the top of the list. -/
theorem height_lt_top {l : List ν} {n : ν} (hn : n ∈ l) : N.height n < N.top l := by
  induction l with
  | nil => cases hn
  | cons m l ih =>
    rcases List.mem_cons.mp hn with rfl | hn
    · exact Nat.lt_of_succ_le (Nat.le_max_left _ _)
    · exact Nat.lt_of_lt_of_le (ih hn) (Nat.le_max_right _ _)

/-- A bound on all heights is one on the top. -/
theorem top_le {l : List ν} {k : Nat} (hl : ∀ n ∈ l, N.height n < k) : N.top l ≤ k := by
  induction l with
  | nil => exact Nat.zero_le k
  | cons n l ih =>
    exact Nat.max_le.mpr ⟨hl n List.mem_cons_self, ih fun m hm => hl m (List.mem_cons_of_mem n hm)⟩

/-- The listeners in the list are notified, one after the other. -/
def fire (connected : ν → Bool) : List ν → σ → σ
  | [], s => s
  | n :: l, s =>
    fire connected l
      (if connected n then fire connected (N.listeners n) (N.calculate n s) else s)
termination_by l => (N.top l, l.length)
decreasing_by
  · apply Prod.Lex.left
    have hle := N.top_le (N.height_lt n)
    have hlt := N.height_lt_top (l := n :: l) List.mem_cons_self
    omega
  · have hle : N.top l ≤ N.top (n :: l) := Nat.le_max_right _ _
    rcases Nat.lt_or_eq_of_le hle with hlt | heq
    · exact Prod.Lex.left _ _ hlt
    · rw [heq]
      exact Prod.Lex.right _ (Nat.lt_succ_self _)

/-- What computations leave alone. -/
theorem fire_preserves {connected : ν → Bool} {P : σ → Prop}
    (hP : ∀ n s, connected n = true → P s → P (N.calculate n s)) {l : List ν} {s : σ} (hs : P s) :
    P (N.fire connected l s) := by
  fun_induction N.fire connected l s with
  | case1 s => exact hs
  | case2 n l s hfirst hrest =>
    apply hrest
    split
    · rename_i hn
      exact hfirst (hP n s hn hs)
    · exact hs

/-- When a value is up to date, and what the network has to do with it: computing a value makes it
so, and puts nothing out of date but what listens to it. -/
structure Sound (UpToDate : ν → σ → Prop) : Prop where
  /-- A value is up to date once it has been computed. -/
  calculate : ∀ n s, UpToDate n (N.calculate n s)
  /-- A computation makes nobody stale who does not listen to it. -/
  frame : ∀ n m s, m ≠ n → m ∉ N.listeners n → UpToDate m s → UpToDate m (N.calculate n s)

variable {N}

/-- **Notifying those that are out of date brings them up to date.** `stale` are values that need
not be up to date before or afterwards: those that are going to be notified later. -/
theorem upToDate_fire {UpToDate : ν → σ → Prop} (hN : N.Sound UpToDate) {connected : ν → Bool}
    {l : List ν} {s : σ} (stale : ν → Prop)
    (hs : ∀ m, connected m = true → ¬ stale m → m ∉ l → UpToDate m s) :
    ∀ m, connected m = true → ¬ stale m → UpToDate m (N.fire connected l s) := by
  fun_induction N.fire connected l s generalizing stale with
  | case1 s =>
    intro m hm hstale
    exact hs m hm hstale (List.not_mem_nil)
  | case2 n l s hfirst hrest =>
    apply hrest
    intro m hm hstale hml
    by_cases hn : connected n = true
    · rw [dif_pos hn]
      -- the rest of the list is stale while the listeners of `n` are notified
      apply hfirst (fun m => stale m ∨ m ∈ l) _ m hm (by simp [hstale, hml])
      intro k hk hkstale hknot
      by_cases heq : k = n
      · exact heq ▸ hN.calculate n s
      · have hknl : ¬ stale k ∧ k ∉ l := not_or.mp hkstale
        exact hN.frame n k s heq hknot (hs k hk hknl.1 (by simp [heq, hknl.2]))
    · rw [dif_neg hn]
      have hne : m ≠ n := fun heq => hn (heq ▸ hm)
      exact hs m hm hstale (by simp [hne, hml])

end Network

end Bindings
