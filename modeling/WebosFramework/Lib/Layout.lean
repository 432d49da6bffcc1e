import Mathlib.Order.Bounds.Basic

/-!
# Layout of members in memory

Members are laid out one after another, each at the first offset behind its predecessor that meets
its alignment. This is the rule of C structures and of the uniform blocks of a shader. A memory is
a function from addresses to bytes, and writing is `store`.

* `alignUp` is the least multiple of the alignment that is not below the offset (`isLeast_alignUp`);
* `place` gives every member its offset: they come in order and do not overlap (`pairwise_place`),
  and the last one ends at `extent`;
* lists that begin alike are laid out alike (`exists_place_of_begins`);
* after stores that do not overlap every one of them can be read back, and nothing else has changed
  (`storeAll_of_mem`, `storeAll_of_forall`).
-/

namespace Layout

/-! ## Alignment

Rounding an offset up to a multiple of the alignment. -/

/-- The offset, rounded up to a multiple of `n`. -/
def alignUp (n offset : Nat) : Nat := (offset + (n - 1)) / n * n

/-- The result is aligned. -/
theorem dvd_alignUp (n offset : Nat) : n ∣ alignUp n offset :=
  Nat.dvd_mul_left n _

/-- Nothing is moved to the front. -/
theorem le_alignUp {n : Nat} (hn : 0 < n) (offset : Nat) : offset ≤ alignUp n offset := by
  have hmod := Nat.mod_add_div (offset + (n - 1)) n
  have hlt := Nat.mod_lt (offset + (n - 1)) hn
  unfold alignUp
  rw [Nat.mul_comm]
  omega

/-- Any aligned offset behind is an upper bound. -/
theorem alignUp_le {n : Nat} (hn : 0 < n) {offset m : Nat} (hm : offset ≤ m) (hdvd : n ∣ m) :
    alignUp n offset ≤ m := by
  obtain ⟨k, rfl⟩ := hdvd
  have hdiv : (offset + (n - 1)) / n ≤ k := by
    apply Nat.lt_succ_iff.mp
    apply (Nat.div_lt_iff_lt_mul hn).mpr
    have hsucc : k.succ * n = n * k + n := by rw [Nat.succ_mul, Nat.mul_comm]
    omega
  calc alignUp n offset ≤ k * n := Nat.mul_le_mul_right n hdiv
    _ = n * k := Nat.mul_comm k n

/-- So the result is the first aligned offset, which is what an alignment asks for. -/
theorem isLeast_alignUp {n : Nat} (hn : 0 < n) (offset : Nat) :
    IsLeast {m | offset ≤ m ∧ n ∣ m} (alignUp n offset) :=
  ⟨⟨le_alignUp hn offset, dvd_alignUp n offset⟩, fun _ hm => alignUp_le hn hm.1 hm.2⟩

/-- What is aligned stays where it is. -/
theorem alignUp_of_dvd {n offset : Nat} (hn : 0 < n) (hdvd : n ∣ offset) :
    alignUp n offset = offset :=
  (isLeast_alignUp hn offset).unique ⟨⟨Nat.le_refl offset, hdvd⟩, fun _ hm => hm.1⟩

/-! ## Placing members

The members of a structure, each at the first offset that suits it. The inductions are on the list
of members, for any first offset. -/

section Place

variable {α : Type} (align size : α → Nat)

/-- The members with their offsets. -/
def place : Nat → List α → List (Nat × α)
  | _, [] => []
  | offset, a :: as =>
    (alignUp (align a) offset, a) :: place (alignUp (align a) offset + size a) as

/-- The end of the last member. -/
def extent : Nat → List α → Nat
  | offset, [] => offset
  | offset, a :: as => extent (alignUp (align a) offset + size a) as

variable {align size}

/-- No member is placed in front of the first offset. -/
theorem le_of_mem_place (halign : ∀ a, 0 < align a) {offset : Nat} {as : List α} {p : Nat × α}
    (hp : p ∈ place align size offset as) : offset ≤ p.1 := by
  induction as generalizing offset with
  | nil => cases hp
  | cons a as ih =>
    have hle := le_alignUp (halign a) offset
    rcases List.mem_cons.mp hp with rfl | hp
    · exact hle
    · have hnext := ih hp
      omega

/-- A member ends before the next one begins. -/
theorem pairwise_place (halign : ∀ a, 0 < align a) (offset : Nat) (as : List α) :
    (place align size offset as).Pairwise fun p q => p.1 + size p.2 ≤ q.1 := by
  induction as generalizing offset with
  | nil => exact .nil
  | cons a as ih => exact .cons (fun _ hq => le_of_mem_place halign hq) (ih _)

/-- The end is not in front of the beginning. -/
theorem le_extent (halign : ∀ a, 0 < align a) (offset : Nat) (as : List α) :
    offset ≤ extent align size offset as := by
  induction as generalizing offset with
  | nil => exact Nat.le_refl offset
  | cons a as ih =>
    have hle := le_alignUp (halign a) offset
    have hnext := ih (alignUp (align a) offset + size a)
    show offset ≤ extent align size (alignUp (align a) offset + size a) as
    omega

/-- All bytes of a member are in front of the end. -/
theorem mem_place_le_extent (halign : ∀ a, 0 < align a) {offset : Nat} {as : List α}
    {p : Nat × α} (hp : p ∈ place align size offset as) :
    p.1 + size p.2 ≤ extent align size offset as := by
  induction as generalizing offset with
  | nil => cases hp
  | cons a as ih =>
    rcases List.mem_cons.mp hp with rfl | hp
    · exact le_extent halign _ as
    · exact ih hp

/-- Values that are aligned as their members end where these do. -/
theorem extent_map {β : Type} {align' size' : β → Nat} {value : α → β} {as : List α}
    (has : ∀ a ∈ as, align' (value a) = align a ∧ size' (value a) = size a) (offset : Nat) :
    extent align' size' offset (as.map value) = extent align size offset as := by
  induction as generalizing offset with
  | nil => rfl
  | cons a as ih =>
    obtain ⟨halign, hsize⟩ := has a List.mem_cons_self
    rw [List.map_cons, extent, extent, halign, hsize]
    exact ih (fun b hb => has b (List.mem_cons_of_mem a hb)) _

/-- Members that begin alike are placed alike: the first member with a property is found at the
offset at which its value is placed. -/
theorem exists_place_of_begins {β : Type} {align' size' : β → Nat} {value : α → β} {p : α → Bool}
    {as : List α} (has : ∀ a ∈ as, align' (value a) = align a ∧ size' (value a) = size a)
    (hp : ∃ a ∈ as, p a = true) (bs bs' : List α) (offset : Nat) :
    ∃ pos a, a ∈ as ∧ p a = true ∧
      (place align size offset (as ++ bs)).find? (fun q => p q.2) = some (pos, a) ∧
      (pos, value a) ∈ place align' size' offset ((as ++ bs').map value) := by
  induction as generalizing offset with
  | nil => exact absurd hp (by simp)
  | cons a as ih =>
    obtain ⟨halign, hsize⟩ := has a List.mem_cons_self
    rw [List.cons_append, List.cons_append, List.map_cons, place, place, halign, hsize]
    by_cases hpa : p a = true
    · exact ⟨_, a, List.mem_cons_self, hpa, List.find?_cons_of_pos hpa, List.mem_cons_self⟩
    · have hrest : ∃ b ∈ as, p b = true := by
        obtain ⟨b, hb, hpb⟩ := hp
        rcases List.mem_cons.mp hb with rfl | hb
        · exact absurd hpb hpa
        · exact ⟨b, hb, hpb⟩
      obtain ⟨pos, b, hb, hpb, hfind, hmem⟩ :=
        ih (fun b hb => has b (List.mem_cons_of_mem a hb)) hrest
          (alignUp (align a) offset + size a)
      refine ⟨pos, b, List.mem_cons_of_mem a hb, hpb, ?_, List.mem_cons_of_mem _ hmem⟩
      refine (List.find?_cons_of_neg ?_).trans hfind
      exact hpa

end Place

/-! ## Stores

Writes to a memory, and what is read after several of them that do not overlap. -/

section Store

variable {β : Type}

/-- A condition that fails for good once it fails holds of the first few members. So to filter by it
is to cut the list off. -/
theorem exists_filter_eq_take {p : β → Bool} {l : List β}
    (hp : l.Pairwise fun b b' => p b' = true → p b = true) :
    ∃ n, l.filter p = l.take n ∧ ∀ b ∈ l.drop n, p b = false := by
  induction l with
  | nil => exact ⟨0, rfl, by simp⟩
  | cons b l ih =>
    obtain ⟨hb, hl⟩ := List.pairwise_cons.mp hp
    cases hpb : p b with
    | true =>
      obtain ⟨n, htake, hdrop⟩ := ih hl
      exact ⟨n + 1, by simp [hpb, htake], by simpa using hdrop⟩
    | false =>
      have hall : ∀ b' ∈ b :: l, p b' = false := by
        intro b' hb'
        rcases List.mem_cons.mp hb' with rfl | hb'
        · exact hpb
        · apply Bool.eq_false_iff.mpr
          intro hpb'
          rw [hb b' hb' hpb'] at hpb
          cases hpb
      exact ⟨0, List.filter_eq_nil_iff.mpr fun b' hb' => by simp [hall b' hb'], hall⟩

/-- `data` is written from `offset` on. -/
def store (mem : Nat → β) (offset : Nat) (data : List β) : Nat → β := fun a =>
  if offset ≤ a then data[a - offset]?.getD (mem a) else mem a

/-- Bytes outside of the range that is written stay as they are. -/
theorem store_of_lt {mem : Nat → β} {offset : Nat} {data : List β} {a : Nat}
    (ha : a < offset ∨ offset + data.length ≤ a) : store mem offset data a = mem a := by
  unfold store
  split
  · rw [List.getElem?_eq_none (by omega)]
    rfl
  · rfl

/-- Inside of the range is the data. -/
theorem store_add {mem : Nat → β} {offset : Nat} {data : List β} {i : Nat}
    (hi : i < data.length) : store mem offset data (offset + i) = data[i] := by
  unfold store
  rw [if_pos (Nat.le_add_right offset i), Nat.add_sub_cancel_left, List.getElem?_eq_getElem hi]
  rfl

/-- Writing nothing changes nothing. -/
theorem store_nil (mem : Nat → β) (offset : Nat) : store mem offset [] = mem := by
  funext a
  exact store_of_lt (by simp; omega)

/-- Data that is written in two pieces is written in one. -/
theorem store_append (mem : Nat → β) (offset : Nat) (data data' : List β) :
    store mem offset (data ++ data') =
      store (store mem offset data) (offset + data.length) data' := by
  funext a
  unfold store
  by_cases hlow : offset ≤ a
  · by_cases hhigh : offset + data.length ≤ a
    · rw [if_pos hlow, if_pos hhigh, if_pos hlow, List.getElem?_append_right (by omega),
        List.getElem?_eq_none (l := data) (by omega), Nat.sub_sub]
      rfl
    · rw [if_pos hlow, if_neg hhigh, if_pos hlow, List.getElem?_append_left (by omega)]
  · rw [if_neg hlow, if_neg (by omega), if_neg hlow]

/-- Several writes, one after the other. -/
def storeAll (mem : Nat → β) (items : List (Nat × List β)) : Nat → β :=
  items.foldl (fun mem item => store mem item.1 item.2) mem

@[simp] theorem storeAll_nil (mem : Nat → β) : storeAll mem [] = mem := rfl

@[simp] theorem storeAll_cons (mem : Nat → β) (item : Nat × List β) (items : List (Nat × List β)) :
    storeAll mem (item :: items) = storeAll (store mem item.1 item.2) items := rfl

/-- Lists of writes compose. -/
theorem storeAll_append (mem : Nat → β) (items items' : List (Nat × List β)) :
    storeAll mem (items ++ items') = storeAll (storeAll mem items) items' := by
  simp [storeAll, List.foldl_append]

/-- Addresses that no item covers keep their contents. -/
theorem storeAll_of_forall {mem : Nat → β} {items : List (Nat × List β)} {a : Nat}
    (ha : ∀ item ∈ items, a < item.1 ∨ item.1 + item.2.length ≤ a) :
    storeAll mem items a = mem a := by
  induction items generalizing mem with
  | nil => rfl
  | cons item items ih =>
    rw [storeAll_cons, ih fun item' hitem' => ha item' (List.mem_cons_of_mem _ hitem')]
    exact store_of_lt (ha item List.mem_cons_self)

/-- Items in order that do not overlap can all be read back. -/
theorem storeAll_of_mem {mem : Nat → β} {items : List (Nat × List β)}
    (hitems : items.Pairwise fun item item' => item.1 + item.2.length ≤ item'.1)
    {item : Nat × List β} (hitem : item ∈ items) {i : Nat} (hi : i < item.2.length) :
    storeAll mem items (item.1 + i) = item.2[i] := by
  induction items generalizing mem with
  | nil => cases hitem
  | cons item' items ih =>
    obtain ⟨hfirst, hrest⟩ := List.pairwise_cons.mp hitems
    rcases List.mem_cons.mp hitem with rfl | hitem
    · -- the later items are behind this one
      rw [storeAll_cons, storeAll_of_forall fun item' hitem' => ?_]
      · exact store_add hi
      · have hbehind := hfirst item' hitem'
        omega
    · exact ih hrest hitem

end Store

end Layout
