import Mathlib.Data.Int.Init
import Mathlib.Data.List.Basic

/-!
# Counting loops and what they write

The loops `for (int i = 0; i < n; i++)` of a program that fills buffers, and the buffers.

* `forLoop n body`: what the iterations write, one after the other. It is a list, so a loop inside a
  loop is a `forLoop` in a `forLoop`.
* `forLoop_guard`, `forLoop_select`: iterations that write nothing drop out.
* `rowMajor_inj` and `getElem?_rowMajor`: with a loop over the columns in a loop over the rows, what
  is written for a place of the grid is at the row-major number of the place, and numbers tell
  places apart.
* `Buffer`: memory that is written to from the front. A write beyond the end is not possible.
* `triangles`: three numbers in a row are a triangle.
-/

namespace Loops

variable {α β : Type*}

/-! ## Counting loops

What a loop writes, as a list. The laws are those of lists, under the names of loops. -/

/-- What the iterations of a loop from 0 to `n` write. A bound below zero means that there are
none, as in the loop. -/
def forLoop (n : Int) (body : Int → List α) : List α :=
  (List.range n.toNat).flatMap fun i : Nat => body i

variable {n : Int} {f g : Int → List α}

theorem forLoop_zero : forLoop 0 f = [] := rfl

/-- One more iteration writes at the end. -/
theorem forLoop_succ (hn : 0 ≤ n) : forLoop (n + 1) f = forLoop n f ++ f n := by
  show (List.range (n + 1).toNat).flatMap _ = _
  rw [show (n + 1).toNat = n.toNat + 1 by omega, List.range_succ, List.flatMap_append,
    List.flatMap_singleton, show ((n.toNat : Nat) : Int) = n by omega]
  rfl

/-- Whatever is written was written in one of the iterations. -/
theorem mem_forLoop {a : α} : a ∈ forLoop n f ↔ ∃ i, (0 ≤ i ∧ i < n) ∧ a ∈ f i := by
  simp only [forLoop, List.mem_flatMap, List.mem_range]
  constructor
  · intro ⟨i, hi, ha⟩
    exact ⟨i, by omega, ha⟩
  · intro ⟨i, hi, ha⟩
    exact ⟨i.toNat, by omega, by rwa [show ((i.toNat : Nat) : Int) = i by omega]⟩

/-- The numbers of the iterations. -/
theorem bounds_of_mem_range {i : Nat} (hi : i ∈ List.range n.toNat) :
    0 ≤ (i : Int) ∧ (i : Int) < n := by
  have := List.mem_range.1 hi
  omega

/-- Only the iterations inside of the bounds count. -/
theorem forLoop_congr (h : ∀ i, 0 ≤ i → i < n → f i = g i) : forLoop n f = forLoop n g :=
  List.flatMap_congr fun i hi => h i (bounds_of_mem_range hi).1 (bounds_of_mem_range hi).2

/-- If each iteration writes the same number of elements, the length is a product. -/
theorem length_forLoop {k : Int} (hn : 0 ≤ n)
    (h : ∀ i, 0 ≤ i → i < n → ((f i).length : Int) = k) : ((forLoop n f).length : Int) = n * k := by
  induction n, hn using Int.leInduction with
  | base => rw [forLoop_zero, Int.zero_mul]; rfl
  | succ n hn ih =>
    rw [forLoop_succ hn, List.length_append, Int.natCast_add, h n hn (by omega),
      ih fun i h0 hi => h i h0 (by omega), Int.add_mul, Int.one_mul]

/-- What is done to the elements may be done in the iterations. -/
theorem map_forLoop (p : α → β) : (forLoop n f).map p = forLoop n fun i => (f i).map p :=
  List.map_flatMap

/-- Likewise with elements that are dropped. -/
theorem filterMap_forLoop (p : α → Option β) :
    (forLoop n f).filterMap p = forLoop n fun i => (f i).filterMap p :=
  List.filterMap_flatMap

/-- Likewise for a test. -/
theorem filter_forLoop (p : α → Bool) :
    (forLoop n f).filter p = forLoop n fun i => (f i).filter p :=
  List.filter_flatMap

/-- A loop of which no iteration writes. -/
theorem forLoop_nil (h : ∀ i, 0 ≤ i → i < n → f i = []) : forLoop n f = [] :=
  List.flatMap_eq_nil_iff.2 fun i hi => h i (bounds_of_mem_range hi).1 (bounds_of_mem_range hi).2

@[simp] theorem forLoop_empty : (forLoop n fun _ => ([] : List α)) = [] :=
  forLoop_nil fun _ _ _ => rfl

/-- The last iterations are guarded away. -/
theorem forLoop_guard {m : Int} (hn : 0 ≤ n) (hm : n ≤ m) :
    (forLoop m fun i => if i < n then f i else []) = forLoop n f := by
  induction m, hm using Int.leInduction with
  | base => exact forLoop_congr fun i _ hi => if_pos hi
  | succ m hm ih => rw [forLoop_succ (by omega), ih, if_neg (by omega), List.append_nil]

/-- Only one iteration writes. -/
theorem forLoop_select {k : Int} (h0 : 0 ≤ k) (hk : k < n)
    (h : ∀ i, 0 ≤ i → i < n → i ≠ k → f i = []) : forLoop n f = f k := by
  obtain ⟨m, hm, rfl⟩ : ∃ m, k ≤ m ∧ n = m + 1 := ⟨n - 1, by omega, by omega⟩
  clear hk
  induction m, hm using Int.leInduction with
  | base =>
    rw [forLoop_succ h0, forLoop_nil fun i hi hik => h i hi (by omega) (by omega), List.nil_append]
  | succ m hm ih =>
    rw [forLoop_succ (by omega), h (m + 1) (by omega) (by omega) (by omega), List.append_nil]
    exact ih fun i hi him => h i hi (by omega)

/-! ## Row-major numbers

The number of a place in a grid, and what two nested loops write for it. -/

/-- Places of a grid have different numbers, since the column is the remainder by the width. -/
theorem rowMajor_inj {w a b c d : Int} (ha : 0 ≤ a ∧ a < w) (hc : 0 ≤ c ∧ c < w) :
    b * w + a = d * w + c ↔ a = c ∧ b = d := by
  refine ⟨fun h => ?_, fun ⟨hac, hbd⟩ => by rw [hac, hbd]⟩
  have hrow (e i : Int) (hi : 0 ≤ i ∧ i < w) : (e * w + i) / w = e := by
    rw [Int.add_comm, Int.add_mul_ediv_right _ _ (by omega), Int.ediv_eq_zero_of_lt hi.1 hi.2,
      Int.zero_add]
  have hbd : b = d := by rw [← hrow b a ha, h, hrow d c hc]
  subst hbd
  exact ⟨by omega, rfl⟩

/-- What a row has written at a column. All rows are of one length, so the row and the column tell
the place. -/
theorem getElem?_forLoop {k i j : Nat} (hk : ∀ i, 0 ≤ i → i < n → (f i).length = k)
    (hi : (i : Int) < n) (hj : j < k) : (forLoop n f)[i * k + j]? = (f i)[j]? := by
  obtain ⟨m, hm, rfl⟩ : ∃ m : Int, i ≤ m ∧ n = m + 1 := ⟨n - 1, by omega, by omega⟩
  clear hi
  induction m, hm using Int.leInduction with
  | base =>
    have hlen := length_forLoop (f := f) (Int.natCast_nonneg i) fun a h0 ha =>
      congrArg Nat.cast (hk a h0 (by omega))
    have hlen' : (forLoop i f).length = i * k := by exact_mod_cast hlen
    rw [forLoop_succ (by omega), List.getElem?_append_right (by omega), hlen',
      Nat.add_sub_cancel_left]
  | succ m hm ih =>
    have hlen := length_forLoop (f := f) (show 0 ≤ m + 1 by omega) fun a h0 ha =>
      congrArg Nat.cast (hk a h0 (by omega))
    have hrows : (i + 1) * k ≤ (forLoop (m + 1) f).length := by
      have : ((i : Int) + 1) * k ≤ (m + 1) * k :=
        Int.mul_le_mul_of_nonneg_right (by omega) (by omega)
      exact_mod_cast hlen ▸ this
    rw [forLoop_succ (by omega), List.getElem?_append_left (by rw [Nat.succ_mul] at hrows; omega)]
    exact ih fun a h0 ha => hk a h0 (by omega)

/-- The length of what a grid writes, with `k` writes for each place. -/
theorem length_rowMajor {w h k : Int} {p : Int → Int → List α} (hw : 0 ≤ w) (hh : 0 ≤ h)
    (hp : ∀ x y, ((p x y).length : Int) = k) :
    ((forLoop h fun y => forLoop w fun x => p x y).length : Int) = w * h * k := by
  have hrow (y : Int) : ((forLoop w fun x => p x y).length : Int) = w * k :=
    length_forLoop hw fun x _ _ => hp x y
  rw [length_forLoop hh fun y _ _ => hrow y, ← Int.mul_assoc, Int.mul_comm h w]

/-- What is written for column `x` of row `y`. -/
theorem getElem?_rowMajor {w h x y : Int} (p : Int → Int → α) (hx : 0 ≤ x ∧ x < w)
    (hy : 0 ≤ y ∧ y < h) :
    (forLoop h fun y => forLoop w fun x => [p x y])[(y * w + x).toNat]? = some (p x y) := by
  obtain ⟨x, rfl⟩ := Int.eq_ofNat_of_zero_le hx.1
  obtain ⟨y, rfl⟩ := Int.eq_ofNat_of_zero_le hy.1
  obtain ⟨w, rfl⟩ := Int.eq_ofNat_of_zero_le (show 0 ≤ w by omega)
  have hrow (b : Int) : (forLoop w fun x => [p x b]).length = w := by
    have := length_forLoop (f := fun x => [p x b]) (k := 1) (Int.natCast_nonneg w)
      fun _ _ _ => rfl
    omega
  have hcol : (forLoop w fun x => [p x y])[x * 1 + 0]? = [p x y][0]? :=
    getElem?_forLoop (fun _ _ _ => rfl) hx.2 (by decide)
  rw [show ((y : Int) * w + x).toNat = y * w + x by exact Int.toNat_natCast _,
    getElem?_forLoop (fun b _ _ => hrow b) hy.2 (by omega)]
  rwa [Nat.mul_one, Nat.add_zero] at hcol

/-! ## Buffers

A write needs room. The invariant that nothing is written beyond the end is a field of the buffer.
-/

/-- The next write is at the number of the writes before it. -/
structure Buffer (α : Type*) where
  /-- How much has been allocated. -/
  capacity : Int
  /-- What has been written from the front. -/
  written : List α
  inBounds : ∀ i < written.length, (i : Int) < capacity

namespace Buffer

/-- A new buffer, in which nothing has been written. -/
def allocate (capacity : Int) : Buffer α := ⟨capacity, [], by simp⟩

/-- There is no buffer after a write beyond the end. -/
def write (b : Buffer α) (a : α) : Option (Buffer α) :=
  if h : (b.written.length : Int) < b.capacity then
    some ⟨b.capacity, b.written ++ [a], by
      intro i hi
      rw [List.length_append, List.length_singleton] at hi
      omega⟩
  else none

/-- Everything that has been allocated has been written. -/
def Full (b : Buffer α) : Prop := (b.written.length : Int) = b.capacity

/-- While there is room, a write succeeds and comes last. -/
theorem write_some {b : Buffer α} (a : α) (h : (b.written.length : Int) < b.capacity) :
    ∃ b', b.write a = some b' ∧ b'.capacity = b.capacity ∧ b'.written = b.written ++ [a] :=
  ⟨_, dif_pos h, rfl, rfl⟩

end Buffer

/-! ## Triangles

An index buffer is read three numbers at a time. -/

/-- Three elements at a time. What is left over in the end makes no triangle. -/
def triangles : List α → List (α × α × α)
  | a :: b :: c :: rest => (a, b, c) :: triangles rest
  | _ => []

/-- Whole triangles in front leave the others in step. -/
theorem triangles_append {s t : List α} (hs : 3 ∣ s.length) :
    triangles (s ++ t) = triangles s ++ triangles t := by
  fun_induction triangles s with
  | case1 a b c rest ih =>
    have hrest : 3 ∣ rest.length := by
      simp only [List.length_cons] at hs
      omega
    show (a, b, c) :: triangles (rest ++ t) = (a, b, c) :: (triangles rest ++ triangles t)
    rw [ih hrest]
  | case2 s hshort =>
    match s, hs with
    | [], _ => rfl
    | [_], hs => simp only [List.length_cons, List.length_nil] at hs; omega
    | [_, _], hs => simp only [List.length_cons, List.length_nil] at hs; omega
    | a :: b :: c :: rest, _ => exact absurd rfl (hshort a b c rest)

/-- Pieces that are whole triangles may be read one by one. -/
theorem triangles_flatMap {l : List β} {f : β → List α} (h : ∀ b ∈ l, 3 ∣ (f b).length) :
    triangles (l.flatMap f) = l.flatMap fun b => triangles (f b) := by
  induction l with
  | nil => rfl
  | cons b l ih =>
    rw [List.flatMap_cons, List.flatMap_cons, triangles_append (h b List.mem_cons_self),
      ih fun c hc => h c (List.mem_cons_of_mem b hc)]

/-- A loop whose iterations write whole triangles. -/
theorem triangles_forLoop (h : ∀ i, 0 ≤ i → i < n → 3 ∣ (f i).length) :
    triangles (forLoop n f) = forLoop n fun i => triangles (f i) :=
  triangles_flatMap fun i hi => h i (bounds_of_mem_range hi).1 (bounds_of_mem_range hi).2

end Loops
