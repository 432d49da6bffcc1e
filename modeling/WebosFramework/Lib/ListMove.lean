import Mathlib.Data.List.InsertIdx

/-!
# Moving one element of a list

`move l i j` takes the element at `i` out and puts it back so that it is at `j`. Moves of the same
element compose: wherever it goes on the way, only the first and the last place count
(`move_move`). The elements between the two places are moved as well
(`getElem?_move_between`), and no others (`getElem?_move_of_outside`).
-/

namespace ListMove

variable {α : Type}

/-- The element at `i` is moved to `j`; there has to be one. -/
def move (l : List α) (i j : Nat) : List α :=
  match l[i]? with
  | some a => (l.eraseIdx i).insertIdx j a
  | none => l

variable {l : List α} {i j : Nat}

/-- In the list there is an element to be moved. -/
theorem move_of_lt (hi : i < l.length) (j : Nat) :
    move l i j = (l.eraseIdx i).insertIdx j l[i] := by
  rw [move, List.getElem?_eq_getElem hi]

/-- The other elements stay in order. -/
theorem eraseIdx_move (hi : i < l.length) (j : Nat) : (move l i j).eraseIdx j = l.eraseIdx i := by
  rw [move_of_lt hi, List.eraseIdx_insertIdx_self]

/-- The length stays. -/
theorem length_move (hi : i < l.length) (hj : j < l.length) : (move l i j).length = l.length := by
  have herase := List.length_eraseIdx_of_lt hi
  rw [move_of_lt hi, List.length_insertIdx_of_le_length (by omega)]
  omega

/-- The element is where it was moved to. -/
theorem getElem?_move (hi : i < l.length) (hj : j < l.length) : (move l i j)[j]? = l[i]? := by
  have herase := List.length_eraseIdx_of_lt hi
  rw [move_of_lt hi, List.getElem?_insertIdx_self, if_pos (by omega), List.getElem?_eq_getElem hi]

/-- Elements that are not between the two places stay where they are. -/
theorem getElem?_move_of_outside (hi : i < l.length) {k : Nat}
    (hk : k < i ∧ k < j ∨ i < k ∧ j < k) : (move l i j)[k]? = l[k]? := by
  rw [move_of_lt hi]
  rcases hk with ⟨hki, hkj⟩ | ⟨hik, hjk⟩
  · rw [List.getElem?_insertIdx_of_lt hkj, List.getElem?_eraseIdx_of_lt hki]
  · rw [List.getElem?_insertIdx_of_gt hjk, List.getElem?_eraseIdx_of_ge (by omega),
      Nat.sub_add_cancel (by omega)]

/-- On its way to a place behind, the element makes the others go back by one. -/
theorem getElem?_move_between (hi : i < l.length) {k : Nat} (hik : i ≤ k) (hkj : k < j) :
    (move l i j)[k]? = l[k + 1]? := by
  rw [move_of_lt hi, List.getElem?_insertIdx_of_lt hkj, List.getElem?_eraseIdx_of_ge hik]

/-- Moving an element to where it is does nothing. -/
theorem move_self (hi : i < l.length) : move l i i = l := by
  rw [move_of_lt hi, List.insertIdx_eraseIdx_getElem hi]

/-- **Moves of one element compose.** -/
theorem move_move (hi : i < l.length) (hj : j < l.length) (k : Nat) :
    move (move l i j) j k = move l i k := by
  have hlength : j < (move l i j).length := by rwa [length_move hi hj]
  have hget : (move l i j)[j] = l[i] := by
    have hsome := getElem?_move hi hj
    rw [List.getElem?_eq_getElem hlength, List.getElem?_eq_getElem hi] at hsome
    exact Option.some.inj hsome
  rw [move_of_lt hlength, eraseIdx_move hi, hget, move_of_lt hi]

end ListMove
