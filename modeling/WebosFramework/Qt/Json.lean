import Mathlib.Algebra.Group.Int.Defs
import Mathlib.Data.Rat.Defs

/-!
# JSON values

`QJsonValue` and `QJsonObject` as far as messages use them: looking a member up, inserting one, and
the conversions, each with the default it falls back to on a value of another type. A number is a
rational here; the conversion to an integer type keeps the default for a number that is not one.
-/

namespace Qt

/-- The types of a value. `undefined` is what a lookup gives for a key that is missing. -/
inductive QJsonValue where
  | undefined
  | null
  | bool (b : Bool)
  | double (x : Rat)
  | string (s : String)
  | array (values : List QJsonValue)
  | object (members : List (String × QJsonValue))

/-- No key occurs twice in what `insert` builds. -/
structure QJsonObject where
  members : List (String × QJsonValue) := []

namespace QJsonValue

/-- An integer as a value is a number like any other one. -/
def ofInt (n : Int) : QJsonValue := .double n

/-- `toInt(defaultValue)`: the number, if it is an `int`. -/
def toInt (v : QJsonValue) (defaultValue : Int) : Int :=
  match v with
  | .double x => if x.den = 1 ∧ -2 ^ 31 ≤ x.num ∧ x.num < 2 ^ 31 then x.num else defaultValue
  | _ => defaultValue

/-- `static_cast<qint64>(toDouble())`: the number cut to an integer, and 0 for another type. -/
def toInt64 : QJsonValue → Int
  | .double x => x.num.tdiv x.den
  | _ => 0

/-- Only a boolean is converted, and everything else is `false`. -/
def toBool : QJsonValue → Bool
  | .bool b => b
  | _ => false

/-- Only a string is converted, and everything else is the empty one. -/
def toString : QJsonValue → String
  | .string s => s
  | _ => ""

/-- Only an object is converted, and everything else is the empty one. -/
def toObject : QJsonValue → QJsonObject
  | .object members => ⟨members⟩
  | _ => {}

@[simp] theorem toInt_undefined (d : Int) : undefined.toInt d = d := rfl

@[simp] theorem toInt64_ofInt (n : Int) : (ofInt n).toInt64 = n := by
  simp [ofInt, toInt64]

/-- An integer of 32 bits is converted back, whatever the default is. -/
theorem toInt_ofInt {n : Int} (hlo : -2 ^ 31 ≤ n) (hhi : n < 2 ^ 31) (d : Int) :
    (ofInt n).toInt d = n := by
  have hint : (n : Rat).den = 1 ∧ -2 ^ 31 ≤ (n : Rat).num ∧ (n : Rat).num < 2 ^ 31 :=
    ⟨rfl, hlo, hhi⟩
  exact if_pos hint

end QJsonValue

namespace QJsonObject

/-- Whether the object has no members. -/
def isEmpty (o : QJsonObject) : Bool := o.members.isEmpty

/-- `value(key)`: the member, or an undefined value. -/
def value (o : QJsonObject) (key : String) : QJsonValue :=
  (o.members.lookup key).getD .undefined

/-- Whether the key is there, with any value. -/
def contains (o : QJsonObject) (key : String) : Bool := (o.members.lookup key).isSome

/-- `insert(key, value)`: replaces a member that is there. -/
def insert (o : QJsonObject) (key : String) (v : QJsonValue) : QJsonObject :=
  ⟨o.members.filter (fun m => m.1 != key) ++ [(key, v)]⟩

@[simp] theorem value_empty (key : String) : ({} : QJsonObject).value key = .undefined := rfl

/-- The first list is searched first. -/
theorem lookup_append {key : String} (l r : List (String × QJsonValue)) :
    (l ++ r).lookup key = (l.lookup key).or (r.lookup key) := by
  induction l with
  | nil => simp
  | cons m l ih =>
    obtain ⟨k, v⟩ := m
    rw [List.cons_append, List.lookup_cons, List.lookup_cons, ih]
    cases key == k <;> rfl

/-- The members of one key are removed, and the others are found as before. -/
theorem lookup_filter_ne {key k : String} (l : List (String × QJsonValue)) :
    (l.filter fun m => m.1 != k).lookup key = if key = k then none else l.lookup key := by
  induction l with
  | nil => simp
  | cons m l ih =>
    obtain ⟨k', v⟩ := m
    by_cases hk' : k' = k
    · -- the member is filtered out; it is looked up only under `k`
      subst hk'
      rw [List.filter_cons_of_neg (by simp), ih, List.lookup_cons]
      by_cases hkey : key = k'
      · rw [if_pos hkey, if_pos hkey]
      · rw [if_neg hkey, if_neg hkey, beq_eq_false_iff_ne.mpr hkey]
    · rw [List.filter_cons_of_pos (by simpa using hk'), List.lookup_cons, List.lookup_cons, ih]
      by_cases hkey : key = k'
      · subst hkey
        simp [hk']
      · rw [beq_eq_false_iff_ne.mpr hkey]

/-- The value is found under its key, and the others are as before. -/
theorem value_insert (o : QJsonObject) (k key : String) (v : QJsonValue) :
    (o.insert k v).value key = if key = k then v else o.value key := by
  unfold value insert
  rw [lookup_append, lookup_filter_ne]
  by_cases hkey : key = k
  · simp [hkey]
  · simp [hkey, List.lookup_cons, beq_eq_false_iff_ne.mpr hkey]

@[simp] theorem isEmpty_insert (o : QJsonObject) (k : String) (v : QJsonValue) :
    (o.insert k v).isEmpty = false := by
  simp [isEmpty, insert]

end QJsonObject

end Qt
