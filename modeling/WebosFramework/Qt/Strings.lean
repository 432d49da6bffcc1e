import WebosFramework.Qt.DataStream

/-!
# Strings

A `QString` is UTF-16. Its text is a `String` here, and what depends on the encoding is written in
terms of it: the size, and the bytes on a stream.

* `arg` puts its argument in the place of the place markers with the lowest number. A marker is a
  percent sign and a number of one or two digits, with an `L` between them or not.
* `operator<<(QDataStream&, QString)` writes the number of bytes and then the code units, the high
  byte first. This is the layout of a byte array, so a reader of byte arrays can read it.

`arg_front`: what comes before the first percent sign stays where it is.
-/

namespace Qt

/-! ## Place markers

What `arg` replaces. The markers are found from left to right. -/

/-- The number that a digit stands for. -/
def digitValue (c : Char) : Option Nat :=
  if '0' ≤ c ∧ c ≤ '9' then some (c.toNat - '0'.toNat) else none

/-- The number at the head of a text and the number of its digits, two at most. -/
def escapeNumber : List Char → Option (Nat × Nat)
  | [] => none
  | c :: cs =>
    match digitValue c with
    | none => none
    | some escape =>
      match cs.head?.bind digitValue with
      | none => some (escape, 1)
      | some next => some (10 * escape + next, 2)

/-- What follows a percent sign, if the two are a place marker: its number and its length. -/
def placeMarker : List Char → Option (Nat × Nat)
  | 'L' :: cs => (escapeNumber cs).map fun (escape, length) => (escape, length + 1)
  | cs => escapeNumber cs

/-- The numbers of the place markers. No percent sign is inside another marker. -/
def placeMarkers : List Char → List Nat
  | [] => []
  | c :: cs =>
    if c = '%' then ((placeMarker cs).map Prod.fst).toList ++ placeMarkers cs else placeMarkers cs

/-- The markers with the number `escape` replaced, `skip` characters further on. -/
def replaceMarkers (escape : Nat) (value : List Char) : Nat → List Char → List Char
  | _, [] => []
  | skip + 1, _ :: cs => replaceMarkers escape value skip cs
  | 0, c :: cs =>
    if c = '%' ∧ (placeMarker cs).map Prod.fst = some escape then
      value ++ replaceMarkers escape value (((placeMarker cs).map Prod.snd).getD 0) cs
    else c :: replaceMarkers escape value 0 cs

/-- `arg(value)`. A text without a marker stays as it is. -/
def arg (text value : String) : String :=
  match (placeMarkers text.toList).min? with
  | none => text
  | some escape => .ofList (replaceMarkers escape value.toList 0 text.toList)

/-- Without a percent sign in it the front is copied, character by character. -/
theorem replaceMarkers_append (escape : Nat) (value : List Char) {front : List Char}
    (hfront : '%' ∉ front) (cs : List Char) :
    replaceMarkers escape value 0 (front ++ cs) = front ++ replaceMarkers escape value 0 cs := by
  induction front with
  | nil => rfl
  | cons c front ih =>
    have hc : c ≠ '%' := fun hc => hfront (hc ▸ List.mem_cons_self)
    rw [List.cons_append, replaceMarkers, if_neg fun h => hc h.1,
      ih fun hmem => hfront (List.mem_cons_of_mem c hmem), List.cons_append]

/-- What comes before the first percent sign stays. -/
theorem arg_front {text : String} {front : List Char} (hfront : '%' ∉ front)
    (htext : front <+: text.toList) (value : String) : front <+: (arg text value).toList := by
  unfold arg
  cases (placeMarkers text.toList).min? with
  | none => exact htext
  | some escape =>
    obtain ⟨cs, hcs⟩ := htext
    show front <+: (String.ofList (replaceMarkers escape value.toList 0 text.toList)).toList
    rw [String.toList_ofList, ← hcs, replaceMarkers_append escape value.toList hfront]
    exact List.prefix_append _ _

/-! ## UTF-16

The bytes of a string on a stream. -/

/-- The code units of a character: one, or a surrogate pair. -/
def utf16 (c : Char) : List UInt16 :=
  if c.toNat < 0x10000 then [.ofNat c.toNat]
  else
    [.ofNat (0xd800 + (c.toNat - 0x10000) / 0x400), .ofNat (0xdc00 + (c.toNat - 0x10000) % 0x400)]

/-- The code units of a text, character by character. -/
def codeUnits (text : String) : List UInt16 := text.toList.flatMap utf16

/-- A `quint16` on the stream, the high byte first. -/
def putUInt16 (unit : UInt16) : Bytes := [.ofNat (unit.toNat / 2 ^ 8), .ofNat unit.toNat]

/-- What a text is on the stream, without its length. -/
def utf16Bytes (text : String) : Bytes := (codeUnits text).flatMap putUInt16

/-- `operator<<(QDataStream&, const QString&)` for a string that is not null. -/
def writeString (text : String) : Bytes := writeByteArray (utf16Bytes text)

/-- A code unit takes two bytes. -/
theorem length_utf16Bytes (text : String) :
    (utf16Bytes text).length = 2 * (codeUnits text).length := by
  unfold utf16Bytes
  induction codeUnits text with
  | nil => rfl
  | cons unit units ih =>
    rw [List.flatMap_cons, List.length_append, ih, List.length_cons]
    show 2 + 2 * units.length = 2 * (units.length + 1)
    omega

/-- The bytes of a text start with those of its first characters. -/
theorem utf16Bytes_front {text : String} {front : List Char} (h : front <+: text.toList) :
    (front.flatMap utf16).flatMap putUInt16 <+: utf16Bytes text := by
  obtain ⟨cs, hcs⟩ := h
  unfold utf16Bytes codeUnits
  rw [← hcs, List.flatMap_append, List.flatMap_append]
  exact List.prefix_append _ _

end Qt
