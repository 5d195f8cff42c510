import TableGateway.Text.Blank

/-!
# Slices and shortened texts

An offset into a text counts the octets of its UTF-8 encoding. A slice lies between two offsets.
There is one exactly when both of them fall on a boundary of characters and they do not run
backwards.

Log lines and error contexts show at most 500 characters of a text: one of more than 497 characters
is cut behind the first 497 of them, loses the blanks before the cut and gets three dots. The cut is
made at an offset, that of the first character which is not kept.
-/

namespace TableGateway.Text

open String (Pos)

/-- Characters with the offset that each of them starts at. -/
def located (start : Pos.Raw) : List Char → List (Pos.Raw × Char)
  | [] => []
  | c :: rest => (start, c) :: located (start + c) rest

def slice? (text : String) (start stop : Pos.Raw) : Option String :=
  if h : start.IsValid text ∧ stop.IsValid text ∧ start ≤ stop then
    some (String.extract (text.pos start h.1) (text.pos stop h.2.1))
  else none

def offsetBehind (chars : List Char) : Pos.Raw :=
  (String.ofList chars).rawEndPos

@[simp] theorem offsetBehind_nil : offsetBehind [] = 0 := rfl

@[simp] theorem offsetBehind_concat (chars : List Char) (c : Char) :
    offsetBehind (chars ++ [c]) = offsetBehind chars + c := by
  rw [offsetBehind, String.ofList_append, ← String.singleton_eq_ofList, String.append_singleton,
    String.rawEndPos_push, offsetBehind]

theorem offsetBehind_le (front back : List Char) :
    offsetBehind front ≤ offsetBehind (front ++ back) := by
  rw [offsetBehind, offsetBehind, String.ofList_append, String.Pos.Raw.le_iff,
    String.byteIdx_rawEndPos, String.byteIdx_rawEndPos, String.utf8ByteSize_append]
  exact Nat.le_add_right _ _

/-- Behind a front part of a text there is a boundary of characters. -/
theorem isValid_offsetBehind (front back : List Char) :
    (offsetBehind front).IsValid (String.ofList (front ++ back)) := by
  rw [String.ofList_append]
  exact String.Pos.Raw.isValid_rawEndPos.append_right _

theorem slice?_append (front middle back : List Char) :
    slice? (String.ofList (front ++ middle ++ back)) (offsetBehind front)
      (offsetBehind (front ++ middle)) = some (String.ofList middle) := by
  have start : (offsetBehind front).IsValid (String.ofList (front ++ middle ++ back)) := by
    rw [List.append_assoc]
    exact isValid_offsetBehind front (middle ++ back)
  have stop := isValid_offsetBehind (front ++ middle) back
  have octets : (front.utf8Encode ++ (middle.utf8Encode ++ back.utf8Encode)).extract
      (front.utf8Encode.size + 0) (front.utf8Encode.size + middle.utf8Encode.size) =
        middle.utf8Encode := by
    rw [ByteArray.extract_append_size_add, ByteArray.extract_append_eq_left rfl]
  rw [slice?, dif_pos ⟨start, stop, offsetBehind_le front middle⟩, Option.some.injEq,
    ← String.toByteArray_inj]
  simpa only [String.toByteArray_extract, String.offset_pos, offsetBehind,
    String.byteIdx_rawEndPos, ← String.size_toByteArray, String.toByteArray_ofList,
    List.utf8Encode_append, ByteArray.size_append, ByteArray.append_assoc, Nat.add_zero] using octets

/-! ## Shortening -/

/-- The number of characters that are always kept. -/
def shortLimit : Nat := 497

def shortenChars (text : List Char) : List Char :=
  if text.length ≤ shortLimit then text
  else trimEnd (text.take shortLimit) ++ ['.', '.', '.']

/-- Cuts a text of more than `shortLimit` characters. -/
def shorten (text : String) : String :=
  String.ofList (shortenChars text.toList)

/-- Cuts a text at the offset of the first character behind the limit, if it has one. -/
def shortenAt? (text : String) : Option String :=
  match (located 0 text.toList)[shortLimit]? with
  | none => some text
  | some (stop, _) =>
      (slice? text 0 stop).map fun kept => String.ofList (trimEnd kept.toList) ++ "..."

end TableGateway.Text
