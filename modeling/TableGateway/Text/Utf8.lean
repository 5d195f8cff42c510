/-!
# Octets as text

Octets are a text exactly when they are its UTF-8 encoding. Where they are not, the fault is the
place of the first octet that no text can have there, with the number of octets to skip, or the
place of a character that the end cuts short.
-/

namespace TableGateway.Text

inductive Utf8Fault where
  /-- `length` octets from `index` on are no start of a character. -/
  | invalid (length index : Nat)
  /-- The octets from `index` on start a character and end before it does. -/
  | incomplete (index : Nat)
  deriving DecidableEq, Inhabited

def Utf8Fault.message : Utf8Fault → String
  | .invalid length index =>
      "invalid utf-8 sequence of " ++ toString length ++ " bytes from index " ++ toString index
  | .incomplete index => "incomplete utf-8 byte sequence from index " ++ toString index

/-- The first octets that may follow each first octet of a longer character, and how many more
follow those. -/
def followers? (first : UInt8) : Option (UInt8 × UInt8 × Nat) :=
  if first < 0xc2 then none
  else if first < 0xe0 then some (0x80, 0xbf, 0)
  else if first = 0xe0 then some (0xa0, 0xbf, 1)
  else if first = 0xed then some (0x80, 0x9f, 1)
  else if first < 0xf0 then some (0x80, 0xbf, 1)
  else if first = 0xf0 then some (0x90, 0xbf, 2)
  else if first < 0xf4 then some (0x80, 0xbf, 2)
  else if first = 0xf4 then some (0x80, 0x8f, 2)
  else none

/-- Drops `count` continuation octets, of which `taken` octets of the character came before. -/
def dropContinuation (index taken : Nat) :
    Nat → List UInt8 → Except Utf8Fault (Nat × List UInt8)
  | 0, rest => .ok (taken, rest)
  | _ + 1, [] => .error (.incomplete index)
  | count + 1, octet :: rest =>
      if 0x80 ≤ octet && octet ≤ 0xbf then dropContinuation index (taken + 1) count rest
      else .error (.invalid taken index)

/-- Drops the first character of some octets that start at `index`, with its length. -/
def dropCharacter (index : Nat) (first : UInt8) (rest : List UInt8) :
    Except Utf8Fault (Nat × List UInt8) :=
  if first < 0x80 then .ok (1, rest)
  else
    match followers? first with
    | none => .error (.invalid 1 index)
    | some (least, greatest, more) =>
        match rest with
        | [] => .error (.incomplete index)
        | second :: rest =>
            if least ≤ second && second ≤ greatest then dropContinuation index 2 more rest
            else .error (.invalid 1 index)

/-- The first fault of some octets that start at `index`, with one step of fuel per character. -/
def findFault? (index : Nat) : Nat → List UInt8 → Option Utf8Fault
  | 0, _ => none
  | _, [] => none
  | fuel + 1, first :: rest =>
      match dropCharacter index first rest with
      | .ok (length, rest) => findFault? (index + length) fuel rest
      | .error fault => some fault

def decodeUtf8 (octets : List UInt8) : Except Utf8Fault String :=
  match String.fromUTF8? ⟨octets.toArray⟩ with
  | some text => .ok text
  | none => .error ((findFault? 0 octets.length octets).getD (.incomplete octets.length))

def utf8Octets (text : String) : List UInt8 :=
  text.toByteArray.data.toList

theorem fromUTF8?_eq_some_iff (octets : List UInt8) (text : String) :
    String.fromUTF8? ⟨octets.toArray⟩ = some text ↔ utf8Octets text = octets := by
  constructor
  · intro read
    rw [String.fromUTF8?] at read
    split at read
    · cases read
      rfl
    · cases read
  · rintro rfl
    exact dif_pos text.isValidUTF8

/-- Octets are read as a text exactly when they are its encoding. -/
theorem decodeUtf8_eq_ok_iff (octets : List UInt8) (text : String) :
    decodeUtf8 octets = .ok text ↔ utf8Octets text = octets := by
  rw [← fromUTF8?_eq_some_iff, decodeUtf8]
  cases String.fromUTF8? ⟨octets.toArray⟩ <;> simp

/-- The characters that octets encode, with a replacement character for each fault, and with one
step of fuel per character. -/
def lossyCharacters : Nat → List UInt8 → List Char
  | 0, _ => []
  | _, [] => []
  | fuel + 1, first :: rest =>
      match dropCharacter 0 first rest with
      | .ok (length, after) =>
          match String.fromUTF8? ⟨((first :: rest).take length).toArray⟩ with
          | some text => text.toList ++ lossyCharacters fuel after
          | none => '\ufffd' :: lossyCharacters fuel after
      | .error (.invalid length _) =>
          '\ufffd' :: lossyCharacters fuel ((first :: rest).drop length)
      | .error (.incomplete _) => ['\ufffd']

def decodeUtf8Lossy (octets : List UInt8) : List Char :=
  lossyCharacters octets.length octets

end TableGateway.Text
