
/-!
# Numbers as digits

Decimal digits with or without padding, signed integers, hexadecimal octets, and the readers of
plain ASCII digits. Core's `Nat.toDigits` and `Nat.ofDigitChars` are inverse to each other, so what
is written here is read back by the readers beside it.
-/

namespace TableGateway.Numeric

-- Powers of naturals are the built-in ones, also beside a library that has powers of its own.
attribute [local instance (high)] instPowNat

def digits (n : Nat) : List Char :=
  Nat.toDigits 10 n

/-- Decimal digits with zeros in front, at least `width` of them in all. -/
def paddedDigits (width n : Nat) : List Char :=
  List.replicate (width - (digits n).length) '0' ++ digits n

def integerText : Int → List Char
  | .ofNat n => digits n
  | .negSucc n => '-' :: digits (n + 1)

def readDigits? (text : List Char) : Option Nat :=
  if text.isEmpty || !text.all Char.isDigit then none else some (Nat.ofDigitChars 10 text 0)

/-- An optional `+` and digits. -/
def readNatural? : List Char → Option Nat
  | '+' :: rest => readDigits? rest
  | text => readDigits? text

/-- An optional `+` or `-` and digits. -/
def readInteger? : List Char → Option Int
  | '-' :: rest => (readDigits? rest).map fun n => -(n : Int)
  | '+' :: rest => (readDigits? rest).map Int.ofNat
  | text => (readDigits? text).map Int.ofNat

def hexValue? (c : Char) : Option Nat :=
  if c.isDigit then some (c.toNat - '0'.toNat)
  else if 'a' ≤ c && c ≤ 'f' then some (c.toNat - 'a'.toNat + 10)
  else if 'A' ≤ c && c ≤ 'F' then some (c.toNat - 'A'.toNat + 10)
  else none

/-- The two lower case hexadecimal digits of an octet. -/
def hexOctet (octet : UInt8) : List Char :=
  [Nat.digitChar (octet.toNat / 16), Nat.digitChar (octet.toNat % 16)]

def readHex? (text : List Char) : Option Nat :=
  if text.isEmpty then none
  else text.foldlM (fun total c => (hexValue? c).map fun d => total * 16 + d) 0

def readHexOctets? : List Char → Option (List UInt8)
  | [] => some []
  | [_] => none
  | high :: low :: rest => do
      let h ← hexValue? high
      let l ← hexValue? low
      let more ← readHexOctets? rest
      return UInt8.ofNat (h * 16 + l) :: more

theorem length_paddedDigits_of_lt {width n : Nat} (positive : 0 < width) (h : n < 10 ^ width) :
    (paddedDigits width n).length = width := by
  have short : (digits n).length ≤ width :=
    (Nat.length_toDigits_le_iff (by decide) positive).2 h
  simp only [paddedDigits, List.length_append, List.length_replicate]
  omega

end TableGateway.Numeric
