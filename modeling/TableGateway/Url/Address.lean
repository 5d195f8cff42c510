import TableGateway.Text.Blank
import TableGateway.Url.Host

/-!
# Addresses of urls

Behind the scheme and two slashes a url holds credentials up to the last at sign and a host with a
number behind a colon, up to the first slash, question mark or hash sign. The query follows the
first question mark and ends at a hash sign. Tabs and line breaks are no part of a url, nor are
blanks and control characters at its end.
-/

namespace TableGateway.Url

attribute [local instance (high)] instPowNat

structure Address where
  credentials : List Char
  /-- The host, which may be empty. -/
  host : List Char
  /-- Where the host listens. -/
  portNumber : Option Nat
  query : List Char
  deriving DecidableEq, Inhabited

/-- What is left of a url without the control characters and spaces at its end, and without tabs and
line breaks anywhere. -/
def cleaned (text : List Char) : List Char :=
  (Text.dropEndWhile (· ≤ ' ') text).filter fun c => c ≠ '\t' && c ≠ '\n' && c ≠ '\r'

/-- A character that ends the part of a url that leads to a host. -/
def endsAuthority (c : Char) : Bool :=
  c = '/' || c = '?' || c = '#'

/-- The text in front of the last at sign, when there is one, and the text behind it. -/
def cutCredentials : List Char → Option (List Char) × List Char
  | [] => (none, [])
  | c :: rest =>
      match cutCredentials rest with
      | (some credentials, host) => (some (c :: credentials), host)
      | (none, _) => if c = '@' then (some [], rest) else (none, c :: rest)

/-- The number behind the colon of a host: none at all, or one of 16 bits. A backslash ends it. -/
def readPortNumber (text : List Char) : Except AddressFault (Option Nat) :=
  let digits := text.takeWhile (· ≠ '\\')
  if digits.isEmpty then .ok none
  else
    match Numeric.readDigits? digits with
    | some n => if n < 2 ^ (16 : Nat) then .ok (some n) else .error .invalidPortNumber
    | none => .error .invalidPortNumber

/-- The text between the first question mark and the hash sign behind it, of a text in front of
which there is none of either. -/
def queryOf (text : List Char) : List Char :=
  ((Text.cut '?' (Text.cut '#' text).1).2).getD []

/-- A single colon separates two empty parts, so that there are no credentials at all. -/
def isNoCredentials (credentials : List Char) : Bool :=
  credentials = [] || credentials = [':']

def readAddress (text : List Char) : Except AddressFault Address := do
  let content := cleaned text
  let (authority, rest) := content.span fun c => !endsAuthority c
  let (credentials, place) := cutCredentials authority
  if credentials = some [] && place.isEmpty && !rest.isEmpty then throw .emptyHost
  let (host, number) := cutPortNumber false place
  if let some fault := hostFault? host then throw fault
  if host.isEmpty && number.isSome then throw .emptyHost
  let portNumber ← readPortNumber (number.getD [])
  if host.isEmpty && !isNoCredentials (credentials.getD []) then throw .emptyHost
  return ⟨credentials.getD [], host, portNumber, queryOf rest⟩

end TableGateway.Url
