import TableGateway.Numeric.Digits
import TableGateway.Text.Parts

/-!
# Hosts

The host of a url is a name without certain characters, or an IPv6 address between brackets: eight
groups of hexadecimal digits, of which two colons may stand for one or more, and where the last two
may be written as an IPv4 address.
-/

namespace TableGateway.Url

open Numeric (hexValue? readDigits?)
open Text (parts)

inductive AddressFault where
  | emptyHost
  | invalidPortNumber
  | invalidDomainCharacter
  | invalidIpv6
  deriving DecidableEq, Inhabited

def AddressFault.message : AddressFault → String
  | emptyHost => "empty host"
  | invalidPortNumber => "invalid port number"
  | invalidDomainCharacter => "invalid domain character"
  | invalidIpv6 => "invalid IPv6 address"

/-- A part of an IPv4 address: a number up to 255 without a leading zero. -/
def isIpv4Part (text : List Char) : Bool :=
  match readDigits? text with
  | some n => decide (n ≤ 255) && (text.length == 1 || text.head? != some '0')
  | none => false

def isIpv4 (text : List Char) : Bool :=
  (parts '.' text).length == 4 && (parts '.' text).all isIpv4Part

def isIpv6Group (text : List Char) : Bool :=
  !text.isEmpty && decide (text.length ≤ 4) && text.all fun c => (hexValue? c).isSome

/-- The number of groups that a list of parts makes up, where an IPv4 address at the end counts for
two. -/
def ipv6Groups? : List (List Char) → Option Nat
  | [] => some 0
  | [last] => if isIpv6Group last then some 1 else if isIpv4 last then some 2 else none
  | part :: rest => if isIpv6Group part then (ipv6Groups? rest).map (· + 1) else none

def cutDoubleColon? : List Char → Option (List Char × List Char)
  | ':' :: ':' :: rest => some ([], rest)
  | c :: rest => (cutDoubleColon? rest).map fun (left, right) => (c :: left, right)
  | [] => none

def colonParts (text : List Char) : List (List Char) :=
  if text.isEmpty then [] else parts ':' text

def isIpv6 (text : List Char) : Bool :=
  match cutDoubleColon? text with
  | none => ipv6Groups? (colonParts text) == some 8
  | some (left, right) =>
      (colonParts left).all isIpv6Group &&
        match ipv6Groups? (colonParts right) with
        | some groups => decide ((colonParts left).length + groups ≤ 7)
        | none => false

def isForbiddenHostChar (c : Char) : Bool :=
  c ∈ ['\x00', '\t', '\n', '\r', ' ', '#', '/', ':', '<', '>', '?', '@', '[', '\\', ']', '^', '|']

/-- The fault of a host, if it has one. A name may be empty here. -/
def hostFault? : List Char → Option AddressFault
  | '[' :: rest =>
      if rest.getLast? = some ']' && isIpv6 rest.dropLast then none else some .invalidIpv6
  | name => if name.any isForbiddenHostChar then some .invalidDomainCharacter else none

/-- A host, and the text behind the first colon that is not between brackets, when there is one. -/
def cutPortNumber (bracketed : Bool) : List Char → List Char × Option (List Char)
  | [] => ([], none)
  | c :: rest =>
      if c = ':' && !bracketed then ([], some rest)
      else
        let bracketed := if c = '[' then true else if c = ']' then false else bracketed
        let (host, number) := cutPortNumber bracketed rest
        (c :: host, number)

end TableGateway.Url
