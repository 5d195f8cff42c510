import TableGateway.Notice
import TableGateway.Url.Address
import TableGateway.Url.Percent

/-!
# Connection urls of MySQL

A connection url names a server and sets parameters of the connection. What is wrong with one is
found before anything is connected: the scheme first, then the address, then the parameters in
order, and last the bounds of the pool.
-/

namespace TableGateway.MySql

attribute [local instance (high)] instPowNat

open Numeric (readNatural?)
open Url (Address AddressFault)

inductive Refusal where
  | otherScheme
  | address (fault : AddressFault)
  | noHost
  | unknownParameter (name : String)
  | invalidValue (name value : String)
  | poolBounds (least greatest : Nat)
  deriving DecidableEq, Inhabited

def schemeText : String := "mysql://"

def Refusal.message : Refusal → String
  | otherScheme => "MySQL connection url must start with `" ++ schemeText ++ "`"
  | address fault => fault.message
  | noHost => "Invalid or incomplete connection URL"
  | unknownParameter name => "Unknown connection URL parameter `" ++ name ++ "'"
  | invalidValue name value =>
      "Invalid value `" ++ value ++ "' for connection URL parameter `" ++ name ++ "'"
  | poolBounds least greatest =>
      "Invalid pool constraints: pool_min (" ++ toString least ++ ") > pool_max (" ++
        toString greatest ++ ")."

inductive ParameterType where
  | natural (bits : Nat)
  | truth
  | text
  | compression
  deriving DecidableEq, Inhabited

def parameters : List (String × ParameterType) :=
  [("pool_min", .natural 64), ("pool_max", .natural 64), ("inactive_connection_ttl", .natural 64),
    ("ttl_check_interval", .natural 64), ("conn_ttl", .natural 64),
    ("abs_conn_ttl", .natural 64), ("abs_conn_ttl_jitter", .natural 64),
    ("tcp_keepalive", .natural 32), ("max_allowed_packet", .natural 64),
    ("wait_timeout", .natural 64), ("stmt_cache_size", .natural 64),
    ("enable_cleartext_plugin", .truth), ("reset_connection", .truth), ("tcp_nodelay", .truth),
    ("prefer_socket", .truth), ("secure_auth", .truth), ("client_found_rows", .truth),
    ("require_ssl", .truth), ("verify_ca", .truth), ("verify_identity", .truth),
    ("built_in_roots", .truth), ("socket", .text), ("compression", .compression)]

def readBounded? (bits : Nat) (text : String) : Option Nat :=
  (readNatural? text.toList).filter fun n => n < 2 ^ bits

/-- A level of compression is a word or one digit. -/
def isCompression (text : String) : Bool :=
  text ∈ ["fast", "on", "true", "best"] ||
    match text.toList with
    | [c] => c.isDigit
    | _ => false

def ParameterType.allows : ParameterType → String → Bool
  | natural bits, value => (readBounded? bits value).isSome
  | truth, value => value = "true" || value = "false"
  | text, _ => true
  | compression, value => isCompression value

def settingRefusal? (setting : String × String) : Option Refusal :=
  match parameters.lookup setting.1 with
  | none => some (.unknownParameter setting.1)
  | some type =>
      if type.allows setting.2 then none else some (.invalidValue setting.1 setting.2)

/-- The number that the last setting of a parameter gives, or a standard one. -/
def numberOf (name : String) (standard : Nat) (settings : List (String × String)) : Nat :=
  ((settings.reverse.lookup name).bind (readBounded? 64)).getD standard

def poolRefusal? (settings : List (String × String)) : Option Refusal :=
  let least := numberOf "pool_min" 10 settings
  let greatest := numberOf "pool_max" 100 settings
  if greatest < least then some (.poolBounds least greatest) else none

def settingsRefusal? (settings : List (String × String)) : Option Refusal :=
  (settings.findSome? settingRefusal?).or (poolRefusal? settings)

def addressRefusal? (found : Address) : Option Refusal :=
  if found.host.isEmpty then some .noHost
  else settingsRefusal? (Url.queryPairs found.query)

def refusal? (url : String) : Option Refusal :=
  if schemeText.toList.isPrefixOf url.toList then
    match Url.readAddress (url.toList.drop schemeText.length) with
    | .error fault => some (.address fault)
    | .ok found => addressRefusal? found
  else some .otherScheme

def attempt (url : String) : String :=
  "While trying to connect to `" ++ Text.shorten url ++ "`"

/-- What a refusal reports: only another scheme is reported, the rest is left to the caller. -/
def Refusal.notices (refusal : Refusal) (url : String) : List Notice :=
  match refusal with
  | otherScheme => [.driverError (attempt url ++ ": " ++ refusal.message)]
  | _ => []

end TableGateway.MySql
