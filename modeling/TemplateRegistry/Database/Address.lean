import TemplateRegistry.Address.Url
import TemplateRegistry.Text.Quoted
/-!
# Addresses of databases

The address of a database is a URL.  User, password and the name of the
database are written in it with percent signs, and a few settings of the
connection stand in its query.  An address that cannot be used is refused
before anything is sent.

* `Address.check` — the error of an address;
* `AddressError` — what can be wrong with it, with one message each.

The host of the database may be the path of a socket, with its slashes encoded.
-/

namespace TemplateRegistry

/-- Why the address of a database cannot be used. -/
inductive AddressError
  | url (error : UrlError)
  /-- Some part is no text. -/
  | bytes (fault : Text.Utf8Fault)
  /-- A setting is no number. -/
  | number (reason : String)
  | ipAddress
  | sslMode (value : String)
  deriving DecidableEq

namespace AddressError

/-- What is wrong, and below it what caused that. -/
def causes : AddressError → List String
  | url error => [error.message]
  | bytes fault => [fault.message]
  | number reason => [reason]
  | ipAddress => ["invalid IP address syntax"]
  | sslMode value =>
    let cause := s!"unknown value {Text.quoted value} for `ssl_mode`"
    [s!"error with configuration: {cause}", cause]

/-- What is wrong. -/
def message (error : AddressError) : String :=
  error.causes.headD ""

end AddressError

namespace Address

/-- Refuse a part of a URL whose decoded bytes are no text. -/
def checkText (part : List Char) : Except AddressError Unit :=
  match Text.ofUtf8 (Text.percentDecode part) with
  | .ok _ => .ok ()
  | .error fault => .error (.bytes fault)

/-- Refuse the path of a socket that is no text. -/
def checkSocket (host : List Char) : Except AddressError Unit :=
  if (Text.percentDecode host).head? = some '/'.toNat then checkText host
  else .ok ()

/-- A name or a value in a query: a plus sign is a blank. -/
def decodeSetting (s : List Char) : String :=
  String.ofList (Text.ofUtf8Lossy (Text.percentDecode (s.map fun c =>
    if c = '+' then ' ' else c)))

/-- The settings in a query, between ampersands, each a name and a value after
an equals sign. -/
def settings (query : List Char) : List (String × String) :=
  ((pieces '&' query).filter fun piece => !piece.isEmpty).map fun piece =>
    (decodeSetting (piece.takeWhile fun c => c ≠ '='),
      decodeSetting (piece.dropWhile fun c => c ≠ '=').tail)

/-- How a connection may be secured. -/
def sslModes : List String :=
  ["disable", "allow", "prefer", "require", "verify-ca", "verify-full"]

/-- Refuse a value that is no number up to a largest one. -/
def checkNumber (largest : Nat) (value : String) : Except AddressError Unit :=
  match parseNatural largest value.toList with
  | .ok _ => .ok ()
  | .error reason => .error (.number reason)

/-- Refuse a setting with a value that it cannot have. -/
def checkSetting (name value : String) : Except AddressError Unit :=
  if name = "sslmode" ∨ name = "ssl-mode" then
    if sslModes.contains (String.ofList (value.toList.map Char.toLower)) then
      .ok ()
    else .error (.sslMode value)
  else if name = "statement-cache-capacity" then checkNumber largest64 value
  else if name = "port" then checkNumber largest16 value
  else if name = "hostaddr" then
    if isIPv4 value.toList || isIPv6 value.toList then .ok ()
    else .error .ipAddress
  else .ok ()

/-- The error of an address. -/
def check (address : String) : Except AddressError Unit := do
  let url ← (Url.ofString address).mapError .url
  checkSocket url.host
  checkText url.username
  checkText url.password
  checkText url.path
  (settings url.query).forM fun (name, value) => checkSetting name value

end Address

end TemplateRegistry
