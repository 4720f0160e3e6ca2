import TemplateRegistry.Address.Label
import TemplateRegistry.Text.Bytes
/-!
# Hosts

The host of a URL is a name, four numbers, or eight groups of hexadecimal
digits between brackets.  Schemes of the web read names strictly: they are made
of labels, and what ends in a number must be four numbers.  For other schemes a
name is any text without the marks that divide a URL.

These are the rules by which the reader of URLs (`Url.ofString`) takes a host or
refuses it, and so part of what decides whether the address of a database can be
used.  A host is only judged here: no name is looked up, and the numbers of an
address are not computed beyond their bounds.

* `checkHost` — the error of a host, if it has one;
* `isIPv4`, `isIPv6` — addresses in their plain written forms, which the setting
  `hostaddr` of an address takes as well.
-/

namespace TemplateRegistry

/-- Why a text is no URL. -/
inductive UrlError
  /-- There is no scheme. -/
  | relative
  | emptyHost
  /-- A name whose labels cannot be used, with a scheme of the web. -/
  | invalidName
  /-- A mark that may not stand in a name, with another scheme. -/
  | invalidCharacter
  | invalidIPv4
  | invalidIPv6
  | invalidPort
  deriving DecidableEq

/-- The message of an error. -/
def UrlError.message : UrlError → String
  | relative => "relative URL without a base"
  | emptyHost => "empty host"
  | invalidName => "invalid international domain name"
  | invalidCharacter => "invalid domain character"
  | invalidIPv4 => "invalid IPv4 address"
  | invalidIPv6 => "invalid IPv6 address"
  | invalidPort => "invalid port number"

namespace Address

/-- A number up to 255 in decimal digits, without a leading zero. -/
def isOctet (s : List Char) : Bool :=
  let (digits, rest) := Numeral.takeDigits s
  rest.isEmpty && 0 < digits.length && digits.length ≤ 3 &&
    Numeral.ofDigits digits ≤ 255 &&
    (digits.length = 1 || digits.head? ≠ some 0)

/-- Four numbers with full stops between them. -/
def isIPv4 (s : List Char) : Bool :=
  (pieces '.' s).length = 4 && (pieces '.' s).all isOctet

/-- A group of one to four hexadecimal digits. -/
def isGroup (s : List Char) : Bool :=
  0 < s.length && s.length ≤ 4 && s.all fun c => (Numeral.hexDigit? c).isSome

/-- How many groups there are between colons; an address of four numbers at the
end counts for two. -/
def countGroups? : List (List Char) → Option Nat
  | [] => some 0
  | [last] =>
    if isGroup last then some 1 else if isIPv4 last then some 2 else none
  | group :: rest =>
    if isGroup group then (countGroups? rest).map (· + 1) else none

/-- How many groups a text has, none if it is empty. -/
def sizeOfGroups? (s : List Char) : Option Nat :=
  if s.isEmpty then some 0 else countGroups? (pieces ':' s)

/-- A text before and after its first two colons in a row. -/
def cutAtGap : List Char → Option (List Char × List Char)
  | ':' :: ':' :: rest => some ([], rest)
  | c :: rest => (cutAtGap rest).map fun (before, after) => (c :: before, after)
  | [] => none

/-- Eight groups, or fewer with one gap of two colons.  Only the last group may
be an address of four numbers. -/
def isIPv6 (s : List Char) : Bool :=
  match cutAtGap s with
  | none => sizeOfGroups? s = some 8
  | some (before, after) =>
    !before.contains '.' &&
      match sizeOfGroups? before, sizeOfGroups? after with
      | some m, some n => m + n ≤ 7
      | _, _ => false

/-- Whether all characters are digits of a base up to sixteen. -/
def areDigits (base : Nat) (s : List Char) : Bool :=
  s.all fun c => (Numeral.hexDigit? c).any fun digit => digit < base

/-- The number that digits of a base spell. -/
def ofDigits (base : Nat) (s : List Char) : Nat :=
  s.foldl (fun sum c => base * sum + (Numeral.hexDigit? c).getD 0) 0

/-- The digits of a number after the mark of its base, and that base: `0x` for
sixteen, another leading zero for eight. -/
def baseOfNumber : List Char → Nat × List Char
  | '0' :: 'x' :: digits => (16, digits)
  | '0' :: 'X' :: digits => (16, digits)
  | '0' :: c :: digits => (8, c :: digits)
  | digits => (10, digits)

/-- The number of a part of a host. -/
def numberOfPart? (part : List Char) : Option Nat :=
  let (base, digits) := baseOfNumber part
  if part.isEmpty || !areDigits base digits then none
  else some (ofDigits base digits)

/-- The parts of a name between full stops, without an empty one at the end. -/
def partsOfName (name : List Char) : List (List Char) :=
  match (pieces '.' name).reverse with
  | [] :: rest => rest.reverse
  | parts => parts.reverse

/-- Whether the last part of a name looks like a number. -/
def endsInNumber (name : List Char) : Bool :=
  match (partsOfName name).getLast? with
  | none => false
  | some last =>
    (!last.isEmpty && areDigits 10 last) || (numberOfPart? last).isSome

/-- Whether numbers make an address of 32 bits: each but the last is one byte,
and the last one fills the bytes that are left. -/
def fillsAddress (numbers : List Nat) : Bool :=
  numbers.length ≤ 4 && numbers.dropLast.all (fun n => n ≤ 255) &&
    match numbers.getLast? with
    | none => false
    | some last => last < Nat.pow 256 (5 - numbers.length)

/-- The error of a name that ends in a number, unless it is an address. -/
def checkNumbers (name : List Char) : Except UrlError Unit :=
  match (partsOfName name).mapM numberOfPart? with
  | some numbers => if fillsAddress numbers then .ok () else .error .invalidIPv4
  | none => .error .invalidIPv4

/-- The name that a host of the web is. -/
def nameOf (host : List Char) : List Char :=
  fold (Text.ofUtf8Lossy (Text.percentDecode host))

/-- Whether a host of the web is the own one. -/
def isLocal (host : List Char) : Bool :=
  String.ofList (nameOf host) = "localhost"

/-- The error of a host of the web that is a name. -/
def checkName (host : List Char) : Except UrlError Unit :=
  let name := nameOf host
  if (labels? name).isNone then .error .invalidName
  else if name.isEmpty then .error .emptyHost
  else if endsInNumber name then checkNumbers name
  else .ok ()

/-- The error of a host; `isWeb` if the scheme is one of the web. -/
def checkHost (isWeb : Bool) (host : List Char) : Except UrlError Unit :=
  match host with
  | '[' :: rest =>
    if rest.getLast? = some ']' && isIPv6 rest.dropLast then .ok ()
    else .error .invalidIPv6
  | _ =>
    if isWeb then checkName host
    else if host.any isDivider then .error .invalidCharacter
    else .ok ()

end Address

end TemplateRegistry
