import TemplateRegistry.Address.Host
import TemplateRegistry.Number.Natural
/-!
# URLs

A URL is a scheme and a colon and, mostly after two slashes, the name and the
password of a user before an at sign, a host, a port after a colon, a path, and
a query after a question mark; a number sign ends it.  Tabs and line breaks do
not count, but one ends the name of a drive that starts the path of a file; nor
do control characters and blanks at the ends.

The one URL that the registry is given is the address of its database.  The
client of the database reads it by the rules that browsers read URLs by, and
refuses to connect if it is none.  This module stands for that reader: it keeps
the parts that are checked after it (`Address.check`), and names the same error
for the same text.  What a reader of other URLs would need besides, such as the
text that the parts are put together to again, is not here.

* `Url.ofString` — the parts of a URL, or the error of a text that is none.
-/

namespace TemplateRegistry

/-- The parts of a URL as written; a part that is missing is empty. -/
structure Url where
  username : List Char
  password : List Char
  host : List Char
  path : List Char
  query : List Char

namespace Url

/-- What a scheme says about the parts after it. -/
inductive Kind
  /-- There is always a host, and a backslash is a slash. -/
  | web
  /-- A path in the file system, perhaps after a host. -/
  | file
  | other
  deriving DecidableEq

/-- The kind of a scheme. -/
def Kind.ofScheme (scheme : List Char) : Kind :=
  if ["http", "https", "ws", "wss", "ftp"].contains (String.ofList scheme) then
    .web
  else if String.ofList scheme = "file" then .file
  else .other

/-- A text without control characters and blanks at its ends. -/
def trimmed (s : List Char) : List Char :=
  ((s.dropWhile fun c => c ≤ ' ').reverse.dropWhile fun c => c ≤ ' ').reverse

/-- A tab or a line break. -/
def isIgnored (c : Char) : Bool :=
  c = '\t' || c = '\n' || c = '\r'

/-- The characters that count. -/
def counted (s : List Char) : List Char :=
  s.filter fun c => !isIgnored c

/-- A character of a scheme after its first. -/
def isSchemeChar (c : Char) : Bool :=
  c.isAlphanum || c = '+' || c = '-' || c = '.'

/-- The scheme of a text in small letters, and what follows its colon. -/
def takeScheme? (s : List Char) : Option (List Char × List Char) :=
  match s.takeWhile isSchemeChar, s.dropWhile isSchemeChar with
  | first :: scheme, ':' :: rest =>
    if first.isAlpha then some ((first :: scheme).map Char.toLower, rest)
    else none
  | _, _ => none

/-- A slash of a URL of some kind. -/
def isSlash (kind : Kind) (c : Char) : Bool :=
  c = '/' || (c = '\\' && kind ≠ .other)

/-- A mark at which user, host and port end. -/
def endsAuthority (kind : Kind) (c : Char) : Bool :=
  isSlash kind c || c = '?' || c = '#'

/-- A mark at which a path ends. -/
def endsPath (c : Char) : Bool :=
  c = '?' || c = '#'

/-- The text before the last at sign and the text after it. -/
def cutAtUser (s : List Char) : Option (List Char × List Char) :=
  match s.reverse.dropWhile (fun c => c ≠ '@') with
  | [] => none
  | _ :: before =>
    some (before.reverse, (s.reverse.takeWhile fun c => c ≠ '@').reverse)

/-- The length of the host at the start of a text: up to a colon that is not
between brackets. -/
def hostLength (inBrackets : Bool) : List Char → Nat
  | [] => 0
  | c :: rest =>
    if c = ':' && !inBrackets then 0
    else hostLength (c = '[' || (inBrackets && c ≠ ']')) rest + 1

/-- A mark at which a port ends. -/
def endsPort (c : Char) : Bool :=
  c = '/' || c = '\\' || c = '?' || c = '#'

/-- The text after a port, which may be left out with its colon or without. -/
def dropPort : List Char → Except UrlError (List Char)
  | ':' :: s =>
    let rest := s.dropWhile Char.isDigit
    if largest16 < Numeral.ofDigits (Numeral.takeDigits s).1 then
      .error .invalidPort
    else if rest.head?.all endsPort then .ok rest
    else .error .invalidPort
  | s => .ok s

/-- A part of a path that stands for the path itself. -/
def isHere (part : List Char) : Bool :=
  [".", "%2e"].contains (String.ofList (part.map Char.toLower))

/-- A part of a path that stands for the path without its last part. -/
def isAbove (part : List Char) : Bool :=
  ["..", ".%2e", "%2e.", "%2e%2e"].contains
    (String.ofList (part.map Char.toLower))

/-- A letter and a colon or a bar, which name a drive. -/
def isDrive : List Char → Bool
  | [c, mark] => c.isAlpha && (mark = ':' || mark = '|')
  | _ => false

/-- A part of a path that starts with the name of a drive. -/
def startsWithDrive (part : List Char) : Bool :=
  isDrive (part.take 2) && (part.drop 2).head?.all fun c => c = '\\'

/-- The parts of a path, in reverse, without the last one; that of a drive is
kept. -/
def dropLastPart : List (List Char) → List (List Char)
  | [] => []
  | part :: before => if startsWithDrive part then part :: before else before

/-- The name of a drive at the start of a part of a path, if a tab or a line
break ends it, and what follows. -/
def splitAtDrive? (part : List Char) : Option (List Char × List Char) :=
  let after := (part.dropWhile fun c => c ≠ ':').tail
  let drive := counted (part.take (part.length - after.length))
  if isDrive drive && after.head?.any isIgnored && !(counted after).isEmpty then
    some (drive, counted after)
  else none

/-- The parts of a path, in reverse, after further parts. -/
def resolveParts (reversed : List (List Char)) :
    List (List Char) → List (List Char)
  | [] => reversed
  | part :: rest =>
    let last := if rest.isEmpty then [[]] else []
    match reversed, splitAtDrive? part with
    | [], some (drive, name) => resolveParts [name, drive] rest
    | _, _ =>
      if isAbove (counted part) then
        resolveParts (last ++ dropLastPart reversed) rest
      else if isHere (counted part) then resolveParts (last ++ reversed) rest
      else resolveParts (counted part :: reversed) rest

/-- A path without the parts that stand for others, and without the slashes at
its start. -/
def resolvePath (kind : Kind) (path : List Char) : List Char :=
  let parts := (resolveParts [] (Text.splitWhen (isSlash kind) path)).reverse
  (['/'].intercalate parts).dropWhile fun c => c = '/'

/-- A text without the slash it may start with. -/
def dropSlash (kind : Kind) : List Char → List Char
  | [] => []
  | c :: rest => if isSlash kind c then rest else c :: rest

/-- The query at the end of a text that starts with the mark before it. -/
def queryOf : List Char → List Char
  | '?' :: rest => counted (rest.takeWhile fun c => c ≠ '#')
  | _ => []

/-- A URL with a path, without its first slash, and perhaps a query at the end
of a text. -/
def withPath (kind : Kind) (username password host rest : List Char) : Url where
  username
  password
  host
  path := resolvePath kind (rest.takeWhile fun c => !endsPath c)
  query := queryOf (rest.dropWhile fun c => !endsPath c)

/-- Whether a host may be left out after the name of a user, before the rest of
a text: if nothing is said of the user. -/
def mayLackHost (user rest : List Char) : Bool :=
  user = [':'] || (user.isEmpty && rest.isEmpty)

/-- The URL with the text after its two slashes. -/
def ofAuthority (kind : Kind) (s : List Char) : Except UrlError Url := do
  let authority := s.takeWhile fun c => !endsAuthority kind c
  let user? := (cutAtUser authority).map Prod.fst
  let place := ((cutAtUser authority).map Prod.snd).getD authority
  let host := place.take (hostLength false place)
  let rest := place.drop (hostLength false place) ++ s.dropWhile fun c =>
    !endsAuthority kind c
  if host.isEmpty && (kind = .web || rest.head? = some ':' ||
      user?.any fun user => !mayLackHost user rest) then
    throw .emptyHost
  Address.checkHost (kind = .web) host
  let rest ← dropPort rest
  let user := user?.getD []
  return withPath kind (user.takeWhile fun c => c ≠ ':')
    (user.dropWhile fun c => c ≠ ':').tail host (dropSlash kind rest)

/-- What follows a slash of the URL of a file at the start of a text. -/
def afterSlash? : List Char → Option (List Char)
  | [] => none
  | c :: rest =>
    if isIgnored c then afterSlash? rest
    else if isSlash .file c then some rest
    else none

/-- The URL of a file with the text after its two slashes. -/
def ofFileHost (s : List Char) : Except UrlError Url := do
  let host := counted (s.takeWhile fun c => !endsAuthority .file c)
  let rest := s.dropWhile fun c => !endsAuthority .file c
  if host.isEmpty || isDrive host then return withPath .file [] [] [] s
  else
    Address.checkHost true host
    if Address.isLocal host then return withPath .file [] [] [] rest
    else return withPath .file [] [] host (dropSlash .file rest)

/-- The URL of a file with the text after its scheme, tabs and line breaks
included. -/
def ofFile (s : List Char) : Except UrlError Url :=
  match afterSlash? s with
  | none => .ok (withPath .file [] [] [] s)
  | some rest =>
    match afterSlash? rest with
    | none => .ok (withPath .file [] [] [] rest)
    | some rest => ofFileHost rest

/-- The URL with the text after its scheme, which has no host. -/
def ofPath (s : List Char) : Url :=
  match s with
  | '/' :: rest => withPath .other [] [] [] rest
  | _ =>
    { username := []
      password := []
      host := []
      path := s.takeWhile fun c => !endsPath c
      query := queryOf (s.dropWhile fun c => !endsPath c) }

/-- The parts of a URL, or the error of a text that is none. -/
def ofString (text : String) : Except UrlError Url :=
  let s := trimmed text.toList
  match takeScheme? (counted s) with
  | none => .error .relative
  | some (scheme, rest) =>
    match Kind.ofScheme scheme, rest with
    | .web, rest => ofAuthority .web (rest.dropWhile (isSlash .web))
    | .file, _ => ofFile (s.dropWhile fun c => c ≠ ':').tail
    | .other, '/' :: '/' :: rest => ofAuthority .other rest
    | .other, rest => .ok (ofPath rest)

end Url

end TemplateRegistry
