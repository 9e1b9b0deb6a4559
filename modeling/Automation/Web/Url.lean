import Automation.Text.Codec
import Automation.Text.Integer
import Automation.Text.LetterCase
import Automation.Text.Percent
import Automation.Web.Address
import Automation.Web.HostName

/-!
# URLs

A URL is split into its components, and each component is brought into normal form: scheme and
host in small letters, a default port left out, dot segments of the path resolved, and every
character escaped that may not stand in its component.

## Main definitions

* `Url`, `Url.read` — a URL and how it is read.
* `Url.text` — its text.
* `Url.asBase`, `Url.resolve` — a URL as the base of others, and a reference on top of it.
-/

namespace Automation

/-- The components of a URL in normal form. -/
structure Url where
  scheme : String
  userinfo : String
  host : String
  port? : Option Int
  path : String
  query? : Option String
  fragment? : Option String
  deriving DecidableEq, Repr, Inhabited

namespace Url

/-- Why a text is no URL. -/
inductive Fault where
  | tooLong
  | controlCharacter (c : Char) (position : Nat)
  | port (text : String)
  | address (host : String)
  | groupAddress (host : String)
  | hostName (host : String)
  | unencodable (fault : Text.EncodingFault)
  | pathBehindHost
  | doubleSlash
  | leadingColon
  deriving DecidableEq, Repr

/-- The message about a fault. -/
def Fault.message : Fault → String
  | .tooLong => "URL too long"
  | .controlCharacter c position =>
    "Invalid non-printable ASCII character in URL, " ++ Text.quoted (String.singleton c) ++
      s!" at position {position}."
  | .port text => "Invalid port: " ++ Text.quoted text
  | .address host => "Invalid IPv4 address: " ++ Text.quoted host
  | .groupAddress host => "Invalid IPv6 address: " ++ Text.quoted host
  | .hostName host => "Invalid IDNA hostname: " ++ Text.quoted host
  | .unencodable fault => fault.message
  | .pathBehindHost => "For absolute URLs, path must be empty or begin with '/'"
  | .doubleSlash => "Relative URLs cannot have a path starting with '//'"
  | .leadingColon => "Relative URLs cannot have a path starting with ':'"

/-- The longest text of a URL. -/
def maxLength : Nat := 65536

def isControl (c : Char) : Bool := c.toNat < 32 || c.toNat = 127

/-- The visible ASCII characters other than the given ones. -/
def visibleExcept (excluded : String) (c : Char) : Bool :=
  32 < c.toNat && c.toNat < 127 && !excluded.toList.contains c

def isQueryChar : Char → Bool := visibleExcept "\"#<>"

def isPathChar : Char → Bool := visibleExcept "\"#<>?`\x7b\x7d"

def isUserinfoChar : Char → Bool := visibleExcept "\"#<>?`\x7b\x7d/;=@[\\]^|"

def isFragmentChar : Char → Bool := visibleExcept "\"<>`"

def isHostChar (c : Char) : Bool :=
  Text.isUnreserved c || "!$&'()*+,;=\"`\x7b\x7d%|\\".toList.contains c

/-- A component with every character escaped that may not stand in it. The characters are encoded
one by one, so a fault has no other position than the first. -/
def escaped (allowed : Char → Bool) (cs : List Char) : Except Fault String :=
  let points := Text.points cs
  match points.find? Text.isHalf with
  | some half => .error (.unencodable ⟨.utf8, half, 0, 0⟩)
  | none => .ok (String.ofList (Text.percentEncode allowed (points.map Char.ofNat)))

/-- The scheme in front of a text, when a colon follows it, and the rest. -/
def takeScheme (cs : List Char) : List Char × List Char :=
  let name := cs.takeWhile fun c => c.isAlphanum || c = '+' || c = '.' || c = '-'
  match cs.drop name.length with
  | ':' :: rest =>
    match name with
    | [] => ([], rest)
    | c :: _ => if c.isAlpha then (name, rest) else ([], cs)
  | _ => ([], cs)

/-- The authority that two slashes announce, and the rest. -/
def takeAuthority : List Char → List Char × List Char
  | '/' :: '/' :: rest =>
    let inside := fun c : Char => c != '/' && c != '?' && c != '#'
    (rest.takeWhile inside, rest.dropWhile inside)
  | cs => ([], cs)

/-- What stands in front of the first occurrence of a character and behind it. -/
def cutAt (c : Char) (cs : List Char) : List Char × Option (List Char) :=
  match cs.dropWhile (· != c) with
  | [] => (cs, none)
  | _ :: rest => (cs.takeWhile (· != c), some rest)

/-- The part of an authority in front of its last at sign, and the part behind it. -/
def cutUserinfo (cs : List Char) : List Char × List Char :=
  match cs.reverse.dropWhile (· != '@') with
  | [] => ([], cs)
  | _ :: front => (front.reverse, (cs.reverse.takeWhile (· != '@')).reverse)

/-- The host in front of a text, in brackets or up to a colon, and the text of the port. -/
def cutHost (cs : List Char) : List Char × List Char :=
  let dropColon : List Char → List Char
    | ':' :: rest => rest
    | rest => rest
  if cs.head? = some '[' ∧ cs.contains ']' then
    let front := (cs.reverse.dropWhile (· != ']')).reverse
    (front, dropColon (cs.drop front.length))
  else (cs.takeWhile (· != ':'), dropColon (cs.dropWhile (· != ':')))

/-- A host in normal form: an address as it is, without brackets, and a name in small letters and
in ASCII. -/
def normalHost (cs : List Char) : Except Fault String :=
  let host := String.ofList cs
  if Web.isFourNumbers host then
    if Web.isFourBytes host then .ok host else .error (.address host)
  else if cs.head? = some '[' ∧ cs.getLast? = some ']' then
    let inner := String.ofList (cs.drop 1).dropLast
    if Web.isEightGroups inner then .ok inner else .error (.groupAddress host)
  else if cs.all fun c => c.toNat < 128 then escaped isHostChar (cs.map Char.toLower)
  else (HostName.encode (Text.lower host)).mapError fun _ => .hostName host

/-- The port that a scheme has unless it says otherwise. -/
def defaultPort? (scheme : String) : Option Int :=
  [("ftp", 21), ("http", 80), ("https", 443), ("ws", 80), ("wss", 443)].lookup scheme

/-- A port in normal form: none when it goes without saying. -/
def normalPort (scheme : String) (cs : List Char) : Except Fault (Option Int) :=
  if cs.isEmpty then .ok none
  else
    match Text.readInteger (String.ofList cs) with
    | .error _ => .error (.port (String.ofList cs))
    | .ok port => .ok (if some port = defaultPort? scheme then none else some port)

/-- The segments of a path with its dot segments resolved; `kept` holds the ones in front, in
reverse. -/
def resolveSegments : List String → List String → List String
  | kept, [] => kept.reverse
  | kept, segment :: rest =>
    if segment = "." then resolveSegments kept rest
    else if segment = ".." then
      resolveSegments (if kept = [""] then kept else kept.drop 1) rest
    else resolveSegments (segment :: kept) rest

/-- A path without dot segments. -/
def resolvedPath (path : String) : String :=
  let segments := path.splitOn "/"
  if segments.contains "." || segments.contains ".." then
    "/".intercalate (resolveSegments [] segments)
  else path

/-- The URL of unescaped components. -/
def ofParts (scheme authority path : List Char) (query? fragment? : Option (List Char)) :
    Except Fault Url := do
  let (userinfo, rest) := cutUserinfo authority
  let (host, port) := cutHost rest
  let userinfo ← escaped isUserinfoChar userinfo
  let host ← normalHost host
  let port? ← normalPort (String.ofList scheme) port
  let hasAuthority := userinfo ≠ "" || host ≠ "" || port?.isSome
  let hasScheme := !scheme.isEmpty
  if hasAuthority ∧ path ≠ [] ∧ path.head? ≠ some '/' then .error .pathBehindHost
  else if !hasScheme ∧ !hasAuthority ∧ ['/', '/'].isPrefixOf path then .error .doubleSlash
  else if !hasScheme ∧ !hasAuthority ∧ path.head? = some ':' then .error .leadingColon
  else
    let path := String.ofList path
    let path := if hasScheme || hasAuthority then resolvedPath path else path
    return ⟨String.ofList (scheme.map Char.toLower), userinfo, host, port?,
      ← escaped isPathChar path.toList, ← query?.mapM (escaped isQueryChar),
      ← fragment?.mapM (escaped isFragmentChar)⟩

/-- The URL that a text spells. -/
def read (text : String) : Except Fault Url :=
  let cs := text.toList
  if maxLength < cs.length then .error .tooLong
  else
    match cs.find? isControl with
    | some c => .error (.controlCharacter c (cs.takeWhile (· != c)).length)
    | none =>
      let (scheme, rest) := takeScheme cs
      let (authority, rest) := takeAuthority rest
      let (rest, fragment?) := cutAt '#' rest
      let (path, query?) := cutAt '?' rest
      ofParts scheme authority path query? fragment?

/-- The host, in brackets when it holds colons, and the port. -/
def hostAndPort (url : Url) : String :=
  (if url.host.toList.contains ':' then "[" ++ url.host ++ "]" else url.host) ++
  (match url.port? with
    | some port => ":" ++ toString port
    | none => "")

/-- The text of the authority. -/
def authority (url : Url) : String :=
  (if url.userinfo = "" then "" else url.userinfo ++ "@") ++ url.hostAndPort

/-- The text of an optional component behind its mark. -/
def marked (mark : String) : Option String → String
  | some component => mark ++ component
  | none => ""

/-- The text of a URL. -/
def text (url : Url) : String :=
  (if url.scheme = "" then "" else url.scheme ++ ":") ++
  (if url.authority = "" then "" else "//" ++ url.authority) ++
  url.path ++ marked "?" url.query? ++ marked "#" url.fragment?

/-- Path and query together; no path is the root. -/
def target (url : Url) : String :=
  (if url.path = "" then "/" else url.path) ++ marked "?" url.query?

/-- The URL with another path and query. -/
def withTarget (url : Url) (target : String) : Except Fault Url :=
  let (path, query?) := cutAt '?' target.toList
  ofParts url.scheme.toList url.authority.toList path query? (url.fragment?.map String.toList)

/-- The URL as the base of others: its target ends in a slash. -/
def asBase (url : Url) : Except Fault Url :=
  if url.target.toList.getLast? = some '/' then .ok url else url.withTarget (url.target ++ "/")

/-- Whether a URL says by itself where it leads. -/
def isAbsolute (url : Url) : Bool := url.scheme ≠ "" && url.host ≠ ""

/-- A reference on top of a base: an absolute one stands for itself, the target of any other is
put behind the base's. -/
def resolve (base reference : Url) : Except Fault Url :=
  if reference.isAbsolute then .ok reference
  else
    let tail := reference.target.toList.dropWhile (· = '/')
    base.withTarget (base.target ++ String.ofList tail)

/-- The text without an empty fragment. -/
def shortText (url : Url) : String :=
  let cs := url.text.toList
  if 1 < cs.length ∧ cs.getLast? = some '#' then String.ofList cs.dropLast else url.text

/-- Whether the text of a URL, the fragment apart, says by which protocol it is reached: it starts
with a name and a colon. -/
def namesProtocol (url : Url) : Bool :=
  let cs := ({ url with fragment? := none } : Url).text.toList
  let name := cs.takeWhile fun c => c != ':' && c != '/'
  !name.isEmpty && cs[name.length]? = some ':'

/-- The base of a client without one of its own. -/
def emptyBase : Url := ⟨"", "", "", none, "/", none, none⟩

end Url

end Automation
