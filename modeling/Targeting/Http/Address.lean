import Targeting.Crash
import Targeting.Http.Host
import Targeting.Http.Label

/-!
Addresses. A written address has a scheme, a host and a path, and any of them may be missing; what
it lacks is made up for by the host that it is written for. Reading finds the first fault in a
fixed order: the length, the characters, the host, the port, the path. Dots in a path are worked
off, and characters that may not stand for themselves are escaped.
-/

namespace Targeting.Http

open Number Text

structure Address where
  scheme : String
  /-- What is written in front of the host: a name, and perhaps a colon and a password. -/
  user : String
  host : String
  port : Option Int
  path : String
  query : Option String
  deriving DecidableEq, Repr

namespace Address

inductive Fault where
  | tooLong
  | partTooLong (name : String)
  | unprintable (point position : Nat)
  | notFourNumbers (host : String)
  | notGroups (host : String)
  | hostName (host : String)
  | port (text : String)
  | doubleSlash
  | leadingColon
  /-- A code point without bytes. -/
  | unencodable (point : Nat)
  deriving DecidableEq, Repr

def Fault.message : Fault → String
  | .tooLong => "URL too long"
  | .partTooLong name => "URL component '" ++ name ++ "' too long"
  | .unprintable point position =>
      "Invalid non-printable ASCII character in URL, " ++ quotedText (ofPoints [point])
        ++ " at position " ++ digitText position ++ "."
  | .notFourNumbers host => "Invalid IPv4 address: " ++ quotedText host
  | .notGroups host => "Invalid IPv6 address: " ++ quotedText host
  | .hostName host => "Invalid IDNA hostname: " ++ quotedText host
  | .port text => "Invalid port: " ++ quotedText text
  | .doubleSlash => "Relative URLs cannot have a path starting with '//'"
  | .leadingColon => "Relative URLs cannot have a path starting with ':'"
  | .unencodable point => ((Crash.ofText? (ofPoints [point])).map Crash.message).getD ""

def Fault.crash (f : Fault) : Crash :=
  match f with
  | .unencodable point => (Crash.ofText? (ofPoints [point])).getD ⟨"InvalidURL", none⟩
  | _ => ⟨"InvalidURL", some f.message⟩

/-- An address may have this many code points, and so may each of its parts. -/
def lengthLimit : Nat := 65536

/-- The scheme in front of a written address, if there is one, and what follows it. It may be
empty. -/
def takeScheme (cs : List Char) : List Char × List Char :=
  let isNamed (c : Char) : Bool := c.isAlphanum || c == '+' || c == '.' || c == '-'
  let name := cs.takeWhile isNamed
  match cs.drop name.length with
  | ':' :: rest => if name.head?.all Char.isAlpha then (name, rest) else ([], cs)
  | _ => ([], cs)

/-- What stands between two slashes and the path, and what follows it. -/
def takeAuthority (cs : List Char) : List Char × List Char :=
  let isPart (c : Char) : Bool := c != '/' && c != '?'
  match cs with
  | '/' :: '/' :: rest => (rest.takeWhile isPart, rest.dropWhile isPart)
  | _ => ([], cs)

/-- What stands in front of the last character of a kind, if there is one, and what follows it. -/
def splitLast (mark : Char) (cs : List Char) : List Char × List Char :=
  let last := (cs.reverse.takeWhile (· ≠ mark)).reverse
  (cs.take (cs.length - last.length - 1), last)

/-- A host and what is written for its port. A host in brackets ends with the last bracket. -/
def takeHost (cs : List Char) : List Char × List Char :=
  let host :=
    if cs.head? = some '[' && cs.contains ']' then cs.take (cs.length - (splitLast ']' cs).2.length)
    else cs.takeWhile (· ≠ ':')
  let rest := cs.drop host.length
  (host, if rest.head? = some ':' then rest.drop 1 else rest)

/-- The port that goes without saying under a scheme. -/
def usualPort? : String → Option Int
  | "ftp" => some 21
  | "http" | "ws" => some 80
  | "https" | "wss" => some 443
  | _ => none

/-- Characters that stand for themselves in a query. -/
def inQuery (c : Char) : Bool :=
  0x20 < c.toNat && c.toNat < 0x7F && !"\"#<>".toList.contains c

def inPath (c : Char) : Bool := inQuery c && !"?`\x7b\x7d".toList.contains c

def inUser (c : Char) : Bool := inPath c && !"/;=@[\\]^|".toList.contains c

def inHost (c : Char) : Bool := Host.marks.contains c || "\"`\x7b\x7d|\\".toList.contains c

/-- Text with its characters escaped, but for those of a class. -/
def escaped (isKept : Char → Bool) (cs : List Char) : Except Fault String :=
  match (pointsOf cs).find? isSurrogate with
  | some n => .error (.unencodable n)
  | none => .ok (Percent.escape isKept (String.ofList cs))

/-- The host of a written one, in lower case and without brackets. Names of other scripts are
written in ASCII. -/
def readHost (cs : List Char) : Except Fault String :=
  if Host.looksLikeNumbers cs then
    if Host.isFourNumbers cs then .ok (String.ofList cs)
    else .error (.notFourNumbers (String.ofList cs))
  else
    match Host.inBrackets? cs with
    | some inner =>
        if Host.isGrouped inner then .ok (String.ofList inner)
        else .error (.notGroups (String.ofList cs))
    | none =>
        let text := String.ofList cs
        if (points text).all (· < 0x80) then escaped inHost (cs.map Char.toLower)
        else (Label.nameInAscii (points (lower text))).mapError fun _ => .hostName text

/-- The port of a written one. -/
def readPort (scheme : String) (cs : List Char) : Except Fault (Option Int) :=
  let text := String.ofList cs
  if text = "" then .ok none
  else
    match convertInteger? text with
    | some n => .ok (if usualPort? scheme = some n then none else some n)
    | none => .error (.port text)

/-- The parts of a path without single dots, and without double dots and the parts before them. -/
def withoutDots (parts : List (List Char)) : List (List Char) :=
  let keep (kept : List (List Char)) (part : List Char) : List (List Char) :=
    if part = ['.'] then kept
    else if part = ['.', '.'] then (if kept = [] ∨ kept = [[]] then kept else kept.drop 1)
    else part :: kept
  (parts.foldl keep []).reverse

/-- A path with its dots worked off. -/
def plainPath (cs : List Char) : List Char :=
  ['/'].intercalate (withoutDots (cs.splitOn '/'))

/-- A path with nothing in front of it must not look as if it had. -/
def checkLonePath (path : List Char) : Except Fault Unit := do
  if ['/', '/'].isPrefixOf path then throw .doubleSlash
  if path.head? = some ':' then throw .leadingColon

/-- The first character of ASCII that cannot be seen, and where it stands. -/
def unprintable? (ns : List Nat) : Option (Nat × Nat) :=
  (ns.zipIdx).find? fun (n, _) => n < 0x20 || n == 0x7F

/-- Reads a written address. A fragment at its end is dropped. -/
def read (written : String) : Except Fault Address := do
  let ns := points written
  if lengthLimit < ns.length then throw .tooLong
  match unprintable? ns with
  | some (point, position) => throw (.unprintable point position)
  | none => pure ()
  let cs := written.toList
  let (scheme, rest) := takeScheme (cs.takeWhile (· ≠ '#'))
  let (authority, rest) := takeAuthority rest
  let (user, hostAndPort) := splitLast '@' authority
  let (host, port) := takeHost hostAndPort
  let path := rest.takeWhile (· ≠ '?')
  let query := rest.drop path.length
  let user ← escaped inUser user
  let host ← readHost host
  let port ← readPort (String.ofList scheme) port
  let isLone := scheme.isEmpty && user = "" && host = "" && port.isNone
  if isLone then checkLonePath path
  let path ← escaped inPath (if isLone then path else plainPath path)
  let query ← if query.isEmpty then pure none else (escaped inQuery (query.drop 1)).map some
  let _ ← escaped (fun _ => true) (cs.dropWhile (· ≠ '#'))
  pure ⟨String.ofList (scheme.map Char.toLower), user, host, port, path, query⟩

/-- An address that is for itself and needs nothing made up for. -/
def isWhole (a : Address) : Bool := a.scheme ≠ "" && a.host ≠ ""

/-- The address for a given host, unless it names a scheme and a host itself. -/
def atHost (host : String) (a : Address) : Except Fault Address :=
  if a.isWhole then .ok a
  else do
    let path := '/' :: a.path.toList.dropWhile (· == '/')
    if lengthLimit < path.length then throw (.partTooLong "path")
    if lengthLimit < (a.query.getD "").length then throw (.partTooLong "query")
    pure ⟨"http", "", host, none, String.ofList (plainPath path), a.query⟩

/-- An address that names who asks. -/
def hasUser (a : Address) : Bool := a.user ≠ "" && a.user ≠ ":"

/-- The path with its escapes undone. -/
def shownPath (a : Address) : String :=
  if a.path = "" then "/" else Percent.unescape a.path

/-- The host, and the port unless it goes without saying. -/
def hostAndPort (a : Address) : String :=
  (if a.host.toList.contains ':' then "[" ++ a.host ++ "]" else a.host)
    ++ (a.port.elim "" fun n => ":" ++ toString n)

end Address

/-- A path within an address: what would end it is escaped. -/
def pathInAddress (path : String) : List Char :=
  path.toList.flatMap fun c =>
    if c = '?' ∨ c = '#' ∨ c = '\\' then Percent.escapedByte c.toNat else [c]

/-- A path as it is told, without line breaks and tabs. -/
def toldPath (path : String) : String :=
  String.ofList ((pathInAddress path).filter fun c => c ≠ '\n' ∧ c ≠ '\r' ∧ c ≠ '\t')

/-- The other spelling of a path: without the slashes at its end, or else with one. -/
def otherSpelling (path : String) : String :=
  let cs := path.toList
  if cs.getLast? = some '/' then String.ofList (cs.reverse.dropWhile (· == '/')).reverse
  else path ++ "/"

end Targeting.Http
