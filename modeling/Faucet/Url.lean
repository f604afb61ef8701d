import Faucet.Host.Basic
import Faucet.Text.Integer

/-!
Addresses of services in their normal form: scheme and host in small letters, no port that the
scheme implies, no path that turns back, and percent escapes for what a part cannot hold.
-/

set_option autoImplicit false

namespace Faucet

structure Url where
  scheme : Text := []
  user : Text := []
  host : Text := []
  port : Option Int := none
  path : Text := []
  query : Option Text := none
  fragment : Option Text := none

namespace Url

/-- The parts of an address as they are written. Only the path is always there. -/
structure Parts where
  scheme : Text
  authority : Text
  path : Text
  query : Option Text
  fragment : Option Text

def isSchemePart (c : CodePoint) : Bool :=
  c.isLowerLetter || c.isUpperLetter || c.isDigit || c.val = 43 || c.val = 45 || c.val = 46

def splitScheme (t : Text) : Text × Text :=
  match t.breakAt fun c => !isSchemePart c with
  | ([], 58 :: rest) => ([], rest)
  | (c :: scheme, 58 :: rest) =>
    if c.isLowerLetter || c.isUpperLetter then (c :: scheme, rest) else ([], t)
  | _ => ([], t)

def marked (t : Text) : Option Text :=
  match t with
  | [] => none
  | _ :: part => some part

def parts (t : Text) : Parts :=
  let (scheme, rest) := splitScheme t
  let (authority, rest) := match Text.after? "//" rest with
    | some rest => rest.breakAt fun c => c.val = 47 || c.val = 63 || c.val = 35
    | none => ([], rest)
  let (path, rest) := rest.breakAt fun c => c.val = 63 || c.val = 35
  let (query, fragment) := rest.breakAt (·.val = 35)
  { scheme, authority, path, query := marked query, fragment := marked fragment }

/-- User, host and port. The last at sign ends the user; a host in brackets ends with the last
bracket, any other with a colon. -/
def splitAuthority (t : Text) : Text × Text × Text :=
  let back := t.reverse
  let (user, rest) :=
    if t.contains 64 then
      let rest := (back.takeWhile (· ≠ 64)).reverse
      ((back.drop (rest.length + 1)).reverse, rest)
    else ([], t)
  let (host, rest) :=
    if rest.head? = some 91 ∧ rest.contains 93 then
      let port := (rest.reverse.takeWhile (· ≠ 93)).reverse
      (rest.take (rest.length - port.length), port)
    else Text.breakAt (· = 58) rest
  (user, host, if rest.head? = some 58 then rest.drop 1 else rest)

def isSafe (signs : Text) (c : CodePoint) : Bool :=
  0x21 ≤ c.val && c.val ≤ 0x7E && !signs.contains c

def fragmentSigns : Text := "\"<>`"

def querySigns : Text := "\"<>#"

def pathSigns : Text := querySigns ++ "?`\x7b\x7d"

def userSigns : Text := pathSigns ++ "/;=@[\\]^|"

def escaped (signs : Text) (t : Text) : Except Defect Text :=
  match t.find? fun c => c.isSurrogate with
  | some c => .error (.unencodable [c])
  | none => .ok (t.escapeUnless (isSafe signs))

def impliedPort? (scheme : Text) : Option Int :=
  if scheme = "ftp" then some 21
  else if scheme = "http" ∨ scheme = "ws" then some 80
  else if scheme = "https" ∨ scheme = "wss" then some 443
  else none

/-- A port, unless the scheme as it is written implies it. -/
def normalPort (scheme : Text) : Text → Except Defect (Option Int)
  | [] => .ok none
  | c :: port => match Text.toInt? (c :: port) with
    | some n => .ok (if impliedPort? scheme = some n then none else some n)
    | none => .error (.url (.port (c :: port)))

/-- Segments without single dots, and with two dots taking away the segment before them. The first
segment is empty in a path that starts with a slash, and stays. -/
def resolveDots (segments : List Text) : List Text :=
  let step (done : List Text) (s : Text) : List Text :=
    if s = "." then done
    else if s = ".." then (if done = [[]] then done else done.drop 1)
    else s :: done
  (segments.foldl step []).reverse

def normalPath (path : Text) : Text := Text.join "/" (resolveDots (path.splitOn 47))

def maxLength : Nat := 65536

def isUnprintable (c : CodePoint) : Bool := c.val < 0x20 || c.val = 0x7F

def wholeFault? (t : Text) : Option UrlFault :=
  if maxLength < t.length then some .tooLong
  else match t.find? isUnprintable with
    | some c => some (.unprintable c (t.takeWhile (!isUnprintable ·)).length)
    | none => none

def ofText (t : Text) : Except Defect Url := do
  if let some fault := wholeFault? t then throw (.url fault)
  let p := parts t
  let (user, host, port) := splitAuthority p.authority
  let user ← escaped userSigns user
  let host ← (Host.normal host).mapError Defect.url
  let port ← normalPort p.scheme port
  let stands := !p.scheme.isEmpty || !user.isEmpty || !host.isEmpty || port.isSome
  if !stands && Text.startsWith "//" p.path then throw (.url .slashes)
  if !stands && Text.startsWith ":" p.path then throw (.url .colon)
  let path ← escaped pathSigns (if stands then normalPath p.path else p.path)
  let query ← p.query.mapM (escaped querySigns)
  let fragment ← p.fragment.mapM (escaped fragmentSigns)
  return { scheme := p.scheme.lower, user, host, port, path, query, fragment }

def isAbsolute (u : Url) : Bool := !u.scheme.isEmpty && !u.host.isEmpty

/-- The address of a request. Without scheme and host only a path from the root is left of it. -/
def requested (u : Url) : Url :=
  if u.isAbsolute then u
  else { path := 47 :: u.path.dropWhile (· = 47), query := u.query }

def service (u : Url) : Text :=
  let host : Text := if u.host.contains 58 then "[" ++ u.host ++ "]" else u.host
  let port : Text := match u.port with
    | some n => ":" ++ Text.ofInt n
    | none => []
  host ++ port

def authority (u : Url) : Text :=
  (if u.user.isEmpty then [] else u.user ++ "@" : Text) ++ u.service

def text (u : Url) : Text :=
  let scheme : Text := if u.scheme.isEmpty then [] else u.scheme ++ ":"
  let authority : Text := if u.authority.isEmpty then [] else "//" ++ u.authority
  let query : Text := match u.query with
    | some q => "?" ++ q
    | none => []
  let fragment : Text := match u.fragment with
    | some f => "#" ++ f
    | none => []
  scheme ++ authority ++ u.path ++ query ++ fragment

end Url

end Faucet
