import Faucet.Binary64.Written
import Faucet.Ledger.Database
import Faucet.Path
import Faucet.Text.Integer
import Faucet.Text.Lower
import Faucet.Text.Word

/-!
Where a ledger is kept, as the address of its database says: the kind of database, a server for the
kinds that have one, a name in which percent escapes stand for octets, and options.
-/

set_option autoImplicit false

namespace Faucet

namespace Text

def leadingEscapes : Text → Octets × Text
  | 37 :: a :: b :: rest =>
    match a.hexValue?, b.hexValue? with
    | some high, some low =>
      let (octets, rest) := leadingEscapes rest
      ((16 * high + low).toUInt8 :: octets, rest)
    | _, _ => ([], 37 :: a :: b :: rest)
  | t => ([], t)

def unescapedWithin : Nat → Text → Text
  | _, [] => []
  | 0, t => t
  | fuel + 1, c :: rest =>
    match leadingEscapes (c :: rest) with
    | ([], _) => c :: unescapedWithin fuel rest
    | (octets, rest) => ofUtf8Lenient octets ++ unescapedWithin fuel rest

def unescaped (t : Text) : Text := unescapedWithin t.length t

end Text

inductive Access where
  | create
  | write
  | read
deriving DecidableEq, Repr

inductive Place where
  | memory
  | file (path : Path) (access : Access)
  | nowhere (fault : DatabaseFault)
deriving DecidableEq

namespace Place

def malformed : Failure := .defect (.named "ArgumentError" [])

def unknownKind : Failure := .defect (.named "NoSuchModuleError" [])

def unreachable : Failure := .defect (.named "ModuleNotFoundError" [])

abbrev Options := Entries Text (List Text)

structure Parts where
  kind : Text
  server : List Text
  port : Text
  database : Option Text
  options : Options

def isKindPart (c : CodePoint) : Bool := c.isWord || c = 43

/-- User and password before an at sign. A password may hold slashes. -/
def splitUser (t : Text) : List Text × Text :=
  let (user, rest) := t.breakAt fun c => c = 58 || c = 47
  match rest.breakAt (· = 64) with
  | (58 :: password, 64 :: rest) => ([user, password], rest)
  | _ =>
    let back := user.reverse
    if user.contains 64 then
      let host := (back.takeWhile (· ≠ 64)).reverse
      ([(back.drop (host.length + 1)).reverse], host ++ rest)
    else ([], t)

def optionsOf (t : Text) : Options :=
  let plain (t : Text) : Text := Text.unescaped (t.map fun c => if c = 43 then 32 else c)
  (t.splitOn 38).foldl (fun options option =>
    match option.breakAt (· = 61) with
    | (name, _ :: c :: value) =>
      let name := plain name
      Entries.put options name ((Entries.get? options name).getD [] ++ [plain (c :: value)])
    | _ => options) []

/-- A host and what follows it. Between brackets it may hold colons; the last bracket ends it then. -/
def splitHost (t : Text) : Text × Text :=
  let authority := t.takeWhile fun c => c ≠ 47 ∧ c ≠ 63
  let inBrackets := (authority.reverse.dropWhile (· ≠ 93)).reverse
  if t.head? = some 91 ∧ 2 < inBrackets.length then (inBrackets, t.drop inBrackets.length)
  else t.breakAt fun c => c = 58 || c = 47 || c = 63

def splitPart (mark : CodePoint) (ends : CodePoint → Bool) : Text → Option Text × Text
  | [] => (none, [])
  | c :: t =>
    if c = mark then
      let (part, rest) := Text.breakAt ends t
      (some part, rest)
    else (none, c :: t)

def partsOf? (url : Text) : Option Parts :=
  match url.breakAt fun c => !isKindPart c with
  | ([], _) => none
  | (kind, rest) => (Text.after? "://" rest).map fun rest =>
    let (user, rest) := splitUser rest
    let (host, rest) := splitHost rest
    let (port, rest) := splitPart 58 (fun c => c = 47 || c = 63) rest
    let (database, rest) := splitPart 47 (· = 63) rest
    let (options, _) := splitPart 63 (· = 10) rest
    { kind, server := host :: user, port := port.getD [], database := database.map Text.unescaped
      options := optionsOf (options.getD []) }

inductive Reach where
  | here
  | missing
deriving DecidableEq, Repr

/-- Kinds of databases, each with the ways to reach it. The empty way is the usual one. -/
def kinds : List (Text × List (Text × Reach)) :=
  let sql : List (Text × Reach) :=
    [([], .missing), ("base", .missing), ("mysqldb", .missing), ("pymysql", .missing),
     ("mysqlconnector", .missing), ("mariadbconnector", .missing), ("cymysql", .missing),
     ("aiomysql", .missing), ("asyncmy", .missing), ("pyodbc", .missing)]
  [("sqlite", [([], .here), ("base", .here), ("pysqlite", .here), ("aiosqlite", .missing),
     ("pysqlcipher", .missing)]),
   ("postgresql", [([], .missing), ("base", .missing), ("psycopg2", .missing), ("psycopg", .missing),
     ("psycopg_async", .missing), ("asyncpg", .missing), ("pg8000", .missing)]),
   ("mysql", sql), ("mariadb", sql),
   ("oracle", [([], .missing), ("base", .missing), ("oracledb", .missing), ("cx_oracle", .missing)]),
   ("mssql", [([], .missing), ("base", .missing), ("pyodbc", .missing), ("pymssql", .missing),
     ("aioodbc", .missing)])]

def reach (kind : Text) : Except Failure Unit :=
  let found (name way : Text) : Except Failure Unit :=
    match (Entries.get? kinds name).bind (Entries.get? · way) with
    | some .here => .ok ()
    | some .missing => .error unreachable
    | none => .error unknownKind
  match kind.splitOn 43 with
  | [name] => found name []
  | [_, []] => .error unknownKind
  | [name, way] => found name way
  | _ => .error (.defect (.value "too many values to unpack (expected 2)"))

def yes : List Text := ["true", "yes", "on", "y", "t", "1"]

def no : List Text := ["false", "no", "off", "n", "f", "0"]

/-- Whether an option is on. One with several values is. -/
def isOn (options : Options) (name : Text) : Except Failure Bool :=
  match Entries.get? options name with
  | none => .ok false
  | some [value] =>
    let word := value.strip.lowered
    if word ∈ yes then .ok true
    else if word ∈ no then .ok false
    else .error (.defect (.value ("String is not true/false: " ++ word.quoted)))
  | some _ => .ok true

def number? {α : Type} (options : Options) (name refusal : Text) (read : Text → Option α) :
    Except Failure (Option α) :=
  match Entries.get? options name with
  | none => .ok none
  | some [value] => match read value with
    | some n => .ok (some n)
    | none => .error (.defect (.value (refusal ++ value.quoted)))
  | some _ => .error (.defect (.wrongType "several values are no number"))

def wholeNumber? (options : Options) (name : Text) : Except Failure (Option Int) :=
  number? options name "invalid literal for int() with base 10: " Text.toInt?

def shownOption : List Text → Text
  | [value] => value
  | values => "(" ++ Text.join ", " (values.map Text.quoted) ++ ")"

def isolationLevels : List Text := ["deferred", "immediate", "exclusive"]

def checkWord : Option Int → Except Failure Unit
  | none => .ok ()
  | some n =>
    if -(twoTo 31 : Int) ≤ n ∧ n < twoTo 31 then .ok ()
    else .error (.defect (.overflow "Python int too large to convert to C int"))

/-- Reads the options of a connection, and tells whether the name of its file is an address. That takes
a name. -/
def connection (isNamed : Bool) (options : Options) : Except Failure Bool := do
  let uri ← isOn options "uri"
  let _ ← number? options "timeout" "could not convert string to float: " Binary64.ofLooseText?
  let types ← wholeNumber? options "detect_types"
  let _ ← isOn options "check_same_thread"
  let cached ← wholeNumber? options "cached_statements"
  if uri && !isNamed then throw (.defect (.wrongType "no name for a file"))
  checkWord types
  if let some level := Entries.get? options "isolation_level" then
    if (shownOption level).lower ∉ isolationLevels then
      throw (.defect (.value
        "isolation_level string must be '', 'DEFERRED', 'IMMEDIATE', or 'EXCLUSIVE'"))
  checkWord cached
  return uri

def connectionOptions : List Text :=
  ["uri", "timeout", "isolation_level", "detect_types", "check_same_thread", "cached_statements"]

def fullName (name : Text) (options : Options) : Text :=
  let own := (options.filter fun o => o.1 ∉ connectionOptions).mergeSort fun a b => Text.le a.1 b.1
  if own.isEmpty then name
  else name ++ "?" ++ Text.join "&" (own.map fun o => o.1 ++ "=" ++ shownOption o.2)

def inMemory (access : Access) : Place := if access = .read then .nowhere .readOnly else .memory

def ofName (access : Access) (t : Text) : Place :=
  if t = [] ∨ t = ":memory:" then inMemory access else .file (.ofText t) access

/-- A part of an address with its escapes resolved. An escaped zero ends it. -/
def addressPart (t : Text) : Text := Text.unescaped (Text.cutBefore "%00" t)

def addressOptions (t : Text) : List (Text × Text) :=
  (t.splitOn 38).filterMap fun option =>
    let (name, value) := option.breakAt (· = 61)
    let name := addressPart name
    if name.isEmpty then none else some (name, addressPart (value.drop 1))

/-- How an address opens its file. Without access to a file its data are in memory. -/
structure Opening where
  access : Option Access := some .create
  system : Option Text := none

def modes : List (Text × Option Access) :=
  [("ro", some .read), ("rw", some .write), ("rwc", some .create), ("memory", none)]

/-- Modes that may follow a mode: none that allows more. -/
def mayFollow : Option Access → Option Access → Bool
  | none, _ | _, none | some .create, _ | _, some .read => true
  | some .write, some a => a = .write
  | some .read, some _ => false

def Opening.take (o : Opening) (option : Text × Text) : Except Text Opening :=
  let (name, value) := option
  if name = "vfs" then .ok { o with system := some value }
  else if name = "cache" then
    if value = "shared" ∨ value = "private" then .ok o else .error ("no such cache mode: " ++ value)
  else if name = "mode" then
    match Entries.get? modes value with
    | none => .error ("no such access mode: " ++ value)
    | some access =>
      if mayFollow o.access access then .ok { o with access }
      else .error ("access mode not allowed: " ++ value)
  else .ok o

def systems : List Text := ["unix", "unix-none", "unix-dotfile", "unix-excl", "memdb"]

def ofFileAddress (t : Text) : Place :=
  let (host, t) : Text × Text := match Text.after? "//" t with
    | some rest => rest.breakAt (· = 47)
    | none => ([], t)
  if host ≠ [] ∧ host ≠ "localhost" then
    .nowhere (.badAddress ("invalid uri authority: " ++ host))
  else
    let (name, options) := Text.breakAt (· = 63) (t.takeWhile (· ≠ 35))
    match (addressOptions (options.drop 1)).foldlM Opening.take {} with
    | .error reason => .nowhere (.badAddress reason)
    | .ok o => match o.system.filter (· ∉ systems) with
      | some system => .nowhere (.badAddress ("no such vfs: " ++ system))
      | none =>
        match o.access with
        | none => .memory
        | some access =>
          if o.system = some "memdb" then inMemory access else ofName access (addressPart name)

def ofUrl (url : Text) : Except Failure Place := do
  let some p := partsOf? url | throw malformed
  if !p.port.isEmpty ∧ (Text.toInt? p.port).isNone then
    throw (.defect (.value ("invalid literal for int() with base 10: " ++ p.port.quoted)))
  if (Entries.get? p.options "plugin").isSome then throw unknownKind
  reach p.kind
  if p.server.any (!·.isEmpty) || ((Text.toInt? p.port).filter (· ≠ 0)).isSome then throw malformed
  let name := p.database.getD []
  if ← connection p.database.isSome p.options then
    let name := fullName name p.options
    match Text.after? "file:" name with
    | some t => return ofFileAddress t
    | none => return ofName .create name
  else return ofName .create name

end Place

end Faucet
