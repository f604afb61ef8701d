import Faucet.Ledger.Place

/-!
The folder in which commands are given: the databases and the other files that are in it. A file can
be made where the folder for it is there.
-/

set_option autoImplicit false

namespace Faucet

structure Folder where
  databases : Entries Path Database := []
  texts : Entries Path Text := []

namespace Folder

/-- A code point that stands for an octet which is no UTF-8. -/
def isRawOctet (c : CodePoint) : Bool := 0xDC80 ≤ c.val && c.val ≤ 0xDCFF

def checkName (name : Text) : Except Failure Unit :=
  if name.contains 0 then .error (.defect (.value "embedded null byte"))
  else if name.all fun c => !c.isSurrogate || isRawOctet c then .ok ()
  else .error (.defect (.unencodable name))

def isFile (f : Folder) (p : Path) : Bool :=
  (Entries.get? f.databases p).isSome || (Entries.get? f.texts p).isSome

def make (f : Folder) (p : Path) : Except Failure (List Path) := do
  checkName p.text
  let way := p.way.map Path.resolved
  if f.isFile p.resolved then throw (.defect (.named "FileExistsError" []))
  else if way.any f.isFile then throw (.defect (.named "NotADirectoryError" []))
  else return way

def canMake (made : List Path) (p : Path) : Bool :=
  let home : Path := { p with parts := p.parts.dropLast }
  p.parts ≠ [] && p.parts.getLast? ≠ some ".." && p ∉ made
    && (home ∈ made || (home.parts.isEmpty && home.root.isEmpty))

/-- The database at a place, given the folders that were made. An empty file is an empty database. -/
def database (f : Folder) (made : List Path) : Place → Except Failure Database
  | .memory => .ok {}
  | .nowhere fault => .ok { refusal := some fault }
  | .file p access => do
    checkName p.text
    let p := p.resolved
    let readOnly := access = .read
    match Entries.get? f.databases p, Entries.get? f.texts p with
    | some d, _ => return { d with readOnly }
    | none, some [] => return { lasting := true, readOnly }
    | none, some _ => return { refusal := some .notDatabase }
    | none, none =>
      if access = .create && canMake made p then return { lasting := true }
      else return { refusal := some .cannotOpen }

/-- Leaves a database behind at its place. A file is there from its first use on. -/
def keep (f : Folder) (place : Place) (d : Database) : Folder :=
  match place with
  | .memory | .nowhere _ => f
  | .file p _ =>
    if d.refusal.isNone then
      { f with databases := Entries.put f.databases p.resolved { d with readOnly := false } }
    else f

end Folder

end Faucet
