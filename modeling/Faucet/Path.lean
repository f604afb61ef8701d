import Faucet.Text.Basic

/-!
Paths of files, in the form in which two spellings of one path are the same as far as that can be told
without looking at the files.
-/

set_option autoImplicit false

namespace Faucet

structure Path where
  root : Text
  parts : List Text
deriving DecidableEq

namespace Path

/-- Two slashes in front are a root of their own; more than two are one. Empty parts and single dots
are left out. -/
def ofText (t : Text) : Path :=
  let slashes := (t.takeWhile (· = 47)).length
  { root := if slashes = 0 then [] else if slashes = 2 then "//" else "/"
    parts := (Text.splitOn 47 t).filter fun p => p ≠ [] ∧ p ≠ "." }

def text (p : Path) : Text :=
  if p.root.isEmpty ∧ p.parts.isEmpty then "." else p.root ++ Text.join "/" p.parts

/-- A path without parts that lead back, as far as it can be told without looking at the files. -/
def resolved (p : Path) : Path :=
  let step (done : List Text) (part : Text) : List Text :=
    if part = ".." then
      match done with
      | [] => if p.root.isEmpty then [part] else []
      | last :: rest => if last = ".." then part :: done else rest
    else part :: done
  { p with parts := (p.parts.foldl step []).reverse }

def way (p : Path) : List Path :=
  (List.range p.parts.length).map fun n => { p with parts := p.parts.take (n + 1) }

def child (p : Path) (name : Text) : Path := { p with parts := p.parts ++ [name] }

end Path

end Faucet
