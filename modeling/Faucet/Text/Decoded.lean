import Faucet.Text.Octets

/-!
Text from octets by one of five encodings. A surrogate that was encoded by itself is out of order, but
it is let through; anything else out of order ends the reading, and where and why is told.
-/

set_option autoImplicit false

namespace Faucet

inductive Encoding where
  | utf8
  | utf16 (big : Bool)
  | utf32 (big : Bool)
deriving DecidableEq, Repr

structure Irregularity where
  start : Nat
  stop : Nat
  reason : Text

/-- Octets that are no text. The place that ended the reading may not be the first one that was out of
order. -/
structure DecodeFault where
  encoding : Encoding
  octets : Octets
  first : Irregularity
  last : Irregularity

inductive Reading where
  | point (n used : Nat)
  /-- A lone surrogate, and how many octets are out of order because of it. -/
  | lone (n used extent : Nat) (reason : Text)
  | broken (extent : Nat) (reason : Text)

namespace Encoding

def name : Encoding → Text
  | .utf8 => "utf-8"
  | .utf16 true => "utf-16-be"
  | .utf16 false => "utf-16-le"
  | .utf32 true => "utf-32-be"
  | .utf32 false => "utf-32-le"

def readUtf8 (bs : Octets) : Reading :=
  match Text.step false bs with
  | (some n, used) => .point n used
  | (none, extent) =>
    let reason : Text :=
      if (bs.head?.bind (Text.lead? false)).isNone then "invalid start byte"
      else if extent = bs.length then "unexpected end of data"
      else "invalid continuation byte"
    match Text.step true bs with
    | (some n, used) => .lone n used extent reason
    | (none, _) => .broken extent reason

def unit16 (big : Bool) (a b : UInt8) : Nat :=
  if big then 256 * a.toNat + b.toNat else 256 * b.toNat + a.toNat

def readUtf16 (big : Bool) : Octets → Reading
  | a :: b :: rest =>
    let n := unit16 big a b
    if Text.isLowSurrogate n then .lone n 2 2 "illegal encoding"
    else if Text.isHighSurrogate n then
      match rest with
      | c :: d :: _ =>
        let low := unit16 big c d
        if Text.isLowSurrogate low then .point (Text.joinPair n low) 4
        else .lone n 2 2 "illegal UTF-16 surrogate"
      | _ => .lone n 2 (2 + rest.length) "unexpected end of data"
    else .point n 2
  | bs => .broken bs.length "truncated data"

def readUtf32 (big : Bool) : Octets → Reading
  | a :: b :: c :: d :: _ =>
    let n := if big then 65536 * unit16 true a b + unit16 true c d
      else 65536 * unit16 false c d + unit16 false a b
    if 0x110000 ≤ n then .broken 4 "code point not in range(0x110000)"
    else if (CodePoint.ofNat n).isSurrogate then
      .lone n 4 4 "code point in surrogate code point range(0xd800, 0xe000)"
    else .point n 4
  | bs => .broken bs.length "truncated data"

def read : Encoding → Octets → Reading
  | .utf8 => readUtf8
  | .utf16 big => readUtf16 big
  | .utf32 big => readUtf32 big

/-- Reads on from a position. `first` is the first place so far that is out of order. Each step takes
up one octet at least. -/
def decodeFrom (e : Encoding) (all : Octets) :
    Nat → Nat → Option Irregularity → Octets → Except DecodeFault Text
  | _, _, _, [] => .ok []
  | 0, _, _, _ => .ok []
  | fuel + 1, position, first, bs =>
    match e.read bs with
    | .point n used => do
      return CodePoint.ofNat n :: (← decodeFrom e all fuel (position + used) first (bs.drop used))
    | .lone n used extent reason => do
      let here : Irregularity := { start := position, stop := position + extent, reason }
      return CodePoint.ofNat n
        :: (← decodeFrom e all fuel (position + used) (first.getD here) (bs.drop used))
    | .broken extent reason =>
      let here : Irregularity := { start := position, stop := position + extent, reason }
      .error { encoding := e, octets := all, first := first.getD here, last := here }

def decode (e : Encoding) (mark : Nat) (bs : Octets) : Except DecodeFault Text :=
  decodeFrom e bs bs.length mark none (bs.drop mark)

end Encoding

namespace DecodeFault

def message (f : DecodeFault) : Text :=
  let place : Text :=
    if f.last.stop = f.last.start + 1 then
      "byte 0x" ++ Text.hex 2 ((f.octets.drop f.last.start).head?.elim 0 (·.toNat)) ++ " in position "
        ++ Text.ofNat f.last.start
    else "bytes in position " ++ Text.ofNat f.last.start ++ "-" ++ Text.ofNat (f.last.stop - 1)
  "'" ++ f.encoding.name ++ "' codec can't decode " ++ place ++ ": " ++ f.last.reason

def parts (f : DecodeFault) : Text :=
  f.encoding.name.quoted ++ ", " ++ Text.ofOctetsQuoted f.octets ++ ", " ++ Text.ofNat f.first.start
    ++ ", " ++ Text.ofNat f.first.stop ++ ", " ++ f.first.reason.quoted

end DecodeFault

end Faucet
