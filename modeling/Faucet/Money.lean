import Faucet.Failure

/-!
Amounts of coin and whole satoshis, and the limits and rates of the faucet. Amounts in coin are
decimals; what the ledger keeps are satoshis.
-/

set_option autoImplicit false

namespace Faucet

namespace Money

def satsPerCoin : Nat := 100000000

def coin : Decimal := .finite false satsPerCoin 0

def satoshi : Decimal := .finite false 1 (-8)

/-- No output below this is paid or merged: a thousand satoshis. -/
def dustLimit : Decimal := .finite false 1 (-5)

/-- A whole number of satoshis in coin, written without trailing zeros behind the point. -/
def ofSats (n : Int) : Decimal :=
  let (c, e) := Decimal.stripZeros 8 n.natAbs (-8) 0
  .finite (n < 0) c e

def wholeNumber : Decimal → Except Failure Int
  | .finite n c e => .ok (Decimal.truncate n c e)
  | .infinite _ => .error (.defect (.overflow "cannot convert Infinity to integer"))
  | .nan .. => .error (.defect (.value "cannot convert NaN to integer"))

/-- A whole number as text. One of more than 4300 digits is not written. -/
def wholeText (n : Int) : Except Failure Text :=
  if n.natAbs < tenTo 4300 then .ok (Text.ofInt n)
  else
    .error (.defect (.value ("Exceeds the limit (4300 digits) for integer string conversion; use "
      ++ "sys.set_int_max_str_digits() to increase the limit")))

/-- The nearest whole number of satoshis, a tie going to the even one. -/
def toSats (amount : Decimal) : Except Failure Int := do
  let sats ← Decimal.mul amount coin
  let whole ← Decimal.toIntegral sats
  wholeNumber whole

end Money

namespace Fee

def relayFloor : Decimal := .finite false 1 (-1)

def safetyFactor : Decimal := .finite false 115 (-2)

theorem payoutRate_defined : (Decimal.mul relayFloor safetyFactor).toOption.isSome = true := rfl

/-- The rate of payouts, in satoshis for a virtual byte: the relay floor with a margin. -/
def payoutRate : Decimal := (Decimal.mul relayFloor safetyFactor).toOption.get payoutRate_defined

def mergeRate : Decimal := .finite false 15 (-2)

def overhead : Decimal := .finite false 105 (-1)

def size (inputs outputs : Int) : Except ArithmeticFault Decimal := do
  let base ← Decimal.add overhead (Decimal.ofInt (inputs * 148))
  Decimal.add base (Decimal.ofInt (outputs * 31))

def cost (size rate : Decimal) : Except ArithmeticFault Decimal := do
  Decimal.div (← Decimal.mul size rate) Money.coin

end Fee

end Faucet
