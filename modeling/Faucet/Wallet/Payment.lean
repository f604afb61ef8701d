import Faucet.Job.Basic

/-!
A payment from the wallet. Amounts below the dust limit are refused before the node is asked.
-/

set_option autoImplicit false

namespace Faucet.Wallet

/-- Pays an amount to an address and answers the transaction; the node picks the inputs. -/
def pay (address : Text) (amount feeRate : Decimal) (memo : Text) : Job Text := do
  Job.payment address amount
  if ← Job.ofArithmetic (amount.lt Money.dustLimit) then throw (.node "send" (.tooLow amount))
  let outputs ← Job.ofExcept (Outputs.payment address amount memo)
  Job.wallet (.broadcast outputs (some feeRate) none)

def available : Job Decimal := do
  let balances ← Job.wallet .balances
  Job.ofArithmetic balances.available

end Faucet.Wallet
