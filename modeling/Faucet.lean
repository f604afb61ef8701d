import Faucet.Field.Report
import Faucet.Json.Writer
import Faucet.Main
import Faucet.Proofs.CycleOutcome
import Faucet.Proofs.PaidOnce
import Faucet.Proofs.Stranded
import Faucet.Proofs.SweepRace
import Faucet.Settings.Environment
import Faucet.Settings.Fields
import Faucet.Proofs.Lifecycle
import Faucet.Proofs.StoreCall
import Faucet.Proofs.Traffic
import Faucet.Proofs.Amounts
import Faucet.Proofs.WellKept
import Faucet.Proofs.Conduct
import Faucet.Proofs.FirstCome
import Faucet.Proofs.Provenance
import Faucet.Proofs.Admission
import Faucet.Proofs.Promise
import Faucet.Proofs.RateLimit
import Faucet.Proofs.Exchange
import Faucet.Proofs.Pipeline
import Faucet.Proofs.Consolidation
import Faucet.Proofs.LongRun
import Faucet.Proofs.Accounting
import Faucet.Proofs.Decision
import Faucet.Proofs.Shutdown
import Faucet.Proofs.Timeline
import Faucet.Proofs.Reckoning
import Faucet.Proofs.Sweep
import Faucet.Proofs.Foreseen
import Faucet.Proofs.Destination
import Faucet.Proofs.Listing
import Faucet.Proofs.Draw
import Faucet.Proofs.Grace
import Faucet.Proofs.Readings
