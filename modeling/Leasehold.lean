import Leasehold.Logger
import Leasehold.Main
import Leasehold.Proofs.CommandLine.Answering
import Leasehold.Proofs.Lock.Isolation
import Leasehold.Proofs.Lock.Nesting
import Leasehold.Proofs.Lock.Default
import Leasehold.Proofs.Connection.Handover
import Leasehold.Proofs.Transaction.Decoding
import Leasehold.Proofs.Transaction.Outage
import Leasehold.Proofs.Retry.Sequence
import Leasehold.Proofs.Json.Nested
import Leasehold.Proofs.Store.Arity
import Leasehold.Proofs.Text.Letter
import Leasehold.Proofs.Transaction.Chain
import Leasehold.Proofs.Transaction.InTurn
import Leasehold.Proofs.Environment.Blanks
import Leasehold.Proofs.Logger.Registry
import Leasehold.Proofs.Settings.Portable
