import Accounts.Main
import Accounts.Script
import Accounts.Session
import Accounts.Proofs.History
import Accounts.Proofs.Rows
import Accounts.Proofs.Soundness
import Accounts.Proofs.LastWrite
import Accounts.Proofs.Atomicity
import Accounts.Proofs.Interleaving
import Accounts.Proofs.Registrations
import Accounts.Proofs.Operations
import Accounts.Proofs.Numbering
import Accounts.Proofs.Journal
import Accounts.Proofs.Secrecy
import Accounts.Proofs.Addresses
import Accounts.Proofs.Processes
import Accounts.Proofs.Verdicts
import Accounts.Proofs.Decisions
import Accounts.Proofs.StaleUpdates
import Accounts.Proofs.PlainFiles
import Accounts.Proofs.Endings
import Accounts.Proofs.ScriptedStores
import Accounts.Proofs.BoundedOutput
import Accounts.Proofs.WrittenDates
import Accounts.Proofs.JsonTexts
import Accounts.Proofs.Spellings
import Accounts.Proofs.CommandLines
import Accounts.Proofs.Composition
import Accounts.Proofs.BirthDates
import Accounts.Proofs.Snapshots
import Accounts.Proofs.Commutation
import Accounts.Proofs.Assignments
import Accounts.Proofs.Configuration
