import TorBundle.Main
import TorBundle.Platform.Designation
import TorBundle.Session
import TorBundle.Proofs.Exchanges
import TorBundle.Proofs.Rules
import TorBundle.Proofs.Plan
import TorBundle.Proofs.Build
import TorBundle.Proofs.Journal
import TorBundle.Proofs.Requests
import TorBundle.Proofs.Isolation
import TorBundle.Proofs.Addresses
import TorBundle.Proofs.Provisioning
import TorBundle.Proofs.Names
import TorBundle.Proofs.Refusals
import TorBundle.Proofs.Removal
import TorBundle.Proofs.Failures
import TorBundle.Proofs.Retargeting
import TorBundle.Proofs.Settings
import TorBundle.Proofs.Starting
import TorBundle.Proofs.Occurrences
import TorBundle.Proofs.Forms
import TorBundle.Proofs.Versions
import TorBundle.Proofs.Paths
import TorBundle.Proofs.Architectures
import TorBundle.Proofs.Inquiries
import TorBundle.Proofs.Quoting
import TorBundle.Proofs.History
import TorBundle.Proofs.Clones
