import VirtualKubelet.Config.Absence
import VirtualKubelet.Config.IntegerText
import VirtualKubelet.Config.Validation
import VirtualKubelet.Drivers.Iosxe.StaticAddress
import VirtualKubelet.Drivers.Nxos.ListPods
import VirtualKubelet.Drivers.Resources
import VirtualKubelet.Proofs.Canary
import VirtualKubelet.Proofs.DrainInventory
import VirtualKubelet.Proofs.InstallStream
import VirtualKubelet.Proofs.LeaseHistory
import VirtualKubelet.Proofs.LeaseNames
import VirtualKubelet.Proofs.Ownership
import VirtualKubelet.Proofs.PodDeletion
import VirtualKubelet.Proofs.PruneGrace
import VirtualKubelet.Proofs.ReserveMono
import VirtualKubelet.Proofs.RunOptsIdentity
import VirtualKubelet.Proofs.ScopeEntries
import VirtualKubelet.Proofs.SectionJournal
import VirtualKubelet.Proofs.Settlement
import VirtualKubelet.Proofs.ShortCircuit
import VirtualKubelet.Proofs.StartupSave
import VirtualKubelet.Proofs.TransferPacing
import VirtualKubelet.Proofs.UpgradeOutcomes
import VirtualKubelet.Rollout.HealthEvidence
import VirtualKubelet.Rollout.Placement
import VirtualKubelet.Rollout.Sources
import VirtualKubelet.SoftwareUpgrade.Queue
