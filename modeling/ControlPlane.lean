import ControlPlane.Network.Script
import ControlPlane.Proofs.Delivery.Change
import ControlPlane.Proofs.Delivery.Listing
import ControlPlane.Proofs.Delivery.Note
import ControlPlane.Proofs.Delivery.Tags
import ControlPlane.Proofs.Directory.Listing
import ControlPlane.Proofs.Directory.Note
import ControlPlane.Proofs.Directory.Record
import ControlPlane.Proofs.Directory.Tags
import ControlPlane.Proofs.InPlace.Delivery
import ControlPlane.Proofs.InPlace.Directory
import ControlPlane.Proofs.InPlace.Network
import ControlPlane.Proofs.InPlace.Region
import ControlPlane.Proofs.InPlace.Resolver
import ControlPlane.Proofs.Network.Listing
import ControlPlane.Proofs.Network.Note
import ControlPlane.Proofs.Network.Tags
import ControlPlane.Proofs.Page
import ControlPlane.Proofs.Provider
import ControlPlane.Proofs.Region.Client
import ControlPlane.Proofs.Region.Contents
import ControlPlane.Proofs.Region.Directories
import ControlPlane.Proofs.Region.Identity
import ControlPlane.Proofs.Region.Ledger
import ControlPlane.Proofs.Region.Listing
import ControlPlane.Proofs.Region.TagLimits
import ControlPlane.Proofs.Region.Tags
import ControlPlane.Proofs.Region.Undo
import ControlPlane.Proofs.RequestLog
import ControlPlane.Proofs.Resolver.Graph
import ControlPlane.Proofs.Resolver.Listing
import ControlPlane.Proofs.Resolver.Note
import ControlPlane.Proofs.Resolver.Tags
import ControlPlane.Proofs.Signing.Change
import ControlPlane.Proofs.Signing.Listing
import ControlPlane.Proofs.Signing.Note
import ControlPlane.Proofs.Signing.TagGrowth
import ControlPlane.Proofs.Signing.Tags
import ControlPlane.Proofs.Tag.Limit
import ControlPlane.RequestLog
import ControlPlane.Proofs.InPlace.Rehearsal
import ControlPlane.Proofs.Directory.Form
import ControlPlane.Proofs.Directory.Tally
import ControlPlane.Proofs.InPlace.Scripted
import ControlPlane.Proofs.Network.Callers
import ControlPlane.Proofs.Region.DirectoryQuotas
import ControlPlane.Proofs.Region.OffsetTour
import ControlPlane.Proofs.Region.StreamTour
import ControlPlane.Proofs.Region.TagTour
import ControlPlane.Proofs.Region.LaterTags
import ControlPlane.Proofs.Network.Placement
import ControlPlane.Proofs.Region.Allocation
import ControlPlane.Proofs.Signing.Renewed
import ControlPlane.Proofs.Network.Hosts
import ControlPlane.Proofs.Region.TagRoom
import ControlPlane.Proofs.Validation.Calls
import ControlPlane.Proofs.Delivery.Creation
import ControlPlane.Proofs.Pattern.LookAhead
import ControlPlane.Proofs.Directory.Format
import ControlPlane.Proofs.Signing.Names
import ControlPlane.Proofs.Resolver.Filter
import ControlPlane.Proofs.Masking
import ControlPlane.Proofs.Page.Partition
import ControlPlane.Proofs.Registry.Indexed
import ControlPlane.Proofs.Tag.History
