import StorageDispatch.Descriptor.Bulk
import StorageDispatch.MetadataCache
import StorageDispatch.Session.Basic
import StorageDispatch.World
import StorageDispatch.Proofs.Descriptor.Shape
import StorageDispatch.Proofs.Descriptor.Run
import StorageDispatch.Proofs.Context.Flow
import StorageDispatch.Proofs.Context.Frame
import StorageDispatch.Proofs.Context.Exact
import StorageDispatch.Proofs.Context.Routing
import StorageDispatch.Proofs.Descriptor.StaleKeys
import StorageDispatch.Proofs.Registry.Ledger
import StorageDispatch.Proofs.Registry.Scan
import StorageDispatch.Proofs.Registry.Moves
import StorageDispatch.Proofs.Session.Turn
import StorageDispatch.Proofs.Registry.Order
import StorageDispatch.Proofs.Registry.Lifecycle
import StorageDispatch.Proofs.Registry.Balance
import StorageDispatch.Proofs.Session.Teardown
import StorageDispatch.Proofs.Registry.Listing
import StorageDispatch.Proofs.Session.Steps
import StorageDispatch.Proofs.Context.Owners
import StorageDispatch.Proofs.Session.Openers
import StorageDispatch.Proofs.Descriptor.Entries
import StorageDispatch.Proofs.Context.Closing
import StorageDispatch.Proofs.Session.Dealings
import StorageDispatch.Proofs.Session.Lives
import StorageDispatch.Proofs.Context.Pairs
import StorageDispatch.Proofs.Context.Stock
import StorageDispatch.Proofs.Registry.Bystander
import StorageDispatch.Proofs.Context.Bystander
import StorageDispatch.Proofs.Context.Unnoticed
import StorageDispatch.Proofs.Session.Bystander
import StorageDispatch.Proofs.Descriptor.Bindings
import StorageDispatch.Proofs.Context.Surface
import StorageDispatch.Proofs.Context.Tags
import StorageDispatch.Proofs.Registry.Discovery
import StorageDispatch.Proofs.Session.Sticky
import StorageDispatch.Proofs.Context.Silence
import StorageDispatch.Proofs.Session.Silence
import StorageDispatch.Proofs.Context.Accounts
import StorageDispatch.Proofs.Context.Failures
import StorageDispatch.Proofs.Context.Gauges
import StorageDispatch.Proofs.Session.Gauges
import StorageDispatch.Proofs.Memory.Files
import StorageDispatch.Proofs.Memory.Serving
import StorageDispatch.Proofs.Memory.Contents
import StorageDispatch.Proofs.Context.Positioned
import StorageDispatch.Proofs.Context.Alongside
import StorageDispatch.Proofs.Context.Discovering
import StorageDispatch.Proofs.Registry.Exchange
import StorageDispatch.Proofs.Context.Exchange
import StorageDispatch.Proofs.Context.Transfers
import StorageDispatch.Proofs.Memory.Backends
import StorageDispatch.Proofs.Memory.Observed
import StorageDispatch.Proofs.Memory.Coherence
import StorageDispatch.Proofs.Memory.Apart
import StorageDispatch.Proofs.Memory.Parting
import StorageDispatch.Proofs.Memory.Steered
import StorageDispatch.Proofs.Context.Lookup
import StorageDispatch.Proofs.Context.Batches
import StorageDispatch.Proofs.Context.Joint
import StorageDispatch.Proofs.Context.Atomic
import StorageDispatch.Proofs.Session.Retries
import StorageDispatch.Proofs.MetadataCache.History
import StorageDispatch.Proofs.Registry.Latecomer
import StorageDispatch.Proofs.Url.Joining
import StorageDispatch.Proofs.Context.Children
import StorageDispatch.Proofs.Url.Ancestors
import StorageDispatch.Proofs.Memory.Directories
import StorageDispatch.Proofs.Text.ByteOrder
import StorageDispatch.Proofs.Session.Tables
import StorageDispatch.Proofs.Memory.Listings
import StorageDispatch.Proofs.Descriptor.Packing
import StorageDispatch.Proofs.Descriptor.Occupancy
import StorageDispatch.Proofs.Memory.Unlinking
