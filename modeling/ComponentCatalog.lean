import ComponentCatalog.Main
import ComponentCatalog.Proofs.Analyzer.Key
import ComponentCatalog.Proofs.Analyzer.Process
import ComponentCatalog.Proofs.Analyzer.Selected
import ComponentCatalog.Proofs.Cache.Coherent
import ComponentCatalog.Proofs.Cache.Invalidated
import ComponentCatalog.Proofs.Cache.Outdated
import ComponentCatalog.Proofs.Cache.Owner
import ComponentCatalog.Proofs.Cache.Reading
import ComponentCatalog.Proofs.Cache.Removed
import ComponentCatalog.Proofs.Cache.Retries
import ComponentCatalog.Proofs.Cache.Shared
import ComponentCatalog.Proofs.Cache.Unavailable
import ComponentCatalog.Proofs.Component.Replayed
import ComponentCatalog.Proofs.Engine.Confluent
import ComponentCatalog.Proofs.Engine.Current
import ComponentCatalog.Proofs.Engine.Persistent
import ComponentCatalog.Proofs.Engine.Recomputed
import ComponentCatalog.Proofs.Engine.Repeated
import ComponentCatalog.Proofs.Engine.Faded
import ComponentCatalog.Proofs.Engine.Consistent
import ComponentCatalog.Proofs.Engine.Registered
import ComponentCatalog.Proofs.Engine.Snapshot
import ComponentCatalog.Proofs.Engine.Stub
import ComponentCatalog.Proofs.Engine.Taken
import ComponentCatalog.Proofs.Engine.Texts
import ComponentCatalog.Proofs.Engine.Written
import ComponentCatalog.Proofs.Engine.Queried
import ComponentCatalog.Proofs.Metadata.Keyed
import ComponentCatalog.Proofs.Metadata.Settled
import ComponentCatalog.Proofs.Sfc.Chosen
import ComponentCatalog.Proofs.Sfc.Inlined
import ComponentCatalog.Proofs.Sfc.Inserted
import ComponentCatalog.Proofs.Sfc.Slots
import ComponentCatalog.Proofs.Sfc.Verbatim
import ComponentCatalog.Proofs.Transform.Key
import ComponentCatalog.Proofs.Transform.Native
import ComponentCatalog.Proofs.Files.Names
import ComponentCatalog.Proofs.Component.Discovered
import ComponentCatalog.Proofs.Component.Derived
import ComponentCatalog.Proofs.Options.Written
import ComponentCatalog.Proofs.Digest.Spelled
