import DocMapper.Assoc
import DocMapper.Cbor.Head
import DocMapper.Cbor.Reader
import DocMapper.Cbor.Shape
import DocMapper.Cbor.Writer
import DocMapper.Datastore.Basic
import DocMapper.Datastore.Cache
import DocMapper.Datastore.Resolve
import DocMapper.Datastore.World
import DocMapper.Hook.Dispatch
import DocMapper.Hook.Event
import DocMapper.Hook.Interceptor
import DocMapper.Hook.Journal
import DocMapper.Hook.Method
import DocMapper.Hook.Plan
import DocMapper.Hook.Script
import DocMapper.Instance.Entity
import DocMapper.Instance.Key
import DocMapper.Mapping.Catalog
import DocMapper.Mapping.Conversion
import DocMapper.Mapping.Decode
import DocMapper.Mapping.Descriptor
import DocMapper.Mapping.Encode
import DocMapper.Mapping.Error
import DocMapper.Mapping.Field
import DocMapper.Mapping.Identity
import DocMapper.Mapping.Memory
import DocMapper.Mapping.Options
import DocMapper.Mapping.ReferenceField
import DocMapper.Mapping.Rules
import DocMapper.Query.Check
import DocMapper.Query.Criterion
import DocMapper.Query.Operator
import DocMapper.Query.Validation
import DocMapper.Run
import DocMapper.Samples
import DocMapper.Schema.Annotation
import DocMapper.Schema.ClassName
import DocMapper.Schema.FieldType
import DocMapper.Schema.Registry
import DocMapper.Schema.Type
import DocMapper.Session.Basic
import DocMapper.Session.Perform
import DocMapper.Session.Reply
import DocMapper.Session.Step
import DocMapper.Store.Collections
import DocMapper.Store.Filter
import DocMapper.Store.Recorder
import DocMapper.Text.Case
import DocMapper.Text.Hex
import DocMapper.Text.LowerCase
import DocMapper.Text.Quoted
import DocMapper.Text.Unprintable
import DocMapper.Value.Basic
import DocMapper.Value.Diagnostic
import DocMapper.Value.Document
import DocMapper.Value.IdSeries
import DocMapper.Value.ObjectId
import DocMapper.Value.Pointer
import DocMapper.Proofs.Discovery.Describes
import DocMapper.Proofs.Discovery.Steady
import DocMapper.Proofs.Discovery.Lawful
import DocMapper.Proofs.Discovery.History
import DocMapper.Proofs.Discovery.Acceptable
import DocMapper.Proofs.Discovery.Alike
import DocMapper.Proofs.Discovery.Coherent
import DocMapper.Proofs.Discovery.Hierarchy
import DocMapper.Proofs.Discovery.Marks
import DocMapper.Proofs.Discovery.Leftovers
import DocMapper.Proofs.Hook.Plain
import DocMapper.Proofs.Hook.Preserving
import DocMapper.Proofs.FirstOccurrences
import DocMapper.Proofs.Hook.Table
import DocMapper.Proofs.Hook.Linearization
import DocMapper.Proofs.Hook.Threading
import DocMapper.Proofs.Hook.Instances
import DocMapper.Proofs.Value.Keys
import DocMapper.Proofs.Value.InsertionOrder
import DocMapper.Proofs.Conversion.Encoded
import DocMapper.Proofs.Conversion.Layout
import DocMapper.Proofs.Conversion.Decoded
import DocMapper.Proofs.Conversion.Reading
import DocMapper.Proofs.Conversion.Legible
import DocMapper.Proofs.Conversion.Conforming
import DocMapper.Proofs.Conversion.RoundTrip
import DocMapper.Proofs.Conversion.Discriminator
import DocMapper.Proofs.Conversion.Canonical
import DocMapper.Proofs.Conversion.Agreement
import DocMapper.Proofs.Conversion.NullForms
import DocMapper.Proofs.Conversion.Alike
import DocMapper.Proofs.Cbor.Pieces
import DocMapper.Proofs.Cbor.RoundTrip
import DocMapper.Proofs.Cbor.Depth
import DocMapper.Proofs.Cbor.Taking
import DocMapper.Proofs.Cbor.Rereading
import DocMapper.Proofs.Value.Repetition
import DocMapper.Proofs.Datastore.Ready
import DocMapper.Proofs.Datastore.Steps
import DocMapper.Proofs.Datastore.Faults
import DocMapper.Proofs.Store.Intact
import DocMapper.Proofs.Datastore.Loaded
import DocMapper.Proofs.Datastore.Loading
import DocMapper.Proofs.Datastore.Saving
import DocMapper.Proofs.Datastore.Keyed
import DocMapper.Proofs.Datastore.Ledger
import DocMapper.Proofs.Datastore.Locking
import DocMapper.Proofs.Store.Archive
import DocMapper.Proofs.Store.Refinement
import DocMapper.Proofs.Store.Contents
import DocMapper.Proofs.Store.Searchable
import DocMapper.Proofs.Datastore.LookUp
import DocMapper.Proofs.Datastore.Batching
import DocMapper.Proofs.Datastore.Requests
import DocMapper.Proofs.Datastore.Spending
import DocMapper.Proofs.Datastore.Frugal
import DocMapper.Proofs.Datastore.Sharing
import DocMapper.Proofs.Datastore.Noting
import DocMapper.Proofs.Datastore.Truthful
import DocMapper.Proofs.Conversion.Conflicts
import DocMapper.Proofs.Datastore.Discreet
import DocMapper.Proofs.Datastore.Restoring
import DocMapper.Proofs.Datastore.Unwinding
import DocMapper.Proofs.Datastore.Following
import DocMapper.Proofs.Datastore.Eager
import DocMapper.Proofs.Datastore.Deletion
import DocMapper.Proofs.Datastore.Deferred
import DocMapper.Proofs.Datastore.Strangers
import DocMapper.Proofs.Datastore.Retracing
import DocMapper.Proofs.Datastore.Resaving
import DocMapper.Proofs.Datastore.Searching
import DocMapper.Proofs.Query.Comparison
import DocMapper.Proofs.Query.Appending
import DocMapper.Proofs.Query.Concatenation
import DocMapper.Proofs.Query.Paths
import DocMapper.Proofs.Query.Lookups
import DocMapper.Proofs.Query.Pointers
