import TreeWire.Main
import TreeWire.Descriptor.Encoder
import TreeWire.Logging
import TreeWire.Proofs.Boundaries
import TreeWire.Proofs.Description
import TreeWire.Proofs.Interruption
import TreeWire.Proofs.Modes
import TreeWire.Proofs.Malformed
import TreeWire.Proofs.FieldNumber
import TreeWire.Proofs.MessageName
import TreeWire.Proofs.DeclaredType
import TreeWire.Proofs.NativeType
import TreeWire.Proofs.UnmappedType
import TreeWire.Proofs.Compression
import TreeWire.Proofs.Infinity
import TreeWire.Proofs.Selection
import TreeWire.Proofs.Dependence
import TreeWire.Proofs.History
import TreeWire.Proofs.BranchName
import TreeWire.Proofs.FieldName
import TreeWire.Proofs.NormalName
import TreeWire.Proofs.Listing
import TreeWire.Proofs.PartialRecord
import TreeWire.Proofs.Expansion
import TreeWire.Proofs.Cell
import TreeWire.Proofs.Framing
import TreeWire.Proofs.Output
import TreeWire.Proofs.Leftovers
import TreeWire.Proofs.Serialisation
import TreeWire.Proofs.Schema.Token
import TreeWire.Proofs.Schema.Reader
import TreeWire.Proofs.Schema.Rendering
import TreeWire.Proofs.Schema.Literal
import TreeWire.Proofs.Schema.Symbol
import TreeWire.Proofs.Artifacts
import TreeWire.Proofs.Rejection
import TreeWire.Proofs.Series
