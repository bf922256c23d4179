import AsyncTypes.Main
import AsyncTypes.Proofs.Compilation.Circle
import AsyncTypes.Proofs.Compilation.Fidelity
import AsyncTypes.Proofs.Compilation.Termination
import AsyncTypes.Proofs.Validation.Clean
import AsyncTypes.Proofs.Extraction.Gate
import AsyncTypes.Proofs.Schema.Expansion
import AsyncTypes.Proofs.Schema.Sharing
import AsyncTypes.Proofs.Pointer.Agreement
import AsyncTypes.Proofs.Value.Json
import AsyncTypes.Proofs.Validation.Places
import AsyncTypes.Proofs.Validation.Aggregation
import AsyncTypes.Proofs.Validation.Shape
import AsyncTypes.Proofs.Extraction.Channels
import AsyncTypes.Proofs.Compilation.Confined
import AsyncTypes.Proofs.Schema.Source
import AsyncTypes.Proofs.Extraction.References
import AsyncTypes.Proofs.Extraction.Unresolved
import AsyncTypes.Proofs.Validation.Redirection
import AsyncTypes.Proofs.Schema.Preservation
import AsyncTypes.Proofs.Schema.SelfReference
import AsyncTypes.Proofs.CommandLine.Outcome
import AsyncTypes.Proofs.Compilation.Independence
import AsyncTypes.Proofs.Pointer.RoundTrip
import AsyncTypes.Proofs.Expression.Tree
import AsyncTypes.Proofs.Expression.Structure
import AsyncTypes.Proofs.Compilation.Depiction
import AsyncTypes.Proofs.Compilation.TypeList
import AsyncTypes.Proofs.Extraction.Bound
import AsyncTypes.Proofs.Expression.LiteralUnion
import AsyncTypes.Proofs.Compilation.Reference
import AsyncTypes.Proofs.Output.Interface
import AsyncTypes.Proofs.Output.Comment
import AsyncTypes.Proofs.Extraction.MessageChain
import AsyncTypes.Proofs.Output.Identifier
import AsyncTypes.Proofs.Compilation.Reserved
import AsyncTypes.Proofs.Extraction.ListedMessages
import AsyncTypes.Proofs.Extraction.Inlined
import AsyncTypes.Proofs.Compilation.Union
import AsyncTypes.Proofs.Loading.Settled
import AsyncTypes.Proofs.Output.Enumeration
import AsyncTypes.Proofs.Extraction.Resolution
import AsyncTypes.Proofs.Schema.SharedEntries
import AsyncTypes.Proofs.Name.Reservation
import AsyncTypes.Proofs.Value.Preorder
import AsyncTypes.Proofs.Value.Nesting
