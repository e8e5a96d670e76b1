import EndpointRouting.Expansion
import EndpointRouting.Http.Step
import EndpointRouting.Service.Action
import EndpointRouting.Token.Lexer
import EndpointRouting.Proofs.Route.Building
import EndpointRouting.Proofs.Route.Mounting
import EndpointRouting.Proofs.Route.Slots
import EndpointRouting.Proofs.Block.Roles
import EndpointRouting.Proofs.Route.Guarding
import EndpointRouting.Proofs.Route.Dispatch
import EndpointRouting.Proofs.Regex.Bare
import EndpointRouting.Proofs.Regex.Followed
import EndpointRouting.Proofs.Regex.Parts
import EndpointRouting.Proofs.Regex.Nested
import EndpointRouting.Proofs.Regex.Anchoring
import EndpointRouting.Proofs.Route.Matching
import EndpointRouting.Proofs.Block.Attributes
import EndpointRouting.Proofs.Route.Reachability
import EndpointRouting.Proofs.Route.Provenance
import EndpointRouting.Proofs.Regex.Segment
import EndpointRouting.Proofs.Template.Expression
import EndpointRouting.Proofs.Route.RoundTrip
import EndpointRouting.Proofs.Template.Tame
import EndpointRouting.Proofs.Route.Parameters
import EndpointRouting.Proofs.Block.Problems
import EndpointRouting.Proofs.Route.Accounting
import EndpointRouting.Proofs.Route.Root
import EndpointRouting.Proofs.Code.Reading
import EndpointRouting.Proofs.Route.Descriptions
import EndpointRouting.Proofs.Http.Interning
import EndpointRouting.Proofs.Code.Occurrences
import EndpointRouting.Proofs.Code.Methods
import EndpointRouting.Proofs.Code.Scoping
import EndpointRouting.Proofs.Code.Running
import EndpointRouting.Proofs.Route.Origin
import EndpointRouting.Proofs.Route.Respelling
import EndpointRouting.Proofs.Http.Responding
import EndpointRouting.Proofs.Template.Scanning
import EndpointRouting.Proofs.Template.Placeholder
import EndpointRouting.Proofs.Regex.Verbose
import EndpointRouting.Proofs.Regex.Onward
import EndpointRouting.Proofs.Template.Contained
import EndpointRouting.Proofs.Route.Filling
import EndpointRouting.Proofs.Value.Decimal
import EndpointRouting.Proofs.Route.Digits
import EndpointRouting.Proofs.Block.Options
import EndpointRouting.Proofs.Route.Stem
import EndpointRouting.Proofs.Route.Accumulation
import EndpointRouting.Proofs.Expansion
import EndpointRouting.Proofs.Value.Listing
import EndpointRouting.Proofs.Template.Classes
import EndpointRouting.Proofs.Text.Ranges
