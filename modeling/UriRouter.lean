import UriRouter.Build.Step
import UriRouter.Description
import UriRouter.Record
import UriRouter.Showcase.Controllers
import UriRouter.Showcase.Handlers
import UriRouter.Showcase.Strategies
import UriRouter.Proofs.Pattern.AsciiShorthands
import UriRouter.Proofs.Pattern.DirectReading
import UriRouter.Proofs.Pattern.EscapePairs
import UriRouter.Proofs.Pattern.Grammar
import UriRouter.Proofs.Build.RootOperations
import UriRouter.Proofs.Build.Atomicity
import UriRouter.Proofs.Build.ResourceAtomicity
import UriRouter.Proofs.Build.Groups
import UriRouter.Proofs.Build.PrefixText
import UriRouter.Proofs.Build.LiteralGroup
import UriRouter.Proofs.Build.Sealing
import UriRouter.Proofs.Build.NamedTargets
import UriRouter.Proofs.Build.SeveralMethods
import UriRouter.Proofs.Serve.Records
import UriRouter.Proofs.Serve.DecodedValues
import UriRouter.Proofs.Serve.DeclaredMethods
import UriRouter.Proofs.Table.Soundness
import UriRouter.Proofs.Derive.LongestVerb
import UriRouter.Proofs.Derive.Mirror
import UriRouter.Proofs.Derive.OptionalTail
import UriRouter.Proofs.Derive.WordCase
import UriRouter.Proofs.Derive.WordPath
import UriRouter.Proofs.Pattern.Translation
import UriRouter.Proofs.Pattern.FaultPlaces
import UriRouter.Proofs.Pattern.OnePass
import UriRouter.Proofs.Showcase.Users
