import ScreenRoutes.Controller.Rehearsal
import ScreenRoutes.Expansion.Annotation
import ScreenRoutes.FileStore.Disk
import ScreenRoutes.Main
import ScreenRoutes.Tour
import ScreenRoutes.Proofs.Text.Decimal
import ScreenRoutes.Proofs.Text.Percent
import ScreenRoutes.Proofs.Screen
import ScreenRoutes.Proofs.Value
import ScreenRoutes.Proofs.TriggerRoute
import ScreenRoutes.Proofs.TriggerPath
import ScreenRoutes.Proofs.Pattern.Parse
import ScreenRoutes.Proofs.Decoding
import ScreenRoutes.Proofs.Pattern.Matching
import ScreenRoutes.Proofs.Arguments
import ScreenRoutes.Proofs.Presence
import ScreenRoutes.Proofs.Arrival
import ScreenRoutes.Proofs.Delivery
import ScreenRoutes.Proofs.Retrigger
import ScreenRoutes.Proofs.Controller.Machine
import ScreenRoutes.Proofs.Controller.BackStack
import ScreenRoutes.Proofs.Controller.FlatMachine
import ScreenRoutes.Proofs.Ownership
import ScreenRoutes.Proofs.Pattern.Grammar
import ScreenRoutes.Proofs.Pattern.Filling
import ScreenRoutes.Proofs.Text.CodePoints
import ScreenRoutes.Proofs.Text.Identifier
import ScreenRoutes.Proofs.Expansion.Traits
import ScreenRoutes.Proofs.Expansion.Emitted
import ScreenRoutes.Proofs.Controller.Refusal
import ScreenRoutes.Proofs.RegistrationOrder
import ScreenRoutes.Proofs.Expansion.Scope
import ScreenRoutes.Proofs.FileStore.Effect
import ScreenRoutes.Proofs.DecodingOutcome
import ScreenRoutes.Proofs.Pattern.QueryOrder
import ScreenRoutes.Proofs.EnumerationOrder
import ScreenRoutes.Proofs.BuilderHistory
import ScreenRoutes.Proofs.Classification
import ScreenRoutes.Proofs.CodeUnit
import ScreenRoutes.Proofs.Expansion.Complete
import ScreenRoutes.Proofs.SourceFile.TriggerLiteral
import ScreenRoutes.Proofs.OutputPath
import ScreenRoutes.Proofs.SourceFile.Location
import ScreenRoutes.Proofs.SourceFile.Names
import ScreenRoutes.Proofs.IntegerDefault
