import EventTracking.AppEvent
import EventTracking.BuildScript
import EventTracking.Main
import EventTracking.Proofs.ImportScope
import EventTracking.Proofs.PayloadKeys
import EventTracking.Proofs.RunOutcome
import EventTracking.Proofs.VariantArms
import EventTracking.Proofs.HygienicArms
import EventTracking.Proofs.FileOrder
import EventTracking.Proofs.GivenUpRun
import EventTracking.Proofs.RepeatedRun
import EventTracking.Proofs.ListedGroups
import EventTracking.Proofs.LoadedSources
import EventTracking.Proofs.ArtifactLines
import EventTracking.Proofs.Lexing
import EventTracking.Proofs.ArtifactPieces
import EventTracking.Proofs.ArtifactReading
import EventTracking.Proofs.ReadNames
import EventTracking.Proofs.ReadableArtifacts
import EventTracking.Proofs.DiscoveredEvents
import EventTracking.Proofs.TrackedEvents
import EventTracking.Proofs.FullPaths
import EventTracking.Proofs.ProgramEffects
import EventTracking.Proofs.AddedFiles
import EventTracking.Proofs.ImportedPaths
import EventTracking.Proofs.AnchoredPaths
import EventTracking.Proofs.CommandRequests
import EventTracking.Proofs.ListedNames
import EventTracking.Proofs.WrittenBack
import EventTracking.Proofs.CamelCase
import EventTracking.Proofs.SharedModules
import EventTracking.Proofs.MarkedItems
import EventTracking.Proofs.RegisteredEvents
import EventTracking.Proofs.PrintedDiagnostics
import EventTracking.Proofs.UseLeaves
import EventTracking.Proofs.ParsedNames
