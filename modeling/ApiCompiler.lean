import ApiCompiler.Files.Tree
import ApiCompiler.Json.ValueFormat
import ApiCompiler.Main
import ApiCompiler.Manifest.Json
import ApiCompiler.Petstore.Service
import ApiCompiler.Proofs.AnsweredStatuses
import ApiCompiler.Proofs.BoundParameters
import ApiCompiler.Proofs.ConfinedPaths
import ApiCompiler.Proofs.CounterRequests
import ApiCompiler.Proofs.CreatedPets
import ApiCompiler.Proofs.DocumentSchemas
import ApiCompiler.Proofs.DocumentText
import ApiCompiler.Proofs.ExposedRoutes
import ApiCompiler.Proofs.GeneratedFiles
import ApiCompiler.Proofs.ListingOrder
import ApiCompiler.Proofs.ManifestText
import ApiCompiler.Proofs.ModuleClosure
import ApiCompiler.Proofs.PathParameters
import ApiCompiler.Proofs.PathPatterns
import ApiCompiler.Proofs.ReportedFault
import ApiCompiler.Proofs.UnreferencedContent
import ApiCompiler.Proofs.ViewerRoutes
import ApiCompiler.Proofs.SearchVerdicts
import ApiCompiler.Proofs.ListedResponses
import ApiCompiler.Proofs.EncounterOrder
import ApiCompiler.Proofs.RegisteredReferences
import ApiCompiler.Proofs.SchemaForms
import ApiCompiler.Proofs.TemplateScan
import ApiCompiler.Proofs.DerivedNames
import ApiCompiler.Proofs.KeywordNames
import ApiCompiler.Proofs.SettledConfig
import ApiCompiler.Proofs.StringLiteral
import ApiCompiler.Proofs.ViewerPage
import ApiCompiler.Proofs.NameClaims
import ApiCompiler.Proofs.NamingCalls
import ApiCompiler.Proofs.IntegerParameters
import ApiCompiler.Proofs.OperationTags
import ApiCompiler.Proofs.CanonicalOrder
import ApiCompiler.Proofs.SnakeCase
import ApiCompiler.Proofs.StoreModule
import ApiCompiler.Proofs.WalkRuns
