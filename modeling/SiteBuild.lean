import SiteBuild.Bridge
import SiteBuild.Log
import SiteBuild.Number.Size
import SiteBuild.Server.App
import SiteBuild.Proofs.WorkerRuns
import SiteBuild.Proofs.GraphWalk
import SiteBuild.Proofs.ModuleImports
import SiteBuild.Proofs.SharedCaches
import SiteBuild.Proofs.ClosedGraphs
import SiteBuild.Proofs.ClientBundles
import SiteBuild.Proofs.WorkerAnswers
import SiteBuild.Proofs.FailureMessages
import SiteBuild.Proofs.BuildOutcomes
import SiteBuild.Proofs.FetchedTexts
import SiteBuild.Proofs.LoadedTargets
import SiteBuild.Proofs.StyleWaiters
import SiteBuild.Proofs.DataModules
import SiteBuild.Proofs.PercentEscapes
import SiteBuild.Proofs.LoneSurrogates
import SiteBuild.Proofs.ImportMaps
import SiteBuild.Proofs.Externals
import SiteBuild.Proofs.Exchanges
import SiteBuild.Proofs.ReportedErrors
import SiteBuild.Proofs.PublishedPages
import SiteBuild.Proofs.RequestShapes
import SiteBuild.Proofs.ServerAnswers
import SiteBuild.Proofs.RejectedComponents
import SiteBuild.Proofs.InlineScripts
import SiteBuild.Proofs.StaticDocuments
import SiteBuild.Proofs.RoundTrips
import SiteBuild.Proofs.Origins
import SiteBuild.Proofs.StyleRounds
import SiteBuild.Proofs.HydratedPages
import SiteBuild.Proofs.StyleElements
import SiteBuild.Proofs.FileEncodings
import SiteBuild.Proofs.FrameLines
import SiteBuild.Proofs.AssembledFiles
import SiteBuild.Proofs.Slashes
import SiteBuild.Proofs.Declarations
import SiteBuild.Proofs.TokenSpans
import SiteBuild.Proofs.FontFamilies
import SiteBuild.Proofs.ScriptCalls
