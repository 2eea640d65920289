import SkipChecks.LogLevel
import SkipChecks.Main
import SkipChecks.Page.Console
import SkipChecks.Proofs.Guard.Calls
import SkipChecks.Proofs.Injection.Rounds
import SkipChecks.Proofs.Injection.Traversal
import SkipChecks.Proofs.Page.CapturedErrors
import SkipChecks.Proofs.Session.Lookup
import SkipChecks.Proofs.Helper.Appending
import SkipChecks.Proofs.Helper.Location
import SkipChecks.Proofs.Session.Findings
import SkipChecks.Proofs.Session.Moments
import SkipChecks.Proofs.CommandLine.Checks
import SkipChecks.Proofs.Manifest.Generation
import SkipChecks.Proofs.CommandLine.Spelling
import SkipChecks.Proofs.Settings.Layering
import SkipChecks.Proofs.Declaration.Sites
import SkipChecks.Proofs.Dependencies.Calls
import SkipChecks.Proofs.Declaration.Nesting
import SkipChecks.Proofs.Injection.Neighbours
import SkipChecks.Proofs.Dependencies.Cuts
import SkipChecks.Proofs.Reflection.Resolution
import SkipChecks.Proofs.Reflection.Declarations
import SkipChecks.Proofs.Settings.Selected
import SkipChecks.Proofs.Helper.Filling
import SkipChecks.Proofs.Json.Spelling
import SkipChecks.Proofs.Json.Recognition
import SkipChecks.Proofs.Manifest.Fields
import SkipChecks.Proofs.Settings.Precedence
import SkipChecks.Proofs.Injection.Eligibility
import SkipChecks.Proofs.Session.Skips
import SkipChecks.Proofs.Page.Handles
import SkipChecks.Proofs.Route.Names
import SkipChecks.Proofs.Page.WholeText
import SkipChecks.Proofs.Manifest.Registration
import SkipChecks.Proofs.Helper.Preamble
