import RouteLens.Text.Blank
import RouteLens.Text.Uppercase
import RouteLens.Text.Utf8
import RouteLens.Text.Duration
import RouteLens.Json.Basic
import RouteLens.Route.Listing
import RouteLens.Lens
import RouteLens.Files.Tree
import RouteLens.Config
import RouteLens.Url.FilePath
import RouteLens.Cache.Play
import RouteLens.Cache.Atomic
import RouteLens.Session.Basic
import RouteLens.Shell.Launch
import RouteLens.Proofs.Text.Boundary
import RouteLens.Proofs.Json.Grammar
import RouteLens.Proofs.Json.Text
import RouteLens.Proofs.Controller.Keyword
import RouteLens.Proofs.Controller.Grammar
import RouteLens.Proofs.Controller.Methods
import RouteLens.Proofs.Route.Listing
import RouteLens.Proofs.Route.Text
import RouteLens.Proofs.Controller.Lines
import RouteLens.Proofs.Lens
import RouteLens.Proofs.Controller.Declarations
import RouteLens.Proofs.Controller.Slice
import RouteLens.Proofs.Controller.Counting
import RouteLens.Proofs.Controller.ByOffset
import RouteLens.Proofs.Controller.Words
import RouteLens.Proofs.Controller.Layout
import RouteLens.Proofs.Cache.Flight
import RouteLens.Proofs.Cache.Holder
import RouteLens.Proofs.Cache.Turn
import RouteLens.Proofs.Cache.Wakeup
import RouteLens.Proofs.Cache.History
import RouteLens.Proofs.Cache.Play
import RouteLens.Proofs.Cache.Overtaking
import RouteLens.Proofs.Session.Documents
import RouteLens.Proofs.Session.Lenses
import RouteLens.Proofs.Session.Progress
import RouteLens.Proofs.Session.SwitchedOff
import RouteLens.Proofs.Cache.Fetches
import RouteLens.Proofs.Cache.Cancelling
import RouteLens.Proofs.Session.Announcement
import RouteLens.Proofs.Session.Isolation
import RouteLens.Proofs.Text.Decoding
import RouteLens.Proofs.Json.Tokens
import RouteLens.Proofs.Json.Meaning
import RouteLens.Proofs.Json.Record
import RouteLens.Proofs.Json.RoundTrip
import RouteLens.Proofs.Config
import RouteLens.Proofs.Route.Order
import RouteLens.Proofs.Artisan.Fetch
import RouteLens.Proofs.Controller.Finds
import RouteLens.Proofs.Controller.LineEnds
import RouteLens.Proofs.Controller.Header
import RouteLens.Proofs.Url.FilePath
import RouteLens.Proofs.Session.PhpFiles
import RouteLens.Proofs.Files.Walk
