import TemplateDebug.Disk.Edit
import TemplateDebug.Launch.Startup
import TemplateDebug.Proofs.Compiled.Eviction
import TemplateDebug.Proofs.Dap.Respelling
import TemplateDebug.Proofs.Json.Changes
import TemplateDebug.Proofs.Json.Order
import TemplateDebug.Proofs.Relay.Schedule
import TemplateDebug.Proofs.Session.Agreement
import TemplateDebug.Proofs.Session.BreakpointTable
import TemplateDebug.Proofs.Session.Edits
import TemplateDebug.Proofs.Session.History
import TemplateDebug.Proofs.Session.Interleaving
import TemplateDebug.Proofs.Session.NewSettings
import TemplateDebug.Proofs.Session.Outcome
import TemplateDebug.Proofs.Session.PendingTemplate
import TemplateDebug.Proofs.Session.Redirects
import TemplateDebug.Proofs.Session.RoundTrip
import TemplateDebug.Proofs.Session.Transparency
import TemplateDebug.Proofs.Session.Waiting
import TemplateDebug.Settings.Schema
import TemplateDebug.Proofs.Marker.RoundTrip
import TemplateDebug.Proofs.Marker.Forward
import TemplateDebug.Proofs.Template.Spellings
import TemplateDebug.Proofs.Cache.Recall
import TemplateDebug.Proofs.Session.Remembered
import TemplateDebug.Proofs.Text.Order
import TemplateDebug.Proofs.Compiled.Discovery
import TemplateDebug.Proofs.Compiled.LastResort
import TemplateDebug.Proofs.Marker.Rendering
import TemplateDebug.Proofs.Session.InStep
import TemplateDebug.Proofs.Session.Snapshot
import TemplateDebug.Proofs.Source.Segments
import TemplateDebug.Proofs.Log.Directives
import TemplateDebug.Proofs.Settings.Directories
import TemplateDebug.Proofs.Settings.Object
import TemplateDebug.Proofs.Settings.Schema
