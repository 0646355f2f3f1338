import Tenancy.Database.Catalog
import Tenancy.Database.Migration
import Tenancy.Database.Registry
import Tenancy.Http.Respond
import Tenancy.Proofs.Cache.Interleaved
import Tenancy.Proofs.Cache.Isolation
import Tenancy.Proofs.Database.Agreement
import Tenancy.Proofs.Database.NamedAccess
import Tenancy.Proofs.Gate.Agreement
import Tenancy.Proofs.Gate.Decision
import Tenancy.Proofs.Http.Resources
import Tenancy.Proofs.Text.Utf8
import Tenancy.Schema.ConnectOptions
import Tenancy.Settings.Document
import Tenancy.Settings.Variables
import Tenancy.Proofs.Text.Percent
import Tenancy.Proofs.Text.Form
import Tenancy.Proofs.Net.Address
import Tenancy.Proofs.Net.Url.Normal
import Tenancy.Proofs.Net.Url.Render
import Tenancy.Proofs.Schema.Startup
import Tenancy.Proofs.Schema.Query
import Tenancy.Proofs.Schema.Injection
import Tenancy.Proofs.Schema.Connect
import Tenancy.Proofs.Schema.Pinning
import Tenancy.Proofs.Schema.Registered
import Tenancy.Proofs.Resolution.Evidence
import Tenancy.Proofs.Resolution.Steps
import Tenancy.Proofs.Text.LowerCase
import Tenancy.Proofs.Resolution.Winner
import Tenancy.Proofs.Sql.Token
import Tenancy.Proofs.Sql.Written
import Tenancy.Proofs.Sql.Reader
import Tenancy.Proofs.Sql.Admission
import Tenancy.Proofs.Sql.Injection
import Tenancy.Proofs.Gate.Hidden
import Tenancy.Proofs.Http.Hidden
import Tenancy.Proofs.Http.Administration
import Tenancy.Proofs.Http.Impersonation
import Tenancy.Proofs.Registry.Calls
import Tenancy.Proofs.Registry.History
import Tenancy.Proofs.Database.Command
import Tenancy.Proofs.Database.Stored
import Tenancy.Proofs.Registry.Interchange
import Tenancy.Proofs.Database.Interrupted
import Tenancy.Proofs.Database.Layout
import Tenancy.Proofs.Database.Migration
import Tenancy.Proofs.Resolution.Inquiry
import Tenancy.Proofs.Http.SharedMemo
import Tenancy.Proofs.Gate.Limit
import Tenancy.Proofs.Gate.Impersonation
import Tenancy.Proofs.Hostname.Labels
import Tenancy.Proofs.Resolution.Address
import Tenancy.Proofs.Hostname.Spelling
import Tenancy.Proofs.Schema.Frame
import Tenancy.Proofs.Schema.Names
import Tenancy.Proofs.Json.Token
import Tenancy.Proofs.Json.Value
import Tenancy.Proofs.Json.Record
import Tenancy.Proofs.Settings.Variables
import Tenancy.Proofs.Settings.Document
import Tenancy.Proofs.Settings.Agreement
import Tenancy.Proofs.Text.Component
import Tenancy.Proofs.Http.Carrier
import Tenancy.Proofs.Gate.Monotone
import Tenancy.Proofs.Database.Moments
