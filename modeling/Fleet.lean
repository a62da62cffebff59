import Fleet.Blueprint.Draft
import Fleet.Blueprint.Record
import Fleet.Cache.Basic
import Fleet.Cache.Lock
import Fleet.Cache.Script
import Fleet.Client.ApiBase
import Fleet.Client.Backend
import Fleet.Client.Basic
import Fleet.Client.Exchange
import Fleet.Client.Listing
import Fleet.Client.Operation
import Fleet.Client.Reply
import Fleet.Client.ResourceId
import Fleet.Client.Script
import Fleet.Failure
import Fleet.Inventory.Basic
import Fleet.Inventory.Counts
import Fleet.Inventory.Filter
import Fleet.Json.Basic
import Fleet.Json.Fault
import Fleet.Json.Fields
import Fleet.Json.Literal
import Fleet.Json.Printer
import Fleet.Json.Probe
import Fleet.Json.Reader
import Fleet.Machine.Facts
import Fleet.Machine.Item
import Fleet.Machine.Normalize
import Fleet.Machine.Profile
import Fleet.Machine.Record
import Fleet.Machine.Status
import Fleet.Number.Binary64
import Fleet.Number.Layout
import Fleet.Number.Numeral
import Fleet.Number.Shortest
import Fleet.Poller.Basic
import Fleet.Poller.Watch
import Fleet.Proofs.Blueprint.Draft
import Fleet.Proofs.Blueprint.Editor
import Fleet.Proofs.Blueprint.Listing
import Fleet.Proofs.Blueprint.Record
import Fleet.Proofs.Cache.Caller
import Fleet.Proofs.Cache.Coalescing
import Fleet.Proofs.Cache.Dropping
import Fleet.Proofs.Cache.Freshness
import Fleet.Proofs.Cache.History
import Fleet.Proofs.Cache.Invalidation
import Fleet.Proofs.Cache.Meeting
import Fleet.Proofs.Cache.Omission
import Fleet.Proofs.Cache.Progress
import Fleet.Proofs.Cache.Run
import Fleet.Proofs.Cache.Source
import Fleet.Proofs.Cache.Step
import Fleet.Proofs.Client.Absence
import Fleet.Proofs.Client.Addressing
import Fleet.Proofs.Client.Answers
import Fleet.Proofs.Client.ApiBase
import Fleet.Proofs.Client.Change
import Fleet.Proofs.Client.Classification
import Fleet.Proofs.Client.Confinement
import Fleet.Proofs.Client.Construction
import Fleet.Proofs.Client.Credentials
import Fleet.Proofs.Client.Endpoint
import Fleet.Proofs.Client.Fetching
import Fleet.Proofs.Client.Flight
import Fleet.Proofs.Client.Frame
import Fleet.Proofs.Client.Lacking
import Fleet.Proofs.Client.Listing
import Fleet.Proofs.Client.Refreshing
import Fleet.Proofs.Client.Relisting
import Fleet.Proofs.Client.Replies
import Fleet.Proofs.Client.Requests
import Fleet.Proofs.Client.Resolving
import Fleet.Proofs.Client.ResourceId
import Fleet.Proofs.Client.Run
import Fleet.Proofs.Client.Serial
import Fleet.Proofs.Client.Session
import Fleet.Proofs.Client.Step
import Fleet.Proofs.Client.Submission
import Fleet.Proofs.Client.Turns
import Fleet.Proofs.Inventory.Counts
import Fleet.Proofs.Inventory.Search
import Fleet.Proofs.Inventory.Tightening
import Fleet.Proofs.Json.Fields
import Fleet.Proofs.Json.Respelled
import Fleet.Proofs.Machine.Item
import Fleet.Proofs.Machine.Label
import Fleet.Proofs.Machine.Record
import Fleet.Proofs.Machine.Spelling
import Fleet.Proofs.Machine.Tags
import Fleet.Proofs.Number.Text
import Fleet.Proofs.Poller.Publication
import Fleet.Proofs.Poller.Run
import Fleet.Proofs.Poller.Schedule
import Fleet.Proofs.Session.Cookie
import Fleet.Proofs.Session.Header
import Fleet.Proofs.Settings.Arrival
import Fleet.Proofs.Settings.Check
import Fleet.Proofs.Settings.Overlay
import Fleet.Proofs.Text.Case
import Fleet.Proofs.Text.Normal
import Fleet.Proofs.Text.Tidy
import Fleet.Proofs.Text.Upper
import Fleet.Proofs.Text.Words
import Fleet.Proofs.Url.Below
import Fleet.Proofs.Url.Continuation
import Fleet.Proofs.Url.Extensible
import Fleet.Proofs.Url.Extension
import Fleet.Proofs.Url.Path
import Fleet.Proofs.Url.Percent
import Fleet.Proofs.Url.Scheme
import Fleet.Proofs.Url.Server
import Fleet.Proofs.Url.Shorter
import Fleet.Session.Cookie
import Fleet.Settings.Basic
import Fleet.Settings.Change
import Fleet.Settings.Load
import Fleet.Settings.Setting
import Fleet.Settings.Source
import Fleet.Text.Blank
import Fleet.Text.Case
import Fleet.Text.CaseTable
import Fleet.Text.Codes
import Fleet.Text.Normal
import Fleet.Text.NormalTable
import Fleet.Text.Order
import Fleet.Text.Search
import Fleet.Text.Split
import Fleet.Toml.Document
import Fleet.Toml.Reader
import Fleet.Toml.Scalar
import Fleet.Url.Address
import Fleet.Url.Basic
import Fleet.Url.Direction
import Fleet.Url.Domain
import Fleet.Url.DomainTable
import Fleet.Url.Fault
import Fleet.Url.Host
import Fleet.Url.Joining
import Fleet.Url.Percent
import Fleet.Url.Punycode
import Fleet.Url.ScriptTable
import Fleet.Url.Segments
