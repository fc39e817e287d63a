import ChatFlow.Configuration
import ChatFlow.Documents.Call
import ChatFlow.Documents.Connection
import ChatFlow.Documents.Row
import ChatFlow.Documents.Store
import ChatFlow.Engine.Call
import ChatFlow.Engine.Condition
import ChatFlow.Engine.Dispatch
import ChatFlow.Engine.Effect
import ChatFlow.Engine.Evaluation
import ChatFlow.Engine.Event
import ChatFlow.Engine.Reception
import ChatFlow.Engine.Report
import ChatFlow.Engine.ResponsePath
import ChatFlow.Engine.Run
import ChatFlow.Engine.Timer
import ChatFlow.Engine.Trace
import ChatFlow.Fault
import ChatFlow.Flow.Basic
import ChatFlow.Flow.Import
import ChatFlow.Flow.Management
import ChatFlow.Flow.Request
import ChatFlow.Flow.Version
import ChatFlow.Graph.Content
import ChatFlow.Graph.Edge
import ChatFlow.Graph.Node
import ChatFlow.Graph.Selection
import ChatFlow.Graph.Shape
import ChatFlow.Graph.Validity
import ChatFlow.Json.Extended
import ChatFlow.Json.Printer
import ChatFlow.Json.Reader
import ChatFlow.Main
import ChatFlow.Net.Address
import ChatFlow.Net.Exchange
import ChatFlow.Net.Host
import ChatFlow.Number.Binary64
import ChatFlow.Number.Reading
import ChatFlow.Number.Shortest
import ChatFlow.Pattern.Basic
import ChatFlow.Pattern.Match
import ChatFlow.Pattern.Reader
import ChatFlow.Pattern.Width
import ChatFlow.Program
import ChatFlow.Proofs.Clock
import ChatFlow.Proofs.Tables
import ChatFlow.Reply.Format
import ChatFlow.Reply.Menu
import ChatFlow.Schema.Checked
import ChatFlow.Schema.Codec
import ChatFlow.Schema.Issue
import ChatFlow.Service.Completion
import ChatFlow.Service.History
import ChatFlow.Service.Outbound
import ChatFlow.Service.Posting
import ChatFlow.Session.Basic
import ChatFlow.Session.Delay
import ChatFlow.Session.Label
import ChatFlow.Session.Log
import ChatFlow.Simulation.Arguments
import ChatFlow.Simulation.Collections
import ChatFlow.Simulation.Ledger
import ChatFlow.Simulation.Reading
import ChatFlow.Simulation.Scenario
import ChatFlow.Simulation.Script
import ChatFlow.Simulation.Site
import ChatFlow.Simulation.Trial
import ChatFlow.Simulation.Wire
import ChatFlow.Simulation.World
import ChatFlow.Store.Basic
import ChatFlow.Table
import ChatFlow.Text.Base64
import ChatFlow.Text.Blank
import ChatFlow.Text.Case
import ChatFlow.Text.CaseTable
import ChatFlow.Text.Charset
import ChatFlow.Text.Digit
import ChatFlow.Text.Name
import ChatFlow.Text.NameTable
import ChatFlow.Text.Percent
import ChatFlow.Text.PrintableTable
import ChatFlow.Text.Punycode
import ChatFlow.Text.Ranges
import ChatFlow.Text.Search
import ChatFlow.Text.Word
import ChatFlow.Text.WordTable
import ChatFlow.Time.Calendar
import ChatFlow.Time.Stamp
import ChatFlow.Trigger
import ChatFlow.Value.Basic
import ChatFlow.Value.Numeral
import ChatFlow.Value.Spoken
import ChatFlow.Variable.Bag
import ChatFlow.Variable.Interpolation
import ChatFlow.Web.Endpoint
import ChatFlow.Web.Message
import ChatFlow.Web.Route
import ChatFlow.Proofs.StoreRows
import ChatFlow.Proofs.StoreShape
import ChatFlow.Proofs.ActiveSessions
import ChatFlow.Proofs.ProgramPast
import ChatFlow.Proofs.Warrant
import ChatFlow.Proofs.ServiceCalls
import ChatFlow.Proofs.RunWarrant
import ChatFlow.Proofs.ManagementCalls
import ChatFlow.Proofs.EventWarrant
import ChatFlow.Proofs.Workers
import ChatFlow.Proofs.Recollection
import ChatFlow.Proofs.TimerJobs
import ChatFlow.Proofs.Rehearsal
import ChatFlow.Proofs.TimerCalls
import ChatFlow.Proofs.Errands
import ChatFlow.Proofs.TimerRace
import ChatFlow.Proofs.Suspension
import ChatFlow.Proofs.RunTrace
import ChatFlow.Proofs.Transcript
import ChatFlow.Proofs.Deliveries
import ChatFlow.Proofs.RunCourse
import ChatFlow.Proofs.EventCourse
import ChatFlow.Proofs.EventRecord
import ChatFlow.Proofs.EventDelivery
import ChatFlow.Proofs.Ownership
import ChatFlow.Proofs.Tenancy
import ChatFlow.Proofs.EventTenancy
import ChatFlow.Proofs.Registry
import ChatFlow.Proofs.Isolation
import ChatFlow.Proofs.Confidentiality
import ChatFlow.Proofs.Chronicle
import ChatFlow.Proofs.Remnants
import ChatFlow.Proofs.LoneEvents
import ChatFlow.Proofs.Likeness
import ChatFlow.Proofs.Encounters
import ChatFlow.Proofs.Transparency
import ChatFlow.Proofs.Tour
import ChatFlow.Proofs.OutboundCalls
import ChatFlow.Proofs.SerialEvents
import ChatFlow.Proofs.FlowWrites
import ChatFlow.Proofs.SessionShapes
import ChatFlow.Proofs.OrderlyEvents
import ChatFlow.Proofs.ManagementSteps
import ChatFlow.Proofs.SettledSessions
import ChatFlow.Proofs.FlowRows
import ChatFlow.Proofs.LiveFlows
import ChatFlow.Proofs.GraphWrites
import ChatFlow.Proofs.Archive
import ChatFlow.Proofs.GraphHistory
import ChatFlow.Proofs.WrittenForms
import ChatFlow.Proofs.WrittenContents
import ChatFlow.Proofs.WrittenGraphs
import ChatFlow.Proofs.DrawnFlows
import ChatFlow.Proofs.CanvasTrips
import ChatFlow.Proofs.Heedlessness
import ChatFlow.Proofs.EdgeChoice
import ChatFlow.Proofs.Itinerary
import ChatFlow.Proofs.Journeys
import ChatFlow.Proofs.Openings
import ChatFlow.Proofs.WaitingNodes
import ChatFlow.Proofs.Trails
import ChatFlow.Proofs.TrailedEvents
import ChatFlow.Proofs.LogReplay
import ChatFlow.Proofs.ClosedFlows
import ChatFlow.Proofs.LostSessions
import ChatFlow.Proofs.FlowTenancy
import ChatFlow.Proofs.LoopDetection
import ChatFlow.Proofs.GraphCheck
import ChatFlow.Proofs.SoundFlows
import ChatFlow.Proofs.CollectionMeaning
import ChatFlow.Proofs.LogSelection
import ChatFlow.Proofs.DeclaredVariables
import ChatFlow.Proofs.MalformedCanvases
import ChatFlow.Proofs.EdgeNames
import ChatFlow.Proofs.EditorShape
import ChatFlow.Proofs.ErrorBranch
import ChatFlow.Proofs.Numerals
import ChatFlow.Proofs.MenuAttempts
import ChatFlow.Proofs.ReplyFaults
import ChatFlow.Proofs.VerbatimValues
import ChatFlow.Proofs.FilledTemplates
import ChatFlow.Proofs.Spellings
import ChatFlow.Proofs.PatternFaults
import ChatFlow.Proofs.TriggeredFlows
import ChatFlow.Proofs.SparedEvents
import ChatFlow.Proofs.TaxpayerNumbers
import ChatFlow.Proofs.LiteralKeywords
import ChatFlow.Proofs.ResponsePaths
import ChatFlow.Proofs.JobMarks
import ChatFlow.Proofs.PolledJobs
import ChatFlow.Proofs.EmailAddresses
import ChatFlow.Proofs.NumberReplies
import ChatFlow.Proofs.ReportedFaults
import ChatFlow.Proofs.StoredDocuments
