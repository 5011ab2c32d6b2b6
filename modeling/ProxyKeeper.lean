import ProxyKeeper.Config.Document
import ProxyKeeper.Config.Listing
import ProxyKeeper.Engine.ViewWire
import ProxyKeeper.ErrorWire
import ProxyKeeper.Feed.Journal
import ProxyKeeper.Identifier
import ProxyKeeper.Main
import ProxyKeeper.Proofs.Engine.Ledger
import ProxyKeeper.Proofs.Engine.Plan
import ProxyKeeper.Proofs.Engine.Difference
import ProxyKeeper.Proofs.Engine.InstancePass
import ProxyKeeper.Proofs.Engine.Run
import ProxyKeeper.Proofs.Engine.Handles
import ProxyKeeper.Proofs.Engine.Requests
import ProxyKeeper.Proofs.Engine.Wake
import ProxyKeeper.Proofs.Host.Run
import ProxyKeeper.Proofs.Host.Pipeline
import ProxyKeeper.Proofs.Engine.Drive
import ProxyKeeper.Proofs.Engine.Churn
import ProxyKeeper.Proofs.Engine.SingleHandle
import ProxyKeeper.Proofs.Feed.Audience
import ProxyKeeper.Proofs.Feed.Batches
import ProxyKeeper.Proofs.Coordinator.Run
import ProxyKeeper.Proofs.Coordinator.Reports
import ProxyKeeper.Proofs.Engine.Life
import ProxyKeeper.Proofs.Engine.Shutdown
import ProxyKeeper.Proofs.Engine.Orphan
import ProxyKeeper.Proofs.Engine.Restart
import ProxyKeeper.Proofs.Engine.Subscriptions
import ProxyKeeper.Proofs.Feed.Conduct
import ProxyKeeper.Proofs.Ingestion.Tasks
import ProxyKeeper.Proofs.Ingestion.Schedule
import ProxyKeeper.Proofs.Ingestion.Following
import ProxyKeeper.Proofs.Feed.Feeder
import ProxyKeeper.Proofs.Feed.States
import ProxyKeeper.Proofs.Feed.Sessions
import ProxyKeeper.Proofs.Feed.Records
import ProxyKeeper.Proofs.Store.Instances
import ProxyKeeper.Proofs.Store.Profiles
import ProxyKeeper.Proofs.Store.Identities
import ProxyKeeper.Proofs.CommandLine.SetUp
import ProxyKeeper.Proofs.Host.Supply
import ProxyKeeper.Proofs.Host.Shutdown
import ProxyKeeper.Proofs.Engine.Sockets
import ProxyKeeper.Proofs.Engine.ProxyPorts
import ProxyKeeper.Proofs.Event.RoundTrip
import ProxyKeeper.Proofs.Event.Tolerance
import ProxyKeeper.Proofs.Config.Layering
import ProxyKeeper.Proofs.Config.RoundTrip
import ProxyKeeper.Proofs.Config.Secrecy
import ProxyKeeper.Proofs.Store.Atomicity
import ProxyKeeper.Proofs.Feed.Windows
import ProxyKeeper.Proofs.Feed.Backoff
import ProxyKeeper.Proofs.CommandLine.FeedAddress
import ProxyKeeper.Proofs.Profile.RoundTrip
import ProxyKeeper.Proofs.Event.Lines
import ProxyKeeper.Proofs.Feed.Readers
import ProxyKeeper.Proofs.CommandLine.Viewer
