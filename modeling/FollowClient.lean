import FollowClient.Actor.Cache
import FollowClient.Actor.Repository
import FollowClient.CommandLine.Arguments
import FollowClient.CommandLine.FieldPattern
import FollowClient.CommandLine.LogFilter
import FollowClient.CommandLine.Report
import FollowClient.CommandLine.Run
import FollowClient.Config.Basic
import FollowClient.Config.EnvFile
import FollowClient.Core.Aliases
import FollowClient.Core.Client
import FollowClient.Core.Migration
import FollowClient.Failure
import FollowClient.Follow.Crew
import FollowClient.Follow.Poll
import FollowClient.Follow.Relationship
import FollowClient.Follow.Status
import FollowClient.Json.Basic
import FollowClient.Json.Escape
import FollowClient.Json.Number
import FollowClient.Json.Printer
import FollowClient.Json.Record
import FollowClient.Json.Shape
import FollowClient.Json.Token
import FollowClient.Json.Written
import FollowClient.Main
import FollowClient.Net.Address
import FollowClient.Net.Exchange
import FollowClient.Net.Host
import FollowClient.Net.Punycode
import FollowClient.Net.Redirects
import FollowClient.Net.Routes
import FollowClient.Policy
import FollowClient.Profile.Activity
import FollowClient.Profile.Basic
import FollowClient.Profile.Link
import FollowClient.Rehearsal.Polls
import FollowClient.Rehearsal.Script
import FollowClient.Rehearsal.Views
import FollowClient.Relay
import FollowClient.Settings
import FollowClient.Text.Alphanumeric
import FollowClient.Text.Decimal
import FollowClient.Text.Percent
import FollowClient.Text.Quoted
import FollowClient.Text.Trim
import FollowClient.Text.Unprintable
import FollowClient.View.Live
import FollowClient.View.State
import FollowClient.View.Step
import FollowClient.Proofs.View.Landing
import FollowClient.Proofs.View.Calls
import FollowClient.Proofs.View.Steps
import FollowClient.Proofs.View.Writes
import FollowClient.Proofs.View.Chronicle
import FollowClient.Proofs.View.Sound
import FollowClient.Proofs.View.Provenance
import FollowClient.Proofs.View.Teardown
import FollowClient.Proofs.View.Supersession
import FollowClient.Proofs.View.Pairing
import FollowClient.Proofs.View.Convergence
import FollowClient.Proofs.View.PollSteps
import FollowClient.Proofs.View.Polling
import FollowClient.Proofs.View.Loads
import FollowClient.Proofs.View.Outbox
import FollowClient.Proofs.View.Belonging
import FollowClient.Proofs.View.Exclusion
import FollowClient.Proofs.View.Confirmation
import FollowClient.Proofs.View.Failures
import FollowClient.Proofs.View.Loading
import FollowClient.Proofs.Poll.Crew
import FollowClient.Proofs.Text.Ends
import FollowClient.Proofs.Text.Utf8
import FollowClient.Proofs.Net.HostOfKey
import FollowClient.Proofs.Cache.History
import FollowClient.Proofs.Cache.Transparency
import FollowClient.Proofs.Cache.ForeignHosts
import FollowClient.Proofs.View.Reversion
import FollowClient.Proofs.Net.Replies
import FollowClient.Proofs.Relay.Distinct
import FollowClient.Proofs.Relay.Halves
import FollowClient.Proofs.Live.Resolution
import FollowClient.Proofs.CommandLine.Profile
import FollowClient.Proofs.CommandLine.StatusWord
import FollowClient.Proofs.Poll.Pace
import FollowClient.Proofs.Profile.Links
import FollowClient.Proofs.Profile.NormalForm
import FollowClient.Proofs.Profile.Peer
import FollowClient.Proofs.Repository.Outbox
import FollowClient.Proofs.Profile.Activities
import FollowClient.Proofs.Text.PercentForm
import FollowClient.Proofs.Net.Extension
import FollowClient.Proofs.Core.StatusUrl
import FollowClient.Proofs.Text.Numerals
import FollowClient.Proofs.Config.Variables
import FollowClient.Proofs.Config.RoundTrip
import FollowClient.Proofs.Config.BaseUrls
import FollowClient.Proofs.Core.AliasText
import FollowClient.Proofs.Json.Texts
import FollowClient.Proofs.Core.SavedAliases
import FollowClient.Proofs.Core.MigrationRoundTrip
import FollowClient.Proofs.Follow.Epochs
import FollowClient.Proofs.Cache.Overlap
