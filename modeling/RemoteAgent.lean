import RemoteAgent.Rehearsal.Report
import RemoteAgent.Text.Utf8.RoundTrip
import RemoteAgent.Proofs.Requests.Views
import RemoteAgent.Proofs.Requests.Sound
import RemoteAgent.Proofs.Client.Moves
import RemoteAgent.Proofs.Client.Course
import RemoteAgent.Proofs.Link.Views
import RemoteAgent.Proofs.Link.Sound
import RemoteAgent.Proofs.Client.Sound
import RemoteAgent.Proofs.Client.Sockets
import RemoteAgent.Proofs.Client.Trace
import RemoteAgent.Proofs.Client.History
import RemoteAgent.Proofs.Client.Abandoned
import RemoteAgent.Proofs.Client.InFlight
import RemoteAgent.Proofs.Client.Progress
import RemoteAgent.Proofs.Client.Outcomes
import RemoteAgent.Proofs.Client.Runs
import RemoteAgent.Proofs.Client.Loss
import RemoteAgent.Proofs.Client.Frames
import RemoteAgent.Proofs.Client.Places
import RemoteAgent.Proofs.Client.Attribution
import RemoteAgent.Proofs.Client.Ownership
import RemoteAgent.Proofs.Client.Lanes
import RemoteAgent.Proofs.Client.Calls
import RemoteAgent.Proofs.MessagePack.Records
import RemoteAgent.Proofs.Client.Downloads
import RemoteAgent.Proofs.Agent.Files
import RemoteAgent.Proofs.Transfer.Conversations
import RemoteAgent.Proofs.Client.Engaged
import RemoteAgent.Proofs.Client.Scenes
import RemoteAgent.Proofs.Client.Uploads
import RemoteAgent.Proofs.Text.Fronts
import RemoteAgent.Proofs.MessagePack.Lengths
import RemoteAgent.Proofs.Frame.Grammar
import RemoteAgent.Proofs.Frame.Inbound
import RemoteAgent.Proofs.Frame.Outbound
import RemoteAgent.Proofs.Frame.Wire
import RemoteAgent.Proofs.Client.Calm
import RemoteAgent.Proofs.Client.Notices
import RemoteAgent.Proofs.Client.Lifecycle
import RemoteAgent.Proofs.Client.Generations
import RemoteAgent.Proofs.Client.Sharing
import RemoteAgent.Proofs.Client.Connects
import RemoteAgent.Proofs.Client.Expiry
import RemoteAgent.Proofs.Client.Handed
import RemoteAgent.Proofs.Client.Delivery
import RemoteAgent.Proofs.Client.Chains
import RemoteAgent.Proofs.Client.Routing
import RemoteAgent.Proofs.Client.Veils
import RemoteAgent.Proofs.Client.FileSide
import RemoteAgent.Proofs.Client.Interference
import RemoteAgent.Proofs.Url.Escapes
import RemoteAgent.Proofs.Url.Segments
import RemoteAgent.Proofs.Url.Authorities
import RemoteAgent.Proofs.Url.Queries
import RemoteAgent.Proofs.Client.Secrecy
import RemoteAgent.Proofs.MessagePack.Representations
import RemoteAgent.Proofs.Client.Silent
import RemoteAgent.Proofs.Transfer.Talks
import RemoteAgent.Proofs.Client.Transcripts
import RemoteAgent.Proofs.Client.Scripts
import RemoteAgent.Proofs.Transfer.Fetches
import RemoteAgent.Proofs.Client.Fetches
import RemoteAgent.Proofs.Client.Heard
import RemoteAgent.Proofs.Client.Writes
import RemoteAgent.Proofs.Client.Overruns
import RemoteAgent.Proofs.Client.Vacancies
import RemoteAgent.Proofs.Client.Deadlines
import RemoteAgent.Proofs.MessagePack.Delimited
import RemoteAgent.Proofs.Frame.Cuts
import RemoteAgent.Proofs.MessagePack.Respelled
import RemoteAgent.Proofs.MessagePack.Numbers
import RemoteAgent.Proofs.Client.Correlation
import RemoteAgent.Proofs.Client.Reordering
import RemoteAgent.Proofs.Requests.Names
import RemoteAgent.Proofs.Client.Offsets
import RemoteAgent.Proofs.Url.Forms
import RemoteAgent.Proofs.Url.Endpoints
import RemoteAgent.Proofs.Client.SocketUrls
