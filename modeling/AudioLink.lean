import AudioLink.Broadcast
import AudioLink.Directory.Clients
import AudioLink.Directory.Clock
import AudioLink.Handsfree.Profile
import AudioLink.Json.Traffic
import AudioLink.Proofs.Call.Pass
import AudioLink.Proofs.Handsfree.Announcements
import AudioLink.Proofs.Handsfree.Indicators
import AudioLink.Proofs.Profiles
import AudioLink.Settings.Document
import AudioLink.Stream
import AudioLink.Proofs.Link.Errands
import AudioLink.Proofs.Link.Recall
import AudioLink.Proofs.Reconnecting
import AudioLink.Proofs.Book
import AudioLink.Proofs.Link.Accounts
import AudioLink.Proofs.Attribution
import AudioLink.Proofs.Isolation
import AudioLink.Proofs.Handsfree.Attendance
import AudioLink.Proofs.Call.Conference
import AudioLink.Proofs.Call.Losses
import AudioLink.Proofs.Handsfree.Roster
import AudioLink.Proofs.Handsfree.Losses
import AudioLink.Proofs.Handsfree.Dialling
import AudioLink.Proofs.Handsfree.Timely
import AudioLink.Proofs.Link.Chronicle
import AudioLink.Proofs.Link.Entrance
import AudioLink.Proofs.Forgetting
import AudioLink.Proofs.Link.Deadlines
import AudioLink.Proofs.Link.Expiry
import AudioLink.Proofs.Links
import AudioLink.Proofs.Directory.Order
import AudioLink.Proofs.Renewal
import AudioLink.Proofs.Separation
import AudioLink.Proofs.OutOfPlace
import AudioLink.Proofs.Instants
import AudioLink.Proofs.Handsfree.Throttling
import AudioLink.Proofs.Declining
import AudioLink.Proofs.Endings
import AudioLink.Proofs.Handsfree.Routing
import AudioLink.Proofs.Handsfree.Control
import AudioLink.Proofs.Verdicts
import AudioLink.Proofs.Handsfree.Attempts
import AudioLink.Proofs.Handsfree.Accepting
import AudioLink.Proofs.Stream.Feeding
import AudioLink.Proofs.Call.Directions
import AudioLink.Proofs.Handsfree.Overhearing
import AudioLink.Proofs.Handsfree.Unwanted
import AudioLink.Proofs.Handsfree.Suitability
import AudioLink.Proofs.Handsfree.Knobs
import AudioLink.Proofs.Handsfree.Echoes
import AudioLink.Proofs.Handsfree.Voice
import AudioLink.Proofs.Link.Replay
import AudioLink.Proofs.Call.Rejecting
import AudioLink.Proofs.Codec.Preferring
import AudioLink.Proofs.Codec.Switching
import AudioLink.Proofs.Stream.Assigning
import AudioLink.Proofs.Call.Codes
import AudioLink.Proofs.Addressing
import AudioLink.Proofs.Agenda
import AudioLink.Proofs.Readable
import AudioLink.Proofs.Directory.Settling
