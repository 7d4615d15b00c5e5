import NmeaReceiver.Main
import NmeaReceiver.Session.Scripted
import NmeaReceiver.Proofs.Line.Chunks
import NmeaReceiver.Proofs.Fix.Handshake
import NmeaReceiver.Proofs.Fix.LastWriter
import NmeaReceiver.Proofs.Fix.Coherence
import NmeaReceiver.Proofs.Fix.Coordinates
import NmeaReceiver.Proofs.Link.Timeouts
import NmeaReceiver.Proofs.Session.Replay
import NmeaReceiver.Proofs.Session.Delivery
import NmeaReceiver.Proofs.Link.Opening
import NmeaReceiver.Proofs.Link.Watched
import NmeaReceiver.Proofs.Link.Standing
import NmeaReceiver.Proofs.Link.Calls
import NmeaReceiver.Proofs.Session.Rounds
import NmeaReceiver.Proofs.Session.Ending
import NmeaReceiver.Proofs.Session.Lifecycle
import NmeaReceiver.Proofs.Session.Cancellation
import NmeaReceiver.Proofs.Sentence.Digits
import NmeaReceiver.Proofs.Sentence.Numerals
import NmeaReceiver.Proofs.Sentence.Slots
import NmeaReceiver.Proofs.Sentence.Fields
import NmeaReceiver.Proofs.Sentence.Framing
import NmeaReceiver.Proofs.Sentence.Classification
import NmeaReceiver.Proofs.Decimal.Nearest
import NmeaReceiver.Proofs.Sentence.Angles
import NmeaReceiver.Proofs.Line.Polling
import NmeaReceiver.Proofs.Link.Reception
import NmeaReceiver.Proofs.Link.WholeLines
import NmeaReceiver.Proofs.Link.Exposed
import NmeaReceiver.Proofs.Link.Recovery
import NmeaReceiver.Proofs.Command.Polling
import NmeaReceiver.Proofs.Command.Reports
import NmeaReceiver.Proofs.Command.Attendance
import NmeaReceiver.Proofs.Sentence.Records
import NmeaReceiver.Proofs.Sentence.Truncation
import NmeaReceiver.Proofs.Fix.Truncation
import NmeaReceiver.Proofs.Link.Attempts
import NmeaReceiver.Proofs.Link.Counter
import NmeaReceiver.Proofs.Settings.Running
import NmeaReceiver.Proofs.Calendar.Days
import NmeaReceiver.Proofs.Calendar.Written
import NmeaReceiver.Proofs.Fix.Instants
import NmeaReceiver.Proofs.Sentence.Corruption
import NmeaReceiver.Proofs.Sentence.Leftovers
import NmeaReceiver.Proofs.Fix.Offsets
import NmeaReceiver.Proofs.Fix.Agreement
import NmeaReceiver.Proofs.Line.Noise
import NmeaReceiver.Proofs.Link.Latch
import NmeaReceiver.Proofs.Fix.Nulls
import NmeaReceiver.Proofs.Sentence.Culprits
