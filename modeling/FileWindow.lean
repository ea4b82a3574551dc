import FileWindow.Session.Run
import FileWindow.Proofs.Coupling
import FileWindow.Proofs.Seek
import FileWindow.Proofs.Ending
import FileWindow.Proofs.Completion
import FileWindow.Proofs.StreamCalls
import FileWindow.Proofs.StreamPace
import FileWindow.Proofs.Alike
import FileWindow.Proofs.Twins
import FileWindow.Proofs.InputTwins
import FileWindow.Proofs.OutputTwins
import FileWindow.Proofs.InputWindow
import FileWindow.Proofs.OutputWindow
import FileWindow.Proofs.WholeTwins
import FileWindow.Proofs.InputWhole
import FileWindow.Proofs.OutputWhole
import FileWindow.Proofs.FileStream
import FileWindow.Proofs.Opening
import FileWindow.Proofs.OneContract
import FileWindow.Proofs.Bookkeeping
import FileWindow.Proofs.Absorbing
import FileWindow.Proofs.Accounts
import FileWindow.Proofs.OutputLedger
import FileWindow.Proofs.InputLedger
import FileWindow.Proofs.Ledger
import FileWindow.Proofs.Recording
import FileWindow.Proofs.Household
import FileWindow.Proofs.Releases
import FileWindow.Proofs.Prefixes
import FileWindow.Proofs.Copying
import FileWindow.Proofs.Interruptions
import FileWindow.Proofs.Undisturbed
import FileWindow.Proofs.FirstFailure
import FileWindow.Proofs.Quiet
import FileWindow.Proofs.Dropping
import FileWindow.Proofs.Tracing
import FileWindow.Proofs.Attribution
import FileWindow.Proofs.Rows
import FileWindow.Proofs.Pipes
import FileWindow.Proofs.Outline
import FileWindow.Proofs.Storing
import FileWindow.Proofs.RoundTrip
import FileWindow.Proofs.Position
import FileWindow.Proofs.Laying
import FileWindow.Proofs.EndSeek
import FileWindow.Proofs.Removing
import FileWindow.Proofs.Reaching
import FileWindow.Proofs.Reading
import FileWindow.Proofs.Gathering
import FileWindow.Proofs.Reached
import FileWindow.Proofs.Containment
import FileWindow.Proofs.Words
import FileWindow.Proofs.InputWords
import FileWindow.Proofs.OutputWords
import FileWindow.Proofs.Counters
import FileWindow.Proofs.Measuring
import FileWindow.Proofs.Pumping
import FileWindow.Proofs.Consuming
import FileWindow.Proofs.PassingUp
import FileWindow.Proofs.Making
import FileWindow.Proofs.Creating
import FileWindow.Proofs.Filling
import FileWindow.Proofs.Dumping
