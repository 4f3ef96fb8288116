import TraceTarget.Datum
import TraceTarget.Main
import TraceTarget.Session
import TraceTarget.Proofs.Delivery
import TraceTarget.Proofs.Printing
import TraceTarget.Proofs.FirstFailure
import TraceTarget.Proofs.Lockstep
import TraceTarget.Proofs.Budget
import TraceTarget.Proofs.Schema
import TraceTarget.Proofs.RoundTrip
import TraceTarget.Proofs.Account
import TraceTarget.Proofs.Process
import TraceTarget.Proofs.Showing
import TraceTarget.Proofs.LastLine
import TraceTarget.Proofs.Precedence
import TraceTarget.Proofs.Writing
import TraceTarget.Proofs.Flushing
import TraceTarget.Proofs.ByteOrder
import TraceTarget.Proofs.Complaints
import TraceTarget.Proofs.FirstComplaint
import TraceTarget.Proofs.Spelling
import TraceTarget.Proofs.Confinement
import TraceTarget.Proofs.Finding
import TraceTarget.Proofs.Routes
import TraceTarget.Proofs.Exported
import TraceTarget.Proofs.Parties
import TraceTarget.Proofs.Meddling
import TraceTarget.Proofs.TwoNames
import TraceTarget.Proofs.Tidiness
import TraceTarget.Proofs.LatestDocument
import TraceTarget.Proofs.Totals
import TraceTarget.Proofs.Pauses
import TraceTarget.Proofs.Integers
import TraceTarget.Proofs.DelayTexts
import TraceTarget.Proofs.Numerals
import TraceTarget.Proofs.Decoding
import TraceTarget.Proofs.Fitting
import TraceTarget.Proofs.Recording
