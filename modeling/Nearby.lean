import Nearby.Wire.Validator
import Nearby.Wire.Offers
import Nearby.Lib.Transition
import Nearby.Bwu.Refinement
import Nearby.Bwu.Simulation
import Nearby.Lib.Trace
import Nearby.Swap.Report
import Nearby.Swap.Retire
import Nearby.Swap.Pause
import Nearby.Bwu.Parking
import Nearby.Bwu.Latch
import Nearby.Bwu.LastWrite
import Nearby.Bwu.Pausing
import Nearby.Bwu.Actions
import Nearby.Bwu.Attribution
import Nearby.Bwu.Isolation
import Nearby.Bwu.StreamChannel
import Nearby.Bwu.RoundTrip
import Nearby.Bwu.Peer
import Nearby.Bwu.Handshake
import Nearby.Bwu.Ledger
import Nearby.Bwu.Dispatch
import Nearby.Bwu.Retry
import Nearby.Bwu.Disconnect
import Nearby.Bwu.Release
import Nearby.Bwu.Established
import Nearby.Bwu.Shared
import Nearby.Bwu.Actor
import Nearby.Bwu.Timers
import Nearby.Bwu.WifiHotspot
import Nearby.Bwu.Join
import Nearby.Bwu.Reception
import Nearby.Bwu.Control
import Nearby.Bwu.Dialling
import Nearby.Bwu.Attempts
import Nearby.Bwu.Termination
import Nearby.Bwu.Protection
import Nearby.Bwu.Abandonment
import Nearby.Bwu.Backoff
import Nearby.Wire.Patterns
import Nearby.Wire.Payloads
import Nearby.Wire.Requests
import Nearby.Bwu.Closing
import Nearby.Bwu.Gates
import Nearby.Bwu.Selection
import Nearby.Bwu.Refusal
import Nearby.Bwu.Ceiling
import Nearby.Bwu.Listener
import Nearby.Bwu.Quiescence
import Nearby.Bwu.Fallback
import Nearby.Bwu.Encryption
import Nearby.Bwu.Handle
import Nearby.Bwu.Services
import Nearby.Bwu.Rounds
import Nearby.Wire.Acceptance
import Nearby.Bwu.Crossing
