import CrossingReality.Commands
import CrossingReality.Reactions
import CrossingReality.Calibration
import CrossingReality.Prevention
import CrossingReality.Statements
import CrossingReality.Identity
import CrossingReality.Independence
import CrossingReality.Atomicity
import CrossingReality.Relays
import CrossingReality.Addresses
import CrossingReality.Duplicates
import CrossingReality.Leftovers
import CrossingReality.Widening
import CrossingReality.Unchecked
import CrossingReality.Chunks
import CrossingReality.Details
import CrossingReality.Filtering
import CrossingReality.Divisor
import CrossingReality.Connections
import CrossingReality.Refreshing
import CrossingReality.Effects.Serving
import CrossingReality.Origins
import CrossingReality.PhotoMsgReaderToXMLRPC
import CrossingReality.Sensing
