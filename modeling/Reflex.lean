import Reflex.Go.Bytes
import Reflex.Go.Uuid
import Reflex.Session.Codec
import Reflex.Session.RoundTrip
import Reflex.Session.Replay
import Reflex.Session.Directions
import Reflex.Session.ConcurrentWrites
import Reflex.Morph.Profile
import Reflex.Morph.Morphing
import Reflex.Morph.Overrides
import Reflex.Morph.Capture
import Reflex.Inbound.Classify
import Reflex.Inbound.Handshake
import Reflex.Inbound.Handler
import Reflex.Inbound.Fallback
import Reflex.Inbound.Process
import Reflex.Inbound.Tunnel
import Reflex.Inbound.Users
import Reflex.Inbound.Network
import Reflex.Inbound.Serving
