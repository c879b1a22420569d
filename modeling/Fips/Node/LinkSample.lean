import Fips.Lib.Run
import Fips.Node.LinkRun
import Fips.Node.Sample

/-!
# Small nodes with links

Nodes on the small suite that exchange handshakes, for runs on concrete inputs. A node's secret key
is the number it is made from.
-/

open EventRun

namespace Fips

namespace Sample

/-- The identity of a key. -/
def identity (key : UInt8) : Identity Scalar := ⟨NodeAddr.fromPubkey Scalar (Point.mk key), ⟨key⟩⟩

/-- What a peer knows of the identity of a key. -/
def peerIdentity (key : UInt8) : PeerIdentity Point := ⟨⟨key⟩⟩

/-- The startup epoch of a node's run. -/
def epoch (run : UInt8) : Epoch := ⟨List.replicate EPOCH_SIZE run, rfl⟩

/-- A node that starts with a key, for the given run. -/
def linkNode (key run : UInt8) : LinkNode Scalar Point Unit Unit :=
  LinkNode.new (identity key) (epoch run) config 0

/-- The outside at one moment: every send succeeds, and the index drawn is `draw`. -/
def linkEnv (nowMs : Nat) (ephemeral : UInt8) (draw : UInt32) : LinkEnv Scalar where
  nowMs := nowMs
  instant := nowMs
  ephemeral := ⟨ephemeral⟩
  draws := [draw]
  msg1Allowed := true
  acceptsConnections _ := true
  connectionOriented _ := false
  connect _ _ := .sent
  send _ _ _ := .sent

/-- A node after some events. -/
def linkRun (n : LinkNode Scalar Point Unit Unit) (es : List (LinkEvent Scalar Point)) :
    LinkNode Scalar Point Unit Unit := exec (LinkNode.step Unit) n es

/-- The last datagram the node gave to a transport. -/
def lastSent (n : LinkNode Scalar Point Unit Unit) : Bytes :=
  (n.outbox.getLast?.map (·.data)).getD []

end Sample

end Fips
