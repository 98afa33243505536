import Roster.Net.Ip
import Roster.Subject.Certificate

/-! # What is known of a channel's peer

All of it is settled when the channel comes about and never changes afterwards. -/

namespace Roster

/-- `secure` channels are encrypted, `trusted` ones lead to members of the group, and peers of
`capable` ones could have been recognised as such. -/
structure Trust where
  secure : Bool
  trusted : Bool
  capable : Bool
  deriving DecidableEq, Repr

/-- A channel in the clear needs no handshake, so it counts as capable. -/
def Trust.plaintext : Trust := ⟨false, false, true⟩

structure PeerAttributes where
  trust : Trust
  address : Option SocketAddress
  session : Option PeerSession
  deriving DecidableEq, Repr

def PeerAttributes.plaintext : PeerAttributes := ⟨.plaintext, none, none⟩

end Roster
