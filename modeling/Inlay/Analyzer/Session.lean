import Inlay.Analyzer.Remote
import Inlay.Bridge.Session

/-!
# A session as channel

Requests go over the bridge to an interpreter, each with the same time limit.
-/

namespace Inlay

/-- The channel over a session with the given interpreter and time limit. -/
def Session.channel (model : Interpreter σ) (timeoutMs : Nat) : Channel (Session σ) where
  send method params session := session.send model method params timeoutMs
  shutdown session := session.shutdown

end Inlay
