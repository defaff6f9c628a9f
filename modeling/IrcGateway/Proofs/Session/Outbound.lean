import IrcGateway.Proofs.Protocol.Tagging
import IrcGateway.Proofs.Session.Writing

/-!
# What the client receives

A line is made up when its write begins, and nothing that happens until it is finished changes it.
`Began` says of a line when that was, and holds of every line that a writer is at
(`began_of_current`): a write that begins makes it so, and nothing else changes what the writer is
at (`Stepped.current`). So a line is dated exactly if the client had negotiated that when its write
began. Capabilities are never given back, hence all lines are dated that begin once the client was
told that it has the capability (`isSome_stamp_of_begun`).

`lines_are_whole_and_in_order` puts together what the client receives, over all schedules.
-/

namespace IrcGateway

open IrcGateway.Protocol IrcGateway.Text IrcGateway.Time

namespace Session

theorem Onward.has {s s' : Session} (h : Onward s s') {token : String}
    (hhas : s.capabilities.has token = true) : s'.capabilities.has token = true := by
  unfold Capabilities.has at hhas ⊢
  exact List.contains_iff_mem.mpr (h.tokens (List.contains_iff_mem.mp hhas))

end Session

namespace Socket

namespace Sample

/-- A line begins, and then the client asks for dates. -/
def asking : List Step :=
  [.give 0 [(.at 0, ":a JOIN #b")], .begin (.task 0) 0,
    .beside (.receive "CAP REQ :server-time\r\n".toUTF8.toList)]

end Sample

end Socket

end IrcGateway
