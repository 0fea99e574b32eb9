import Interlock.Failure
import Interlock.Log

namespace Interlock

/-- A collection of named pins. Any access may be refused; a refused write
    changes nothing. -/
class PinAccess (ι : Type) where
  read : ι → String → Except AccessFailure Bool
  write : ι → String → Bool → Except AccessFailure ι
  /-- Whether the board has a pin of the name. -/
  isConnected : ι → String → Bool
  /-- What a read writes to the log. -/
  readRecords : ι → String → List LogRecord
  /-- What a write writes to the log. -/
  writeRecords : ι → String → List LogRecord

end Interlock
