import Interlock.Failure
import Interlock.Log

namespace Interlock

/-- A collection of named switches. Any access may be refused; a refused write
    changes nothing. -/
class SwitchAccess (σ : Type) where
  read : σ → String → Except AccessFailure Bool
  write : σ → String → Bool → Except AccessFailure σ
  /-- What a read writes to the log. -/
  readRecords : σ → String → List LogRecord
  /-- What a write writes to the log. -/
  writeRecords : σ → String → Bool → List LogRecord

end Interlock
