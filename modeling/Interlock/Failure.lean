namespace Interlock

/-- An access to a switch, a pin or the storage that was refused. -/
inductive AccessFailure where
  | switchRead
  | switchWrite
  | pinRead
  | pinWrite
  | menuDirectory
  | menuFile
  | configuration
  deriving DecidableEq, Inhabited

/-- The text of a refused access. -/
def AccessFailure.message : AccessFailure → String
  | switchRead => "failed to get switch state"
  | switchWrite => "failed changing switch state"
  | pinRead => "pin read failed"
  | pinWrite => "pin write failed"
  | menuDirectory => "menu directory unreadable"
  | menuFile => "menu file unreadable"
  | configuration => "configuration unreadable"

/-- Why a module cannot be built from its settings. -/
inductive SetupFailure where
  | disabled (owner : String)
  /-- A required key has no usable value. -/
  | missing (owner key : String)
  /-- A key has a value that cannot be used. -/
  | invalid (owner key : String)
  deriving DecidableEq, Inhabited

/-- The text of a module that cannot be built, with the key that is at fault. -/
def SetupFailure.message : SetupFailure → String
  | disabled owner => s!"{owner} is disabled"
  | missing owner key => s!"config missing definition for the {owner}.{key}"
  | invalid owner key => s!"invalid value for {owner}.{key}"

/-- What can go wrong. -/
inductive Failure where
  | access (cause : AccessFailure)
  | setup (cause : SetupFailure)
  /-- A number that names no process state. -/
  | badState (raw : Nat)
  deriving DecidableEq, Inhabited

/-- The text of a failure, which starts with its kind. -/
def Failure.message : Failure → String
  | access cause => "io: " ++ cause.message
  | setup cause => "config: " ++ cause.message
  | badState raw => s!"logic: unrecognised state value {raw}"

end Interlock
