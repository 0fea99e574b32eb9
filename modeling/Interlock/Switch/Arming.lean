namespace Interlock

/-- Whether a switch timer may act: its armed flag, and the command codes that
    set and clear it. A timer without an arm code is armed for good. -/
structure Arming where
  armCode : Option Nat
  disarmCode : Option Nat
  isArmed : Bool
  deriving DecidableEq, Inhabited

namespace Arming

/-- A code of zero means that there is none. -/
def code? (code : Nat) : Option Nat :=
  if code == 0 then none else some code

/-- The arming that two command codes describe. -/
def ofCodes (armCode disarmCode : Nat) : Arming where
  armCode := code? armCode
  disarmCode := code? disarmCode
  isArmed := (code? armCode).isNone

/-- Whether commands control the flag. -/
def isExplicit (a : Arming) : Bool :=
  a.armCode.isSome

/-- Sets the flag. -/
def arm (a : Arming) : Arming :=
  { a with isArmed := true }

/-- Whether disarming would change anything. -/
def canDisarm (a : Arming) : Bool :=
  a.isExplicit && a.isArmed

/-- Clears the flag, unless the timer is armed for good. -/
def disarm (a : Arming) : Arming :=
  if a.canDisarm then { a with isArmed := false } else a

end Arming

end Interlock
