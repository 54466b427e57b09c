/-!
# Fault manager (`fault/fault_manager.c`)

The latched software fault: a flag and the reason it was set for. The two are
file statics; here they are one record passed through the calls.
-/
namespace MotionFirmware.L1.Fault

/-- mirrors firmware/App/fault/fault_manager.h:12-17 -/
inductive FaultReason where
  | none | estop | limitExceeded | invalidCommand
  deriving DecidableEq, Repr

/-- `fault_active`, `current_reason`.
mirrors firmware/App/fault/fault_manager.c:6-7 -/
structure FaultManager where
  faultActive : Bool
  currentReason : FaultReason
  deriving DecidableEq, Repr

/-- mirrors firmware/App/fault/fault_manager.c:12-15 -/
def faultManagerInit : FaultManager := ⟨false, .none⟩

/-- mirrors firmware/App/fault/fault_manager.c:20-26 -/
def faultManagerSetFault (f : FaultManager) (reason : FaultReason) : FaultManager :=
  if reason = .none then f else ⟨true, reason⟩

/-- mirrors firmware/App/fault/fault_manager.c:31-33 -/
def faultManagerTriggerEstop (f : FaultManager) : FaultManager := faultManagerSetFault f .estop

/-- mirrors firmware/App/fault/fault_manager.c:38-41 -/
def faultManagerClear : FaultManager := ⟨false, .none⟩

/-- mirrors firmware/App/fault/fault_manager.c:46-48 -/
def faultManagerIsFaultActive (f : FaultManager) : Bool := f.faultActive

/-- mirrors firmware/App/fault/fault_manager.c:53-55 -/
def faultManagerGetReason (f : FaultManager) : FaultReason := f.currentReason

/-- The flag and the reason say the same. -/
def FaultManager.Consistent (f : FaultManager) : Prop :=
  f.faultActive = true ↔ f.currentReason ≠ .none

theorem consistent_init : faultManagerInit.Consistent := by simp [FaultManager.Consistent, faultManagerInit]

theorem consistent_setFault {f : FaultManager} (h : f.Consistent) (reason : FaultReason) :
    (faultManagerSetFault f reason).Consistent := by
  unfold faultManagerSetFault
  split
  · exact h
  · rename_i hr; simpa [FaultManager.Consistent] using hr

theorem consistent_clear : faultManagerClear.Consistent := by
  simp [FaultManager.Consistent, faultManagerClear]

end MotionFirmware.L1.Fault
