import NmeaReceiver.Fix.State

/-! What an update writes, field by field: what it carries, and else what stood there. -/
namespace NmeaReceiver.Fix.State
open NmeaReceiver.Decimal NmeaReceiver.Calendar

variable (s : State) (update : Update)

@[simp] theorem applyLatitude :
    (s.apply update).latitude = (update.position.map (·.latitude)).or s.latitude := by
  obtain ⟨position, time, status⟩ := update
  cases position <;> cases time <;> cases status <;> rfl

@[simp] theorem applyLongitude :
    (s.apply update).longitude = (update.position.map (·.longitude)).or s.longitude := by
  obtain ⟨position, time, status⟩ := update
  cases position <;> cases time <;> cases status <;> rfl

@[simp] theorem applyElevation :
    (s.apply update).elevation = (update.position.bind (·.elevation)).or s.elevation := by
  obtain ⟨position, time, status⟩ := update
  cases position <;> cases time <;> cases status <;> rfl

@[simp] theorem applyUtc : (s.apply update).utc = (update.time.map (·.utc)).or s.utc := by
  obtain ⟨position, time, status⟩ := update
  cases position <;> cases time <;> cases status <;> rfl

@[simp] theorem applyOffsetHours :
    (s.apply update).offsetHours = (update.time.map (·.offsetHours)).or s.offsetHours := by
  obtain ⟨position, time, status⟩ := update
  cases position <;> cases time <;> cases status <;> rfl

@[simp] theorem applyFixStatus : (s.apply update).status = update.status.or s.status := by
  obtain ⟨position, time, status⟩ := update
  cases position <;> cases time <;> cases status <;> rfl

@[simp] theorem applyLocationPending :
    (s.apply update).locationPending = (s.locationPending && update.position.isNone) := by
  obtain ⟨position, time, status⟩ := update
  cases position <;> cases time <;> cases status <;> simp [apply, applyPosition, applyTime, applyStatus]

@[simp] theorem applyTimePending :
    (s.apply update).timePending = (s.timePending && update.time.isNone) := by
  obtain ⟨position, time, status⟩ := update
  cases position <;> cases time <;> cases status <;> simp [apply, applyPosition, applyTime, applyStatus]

end NmeaReceiver.Fix.State
