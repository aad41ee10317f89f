import ExitGesture.Proofs.Touch
import Mathlib.Data.List.Nodup

/-!
# The pointers on the surface

What touches and other moments do to the pointers that a recognizer counts, whether or not it
listens.
-/

namespace ExitGesture
namespace Recognizer

variable {r : Recognizer} {m : Moment}

/-! ### One touch -/

section OneTouch

variable {few many : List PointerId} {t : Touch}

theorem nodup_pointersAfter (nodup : many.Nodup) (t : Touch) : (pointersAfter many t).Nodup := by
  unfold pointersAfter
  cases t.kind with
  | down => exact List.nodup_singleton _
  | pointerDown => exact nodup.insert
  | move => exact nodup
  | up => exact List.nodup_nil
  | pointerUp => exact nodup.erase _
  | cancel => exact List.nodup_nil

/-- Of two counts of one touch the one that began with less has less. -/
theorem pointersAfter_subset (nodup : few.Nodup) (fewer : few ⊆ many) (t : Touch) :
    pointersAfter few t ⊆ pointersAfter many t := by
  unfold pointersAfter
  cases t.kind with
  | down => exact List.Subset.refl _
  | pointerDown =>
      intro p mem
      rcases List.mem_insert_iff.1 mem with same | mem
      · exact List.mem_insert_iff.2 (Or.inl same)
      · exact List.mem_insert_iff.2 (Or.inr (fewer mem))
  | move => exact fewer
  | up => exact List.nil_subset _
  | pointerUp =>
      intro p mem
      obtain ⟨other, mem⟩ := nodup.mem_erase_iff.1 mem
      exact (List.mem_erase_of_ne other).2 (fewer mem)
  | cancel => exact List.nil_subset _

theorem pointersAfter_of_endsStream (ends : t.kind.endsStream = true) :
    pointersAfter many t = [] := by
  unfold pointersAfter
  cases kind : t.kind <;> simp [kind, Touch.Kind.endsStream] at ends ⊢

/-- Only a landing counts a pointer more. -/
theorem length_pointersAfter_le (other : t.kind.isDown = false) :
    (pointersAfter many t).length ≤ many.length := by
  unfold pointersAfter
  cases kind : t.kind with
  | down => simp [kind, Touch.Kind.isDown, Touch.Kind.motion?] at other
  | pointerDown => simp [kind, Touch.Kind.isDown, Touch.Kind.motion?] at other
  | move => exact Nat.le_refl _
  | up => exact Nat.zero_le _
  | pointerUp => exact List.length_erase_le
  | cancel => exact Nat.zero_le _

theorem mem_pointersAfter_of_isDown (lands : t.kind.isDown = true) :
    t.pointer ∈ pointersAfter many t := by
  unfold pointersAfter
  rcases Touch.Kind.isDown_iff.1 lands with kind | kind
  · simp [kind]
  · simp [kind]

end OneTouch

/-! ### One moment -/

theorem onSurface_after (r : Recognizer) (m : Moment) :
    (r.after m).onSurface =
      match m.request with
      | .touch t => pointersAfter r.onSurface t
      | .reset => []
      | .tick _ | .reload => r.onSurface := by
  obtain ⟨h, q⟩ := m
  cases q with
  | touch t => exact onSurface_touch
  | tick now => exact onSurface_tick
  | reset => simp [after, serve, reset, Outcome.answering]
  | reload =>
      show (r.reload h).state.onSurface = r.onSurface
      obtain ⟨_, eq | ⟨_, c, eq⟩⟩ := reload_cases r h
      · rw [eq]
      · rw [eq]
        rfl

theorem nodup_onSurface_run (nodup : r.onSurface.Nodup) (history : List Moment) :
    (r.run history).onSurface.Nodup := by
  induction history generalizing r with
  | nil => exact nodup
  | cons m rest ih =>
      apply ih
      rw [onSurface_after]
      cases m.request with
      | touch t => exact nodup_pointersAfter nodup t
      | tick now => exact nodup
      | reset => exact List.nodup_nil
      | reload => exact nodup

end Recognizer
end ExitGesture
