import ExitGesture.Proofs.History
import ExitGesture.Proofs.Pointers.Basic

/-!
# Orderly streams

The touches of a history are a stream of their own, whatever else happens between them.  A stream is
orderly if a first pointer lands on an empty surface and a last one leaves it empty.
-/

namespace ExitGesture

namespace Touch

/-- The pointers that a stream leaves down. -/
def downAfter (stream : List Touch) : List PointerId :=
  stream.foldl Recognizer.pointersAfter []

/-- A touch fits the pointers that are down: none is when the first one lands, and no other is when
the last one lifts. -/
structure Fits (t : Touch) (down : List PointerId) : Prop where
  first : t.kind = .down → down = []
  last : t.kind = .up → ∀ p ∈ down, p = t.pointer

/-- Every touch of a stream fits what came before it. -/
def Orderly (stream : List Touch) : Prop :=
  ∀ front t, front ++ [t] <+: stream → t.Fits (downAfter front)

variable {stream front : List Touch} {t : Touch}

/-- Only a first landing and a last lift can be out of place. -/
theorem Fits.of_other (not_first : t.kind ≠ .down) (not_last : t.kind ≠ .up)
    (down : List PointerId) : t.Fits down where
  first is_first := absurd is_first not_first
  last is_last := absurd is_last not_last

theorem downAfter_concat (stream : List Touch) (t : Touch) :
    downAfter (stream ++ [t]) = Recognizer.pointersAfter (downAfter stream) t := by
  simp [downAfter]

theorem nodup_downAfter (stream : List Touch) : (downAfter stream).Nodup := by
  unfold downAfter
  have keeps (down : List PointerId) (nodup : down.Nodup) :
      (stream.foldl Recognizer.pointersAfter down).Nodup := by
    induction stream generalizing down with
    | nil => exact nodup
    | cons t rest ih => exact ih _ (Recognizer.nodup_pointersAfter nodup t)
  exact keeps [] List.nodup_nil

theorem orderly_nil : Orderly [] := by
  intro front t within
  simp at within

theorem Orderly.concat (orderly : Orderly stream) (fits : t.Fits (downAfter stream)) :
    Orderly (stream ++ [t]) := by
  intro front t' within
  rcases List.prefix_concat_iff.1 within with same | within
  · obtain ⟨rfl, rfl⟩ := List.append_inj' same rfl |>.imp_right List.singleton_inj.1
    exact fits
  · exact orderly front t' within

theorem Orderly.of_prefix (orderly : Orderly stream) (within : front <+: stream) :
    Orderly front :=
  fun front' t within' => orderly front' t (within'.trans within)

end Touch

/-! ### The stream of a history -/

namespace Moment

/-- The touch of a moment. -/
def touch? (m : Moment) : Option Touch :=
  match m.request with
  | .touch t => some t
  | .tick _ | .reset | .reload => none

/-- The touches of a history, in order. -/
def stream (history : List Moment) : List Touch := history.filterMap touch?

theorem stream_concat (history : List Moment) (m : Moment) :
    stream (history ++ [m]) = stream history ++ m.touch?.toList := by
  simp only [stream, List.filterMap_append, List.filterMap_cons, List.filterMap_nil]
  cases m.touch? <;> rfl

end Moment

namespace Recognizer

theorem onSurface_subset_downAfter (c : Config) (history : List Moment) :
    ((ofConfig c).run history).onSurface ⊆ Touch.downAfter (Moment.stream history) := by
  induction history using List.reverseRecOn with
  | nil => exact List.nil_subset _
  | append_singleton history m ih =>
      have nodup : ((ofConfig c).run history).onSurface.Nodup :=
        nodup_onSurface_run List.nodup_nil history
      rw [run_concat, onSurface_after, Moment.stream_concat]
      obtain ⟨h, q⟩ := m
      cases q with
      | touch t =>
          show pointersAfter _ t ⊆ Touch.downAfter (Moment.stream history ++ [t])
          rw [Touch.downAfter_concat]
          exact pointersAfter_subset nodup ih t
      | tick now => simpa [Moment.touch?] using ih
      | reset => exact List.nil_subset _
      | reload => simpa [Moment.touch?] using ih

theorem onSurface_eq_downAfter (c : Config) {history : List Moment}
    (never_reset : ∀ m ∈ history, m.request ≠ .reset) :
    ((ofConfig c).run history).onSurface = Touch.downAfter (Moment.stream history) := by
  induction history using List.reverseRecOn with
  | nil => rfl
  | append_singleton history m ih =>
      obtain ⟨never_before, not_now⟩ := List.forall_mem_append.1 never_reset
      have counted := ih never_before
      rw [run_concat, onSurface_after, Moment.stream_concat]
      obtain ⟨h, q⟩ := m
      cases q with
      | touch t =>
          show pointersAfter _ t = Touch.downAfter (Moment.stream history ++ [t])
          rw [Touch.downAfter_concat, counted]
      | tick now => simpa [Moment.touch?] using counted
      | reset => exact absurd rfl (not_now _ (List.mem_singleton_self _))
      | reload => simpa [Moment.touch?] using counted

end Recognizer
end ExitGesture
