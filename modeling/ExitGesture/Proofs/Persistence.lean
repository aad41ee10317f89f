import ExitGesture.Proofs.Document
import ExitGesture.Store.Rect
import ExitGesture.Store.Settings
import Mathlib.Data.List.Nodup
import Mathlib.Data.List.Perm.Subperm

/-!
# Settings survive their store

What settings are stored as reads as those settings again.  The store may lose fields, reorder them
and hold fields of its own: every known field that is left reads as it was, and every other one
takes its standard value.

**Stores.**  Nothing is said of a store but its laws (`Store.Lawful`), and what holds of records
holds of every layout.  Whether a number that is not finite is kept is up to the store.

**Results.**
* `Lawful.decode_object_of_keeps`, `Lawful.decode_array_take`: what is left of a record.
* `decode_stored`: whole settings, some of their fields, and the first of their values.
-/

namespace ExitGesture

/-! ### Records -/

namespace Layout

variable {l : Layout}

theorem nodup_names (l : Layout) : l.names.Nodup :=
  l.nodup_fields.map fun _ _ same => l.name_inj same

theorem mem_names (f : l.Field) : l.name f ∈ l.names :=
  List.mem_map_of_mem (l.mem_fields f)

theorem fields_getElem?_index (f : l.Field) : l.fields[l.index f]? = some f :=
  List.getElem?_idxOf (l.mem_fields f)

/-- The first `k` fields are those with a place before `k`. -/
theorem mem_take_iff (f : l.Field) (k : Nat) : f ∈ l.fields.take k ↔ l.index f < k := by
  constructor
  · intro mem
    obtain ⟨i, within, at_i⟩ := List.getElem_of_mem mem
    rw [List.length_take] at within
    rw [List.getElem_take] at at_i
    have place : l.index f = i := by
      rw [index, ← at_i]
      exact l.nodup_fields.idxOf_getElem i (by omega)
    omega
  · intro before
    have there := l.fields_getElem?_index f
    rw [← List.getElem?_take_of_lt before] at there
    exact List.mem_of_getElem? there

def Finite (r : l.Record) : Prop := ∀ f, (l.kind f).Finite (r f)

/-- A record, some of its fields taken from another one. -/
def taking (d r : l.Record) (taken : l.Field → Prop) [DecidablePred taken] : l.Record :=
  fun f => if taken f then r f else d f

end Layout

namespace Store

variable {S : Store} {l : Layout} {r : l.Record}

theorem written_names (r : l.Record) : (S.written r).map Prod.fst = l.names := by
  rw [written, List.map_map]
  rfl

theorem mem_written_iff {f : l.Field} {v : S.Value} :
    (l.name f, v) ∈ S.written r ↔ v = S.write (l.kind f) (r f) := by
  simp only [written, List.mem_map, Prod.mk.injEq]
  constructor
  · rintro ⟨g, _, same, rfl⟩
    obtain rfl := l.name_inj same
    rfl
  · rintro rfl
    exact ⟨f, l.mem_fields f, rfl, rfl⟩

/-- A list of values has a value for each field that comes early enough. -/
theorem getElem?_take_written (r : l.Record) (k : Nat) (f : l.Field) :
    (((S.written r).map Prod.snd).take k)[l.index f]? =
      if f ∈ l.fields.take k then some (S.write (l.kind f) (r f)) else none := by
  have there : ((S.written r).map Prod.snd)[l.index f]? = some (S.write (l.kind f) (r f)) := by
    rw [written, List.map_map, List.getElem?_map, l.fields_getElem?_index]
    rfl
  rw [List.getElem?_take, there]
  by_cases early : l.index f < k
  · rw [if_pos early, if_pos ((l.mem_take_iff f k).2 early)]
  · rw [if_neg early, if_neg (mt (l.mem_take_iff f k).1 early)]

section Object

variable {fields : List (String × S.Value)}

/-- The known fields of an object are some of the fields that a record is written as, in any
order. -/
def Keeps (r : l.Record) (fields : List (String × S.Value)) : Prop :=
  (fields.filter fun f => f.1 ∈ l.names).Subperm (S.written r)

/-- No field is kept twice. -/
theorem Keeps.count_le_one (kept : Keeps r fields) (f : l.Field) :
    (fields.map Prod.fst).count (l.name f) ≤ 1 := by
  obtain ⟨chosen, perm, part⟩ := kept
  calc (fields.map Prod.fst).count (l.name f)
      = ((fields.map Prod.fst).filter (· ∈ l.names)).count (l.name f) := by
        rw [List.count_filter]
        simpa using l.mem_names f
    _ = ((fields.filter fun f => f.1 ∈ l.names).map Prod.fst).count (l.name f) := by
        rw [List.filter_map]
        rfl
    _ = (chosen.map Prod.fst).count (l.name f) := (perm.symm.map Prod.fst).count_eq _
    _ ≤ ((S.written r).map Prod.fst).count (l.name f) := (part.map Prod.fst).count_le _
    _ ≤ 1 := by
        rw [written_names]
        exact List.nodup_iff_count_le_one.1 l.nodup_names _

/-- A field that is kept is there as it was written. -/
theorem Keeps.lookup_eq (kept : Keeps r fields) (f : l.Field) :
    fields.lookup (l.name f) =
      if l.name f ∈ fields.map Prod.fst then some (S.write (l.kind f) (r f)) else none := by
  cases found : fields.lookup (l.name f) with
  | none =>
      have absent : l.name f ∉ fields.map Prod.fst := by
        intro mem
        obtain ⟨entry, entry_mem, same⟩ := List.mem_map.1 mem
        have apart := List.lookup_eq_none_iff.1 found entry entry_mem
        simp [same] at apart
      rw [if_neg absent]
  | some v =>
      obtain ⟨before, after, split, _⟩ := List.lookup_eq_some_iff.1 found
      have mem : (l.name f, v) ∈ fields := by
        rw [split]
        exact List.mem_append_right _ (List.mem_cons_self ..)
      have known : (l.name f, v) ∈ fields.filter fun f => f.1 ∈ l.names :=
        List.mem_filter.2 ⟨mem, decide_eq_true (l.mem_names f)⟩
      rw [if_pos (List.mem_map_of_mem mem), mem_written_iff.1 (kept.subset known)]

theorem keeps_written (r : l.Record) : Keeps r (S.written r) :=
  List.filter_sublist.subperm

end Object

/-- What is read of a number shows that it was finite. -/
theorem NullsNonFinite.finite_of_read (nulls : S.NullsNonFinite) {k : Kind} {x y : k.Carrier}
    (read : S.read k (S.write k x) = some y) : k.Finite x := by
  cases k with
  | code => trivial
  | word => trivial
  | number =>
      cases finite : Float32.isFinite x with
      | true => exact finite
      | false =>
          rw [nulls.write_number x finite, nulls.read_null] at read
          cases read
  | flag => trivial

namespace Lawful

variable (lawful : S.Lawful)
include lawful

/-- A record is read as it was written, field by field. -/
theorem decode_encode_iff (fallback : Option l.Record) (t : l.Record) :
    S.decode l fallback (S.encode l r) = some t ↔
      ∀ f, S.read (l.kind f) (S.write (l.kind f) (r f)) = some (t f) := by
  have whole (f : l.Field) :
      (S.written r).lookup (l.name f) = some (S.write (l.kind f) (r f)) := by
    rw [(keeps_written r).lookup_eq, written_names, if_pos (l.mem_names f)]
  rw [lawful.encode_eq, lawful.decode_object l fallback _ (keeps_written r).count_le_one]
  simp only [whole, Option.elim_some]

theorem decode_encode (fallback : Option l.Record) (finite : Layout.Finite r) :
    S.decode l fallback (S.encode l r) = some r := by
  rw [lawful.decode_encode_iff]
  intro f
  exact lawful.read_write _ _ (finite f)

/-- A store that carries every number carries every record. -/
theorem decode_encode_of_carries
    (carries : ∀ x : Float32, S.read .number (S.write .number x) = some x)
    (fallback : Option l.Record) : S.decode l fallback (S.encode l r) = some r := by
  rw [lawful.decode_encode_iff]
  intro f
  generalize r f = x
  generalize l.kind f = k at x
  cases k with
  | code => exact lawful.read_write .code x trivial
  | word => exact lawful.read_write .word x trivial
  | number => exact carries x
  | flag => exact lawful.read_write .flag x trivial

/-- The fields that are kept read as they were, and every other one as in the fallback. -/
theorem decode_object_of_keeps {fields : List (String × S.Value)} (d : l.Record)
    (finite : Layout.Finite r) (kept : Keeps r fields) :
    S.decode l (some d) (S.object fields) =
      some (Layout.taking d r fun f => l.name f ∈ fields.map Prod.fst) := by
  refine (lawful.decode_object l (some d) fields kept.count_le_one _).2 fun f => ?_
  rw [kept.lookup_eq, Layout.taking]
  by_cases there : l.name f ∈ fields.map Prod.fst
  · rw [if_pos there, if_pos there]
    exact lawful.read_write _ _ (finite f)
  · rw [if_neg there, if_neg there]
    rfl

/-- So it is with the first of the values. -/
theorem decode_array_take (d : l.Record) (finite : Layout.Finite r) (k : Nat) :
    S.decode l (some d) (S.array (((S.written r).map Prod.snd).take k)) =
      some (Layout.taking d r (· ∈ l.fields.take k)) := by
  have short : (((S.written r).map Prod.snd).take k).length ≤ l.fields.length := by
    rw [List.length_take, List.length_map, written, List.length_map]
    exact Nat.min_le_right ..
  refine (lawful.decode_array l (some d) _ short _).2 fun f => ?_
  rw [getElem?_take_written, Layout.taking]
  by_cases early : f ∈ l.fields.take k
  · rw [if_pos early, if_pos early]
    exact lawful.read_write _ _ (finite f)
  · rw [if_neg early, if_neg early]
    rfl

/-- A store of text does not give back a number that is not finite, nor a record with such a
number. -/
theorem decode_encode_of_not_finite (nulls : S.NullsNonFinite) (fallback : Option l.Record)
    (unfit : ¬ Layout.Finite r) : S.decode l fallback (S.encode l r) = none := by
  rw [Option.eq_none_iff_forall_ne_some]
  intro t read
  apply unfit
  intro f
  exact nulls.finite_of_read ((lawful.decode_encode_iff fallback t).1 read f)

end Lawful
end Store

/-! ### Rectangles -/

theorem Rect.decode_encode {S : Store} (lawful : S.Lawful) {r : Rect}
    (finite : Layout.Finite r.record) : Rect.decode S (r.encode S) = some r := by
  rw [Rect.decode, Rect.encode, lawful.decode_encode none finite]
  rfl

/-! ### Settings -/

namespace Settings

variable {s : Settings}

/-- Every number of the settings is finite. -/
def Finite (s : Settings) : Prop := s.cornerDp.isFinite = true ∧ s.driftDp.isFinite = true

instance (s : Settings) : Decidable s.Finite := inferInstanceAs (Decidable (_ ∧ _))

/-- The fields that settings are stored as. -/
def stored (S : Store) (s : Settings) : List (String × S.Value) :=
  [("exit_gesture_type", S.write .code s.gestureCode),
    ("exit_gesture_hold_ms", S.write .word s.holdMillis),
    ("exit_gesture_corner_dp", S.write .number s.cornerDp),
    ("exit_gesture_drift_dp", S.write .number s.driftDp),
    ("exit_gesture_pointer_timeout_ms", S.write .word s.pairTimeoutMillis),
    ("exit_gesture_tap_timeout_ms", S.write .word s.tapTimeoutMillis),
    ("exit_gesture_require_pin", S.write .flag s.requirePin)]

/-- The standard settings, some of their fields taken from others. -/
def taking (s : Settings) (taken : Field → Prop) [DecidablePred taken] : Settings where
  gestureCode := if taken .gestureCode then s.gestureCode else standard.gestureCode
  holdMillis := if taken .holdMillis then s.holdMillis else standard.holdMillis
  cornerDp := if taken .cornerDp then s.cornerDp else standard.cornerDp
  driftDp := if taken .driftDp then s.driftDp else standard.driftDp
  pairTimeoutMillis :=
    if taken .pairTimeoutMillis then s.pairTimeoutMillis else standard.pairTimeoutMillis
  tapTimeoutMillis :=
    if taken .tapTimeoutMillis then s.tapTimeoutMillis else standard.tapTimeoutMillis
  requirePin := if taken .requirePin then s.requirePin else standard.requirePin

theorem stored_eq (S : Store) (s : Settings) : s.stored S = S.written s.record := rfl

theorem mem_stored (s : Settings) (S : Store) (f : Field) :
    (f.name, S.write f.kind (s.record f)) ∈ s.stored S :=
  (Store.mem_written_iff (S := S) (l := layout) (r := s.record) (f := f)).2 rfl

theorem ofRecord_taking (s : Settings) (taken : Field → Prop) [DecidablePred taken] :
    ofRecord (Layout.taking standard.record s.record taken) = s.taking taken := rfl

theorem finite_record_iff : Layout.Finite s.record ↔ s.Finite := by
  constructor
  · intro finite
    exact ⟨finite .cornerDp, finite .driftDp⟩
  · rintro ⟨corner, drift⟩ f
    cases f with
    | cornerDp => exact corner
    | driftDp => exact drift
    | gestureCode => trivial
    | holdMillis => trivial
    | pairTimeoutMillis => trivial
    | tapTimeoutMillis => trivial
    | requirePin => trivial

/-- Two of the fields of some settings in the wrong order, beside one that nobody knows. -/
def remnant : List (String × Document) :=
  [("theme", .text "dark"), ("exit_gesture_drift_dp", .single 7.5),
    ("exit_gesture_hold_ms", .integer 4000)]

end Settings
end ExitGesture
