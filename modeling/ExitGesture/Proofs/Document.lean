import ExitGesture.Store.Document

/-!
# Documents are a store

Documents meet the laws of a store, and being text they put a null in the place of a number that is
not finite.
-/

namespace ExitGesture
namespace Document

/-! ### Values -/

theorem asWord_integer (n : UInt32) : asWord (.integer n.toNat) = some n := by
  have high := n.toNat_lt
  simp [asWord]
  omega

theorem asCode_integer (n : Int32) : asCode (.integer n.toInt) = some n := by
  have within : Int32.minValue.toInt ≤ n.toInt ∧ n.toInt ≤ Int32.maxValue.toInt :=
    ⟨n.minValue_le_toInt, n.toInt_le⟩
  rw [asCode, if_pos within, Int32.ofInt_toInt]

theorem read_write {k : Kind} {x : k.Carrier} (finite : k.Finite x) :
    read k (write k x) = some x := by
  cases k with
  | code => exact asCode_integer x
  | word => exact asWord_integer x
  | number =>
      have single : write .number x = .single x := if_pos finite
      rw [single]
      rfl
  | flag => rfl

theorem read_null (k : Kind) : read k .null = none := by
  cases k <;> rfl

/-! ### Records -/

section Records

variable {l : Layout}

theorem collect_eq_some_iff {value? : (f : l.Field) → Option (l.kind f).Carrier} {r : l.Record} :
    collect value? = some r ↔ ∀ f, value? f = some (r f) := by
  unfold collect
  constructor
  · intro collected f
    split at collected
    · cases collected
      exact (Option.some_get _).symm
    · cases collected
  · intro found
    have all_found : ∀ f ∈ l.fields, (value? f).isSome = true := by
      intro f _
      rw [found f]
      rfl
    rw [dif_pos all_found]
    refine congrArg some (funext fun f => ?_)
    exact Option.get_of_eq_some _ (found f)

/-- A name that stands once is found from either end. -/
theorem field?_eq_lookup {fields : List (String × Document)} {name : String}
    (once : (fields.map Prod.fst).count name ≤ 1) : field? fields name = fields.lookup name := by
  unfold field?
  induction fields with
  | nil => rfl
  | cons entry rest ih =>
      obtain ⟨other, d⟩ := entry
      rw [List.map_cons, List.count_cons] at once
      rw [List.reverse_cons, List.lookup_append, List.lookup_cons, List.lookup_cons,
        List.lookup_nil]
      by_cases same : other = name
      · have alone : (rest.map Prod.fst).count name = 0 := by
          rw [if_pos (beq_iff_eq.2 same)] at once
          omega
        have none_left : rest.reverse.lookup name = none := by
          rw [List.lookup_eq_none_iff]
          intro later mem
          rw [bne_iff_ne]
          rintro rfl
          exact List.count_eq_zero.1 alone (List.mem_map_of_mem (List.mem_reverse.1 mem))
        rw [none_left, beq_iff_eq.2 same.symm]
        rfl
      · have apart : (name == other) = false := beq_false_of_ne (Ne.symm same)
        rw [ih (by omega), apart, Option.or_none]

theorem store_lawful : store.Lawful where
  encode_eq _ _ := rfl
  decode_object l fallback fields once r := by
    show collect _ = some r ↔ _
    rw [collect_eq_some_iff]
    refine forall_congr' fun f => ?_
    rw [field?_eq_lookup (once f)]
    rfl
  decode_array l fallback values short r := by
    show (if values.length ≤ l.fields.length then collect _ else none) = some r ↔ _
    rw [if_pos short, collect_eq_some_iff]
    rfl
  read_write _ _ finite := read_write finite

theorem store_nulls : store.NullsNonFinite where
  write_number x unfit := by
    have not_finite : ¬ x.isFinite = true := Bool.eq_false_iff.1 unfit
    exact if_neg not_finite
  read_null := read_null

end Records
end Document
end ExitGesture
