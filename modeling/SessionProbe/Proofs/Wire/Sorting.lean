import Mathlib.Data.List.Nodup
import SessionProbe.Wire.Dictionary

set_option autoImplicit false

/-!
Entries sorted by key. Sorting gives no key and no value that was not there, and leaves entries alone
that are sorted. Where keys are told apart by the order, the order of entries does not matter, and of
entries with one key only the last one counts.
-/

namespace SessionProbe.Wire

/-! ### What sorting keeps -/

section Sorting

variable {ofKey ofValue : Value → Prop} {entries : List (Value × Value)}

theorem forall_insertEntry {key value : Value} (keyHolds : ofKey key) (valueHolds : ofValue value)
    (each : ∀ entry ∈ entries, ofKey entry.1 ∧ ofValue entry.2) :
    ∀ entry ∈ insertEntry key value entries, ofKey entry.1 ∧ ofValue entry.2 := by
  induction entries with
  | nil => exact List.forall_mem_singleton.mpr ⟨keyHolds, valueHolds⟩
  | cons first rest ih =>
      obtain ⟨here, others⟩ := List.forall_mem_cons.mp each
      unfold insertEntry
      split
      · exact List.forall_mem_cons.mpr ⟨⟨keyHolds, valueHolds⟩, each⟩
      · exact List.forall_mem_cons.mpr ⟨⟨here.1, valueHolds⟩, others⟩
      · exact List.forall_mem_cons.mpr ⟨here, ih others⟩

theorem forall_sortEntries (each : ∀ entry ∈ entries, ofKey entry.1 ∧ ofValue entry.2) :
    ∀ entry ∈ sortEntries entries, ofKey entry.1 ∧ ofValue entry.2 := by
  unfold sortEntries
  suffices sorted : ∀ front : List (Value × Value),
      (∀ entry ∈ front, ofKey entry.1 ∧ ofValue entry.2) →
      ∀ entry ∈ entries.foldl (fun sorted entry => insertEntry entry.1 entry.2 sorted) front,
        ofKey entry.1 ∧ ofValue entry.2 from
    sorted [] (List.forall_mem_nil _)
  induction entries with
  | nil => exact fun front holds => holds
  | cons entry rest ih =>
      intro front holds
      obtain ⟨here, others⟩ := List.forall_mem_cons.mp each
      exact ih others _ (forall_insertEntry here.1 here.2 holds)

end Sorting

/-! ### Sorted entries -/

/-- Whether the keys of a dictionary rise from entry to entry. -/
def Rising (entries : List (Value × Value)) : Prop :=
  entries.Pairwise fun entry later => compare entry.1.sortKey later.1.sortKey = .lt

theorem insertEntry_eq_append {key value : Value} {entries : List (Value × Value)}
    (below : ∀ entry ∈ entries, compare entry.1.sortKey key.sortKey = .lt) :
    insertEntry key value entries = entries ++ [(key, value)] := by
  induction entries with
  | nil => rfl
  | cons entry rest ih =>
      obtain ⟨here, others⟩ := List.forall_mem_cons.mp below
      have above : compare key.sortKey entry.1.sortKey = .gt := Std.OrientedCmp.gt_of_lt here
      rw [insertEntry, above]
      dsimp only
      rw [ih others, List.cons_append]

theorem sortEntries_of_rising {entries : List (Value × Value)} (rising : Rising entries) :
    sortEntries entries = entries := by
  suffices sorted : ∀ front : List (Value × Value), Rising (front ++ entries) →
      entries.foldl (fun sorted entry => insertEntry entry.1 entry.2 sorted) front =
        front ++ entries from
    sorted [] rising
  clear rising
  induction entries with
  | nil =>
      intro front _
      rw [List.foldl_nil, List.append_nil]
  | cons entry rest ih =>
      intro front rising
      have below : ∀ earlier ∈ front, compare earlier.1.sortKey entry.1.sortKey = .lt :=
        fun earlier member =>
          (List.pairwise_append.mp rising).2.2 earlier member entry List.mem_cons_self
      rw [List.append_cons] at rising
      rw [List.foldl_cons, insertEntry_eq_append below, ih _ rising, ← List.append_cons]

/-! ### Keys told apart -/

theorem Basic.place_inj {kind other : Basic} (same : kind.place = other.place) : kind = other := by
  cases kind <;> cases other <;> first | rfl | exact absurd same (by decide)

theorem Scalar.textKey_inj {text other : String}
    (same : Scalar.textKey text = Scalar.textKey other) : text = other := by
  have numbers := List.append_cancel_right same
  have chars : text.toList = other.toList := by
    refine List.map_injective_iff.mpr ?_ numbers
    intro c c' sameNumber
    exact Char.toNat_inj.mp (Int.ofNat.inj sameNumber)
  exact String.toList_injective chars

/-- The order tells scalars of one kind apart, unless they are doubles: both zeros have one rank. -/
theorem Scalar.sortKey_inj {value other : Scalar} (kinds : value.kind = other.kind)
    (single : value.kind ≠ .double) (same : value.sortKey = other.sortKey) : value = other := by
  -- Scalars of different kinds are ruled out first: one case is left for each kind.
  cases value <;> cases other <;> cases kinds
  case byte.byte value other =>
    exact congrArg _ (UInt8.toNat_inj.mp (Int.ofNat.inj (List.head_eq_of_cons_eq same)))
  case boolean.boolean value other => cases value <;> cases other <;> first | rfl | cases same
  case int16.int16 value other =>
    exact congrArg _ (Int16.toInt_inj.mp (List.head_eq_of_cons_eq same))
  case uint16.uint16 value other =>
    exact congrArg _ (UInt16.toNat_inj.mp (Int.ofNat.inj (List.head_eq_of_cons_eq same)))
  case int32.int32 value other =>
    exact congrArg _ (Int32.toInt_inj.mp (List.head_eq_of_cons_eq same))
  case uint32.uint32 value other =>
    exact congrArg _ (UInt32.toNat_inj.mp (Int.ofNat.inj (List.head_eq_of_cons_eq same)))
  case int64.int64 value other =>
    exact congrArg _ (Int64.toInt_inj.mp (List.head_eq_of_cons_eq same))
  case uint64.uint64 value other =>
    exact congrArg _ (UInt64.toNat_inj.mp (Int.ofNat.inj (List.head_eq_of_cons_eq same)))
  case double.double => exact absurd rfl single
  case string.string => exact congrArg _ (Scalar.textKey_inj same)
  case objectPath.objectPath => exact congrArg _ (Scalar.textKey_inj same)
  case signature.signature => exact congrArg _ (Scalar.textKey_inj same)

/-- Whether a value is a key that the order tells from all others. -/
def Value.IsPlainKey : Value → Prop
  | .scalar value => value.kind ≠ .double
  | _ => False

theorem Value.IsPlainKey.eq_of_sortKey {key other : Value} (plain : key.IsPlainKey)
    (same : key.sortKey = other.sortKey) : key = other := by
  cases key with
  | scalar value =>
      have here : value.kind.place ≤ 11 ∨ value.kind.place = 16 := by
        generalize value.kind = kind
        cases kind <;> decide
      cases other with
      | scalar other =>
          rw [Value.sortKey, Value.sortKey] at same
          have kinds := Basic.place_inj (List.head_eq_of_cons_eq same)
          exact congrArg _ (Scalar.sortKey_inj kinds plain (List.tail_eq_of_cons_eq same))
      | _ =>
          have places := List.head_eq_of_cons_eq same
          omega
  | _ => exact absurd plain id

theorem Value.IsPlainKey.normal_eq {key : Value} (plain : key.IsPlainKey) : key.normal = key := by
  cases key with
  | scalar value => rfl
  | _ => exact absurd plain id

/-! ### Entries that change places -/

section Places

variable {key other value content : Value}

theorem insertEntry_comm_of_lt (below : compare key.sortKey other.sortKey = .lt)
    (entries : List (Value × Value)) :
    insertEntry key value (insertEntry other content entries) =
      insertEntry other content (insertEntry key value entries) := by
  have above : compare other.sortKey key.sortKey = .gt := Std.OrientedCmp.gt_of_lt below
  induction entries with
  | nil => simp only [insertEntry, below, above]
  | cons entry rest ih =>
      cases ofOther : compare other.sortKey entry.1.sortKey with
      | lt =>
          have ofKey := Std.TransCmp.lt_trans below ofOther
          simp only [insertEntry, ofKey, ofOther, below, above]
      | eq =>
          have ofKey := Std.TransCmp.lt_of_lt_of_eq below ofOther
          simp only [insertEntry, ofKey, ofOther, above]
      | gt =>
          cases ofKey : compare key.sortKey entry.1.sortKey with
          | lt => simp only [insertEntry, ofKey, ofOther, above]
          | eq => simp only [insertEntry, ofKey, ofOther]
          | gt => simp only [insertEntry, ofKey, ofOther, ih]

theorem insertEntry_comm (differ : compare key.sortKey other.sortKey ≠ .eq)
    (entries : List (Value × Value)) :
    insertEntry key value (insertEntry other content entries) =
      insertEntry other content (insertEntry key value entries) := by
  cases order : compare key.sortKey other.sortKey with
  | lt => exact insertEntry_comm_of_lt order entries
  | eq => exact absurd order differ
  | gt => exact (insertEntry_comm_of_lt (Std.OrientedCmp.lt_of_gt order) entries).symm

theorem insertEntry_same (key value content : Value) (entries : List (Value × Value)) :
    insertEntry key value (insertEntry key content entries) = insertEntry key value entries := by
  have same : compare key.sortKey key.sortKey = .eq := Std.ReflCmp.compare_self
  induction entries with
  | nil => simp only [insertEntry, same]
  | cons entry rest ih =>
      cases order : compare key.sortKey entry.1.sortKey <;>
        simp only [insertEntry, order, same, ih]

end Places

section Entries

variable {entries others : List (Value × Value)}

/-- Whether entries are the same but for their order, where the order of the keys tells all
entries apart. -/
structure Rearranged (entries others : List (Value × Value)) : Prop where
  plain : ∀ entry ∈ entries, entry.1.IsPlainKey
  distinct : (entries.map Prod.fst).Nodup
  same : entries.Perm others

/-- Whether entries are the others and one more, whose key comes again behind it. -/
inductive Overwritten : List (Value × Value) → List (Value × Value) → Prop
  | entry {front back : List (Value × Value)} {key value : Value} (plain : key.IsPlainKey)
      (again : key ∈ back.map Prod.fst) : Overwritten (front ++ (key, value) :: back) (front ++ back)

theorem Rearranged.sortEntries_eq (moved : Rearranged entries others) :
    sortEntries entries = sortEntries others := by
  refine moved.same.foldl_eq' ?_ []
  intro entry member later laterMember sorted
  by_cases one : entry = later
  · rw [one]
  · apply insertEntry_comm
    intro order
    have keys := (moved.plain later laterMember).eq_of_sortKey (Std.LawfulEqCmp.eq_of_compare order)
    exact one (List.inj_on_of_nodup_map moved.distinct member laterMember keys.symm)

theorem Overwritten.sortEntries_eq (dropped : Overwritten entries others) :
    sortEntries entries = sortEntries others := by
  obtain ⟨plain, again⟩ := dropped
  rename_i front back key value
  unfold sortEntries
  rw [List.foldl_append, List.foldl_append, List.foldl_cons]
  generalize front.foldl _ _ = sorted
  -- The entry stays the last one put in until its key comes again and overwrites it.
  induction back generalizing sorted with
  | nil => exact absurd again List.not_mem_nil
  | cons entry rest ih =>
      rw [List.foldl_cons, List.foldl_cons]
      by_cases order : compare entry.1.sortKey key.sortKey = .eq
      · have keys := plain.eq_of_sortKey (Std.LawfulEqCmp.eq_of_compare order).symm
        rw [← keys, insertEntry_same]
      · have later : key ∈ rest.map Prod.fst := by
          refine (List.mem_cons.mp again).resolve_left fun keys => order ?_
          rw [keys]
          exact Std.ReflCmp.compare_self
        rw [insertEntry_comm order, ih later]

end Entries

end SessionProbe.Wire
