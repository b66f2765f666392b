import SessionProbe.Proofs.Reply.LeadingStruct
import SessionProbe.Proofs.Wire.Variation

set_option autoImplicit false

/-!
Replies to dictionaries. Within the limits of nesting a reply shows neither the order in which the
entries of a dictionary are sent, nor an entry whose key is sent again. Beyond the limits there is
no reply, in whatever order the entries are sent.
-/

namespace SessionProbe

open Wire

/-! ### The struct of a body -/

/-- The values that a body is read as: the fields of a lone struct, else all values. -/
def Wire.Value.spread : List Value → List Value
  | [.struct fields] => fields
  | values => values

/-- The struct that a body is read as. -/
def Wire.Value.ofBody (values : List Value) : Value :=
  .struct (Value.spread values)

section Spread

variable {values others : List Value}
  {change : List (Value × Value) → List (Value × Value) → Prop}

theorem Wire.Value.eq_struct_of_ty {value : Value} {types : List Ty}
    (same : value.ty = .struct types) : ∃ fields, value = .struct fields := by
  cases value with
  | struct fields => exact ⟨fields, rfl⟩
  | _ => cases same

theorem Wire.Value.spread_eq_self (several : ∀ fields, values ≠ [.struct fields]) :
    Value.spread values = values := by
  unfold Value.spread
  split
  · rename_i fields
    exact absurd rfl (several fields)
  · rfl

theorem Wire.Value.types_ne_struct (several : ∀ fields, values ≠ [.struct fields])
    (types : List Ty) : Value.types values ≠ [.struct types] := by
  intro single
  rw [Value.types_eq_map] at single
  obtain ⟨value, rfl, same⟩ := List.map_eq_singleton_iff.mp single
  obtain ⟨fields, rfl⟩ := Value.eq_struct_of_ty same
  exact several fields rfl

theorem Wire.Value.Varies.ofBody (each : List.Forall₂ (Value.Varies change) values others) :
    (Value.ofBody values).Varies change (Value.ofBody others) := by
  have types : Value.types values = Value.types others :=
    Ty.struct.inj (Value.Varies.struct each).ty_eq
  unfold Value.ofBody
  by_cases lone : ∃ fields, values = [.struct fields]
  · obtain ⟨fields, rfl⟩ := lone
    obtain ⟨other, here, rfl⟩ : ∃ other, (Value.struct fields).Varies change other ∧
        others = [other] := by
      cases each with
      | cons here rest =>
          cases rest
          exact ⟨_, here, rfl⟩
    obtain ⟨inner, rfl⟩ := Value.eq_struct_of_ty here.ty_eq.symm
    exact here
  · have several (fields : List Value) : values ≠ [.struct fields] :=
      fun same => lone ⟨fields, same⟩
    have severalOthers (fields : List Value) : others ≠ [.struct fields] := by
      rintro rfl
      exact Value.types_ne_struct several _ types
    rw [Value.spread_eq_self several, Value.spread_eq_self severalOthers]
    exact Value.Varies.struct each

end Spread

/-! ### Reading a body -/

section Reading

variable {values : List Value} (order : ByteOrder)

/-- If the signature of a body can be read, its values can be just if they lie within the limits. -/
theorem Frame.values_ofValues (sound : Value.AreSound values) {types : List Ty}
    (read : (Frame.ofValues order values).types = .ok types) :
    ((Value.ofBody values).IsWithinLimits →
        (Frame.ofValues order values).values = .ok (Value.spread values)) ∧
      (¬(Value.ofBody values).IsWithinLimits →
        ∃ fault, (Frame.ofValues order values).values = .error fault) := by
  unfold Frame.values Value.ofBody
  by_cases lone : ∃ fields, values = [.struct fields]
  · obtain ⟨fields, rfl⟩ := lone
    rw [Frame.types_struct order sound.complete, Frame.ofValues_struct_body]
    exact Body.values_eq order sound.fields
  · have several (fields : List Value) : values ≠ [.struct fields] :=
      fun same => lone ⟨fields, same⟩
    have whole : types = Value.types values := by
      rw [Frame.types_eq sound.complete rfl (Value.types_ne_struct several)] at read
      split at read
      · cases read
      · exact (Except.ok.inj read).symm
    rw [Value.spread_eq_self several, read, whole]
    exact Body.values_eq order sound

theorem Reply.ofFrame_eq_error_of_values {frame : Frame} {fault : Fault}
    (some : frame.signature.isEmpty = false) (failed : frame.values = .error fault) :
    Reply.ofFrame frame = .error (.reply fault.message) := by
  unfold Reply.ofFrame
  rw [some, if_neg Bool.false_ne_true, failed]

theorem Reply.ofFrame_beyond (sound : Value.AreSound values)
    (beyond : ¬(Value.ofBody values).IsWithinLimits) :
    ∃ text, Reply.ofFrame (Frame.ofValues order values) = .error (.reply text) := by
  have some : (Frame.ofValues order values).signature.isEmpty = false := by
    cases values with
    | nil =>
        refine absurd ?_ beyond
        intro counted
        cases counted <;> decide
    | cons value rest => exact Ty.isEmpty_signatures_cons _ _
  cases read : (Frame.ofValues order values).types with
  | error fault =>
      have failed : (Frame.ofValues order values).values = .error fault := by
        unfold Frame.values
        rw [read]
      exact ⟨_, Reply.ofFrame_eq_error_of_values some failed⟩
  | ok types =>
      obtain ⟨fault, failed⟩ := (Frame.values_ofValues order sound read).2 beyond
      exact ⟨_, Reply.ofFrame_eq_error_of_values some failed⟩

end Reading

/-! ### Replies -/

section Replies

variable {values others : List Value}

theorem Frame.types_congr {frame other : Frame} (same : frame.signature = other.signature) :
    frame.types = other.types := by
  unfold Frame.types
  rw [same]

theorem Wire.Value.render_spread
    (same : (Value.ofBody values).normal = (Value.ofBody others).normal) :
    (Value.spread values).map Value.render = (Value.spread others).map Value.render := by
  have normals := Value.struct.inj same
  rw [Value.normals_eq_map, Value.normals_eq_map] at normals
  have texts := congrArg (List.map Value.bare) normals
  rw [List.map_map, List.map_map] at texts
  exact texts

/-- Within the limits, bodies of the same types give one reply if they are the same when sorted. -/
theorem Reply.ofFrame_congr (order other : ByteOrder) (sound : Value.AreSound values)
    (soundOthers : Value.AreSound others) (within : (Value.ofBody values).IsWithinLimits)
    (withinOthers : (Value.ofBody others).IsWithinLimits)
    (types : Value.types values = Value.types others)
    (same : (Value.ofBody values).normal = (Value.ofBody others).normal) :
    Reply.ofFrame (Frame.ofValues order values) = Reply.ofFrame (Frame.ofValues other others) := by
  have signature : (Frame.ofValues order values).signature =
      (Frame.ofValues other others).signature := congrArg Ty.signatures types
  have sameTypes := Frame.types_congr signature
  unfold Reply.ofFrame
  rw [signature]
  cases read : (Frame.ofValues order values).types with
  | error fault =>
      have readOthers := sameTypes.symm.trans read
      unfold Frame.values
      rw [read, readOthers]
  | ok inner =>
      have readOthers := sameTypes.symm.trans read
      rw [(Frame.values_ofValues order sound read).1 within,
        (Frame.values_ofValues other soundOthers readOthers).1 withinOthers]
      dsimp only
      rw [Value.render_spread same]

/-- How a reply depends on the entries that are sent. Within the limits of nesting, entries of plain
keys may change places at any depth, and entries may be left out whose key is sent again: the reply
stays as it is, in either byte order. Beyond the limits, the body is refused however the entries are
arranged. -/
theorem Reply.ofFrame_resent (sound : Value.AreSound values)
    (length : (Value.marshalAll .little 0 others).length < 2 ^ 32) :
    (List.Forall₂ (Value.Varies Resent) values others →
      (Value.ofBody values).IsWithinLimits → ∀ order other,
        Reply.ofFrame (Frame.ofValues order values) =
          Reply.ofFrame (Frame.ofValues other others)) ∧
    (List.Forall₂ (Value.Varies Rearranged) values others →
      ¬(Value.ofBody values).IsWithinLimits → ∀ order, ∃ text,
        Reply.ofFrame (Frame.ofValues order others) = .error (.reply text)) := by
  constructor
  · intro each within order other
    have soundOthers := sound.varied Resent.subset each length
    have varies := Value.Varies.ofBody each
    have withinOthers : (Value.ofBody others).IsWithinLimits :=
      fun counted => Nat.le_trans (varies.layers_le Resent.subset counted) (within counted)
    have types : Value.types values = Value.types others :=
      Ty.struct.inj (Value.Varies.struct each).ty_eq
    exact Reply.ofFrame_congr order other sound soundOthers within withinOthers types
      (varies.normal_eq Resent.sortEntries_eq)
  · intro each beyond order
    have kept {entries others : List (Value × Value)} (moved : Rearranged entries others) :
        others ⊆ entries := moved.same.symm.subset
    have soundOthers := sound.varied kept each length
    have back := (Value.Varies.ofBody each).symm Rearranged.symm
    refine Reply.ofFrame_beyond order soundOthers fun within => beyond fun counted => ?_
    exact Nat.le_trans (back.layers_le kept counted) (within counted)

end Replies

/-! ### Tables -/

section Tables

/-- A body that is one dictionary of names with values of any types. -/
def table (entries : List (String × Value)) : List Value :=
  [.dictionary (.basic .string) .variant
    (entries.map fun entry => (.scalar (.string entry.1), .variant entry.2))]

theorem table_areSound {entries : List (String × Value)}
    (names : ∀ entry ∈ entries, '\x00' ∉ entry.1.toList)
    (sound : ∀ entry ∈ entries, entry.2.IsSound)
    (short : ∀ entry ∈ entries, Text.Utf8.size entry.2.ty.signature ≤ 255)
    (length : (Value.marshalAll .little 0 (table entries)).length < 2 ^ 32) :
    Value.AreSound (table entries) := by
  refine ⟨⟨Value.entriesTyped_iff.mpr ?_, trivial⟩, ⟨⟨⟨_, rfl⟩, trivial⟩, trivial⟩,
    ⟨Value.entriesSendable_iff.mpr ?_, trivial⟩, length⟩
  · refine List.forall_mem_map.mpr fun entry member => ?_
    exact ⟨⟨rfl, trivial⟩, rfl, (sound entry member).typed⟩
  · refine List.forall_mem_map.mpr fun entry member => ?_
    exact ⟨names entry member, (sound entry member).complete, short entry member,
      (sound entry member).sendable⟩

theorem byte_isSound (value : UInt8) : (Value.scalar (.byte value)).IsSound :=
  ⟨trivial, trivial, trivial⟩

def byteTable (entries : List (UInt8 × UInt8)) : Value :=
  .array (.dictionary (.basic .byte) (.basic .byte))
    [.dictionary (.basic .byte) (.basic .byte)
      (entries.map fun entry => (.scalar (.byte entry.1), .scalar (.byte entry.2)))]

theorem byteTable_isSound (entries : List (UInt8 × UInt8)) : (byteTable entries).IsSound where
  typed := ⟨rfl, Value.entriesTyped_iff.mpr
    (List.forall_mem_map.mpr fun _ _ => ⟨⟨rfl, trivial⟩, rfl, trivial⟩), trivial⟩
  complete := ⟨⟨_, rfl⟩, trivial⟩
  sendable := ⟨Value.entriesSendable_iff.mpr
    (List.forall_mem_map.mpr fun _ _ => ⟨trivial, trivial⟩), trivial⟩

def firstTable : List Value :=
  table [("b", byteTable [(2, 4), (1, 3)]), ("a", .scalar (.byte 9)), ("a", .scalar (.byte 8))]

def lastTable : List Value :=
  table [("a", .scalar (.byte 8)), ("b", byteTable [(1, 3), (2, 4)])]

theorem rearranged_pair {first second : Value × Value} (plain : first.1.IsPlainKey)
    (plainSecond : second.1.IsPlainKey) (differ : first.1 ≠ second.1) :
    Rearranged [first, second] [second, first] :=
  ⟨List.forall_mem_cons.mpr ⟨plain, List.forall_mem_singleton.mpr plainSecond⟩, by simp [differ],
    .swap _ _ _⟩

/-- Of the two entries of one name the first is left out, the entries left change places, and so do
those of the dictionary inside. -/
theorem firstTable_resent : List.Forall₂ (Value.Varies Resent) firstTable lastTable := by
  let b : Value × Value := (.scalar (.string "b"), .variant (byteTable [(2, 4), (1, 3)]))
  let a : Value × Value := (.scalar (.string "a"), .variant (.scalar (.byte 8)))
  let old : Value × Value := (.scalar (.string "a"), .variant (.scalar (.byte 9)))
  have named (name : String) : (Value.scalar (.string name)).IsPlainKey := Basic.noConfusion
  have numbered (number : UInt8) : (Value.scalar (.byte number)).IsPlainKey := Basic.noConfusion
  have dropped : Resent [b, old, a] [b, a] :=
    .inr (@Overwritten.entry [b] [a] _ _ (named "a") List.mem_cons_self)
  have moved : Resent [b, a] [a, b] :=
    .inl (rearranged_pair (named "b") (named "a") (by simp [a, b]))
  have inside : (byteTable [(2, 4), (1, 3)]).Varies Resent (byteTable [(1, 3), (2, 4)]) := by
    refine @Value.Varies.item _ _ [] [] _ _ (.entries (Or.inl ?_))
    exact rearranged_pair (numbered 2) (numbered 1) (by simp)
  refine .cons (.trans (.entries dropped) (.trans (.entries moved) ?_)) .nil
  exact @Value.Varies.entry _ _ _ [a] [] _ _ _ inside.content

theorem firstTable_areSound : Value.AreSound firstTable := by
  refine table_areSound (by decide) ?_ (by decide) (by decide)
  simp [byteTable_isSound, byte_isSound]

def nested (wrap : Value → Value) : (count : Nat) → Value
  | 0 => .scalar (.byte 7)
  | count + 1 => wrap (nested wrap count)

theorem nested_isSound {wrap : Value → Value}
    (keeps : ∀ value : Value, value.IsSound → (wrap value).IsSound) (count : Nat) :
    (nested wrap count).IsSound := by
  induction count with
  | zero => exact byte_isSound 7
  | succ count ih => exact keeps _ ih

def inStruct (value : Value) : Value :=
  .struct [value]

def inArray (value : Value) : Value :=
  .array value.ty [value]

theorem inStruct_isSound (value : Value) (sound : value.IsSound) : (inStruct value).IsSound :=
  ⟨⟨sound.typed, trivial⟩, ⟨List.cons_ne_nil _ _, sound.complete, trivial⟩, sound.sendable, trivial⟩

theorem inArray_isSound (value : Value) (sound : value.IsSound) : (inArray value).IsSound :=
  ⟨⟨rfl, sound.typed, trivial⟩, sound.complete, sound.sendable, trivial⟩

/-- A table with one struct too many and one array too many inside each other. -/
def deepTable : List Value :=
  table [("a", nested inStruct 32), ("b", nested inArray 32)]

def turnedTable : List Value :=
  table [("b", nested inArray 32), ("a", nested inStruct 32)]

theorem deepTable_rearranged :
    List.Forall₂ (Value.Varies Rearranged) deepTable turnedTable := by
  refine .cons (.entries (rearranged_pair ?_ ?_ ?_)) .nil
  · exact Basic.noConfusion
  · exact Basic.noConfusion
  · simp

theorem deepTable_areSound : Value.AreSound deepTable := by
  refine table_areSound (by decide) ?_ (by decide +kernel) (by decide +kernel)
  simp [nested_isSound inStruct_isSound, nested_isSound inArray_isSound]

theorem turnedTable_areSound : Value.AreSound turnedTable :=
  deepTable_areSound.varied (fun moved => moved.same.symm.subset) deepTable_rearranged
    (by decide +kernel)

theorem tables_shown :
    (Value.AreSound firstTable ∧ (Value.marshalAll .little 0 lastTable).length < 2 ^ 32 ∧
      List.Forall₂ (Value.Varies Resent) firstTable lastTable ∧
      (Value.ofBody firstTable).IsWithinLimits ∧
      ∀ order other, Reply.ofFrame (Frame.ofValues order firstTable) =
        Reply.ofFrame (Frame.ofValues other lastTable)) ∧
    (Value.AreSound deepTable ∧ (Value.marshalAll .little 0 turnedTable).length < 2 ^ 32 ∧
      List.Forall₂ (Value.Varies Rearranged) deepTable turnedTable ∧
      ¬(Value.ofBody deepTable).IsWithinLimits ∧
      ∀ order, ∃ text, Reply.ofFrame (Frame.ofValues order turnedTable) =
        .error (.reply text)) := by
  have short : (Value.marshalAll .little 0 lastTable).length < 2 ^ 32 := by decide
  have within : (Value.ofBody firstTable).IsWithinLimits := by
    intro counted
    cases counted <;> decide
  have beyond : ¬(Value.ofBody deepTable).IsWithinLimits := by
    intro inside
    exact absurd (inside .struct) (by decide +kernel)
  refine ⟨⟨firstTable_areSound, short, firstTable_resent, within, ?_⟩,
    deepTable_areSound, turnedTable_areSound.length, deepTable_rearranged, beyond, ?_⟩
  · exact (Reply.ofFrame_resent firstTable_areSound short).1 firstTable_resent within
  · exact (Reply.ofFrame_resent deepTable_areSound turnedTable_areSound.length).2
      deepTable_rearranged beyond

/-- Beyond the limits the order of entries shows in the refusal, and an entry whose key is sent
again is still read. -/
theorem deepTables_differ :
    (¬∀ values others : List Value, Value.AreSound values → Value.AreSound others →
      List.Forall₂ (Value.Varies Rearranged) values others →
      ∀ order, Reply.ofFrame (Frame.ofValues order values) =
        Reply.ofFrame (Frame.ofValues order others)) ∧
    (¬∀ values others : List Value, Value.AreSound values → Value.AreSound others →
      List.Forall₂ (Value.Varies Overwritten) values others →
      ∀ order, Reply.ofFrame (Frame.ofValues order values) =
        Reply.ofFrame (Frame.ofValues order others)) := by
  constructor
  · intro claim
    have same := claim deepTable turnedTable deepTable_areSound turnedTable_areSound
      deepTable_rearranged .little
    exact absurd same (by decide +kernel)
  · intro claim
    let twice := table [("k", nested inStruct 32), ("k", .scalar (.byte 7))]
    let once := table [("k", .scalar (.byte 7))]
    have dropped : List.Forall₂ (Value.Varies Overwritten) twice once := by
      refine .cons (.entries (@Overwritten.entry [] _ _ _ ?_ List.mem_cons_self)) .nil
      exact Basic.noConfusion
    have sound : Value.AreSound twice := by
      refine table_areSound (by decide) ?_ (by decide +kernel) (by decide +kernel)
      simp [nested_isSound inStruct_isSound, byte_isSound]
    have soundOnce := sound.varied Overwritten.subset dropped (by decide)
    have same := claim twice once sound soundOnce dropped .little
    exact absurd same (by decide +kernel)

end Tables

end SessionProbe
