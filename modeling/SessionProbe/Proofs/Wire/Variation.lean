import SessionProbe.Proofs.Wire.Normal
import SessionProbe.Proofs.Wire.RoundTrip
import SessionProbe.Proofs.Wire.Sorting

set_option autoImplicit false

/-!
Values that differ in the entries of their dictionaries, at any depth. Such a value has the type of
the other, and the same text if sorting undoes every change; it can be sent if the other can, and is
nested no deeper, if no change adds an entry.
-/

namespace SessionProbe.Wire

/-- Whether a value turns into another by changes of the entries of dictionaries in it, one after
the other, in arrays, structs, variants and the values of dictionaries. -/
inductive Value.Varies (change : List (Value × Value) → List (Value × Value) → Prop) :
    Value → Value → Prop
  | same (value : Value) : Varies change value value
  | trans {value middle other : Value} (first : Varies change value middle)
      (second : Varies change middle other) : Varies change value other
  | entries {keyTy valueTy : Ty} {entries others : List (Value × Value)}
      (changed : change entries others) :
      Varies change (.dictionary keyTy valueTy entries) (.dictionary keyTy valueTy others)
  | content {value other : Value} (inner : Varies change value other) :
      Varies change (.variant value) (.variant other)
  | item {element : Ty} {front back : List Value} {value other : Value}
      (inner : Varies change value other) :
      Varies change (.array element (front ++ value :: back))
        (.array element (front ++ other :: back))
  | entry {keyTy valueTy : Ty} {front back : List (Value × Value)} {key value other : Value}
      (inner : Varies change value other) :
      Varies change (.dictionary keyTy valueTy (front ++ (key, value) :: back))
        (.dictionary keyTy valueTy (front ++ (key, other) :: back))
  | field {front back : List Value} {value other : Value} (inner : Varies change value other) :
      Varies change (.struct (front ++ value :: back)) (.struct (front ++ other :: back))

section Varies

variable {change : List (Value × Value) → List (Value × Value) → Prop} {value other : Value}
  {values others : List Value}

theorem Value.Varies.symm (back : ∀ {entries others}, change entries others → change others entries)
    (varies : value.Varies change other) : other.Varies change value := by
  induction varies with
  | same value => exact .same value
  | trans _ _ first second => exact second.trans first
  | entries changed => exact .entries (back changed)
  | content _ ih => exact ih.content
  | item _ ih => exact ih.item
  | entry _ ih => exact ih.entry
  | field _ ih => exact ih.field

theorem Value.Varies.struct (each : List.Forall₂ (Value.Varies change) values others) :
    (Value.struct values).Varies change (.struct others) := by
  -- The fields in front have varied already.
  suffices behind : ∀ front, (Value.struct (front ++ values)).Varies change
      (.struct (front ++ others)) from behind []
  induction each with
  | nil => exact fun front => .same _
  | @cons value other rest others here _ ih =>
      intro front
      refine Value.Varies.trans (.field here) ?_
      rw [List.append_cons, List.append_cons front other others]
      exact ih (front ++ [other])

theorem Value.Varies.ty_eq (varies : value.Varies change other) : value.ty = other.ty := by
  induction varies with
  | same value => rfl
  | trans _ _ first second => rw [first, second]
  | field _ ih =>
      simp only [Value.ty, Value.types_eq_map, List.map_append, List.map_cons, ih]
  | _ => rfl

/-- Changes that sorting undoes do not show in the sorted value. -/
theorem Value.Varies.normal_eq
    (sorted : ∀ {entries others}, change entries others →
      sortEntries (Value.normalEntries entries) = sortEntries (Value.normalEntries others))
    (varies : value.Varies change other) : value.normal = other.normal := by
  induction varies with
  | same value => rfl
  | trans _ _ first second => rw [first, second]
  | entries changed => rw [Value.normal, Value.normal, sorted changed]
  | content _ ih => rw [Value.normal, Value.normal, ih]
  | item _ ih =>
      simp only [Value.normal, Value.normals_eq_map, List.map_append, List.map_cons, ih]
  | entry _ ih =>
      simp only [Value.normal, Value.normalEntries_eq_map, List.map_append, List.map_cons,
        Prod.map, ih]
  | field _ ih =>
      simp only [Value.normal, Value.normals_eq_map, List.map_append, List.map_cons, ih]

section Kept

variable (kept : ∀ {entries others}, change entries others → others ⊆ entries)
include kept

theorem Value.Varies.layers_le (varies : value.Varies change other) (counted : Container) :
    other.layers counted ≤ value.layers counted := by
  induction varies with
  | same value => exact Nat.le_refl _
  | trans _ _ first second => exact Nat.le_trans second first
  | entries changed =>
      refine Nat.add_le_add_right (Value.entryLayers_le_iff.mpr fun entry member => ?_) _
      exact Value.layers_le_of_mem_entries (kept changed member)
  | content _ ih => exact Nat.add_le_add_right ih _
  | item _ ih =>
      simp only [Value.layers, Value.layersAll_append, Value.layersAll]
      omega
  | entry _ ih =>
      simp only [Value.layers, Value.entryLayers_append, Value.entryLayers]
      omega
  | field _ ih =>
      simp only [Value.layers, Value.layersAll_append, Value.layersAll]
      omega

theorem Value.Varies.isTyped (varies : value.Varies change other) (typed : value.IsTyped) :
    other.IsTyped := by
  induction varies with
  | same value => exact typed
  | trans _ _ first second => exact second (first typed)
  | entries changed =>
      have each := Value.entriesTyped_iff.mp typed
      exact Value.entriesTyped_iff.mpr fun entry member => each entry (kept changed member)
  | content _ ih => exact ih typed
  | item inner ih =>
      have each := Value.allTyped_iff.mp typed
      refine Value.allTyped_iff.mpr ?_
      rw [List.forall_mem_append, List.forall_mem_cons] at each ⊢
      exact ⟨each.1, ⟨inner.ty_eq.symm.trans each.2.1.1, ih each.2.1.2⟩, each.2.2⟩
  | entry inner ih =>
      have each := Value.entriesTyped_iff.mp typed
      refine Value.entriesTyped_iff.mpr ?_
      rw [List.forall_mem_append, List.forall_mem_cons] at each ⊢
      obtain ⟨before, ⟨ofKey, sameTy, inside⟩, behind⟩ := each
      exact ⟨before, ⟨ofKey, inner.ty_eq.symm.trans sameTy, ih inside⟩, behind⟩
  | field _ ih =>
      have each := Value.fieldsTyped_iff.mp typed
      refine Value.fieldsTyped_iff.mpr ?_
      rw [List.forall_mem_append, List.forall_mem_cons] at each ⊢
      exact ⟨each.1, ih each.2.1, each.2.2⟩

theorem Value.Varies.isSendable (varies : value.Varies change other)
    (sendable : value.IsSendable) : other.IsSendable := by
  induction varies with
  | same value => exact sendable
  | trans _ _ first second => exact second (first sendable)
  | entries changed =>
      have each := Value.entriesSendable_iff.mp sendable
      exact Value.entriesSendable_iff.mpr fun entry member => each entry (kept changed member)
  | content inner ih =>
      obtain ⟨complete, short, inside⟩ := sendable
      rw [inner.ty_eq] at complete short
      exact ⟨complete, short, ih inside⟩
  | item _ ih =>
      have each := Value.allSendable_iff.mp sendable
      refine Value.allSendable_iff.mpr ?_
      rw [List.forall_mem_append, List.forall_mem_cons] at each ⊢
      exact ⟨each.1, ih each.2.1, each.2.2⟩
  | entry _ ih =>
      have each := Value.entriesSendable_iff.mp sendable
      refine Value.entriesSendable_iff.mpr ?_
      rw [List.forall_mem_append, List.forall_mem_cons] at each ⊢
      exact ⟨each.1, ⟨each.2.1.1, ih each.2.1.2⟩, each.2.2⟩
  | field _ ih =>
      have each := Value.allSendable_iff.mp sendable
      refine Value.allSendable_iff.mpr ?_
      rw [List.forall_mem_append, List.forall_mem_cons] at each ⊢
      exact ⟨each.1, ih each.2.1, each.2.2⟩

/-- What varies from a body that can be sent can be sent, if it is short enough. -/
theorem Value.AreSound.varied (sound : Value.AreSound values)
    (each : List.Forall₂ (Value.Varies change) values others)
    (length : (Value.marshalAll .little 0 others).length < 2 ^ 32) : Value.AreSound others := by
  have varies := Value.Varies.struct each
  have types : Value.types values = Value.types others := Ty.struct.inj varies.ty_eq
  refine ⟨varies.isTyped kept sound.typed, ?_, varies.isSendable kept sound.sendable, length⟩
  rw [← types]
  exact sound.complete

end Kept

end Varies

/-! ### Changes that sorting undoes -/

section Changes

variable {entries others : List (Value × Value)}

theorem Rearranged.symm (moved : Rearranged entries others) : Rearranged others entries :=
  ⟨fun entry member => moved.plain entry (moved.same.mem_iff.mpr member),
    (moved.same.map Prod.fst).nodup_iff.mp moved.distinct, moved.same.symm⟩

theorem Rearranged.normalEntries (moved : Rearranged entries others) :
    Rearranged (Value.normalEntries entries) (Value.normalEntries others) := by
  have keys : entries.map (Prod.fst ∘ Prod.map Value.normal Value.normal) =
      entries.map Prod.fst :=
    List.map_congr_left fun entry member => (moved.plain entry member).normal_eq
  rw [Value.normalEntries_eq_map, Value.normalEntries_eq_map]
  refine ⟨List.forall_mem_map.mpr fun entry member => ?_, ?_, moved.same.map _⟩
  · rw [Prod.map_fst, (moved.plain entry member).normal_eq]
    exact moved.plain entry member
  · rw [List.map_map, keys]
    exact moved.distinct

theorem Overwritten.normalEntries (dropped : Overwritten entries others) :
    Overwritten (Value.normalEntries entries) (Value.normalEntries others) := by
  obtain ⟨plain, again⟩ := dropped
  rename_i key value
  obtain ⟨later, member, sameKey⟩ := List.mem_map.mp again
  simp only [Value.normalEntries_eq_map, List.map_append, List.map_cons, Prod.map]
  rw [plain.normal_eq]
  refine .entry plain (List.mem_map.mpr ⟨_, List.mem_map_of_mem member, ?_⟩)
  rw [Prod.map_fst, sameKey, plain.normal_eq]

theorem Overwritten.subset (dropped : Overwritten entries others) : others ⊆ entries := by
  obtain ⟨plain, again⟩ := dropped
  exact (List.sublist_cons_self _ _).append_left _ |>.subset

/-- Whether entries come to the same once they are sorted. -/
def Resent (entries others : List (Value × Value)) : Prop :=
  Rearranged entries others ∨ Overwritten entries others

theorem Resent.subset (resent : Resent entries others) : others ⊆ entries := by
  rcases resent with moved | dropped
  · exact moved.same.symm.subset
  · exact dropped.subset

theorem Resent.sortEntries_eq (resent : Resent entries others) :
    sortEntries (Value.normalEntries entries) = sortEntries (Value.normalEntries others) := by
  rcases resent with moved | dropped
  · exact moved.normalEntries.sortEntries_eq
  · exact dropped.normalEntries.sortEntries_eq

end Changes

end SessionProbe.Wire
