import SessionProbe.Proofs.Text.Utf8
import SessionProbe.Text.Cut

set_option autoImplicit false

/-!
Where a text can be cut. `cut?_eq_some_iff` tells the two parts that a cut makes, and `IsCut` the
octets at which there is one: all of them in a text in ASCII, and in any text those of its fronts.
-/

namespace SessionProbe.Text

theorem width_append (first second : List Char) :
    width (first ++ second) = width first + width second := by
  rw [width, List.flatMap_append, List.length_append]
  rfl

theorem width_cons (c : Char) (rest : List Char) : width (c :: rest) = width [c] + width rest :=
  width_append [c] rest

theorem width_singleton_pos (c : Char) : 0 < width [c] := by
  rw [width, List.flatMap_singleton]
  exact Utf8.length_encodeChar_pos c

theorem width_eq_zero {text : List Char} (none : width text = 0) : text = [] := by
  cases text with
  | nil => rfl
  | cons c rest =>
      rw [width_cons] at none
      have some := width_singleton_pos c
      omega

theorem width_ascii {text : List Char} (ascii : ∀ c ∈ text, c.toNat < 0x80) :
    width text = text.length := by
  induction text with
  | nil => rfl
  | cons c rest ih =>
      have single : width [c] = 1 := by
        rw [width, List.flatMap_singleton, Utf8.encodeChar, if_pos (ascii c List.mem_cons_self)]
        rfl
      rw [width_cons, single, ih fun d later => ascii d (List.mem_cons_of_mem _ later),
        List.length_cons, Nat.add_comm]

/-! ### Cutting -/

theorem cut?_append (front back : List Char) :
    cut? (width front) (front ++ back) = some (front, back) := by
  induction front with
  | nil => simp only [width, List.flatMap_nil, List.length_nil, List.nil_append, cut?]
  | cons c front ih =>
      have some := width_singleton_pos c
      obtain ⟨octets, size⟩ : ∃ octets, width [c] + width front = octets + 1 :=
        ⟨width [c] + width front - 1, by omega⟩
      have left : octets + 1 - width [c] = width front := by omega
      rw [width_cons, size, List.cons_append, cut?, if_pos (by omega), left, ih]
      rfl

theorem cut?_eq_some_iff {octets : Nat} {text front back : List Char} :
    cut? octets text = some (front, back) ↔ text = front ++ back ∧ width front = octets := by
  constructor
  · intro cut
    induction text generalizing octets front with
    | nil =>
        cases octets with
        | zero => cases cut; exact ⟨rfl, rfl⟩
        | succ octets => cases cut
    | cons c rest ih =>
        cases octets with
        | zero => cases cut; exact ⟨rfl, rfl⟩
        | succ octets =>
            rw [cut?] at cut
            split at cut
            · rename_i fits
              obtain ⟨⟨inner, behind⟩, found, same⟩ := Option.map_eq_some_iff.mp cut
              cases same
              obtain ⟨rfl, size⟩ := ih found
              refine ⟨rfl, ?_⟩
              rw [width_cons]
              omega
            · cases cut
  · rintro ⟨rfl, rfl⟩
    exact cut?_append front back

/-- Whether a text can be cut at an octet. -/
def IsCut (text : List Char) (octets : Nat) : Prop :=
  ∃ front back, text = front ++ back ∧ width front = octets

theorem behind?_of_isCut {start : Nat} {text : List Char} (cut : IsCut text start) :
    ∃ part, behind? start text = some part := by
  obtain ⟨front, back, split, size⟩ := cut
  rw [behind?, cut?_eq_some_iff.mpr ⟨split, size⟩]
  exact ⟨back, rfl⟩

theorem between?_of_isCut {start stop : Nat} {text : List Char} (first : IsCut text start)
    (last : IsCut text stop) (order : start ≤ stop) :
    ∃ part, between? start stop text = some part := by
  obtain ⟨front, back, split, size⟩ := first
  obtain ⟨longer, rest, split', size'⟩ := last
  -- The cut further back leaves a front that goes on where the other front ends.
  obtain ⟨part, more⟩ : ∃ part, back = part ++ rest ∧ longer = front ++ part := by
    rcases List.append_eq_append_iff.mp (split.symm.trans split') with
      ⟨part, grown, left⟩ | ⟨part, grown, left⟩
    · exact ⟨part, left, grown⟩
    · have size'' := congrArg width grown
      rw [width_append] at size''
      have empty : part = [] := width_eq_zero (by omega)
      subst empty
      exact ⟨[], left.symm, by rw [grown, List.append_nil, List.append_nil]⟩
  have between : width part = stop - start := by
    rw [more.2, width_append] at size'
    omega
  rw [between?, cut?_eq_some_iff.mpr ⟨split, size⟩]
  exact ⟨part, by rw [more.1, ← between]; simp [cut?_append]⟩

/-! ### Where there is a cut -/

theorem IsCut.of_isPrefix {front text : List Char} {octets : Nat} (cut : IsCut front octets)
    (leads : front <+: text) : IsCut text octets := by
  obtain ⟨first, last, rfl, size⟩ := cut
  obtain ⟨rest, rfl⟩ := leads
  exact ⟨first, last ++ rest, List.append_assoc first last rest, size⟩

theorem isCut_of_ascii {text : List Char} (ascii : ∀ c ∈ text, c.toNat < 0x80) {octets : Nat}
    (inside : octets ≤ text.length) : IsCut text octets := by
  refine ⟨text.take octets, text.drop octets, (List.take_append_drop octets text).symm, ?_⟩
  rw [width_ascii fun c member => ascii c (List.mem_of_mem_take member), List.length_take]
  omega

end SessionProbe.Text
