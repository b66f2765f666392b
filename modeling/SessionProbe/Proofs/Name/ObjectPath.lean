import SessionProbe.Proofs.Name.Dotted

set_option autoImplicit false

/-!
Object paths: the check accepts the root and the paths made of elements, each behind a slash.
-/

namespace SessionProbe.Name

theorem pathElement_admits_iff (element : List Char) :
    pathElement.Admits element ↔ element ≠ [] ∧ ∀ c ∈ element, isWordChar c = true := by
  cases element with
  | nil => simp [ElementForm.Admits]
  | cons c rest => simp [ElementForm.Admits, pathElement, isWordChar_iff]

theorem checkPathRest_append_iff {afterSlash : Bool} {piece tail : List Char}
    (clean : '/' ∉ piece) (some : piece ≠ []) :
    checkPathRest afterSlash (piece ++ tail) = .ok () ↔
      pathElement.Admits piece ∧ checkPathRest false tail = .ok () := by
  rw [pathElement_admits_iff]
  induction piece generalizing afterSlash with
  | nil => exact absurd rfl some
  | cons c piece ih =>
      rw [List.mem_cons, not_or] at clean
      obtain ⟨notSlash, clean⟩ := clean
      have step : checkPathRest afterSlash (c :: (piece ++ tail)) =
          if isWordChar c then checkPathRest false (piece ++ tail) else .error (.strange c) := by
        rw [checkPathRest, if_neg (Ne.symm notSlash)]
      rw [List.cons_append, step, List.forall_mem_cons]
      by_cases word : isWordChar c = true
      · cases piece with
        | nil => simp [word]
        | cons d piece =>
            have rest := @ih false clean (List.cons_ne_nil d piece)
            rw [if_pos word, rest]
            simp [word]
      · simp [word]

/-- Behind a slash, nothing more stands or elements with a slash between each and the next. -/
theorem checkPathRest_pieces_iff {first : List Char} {rest : List (List Char)}
    (clean : ∀ piece ∈ first :: rest, '/' ∉ piece) :
    checkPathRest true (first ++ rest.flatMap ('/' :: ·)) = .ok () ↔
      first = [] ∧ rest = [] ∨ ∀ piece ∈ first :: rest, pathElement.Admits piece := by
  induction rest generalizing first with
  | nil =>
      by_cases empty : first = []
      · subst empty
        exact iff_of_true rfl (Or.inl ⟨rfl, rfl⟩)
      · rw [List.flatMap_nil,
          checkPathRest_append_iff (clean first List.mem_cons_self) empty]
        simp [empty, checkPathRest]
  | cons second others ih =>
      obtain ⟨cleanFirst, cleanRest⟩ := List.forall_mem_cons.mp clean
      have behind : checkPathRest false ((second :: others).flatMap ('/' :: ·)) = .ok () ↔
          ∀ piece ∈ second :: others, pathElement.Admits piece := by
        rw [List.flatMap_cons, List.cons_append, checkPathRest, if_pos rfl]
        rcases eq_or_ne (second ++ others.flatMap ('/' :: ·)) [] with nothing | more
        · have nothing' := List.append_eq_nil_iff.mp nothing
          rw [nothing]
          simp [nothing'.1, ElementForm.Admits]
        · have shape : ¬(second = [] ∧ others = []) := by
            rintro ⟨rfl, rfl⟩
            exact more rfl
          rw [if_neg Bool.false_ne_true, if_neg (by simpa using more), ih cleanRest]
          simp only [shape, false_or]
      by_cases empty : first = []
      · subst empty
        rw [List.forall_mem_cons]
        simp [checkPathRest, ElementForm.Admits]
      · rw [checkPathRest_append_iff cleanFirst empty, behind, List.forall_mem_cons]
        simp [empty]

theorem slash_not_mem_of_admits {piece : List Char} (admitted : pathElement.Admits piece) :
    '/' ∉ piece := by
  intro slash
  have word := ((pathElement_admits_iff piece).mp admitted).2 '/' slash
  exact absurd word (by decide)

theorem ascii_pieces {elements : List (List Char)}
    (admitted : ∀ element ∈ elements, pathElement.Admits element) :
    ∀ c ∈ elements.flatMap ('/' :: ·), c.toNat < 0x80 := by
  intro c member
  obtain ⟨element, among, inside⟩ := List.mem_flatMap.mp member
  rcases List.mem_cons.mp inside with rfl | further
  · decide
  · exact isWordChar_ascii (((pathElement_admits_iff element).mp (admitted element among)).2 c further)

/-- Octets are looked at, yet a path that is accepted has the same octets and characters. -/
theorem checkPath_eq_ok_iff (path : String) :
    checkPath path = .ok () ↔ Kind.objectPath.Describes path := by
  unfold checkPath Kind.Describes
  constructor
  · intro accepted
    split at accepted
    · cases accepted
    · rename_i octet rest octets
      split at accepted
      · rename_i slash
        subst slash
        obtain ⟨first, others, clean, rfl⟩ := exists_pieces '/' rest
        have same (ascii : ∀ c ∈ Text.Utf8.octets path, c.toNat < 0x80) :
            path.toList = '/' :: (first ++ others.flatMap ('/' :: ·)) := by
          rw [← octets, Text.Utf8.octets_eq_toList (Text.Utf8.ascii_of_octets ascii)]
        rcases (checkPathRest_pieces_iff clean).mp accepted with ⟨rfl, rfl⟩ | admitted
        · left
          apply String.toList_injective
          apply same
          rw [octets]
          exact List.forall_mem_singleton.mpr (by decide)
        · right
          refine ⟨first :: others, List.cons_ne_nil _ _, admitted, ?_⟩
          rw [same]
          · rfl
          · rw [octets]
            exact ascii_pieces admitted
      · cases accepted
  · rintro (rfl | ⟨elements, some, admitted, chars⟩)
    · rfl
    · have octets : Text.Utf8.octets path = elements.flatMap ('/' :: ·) := by
        rw [Text.Utf8.octets_eq_toList (chars ▸ ascii_pieces admitted), chars]
      cases elements with
      | nil => exact absurd rfl some
      | cons first others =>
          rw [octets, List.flatMap_cons, List.cons_append]
          dsimp only
          rw [if_pos rfl, checkPathRest_pieces_iff fun piece member =>
            slash_not_mem_of_admits (admitted piece member)]
          exact Or.inr admitted

end SessionProbe.Name
