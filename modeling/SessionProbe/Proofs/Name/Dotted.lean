import Mathlib.Data.List.Basic
import SessionProbe.Proofs.Name.Grammar
import SessionProbe.Proofs.Text.Separated
import SessionProbe.Proofs.Text.Utf8

set_option autoImplicit false

/-!
Names made of elements between dots. `Alphabet.check_eq_ok_iff` says which texts a scan accepts, and
`Alphabet.dotted_iff` which of them have an element at either end.
-/

namespace SessionProbe.Name

/-! ### Pieces between separators -/

theorem intercalate_dot_eq (first : List Char) (rest : List (List Char)) :
    ['.'].intercalate (first :: rest) = first ++ rest.flatMap ('.' :: ·) :=
  Text.intercalate_cons_eq ['.'] first rest

theorem flatMap_append_singleton_eq_cons (separator : Char) (inner : List (List Char))
    (back : List Char) :
    ∃ tail, (inner ++ [back]).flatMap (separator :: ·) = separator :: tail := by
  cases inner with
  | nil => exact ⟨_, rfl⟩
  | cons piece rest => exact ⟨_, rfl⟩

/-- Every text is cut into pieces without separators. -/
theorem exists_pieces (separator : Char) (text : List Char) :
    ∃ first rest, (∀ piece ∈ first :: rest, separator ∉ piece) ∧
      text = first ++ rest.flatMap (separator :: ·) := by
  induction text with
  | nil => exact ⟨[], [], by simp, rfl⟩
  | cons c text ih =>
      obtain ⟨first, rest, clean, rfl⟩ := ih
      obtain ⟨cleanFirst, cleanRest⟩ := List.forall_mem_cons.mp clean
      by_cases separates : c = separator
      · subst separates
        refine ⟨[], first :: rest, ?_, rfl⟩
        exact List.forall_mem_cons.mpr ⟨List.not_mem_nil, clean⟩
      · refine ⟨c :: first, rest, ?_, rfl⟩
        refine List.forall_mem_cons.mpr ⟨?_, cleanRest⟩
        rw [List.mem_cons]
        rintro (same | inside)
        · exact separates same.symm
        · exact cleanFirst inside

/-! ### Dotted names -/

namespace Alphabet

variable {alphabet : Alphabet}

/-- The form of the elements that an alphabet spells. -/
def form (alphabet : Alphabet) : ElementForm where
  first c := alphabet.allows c = true ∧ (alphabet.digitFirst = true ∨ c.isDigit = false)
  further c := alphabet.allows c = true

theorem check_nil_iff {atStart dotted : Bool} :
    alphabet.check atStart dotted [] = .ok () ↔ dotted = true := by
  cases dotted <;> simp [check]

theorem check_dot_iff {atStart dotted : Bool} {rest : List Char} :
    alphabet.check atStart dotted ('.' :: rest) = .ok () ↔
      atStart = false ∧ alphabet.check true true rest = .ok () := by
  cases atStart <;> simp [check]

theorem check_inside_iff {dotted : Bool} {piece tail : List Char} (clean : '.' ∉ piece) :
    alphabet.check false dotted (piece ++ tail) = .ok () ↔
      (∀ c ∈ piece, alphabet.allows c = true) ∧ alphabet.check false dotted tail = .ok () := by
  induction piece with
  | nil => simp
  | cons c piece ih =>
      rw [List.mem_cons, not_or] at clean
      obtain ⟨notDot, clean⟩ := clean
      have step : alphabet.check false dotted (c :: (piece ++ tail)) =
          if alphabet.allows c then alphabet.check false dotted (piece ++ tail)
          else .error (.strange c) := by
        simp [check, Ne.symm notDot]
      rw [List.cons_append, step, List.forall_mem_cons]
      by_cases allowed : alphabet.allows c = true
      · simp [allowed, ih clean]
      · simp [allowed]

/-- Where an element has to start, an element stands, or there is nothing more. -/
theorem check_start_iff {dotted : Bool} {piece tail : List Char} (clean : '.' ∉ piece)
    (some : piece ≠ []) :
    alphabet.check true dotted (piece ++ tail) = .ok () ↔
      alphabet.form.Admits piece ∧ alphabet.check false dotted tail = .ok () := by
  cases piece with
  | nil => exact absurd rfl some
  | cons c piece =>
      rw [List.mem_cons, not_or] at clean
      obtain ⟨notDot, clean⟩ := clean
      have step : alphabet.check true dotted (c :: (piece ++ tail)) =
          if c.isDigit && !alphabet.digitFirst then .error .elementDigit
          else if alphabet.allows c then alphabet.check false dotted (piece ++ tail)
          else .error (.strange c) := by
        simp [check, Ne.symm notDot]
      have inside := @check_inside_iff alphabet dotted piece tail clean
      rw [List.cons_append, step]
      cases digit : c.isDigit <;> cases anywhere : alphabet.digitFirst <;>
        by_cases allowed : alphabet.allows c = true <;>
        simp [ElementForm.Admits, form, digit, anywhere, allowed, inside]

/-- Behind the first piece, each piece is an element; only the last one may be empty. -/
theorem check_pieces_iff {dotted : Bool} {inner : List (List Char)} {back : List Char}
    (clean : ∀ piece ∈ inner, '.' ∉ piece) (cleanBack : '.' ∉ back) :
    alphabet.check false dotted ((inner ++ [back]).flatMap ('.' :: ·)) = .ok () ↔
      (∀ piece ∈ inner, alphabet.form.Admits piece) ∧
        (back = [] ∨ alphabet.form.Admits back) := by
  induction inner generalizing dotted with
  | nil =>
      rw [List.nil_append, List.flatMap_singleton, check_dot_iff]
      cases back with
      | nil => simp [check]
      | cons c back =>
          have start := @check_start_iff alphabet true (c :: back) [] cleanBack
            (List.cons_ne_nil c back)
          rw [List.append_nil, check_nil_iff] at start
          simp [start]
  | cons piece inner ih =>
      obtain ⟨cleanPiece, cleanInner⟩ := List.forall_mem_cons.mp clean
      rw [List.cons_append, List.flatMap_cons, List.cons_append, check_dot_iff,
        List.forall_mem_cons]
      by_cases empty : piece = []
      · subst empty
        cases inner <;> simp [ElementForm.Admits, check]
      · rw [check_start_iff cleanPiece empty, ih cleanInner]
        simp [and_assoc]

theorem dot_not_mem_of_admits (noDot : alphabet.allows '.' = false) {piece : List Char}
    (admitted : alphabet.form.Admits piece) : '.' ∉ piece := by
  intro dot
  cases piece with
  | nil => cases dot
  | cons c rest =>
      obtain ⟨⟨allowed, _⟩, others⟩ := admitted
      rcases List.mem_cons.mp dot with rfl | later
      · rw [noDot] at allowed
        cases allowed
      · rw [others '.' later] at noDot
        cases noDot

/-- In front of the first dot stands an element, or nothing at all if the front is open. -/
theorem check_front_iff {atStart : Bool} (front : atStart = false → alphabet.digitFirst = true)
    {piece tail : List Char} (clean : '.' ∉ piece) :
    alphabet.check atStart false (piece ++ '.' :: tail) = .ok () ↔
      (alphabet.form.Admits piece ∨ (!atStart) = true ∧ piece = []) ∧
        alphabet.check false false ('.' :: tail) = .ok () := by
  cases atStart with
  | true =>
      by_cases empty : piece = []
      · subst empty
        simp [check, ElementForm.Admits]
      · rw [check_start_iff clean empty]
        simp
  | false =>
      rw [check_inside_iff clean]
      cases piece <;> simp [ElementForm.Admits, form, front rfl]

theorem check_undotted {atStart : Bool} {piece : List Char} (clean : '.' ∉ piece) :
    alphabet.check atStart false piece ≠ .ok () := by
  intro accepted
  rw [← List.append_nil piece] at accepted
  have ended : alphabet.check false false [] = .ok () := by
    cases atStart with
    | false => exact ((check_inside_iff clean).mp accepted).2
    | true =>
        by_cases empty : piece = []
        · subst empty
          exact absurd (check_nil_iff.mp accepted) (by decide)
        · exact ((check_start_iff clean empty).mp accepted).2
  exact absurd (check_nil_iff.mp ended) (by decide)

/-- A dotted name is accepted just when it is made of elements, of which the last may be left out.
So may be the first if it is not checked as the start of an element. -/
theorem check_eq_ok_iff (noDot : alphabet.allows '.' = false) {atStart : Bool} {text : List Char}
    (front : atStart = false → alphabet.digitFirst = true) :
    alphabet.check atStart false text = .ok () ↔ alphabet.form.Loose (!atStart) text := by
  constructor
  · intro accepted
    obtain ⟨first, rest, clean, rfl⟩ := exists_pieces '.' text
    obtain ⟨cleanFirst, cleanRest⟩ := List.forall_mem_cons.mp clean
    rcases List.eq_nil_or_concat rest with rfl | ⟨inner, back, rfl⟩
    · rw [List.flatMap_nil, List.append_nil] at accepted
      exact absurd accepted (check_undotted cleanFirst)
    · rw [List.concat_eq_append] at accepted cleanRest ⊢
      obtain ⟨cleanInner, cleanBack⟩ := List.forall_mem_append.mp cleanRest
      obtain ⟨tail, shape⟩ := flatMap_append_singleton_eq_cons '.' inner back
      rw [shape, check_front_iff front cleanFirst, ← shape,
        check_pieces_iff cleanInner (cleanBack back List.mem_cons_self)] at accepted
      obtain ⟨atFront, between, atBack⟩ := accepted
      exact ⟨first, inner, back, atFront, between, atBack, (intercalate_dot_eq _ _).symm⟩
  · rintro ⟨first, inner, back, atFront, between, atBack, rfl⟩
    have clean {piece : List Char} (admitted : alphabet.form.Admits piece) : '.' ∉ piece :=
      dot_not_mem_of_admits noDot admitted
    have cleanFirst : '.' ∉ first := by
      rcases atFront with admitted | ⟨_, rfl⟩
      · exact clean admitted
      · exact List.not_mem_nil
    have cleanBack : '.' ∉ back := by
      rcases atBack with rfl | admitted
      · exact List.not_mem_nil
      · exact clean admitted
    obtain ⟨tail, shape⟩ := flatMap_append_singleton_eq_cons '.' inner back
    rw [intercalate_dot_eq, shape, check_front_iff front cleanFirst, ← shape,
      check_pieces_iff (fun piece member => clean (between piece member)) cleanBack]
    exact ⟨atFront, between, atBack⟩

end Alphabet

/-! ### Names without open ends -/

theorem ElementForm.Admits.ne_nil {form : ElementForm} {element : List Char}
    (admitted : form.Admits element) : element ≠ [] := by
  rintro rfl
  exact admitted

theorem ElementForm.Loose.first {form : ElementForm} {c : Char} {rest : List Char}
    (loose : form.Loose false (c :: rest)) : form.first c := by
  obtain ⟨front, inner, back, atFront, _, _, shape⟩ := loose
  rcases atFront with admitted | ⟨impossible, _⟩
  · rw [intercalate_dot_eq] at shape
    cases front with
    | nil => exact absurd rfl admitted.ne_nil
    | cons d front =>
        cases shape
        exact admitted.1
  · cases impossible

theorem ElementForm.Dotted.three_le_size {form : ElementForm} {name : String}
    (dotted : form.Dotted name.toList) : 3 ≤ Text.Utf8.size name := by
  refine Nat.le_trans ?_ (Text.Utf8.length_le_size name)
  obtain ⟨elements, several, admitted, shape⟩ := dotted
  match elements, several with
  | first :: second :: others, _ =>
      have one := List.length_pos_iff.mpr (admitted first (by simp)).ne_nil
      have two := List.length_pos_iff.mpr (admitted second (by simp)).ne_nil
      rw [shape, intercalate_dot_eq, List.flatMap_cons]
      simp only [List.length_append, List.length_cons]
      omega

theorem getLast?_pieces (front : List Char) (inner : List (List Char)) (back : List Char) :
    (front ++ (inner ++ [back]).flatMap ('.' :: ·)).getLast? = (back.getLast?).or (some '.') := by
  rw [List.flatMap_append, List.flatMap_singleton, ← List.append_assoc, List.getLast?_append,
    List.getLast?_cons]
  cases back.getLast? <;> rfl

section Ends

variable {alphabet : Alphabet} (noDot : alphabet.allows '.' = false) {text : List Char}
include noDot

theorem Alphabet.head?_ne_of_loose (loose : alphabet.form.Loose false text) :
    text.head? ≠ some '.' := by
  cases text with
  | nil => simp
  | cons c rest =>
      rintro ⟨⟩
      have allowed := loose.first.1
      rw [noDot] at allowed
      cases allowed

/-- The names that the grammar describes are those that are accepted without an open end. -/
theorem Alphabet.dotted_iff (openFront : Bool) :
    alphabet.form.Dotted text ↔
      alphabet.form.Loose openFront text ∧ text.getLast? ≠ some '.' ∧ text.head? ≠ some '.' := by
  constructor
  · rintro ⟨elements, several, admitted, rfl⟩
    match elements, several with
    | front :: second :: others, _ =>
        obtain ⟨inner, back, rest⟩ :=
          List.eq_nil_or_concat (second :: others) |>.resolve_left (List.cons_ne_nil _ _)
        rw [List.concat_eq_append] at rest
        rw [rest] at admitted ⊢
        obtain ⟨atFront, behind⟩ := List.forall_mem_cons.mp admitted
        obtain ⟨between, atBack⟩ := List.forall_mem_append.mp behind
        have last := atBack back List.mem_cons_self
        refine ⟨⟨front, inner, back, Or.inl atFront, between, Or.inr last, rfl⟩, ?_, ?_⟩
        · rw [intercalate_dot_eq, getLast?_pieces]
          cases final : back.getLast? with
          | none => exact absurd (List.getLast?_eq_none_iff.mp final) last.ne_nil
          | some c =>
              rintro ⟨⟩
              exact dot_not_mem_of_admits noDot last (List.mem_of_getLast? final)
        · exact head?_ne_of_loose noDot
            ⟨front, inner, back, Or.inl atFront, between, Or.inr last, rfl⟩
  · rintro ⟨⟨front, inner, back, atFront, between, atBack, rfl⟩, closedBack, closedFront⟩
    rw [intercalate_dot_eq] at closedBack closedFront
    have first : alphabet.form.Admits front := by
      rcases atFront with admitted | ⟨_, rfl⟩
      · exact admitted
      · obtain ⟨tail, shape⟩ := flatMap_append_singleton_eq_cons '.' inner back
        rw [shape] at closedFront
        exact absurd rfl closedFront
    have last : alphabet.form.Admits back := by
      rcases atBack with rfl | admitted
      · rw [getLast?_pieces] at closedBack
        exact absurd rfl closedBack
      · exact admitted
    refine ⟨front :: (inner ++ [back]), by simp, ?_, rfl⟩
    exact List.forall_mem_cons.mpr ⟨first,
      List.forall_mem_append.mpr ⟨between, List.forall_mem_singleton.mpr last⟩⟩

end Ends

end SessionProbe.Name
