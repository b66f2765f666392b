import SessionProbe.Journal.Directive
import SessionProbe.Proofs.Text.Cut

set_option autoImplicit false

/-!
When a directive crashes the program. Every part starts and ends at an octet that is passed on the
way through the text without blanks around it; `Draft.run_marked` keeps that along the way. So there
is a crash only if an octet between two characters of that text lies inside a character of the whole
one, and `Directive.crash_needs` says what this takes.
-/

namespace SessionProbe.Journal

open Text

variable {check : ValueCheck} {text : List Char}

def Stage.start? : Stage → Option Nat
  | .levelOrTarget index | .span index | .field index | .level index => some index
  | .start | .afterField | .afterSpan => none

/-- The part that is being read starts at a cut of the text, and not behind an octet. -/
def Draft.Marked (text : List Char) (index : Nat) (draft : Draft) : Prop :=
  ∀ start, draft.stage.start? = some start → IsCut text start ∧ start ≤ index

/-- There is no crash, and what there is has a property. -/
def Uncrashed {α : Type} (holds : α → Prop) : Except Mishap α → Prop
  | .ok value => holds value
  | .error mishap => mishap ≠ .crash

theorem Uncrashed.bind {α β : Type} {first : α → Prop} {second : β → Prop}
    {result : Except Mishap α} {next : α → Except Mishap β} (uncrashed : Uncrashed first result)
    (goesOn : ∀ value, first value → Uncrashed second (next value)) :
    Uncrashed second (result >>= next) := by
  cases result with
  | ok value => exact goesOn value uncrashed
  | error mishap => exact uncrashed

theorem uncrashed_refused {α : Type} {holds : α → Prop} (fault : DirectiveFault) :
    Uncrashed holds (.error (.refused fault)) :=
  Mishap.noConfusion

theorem uncrashed_cutOut {part? : Option (List Char)} (cut : ∃ part, part? = some part) :
    Uncrashed (fun _ => True) (cutOut part?) := by
  obtain ⟨part, rfl⟩ := cut
  trivial

theorem FieldFilter.uncrashed_parse (check : ValueCheck) (text : List Char) :
    Uncrashed (fun _ => True) (FieldFilter.parse check text) := by
  unfold FieldFilter.parse
  dsimp only
  split
  · trivial
  · split
    · trivial
    · exact uncrashed_refused _

/-! ### One character -/

section

variable {draft : Draft} {index : Nat} {c : Char}

theorem Draft.Marked.later {index' : Nat} (marked : draft.Marked text index)
    (order : index ≤ index') : draft.Marked text index' := by
  intro start started
  obtain ⟨cut, before⟩ := marked start started
  exact ⟨cut, Nat.le_trans before order⟩

theorem Draft.marked_of_none (none : draft.stage.start? = none) : draft.Marked text index := by
  intro start started
  rw [none] at started
  cases started

theorem Draft.marked_of_cut {start : Nat} (starts : draft.stage.start? = some start)
    (cut : IsCut text start) (order : start ≤ index) : draft.Marked text index := by
  intro start' started
  cases starts.symm.trans started
  exact ⟨cut, order⟩

theorem Draft.Marked.cut {start : Nat} (marked : draft.Marked text index)
    (here : IsCut text index) (starts : draft.stage.start? = some start) :
    Uncrashed (fun _ => True) (cutOut (between? start index text)) := by
  obtain ⟨cut, order⟩ := marked start starts
  exact uncrashed_cutOut (between?_of_isCut cut here order)

/-- A character leaves the part being read as it is, or ends it; then the next part starts at this
character or right behind it. -/
theorem Draft.step_marked (marked : draft.Marked text index) (here : IsCut text index)
    (behind : IsCut text (index + width [c])) :
    Uncrashed (Draft.Marked text (index + width [c])) (draft.step check text index c) := by
  have stays := marked.later (Nat.le_add_right index (width [c]))
  fun_cases Draft.step check text draft index c with
  | case1 => exact marked_of_cut rfl behind (Nat.le_refl _)
  | case2 _ _ starts =>
      rw [if_pos starts]
      exact marked_of_cut rfl here (Nat.le_add_right _ _)
  | case3 _ _ starts =>
      rw [if_neg starts]
      exact uncrashed_refused _
  | case4 _ read | case5 _ read =>
      refine (marked.cut here (congrArg Stage.start? read)).bind ?_
      intro part _
      exact marked_of_cut rfl behind (Nat.le_refl _)
  | case6 _ read =>
      refine (marked.cut here (congrArg Stage.start? read)).bind ?_
      intro part _
      exact marked_of_none rfl
  | case7 _ read =>
      refine (marked.cut here (congrArg Stage.start? read)).bind ?_
      intro part _
      exact marked_of_cut rfl behind (Nat.le_refl _)
  | case8 _ read =>
      refine (marked.cut here (congrArg Stage.start? read)).bind ?_
      intro part _
      split
      · exact uncrashed_refused _
      · refine (FieldFilter.uncrashed_parse check part).bind ?_
        intro field _
        exact marked_of_none rfl
  | case9 => exact marked_of_none rfl
  | case10 => exact marked_of_cut rfl behind (Nat.le_refl _)
  | case11 | case12 | case13 | case14 => exact stays
  | case15 | case16 => exact uncrashed_refused _

end

/-! ### A whole directive -/

/-- The characters of a text are read up to its end, from a front that is read, if the text can be
cut between any two of them. -/
theorem Draft.run_marked {front rest : List Char} {draft : Draft}
    (cuts : ∀ n, IsCut (front ++ rest) n → IsCut text n)
    (marked : draft.Marked text (width front)) :
    Uncrashed (Draft.Marked text (width (front ++ rest)))
      (draft.run check text (width front) rest) := by
  induction rest generalizing front draft with
  | nil =>
      rw [List.append_nil]
      exact marked
  | cons c rest ih =>
      have here : IsCut text (width front) := cuts _ ⟨front, c :: rest, rfl, rfl⟩
      have longer : front ++ c :: rest = (front ++ [c]) ++ rest := by
        rw [List.append_assoc, List.singleton_append]
      have behind : IsCut text (width front + width [c]) :=
        cuts _ ⟨front ++ [c], rest, longer, width_append front [c]⟩
      refine (step_marked marked here behind).bind ?_
      intro next marked'
      rw [← width_append] at marked' ⊢
      rw [longer] at cuts ⊢
      exact ih cuts marked'

theorem Draft.finish_uncrashed {draft : Draft} {index : Nat} (marked : draft.Marked text index) :
    Uncrashed (fun _ => True) (draft.finish text) := by
  have left {start : Nat} (read : draft.stage.start? = some start) :
      Uncrashed (fun _ => True) (cutOut (behind? start text)) :=
    uncrashed_cutOut (behind?_of_isCut (marked start read).1)
  unfold finish
  split
  case h_1 _ read =>
    refine (left (congrArg Stage.start? read)).bind ?_
    intro name _
    split <;> trivial
  case h_2 _ read =>
    refine (left (congrArg Stage.start? read)).bind ?_
    intro name _
    split
    · trivial
    · split
      · trivial
      · exact uncrashed_refused _
  case h_3 => trivial
  all_goals exact uncrashed_refused _

theorem Directive.parse_ne_crash (cuts : ∀ n, IsCut (trim text) n → IsCut text n) :
    Directive.parse check text ≠ .error .crash := by
  have marked : Draft.Marked text 0 {} := Draft.marked_of_none rfl
  have run : Uncrashed (Draft.Marked text (width (trim text)))
      (Draft.run check text {} 0 (trim text)) :=
    @Draft.run_marked check text [] (trim text) {} cuts marked
  have read : Uncrashed (fun _ => True) (Directive.parse check text) :=
    run.bind fun _ => Draft.finish_uncrashed
  intro crashed
  rw [crashed] at read
  exact read rfl

/-! ### What a crash takes -/

theorem trim_isPrefix (unblanked : ∀ c ∈ text.head?, isBlank c = false) : trim text <+: text := by
  have front : text.dropWhile isBlank = text := by
    cases text with
    | nil => rfl
    | cons c rest => rw [List.dropWhile_cons_of_neg (by simp [unblanked c rfl])]
  unfold trim
  rw [front]
  have tail := List.reverse_prefix.mpr (List.dropWhile_suffix (l := text.reverse) isBlank)
  rwa [List.reverse_reverse] at tail

theorem trim_sublist (text : List Char) : (trim text).Sublist text := by
  have back := List.dropWhile_sublist (l := (text.dropWhile isBlank).reverse) isBlank
  exact (List.sublist_reverse_iff.mp back).trans (List.dropWhile_sublist isBlank)

/-- A crash takes a blank in front of the directive, and a character outside ASCII, which may be that
blank. -/
theorem Directive.crash_needs (crashed : Directive.parse check text = .error .crash) :
    (∃ c ∈ text.head?, isBlank c = true) ∧ ∃ c ∈ text, 0x80 ≤ c.toNat := by
  constructor
  · apply Classical.byContradiction
    intro unblanked
    have leads : trim text <+: text := trim_isPrefix fun c first =>
      Bool.eq_false_iff.mpr fun blank => unblanked ⟨c, first, blank⟩
    exact parse_ne_crash (fun _ cut => cut.of_isPrefix leads) crashed
  · apply Classical.byContradiction
    intro none
    have ascii : ∀ c ∈ text, c.toNat < 0x80 := fun c member =>
      Nat.lt_of_not_le fun above => none ⟨c, member, above⟩
    refine parse_ne_crash ?_ crashed
    rintro n ⟨front, back, parts, rfl⟩
    have leads : front.Sublist text :=
      (parts ▸ List.sublist_append_left front back).trans (trim_sublist text)
    rw [width_ascii fun c member => ascii c (leads.mem member)]
    exact isCut_of_ascii ascii leads.length_le

/-- A blank in front shifts the end of the target into a character. -/
example : Directive.parse (fun _ => none) " é=info".toList = .error .crash := by rfl

end SessionProbe.Journal
