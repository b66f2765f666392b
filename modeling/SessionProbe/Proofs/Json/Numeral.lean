import SessionProbe.Json.Skip
import SessionProbe.Proofs.Json.Scan
import SessionProbe.Proofs.Text.Digits

set_option autoImplicit false

/-!
Going past numbers of any size. A number ends where no character of it can follow, and up to there
`skipNumber` goes.
-/

namespace SessionProbe.Json

open Text (Delimited delimited_cons)

/-- Whether a text cannot go on with a part of a number. -/
def Ended (text : List Char) : Prop :=
  ∀ c ∈ text.head?, c.isDigit = false ∧ c ≠ '.' ∧ c ≠ 'e' ∧ c ≠ 'E'

theorem Ended.delimited {text : List Char} (ended : Ended text) : Delimited text :=
  fun c first => (ended c first).1

/-! ### Digits -/

theorem Digits.exists_cons {text rest : List Char} (digits : Digits text rest) :
    ∃ c behind, text = c :: behind ∧ c.isDigit = true := by
  cases digits with
  | last digit => exact ⟨_, _, rfl, (isDigit_iff _).mpr digit⟩
  | more digit others => exact ⟨_, _, rfl, (isDigit_iff _).mpr digit⟩

theorem Digits.dropWhile_eq {text rest : List Char} (digits : Digits text rest)
    (ends : Delimited rest) : text.dropWhile Char.isDigit = rest := by
  induction digits with
  | last digit rest =>
      rw [List.dropWhile_cons_of_pos ((isDigit_iff _).mpr digit)]
      cases rest with
      | nil => rfl
      | cons c rest => exact List.dropWhile_cons_of_neg (by rw [ends c rfl]; decide)
  | more digit _ ih =>
      rw [List.dropWhile_cons_of_pos ((isDigit_iff _).mpr digit)]
      exact ih ends

theorem digits_dropWhile {c : Char} (text : List Char) (digit : c.isDigit = true) :
    Digits (c :: text) ((c :: text).dropWhile Char.isDigit) := by
  rw [List.dropWhile_cons_of_pos digit]
  have first := (isDigit_iff c).mp digit
  induction text generalizing c with
  | nil => exact .last first []
  | cons next text ih =>
      rw [List.dropWhile_cons]
      split
      · rename_i also
        exact .more first (ih also ((isDigit_iff next).mp also))
      · exact .last first _

theorem gives_skipDigits {text rest : List Char} (digits : Digits text rest)
    (ends : Delimited rest) : Gives skipDigits text () rest := by
  obtain ⟨c, behind, rfl, digit⟩ := digits.exists_cons
  refine (gives_peek _).bind ?_
  dsimp only [List.head?_cons]
  rw [if_pos digit]
  intro place
  rw [← digits.dropWhile_eq ends]
  exact ⟨_, rfl⟩

theorem Reads.skipDigits {nothing : Unit} {text rest : List Char}
    (reads : Reads skipDigits text nothing rest) : Digits text rest := by
  have next := reads.after (gives_peek text)
  cases text with
  | nil => exact absurd next (fails_fail _ _).not_reads
  | cons c text =>
      dsimp only [List.head?_cons] at next
      by_cases digit : c.isDigit = true
      · rw [if_pos digit] at next
        obtain ⟨place, stop, run⟩ := next
        cases run
        exact digits_dropWhile text digit
      · rw [if_neg digit] at next
        exact absurd next (fails_fail _ _).not_reads

/-! ### Exponents and fractions -/

def skipPower : Scan Unit := do
  match ← peek with
  | some '+' | some '-' =>
    skip
    skipDigits
  | _ => skipDigits

theorem gives_skipPower {text rest : List Char} (digits : Digits text rest)
    (ends : Delimited rest) : Gives skipPower text () rest := by
  obtain ⟨c, behind, rfl, digit⟩ := digits.exists_cons
  refine (gives_peek _).bind ?_
  dsimp only [List.head?_cons]
  split
  · rename_i plus
    cases plus
    exact absurd digit (by decide)
  · rename_i minus
    cases minus
    exact absurd digit (by decide)
  · exact gives_skipDigits digits ends

theorem gives_skipPower_signed {sign : Char} {text rest : List Char}
    (signed : sign = '+' ∨ sign = '-') (digits : Digits text rest) (ends : Delimited rest) :
    Gives skipPower (sign :: text) () rest := by
  refine (gives_peek _).bind ?_
  rcases signed with rfl | rfl
  · exact (gives_skip _ _).bind (gives_skipDigits digits ends)
  · exact (gives_skip _ _).bind (gives_skipDigits digits ends)

theorem Reads.skipPower {mark : Char} {nothing : Unit} {text rest : List Char}
    (marked : mark = 'e' ∨ mark = 'E') (reads : Reads skipPower text nothing rest) :
    Exponent (mark :: text) rest := by
  have next := reads.after (gives_peek text)
  split at next
  · rename_i plus
    obtain ⟨text, rfl⟩ := List.head?_eq_some_iff.mp plus
    exact .signed marked (.inl rfl) (next.after (gives_skip _ _)).skipDigits
  · rename_i minus
    obtain ⟨text, rfl⟩ := List.head?_eq_some_iff.mp minus
    exact .signed marked (.inr rfl) (next.after (gives_skip _ _)).skipDigits
  · exact .unsigned marked next.skipDigits

theorem gives_skipExponent {text rest : List Char} (exponent : Exponent text rest)
    (ended : Ended rest) : Gives skipExponent text () rest := by
  refine (gives_peek _).bind ?_
  cases exponent with
  | none =>
      split
      · rename_i mark
        exact absurd rfl (ended _ mark).2.2.1
      · rename_i mark
        exact absurd rfl (ended _ mark).2.2.2
      · exact gives_pure _ _
  | unsigned marked digits =>
      have power := gives_skipPower digits ended.delimited
      rcases marked with rfl | rfl
      · exact (gives_skip _ _).bind power
      · exact (gives_skip _ _).bind power
  | signed marked signed digits =>
      have power := gives_skipPower_signed signed digits ended.delimited
      rcases marked with rfl | rfl
      · exact (gives_skip _ _).bind power
      · exact (gives_skip _ _).bind power

theorem Reads.skipExponent {nothing : Unit} {text rest : List Char}
    (reads : Reads skipExponent text nothing rest) : Exponent text rest := by
  have next := reads.after (gives_peek text)
  split at next
  · rename_i mark
    obtain ⟨text, rfl⟩ := List.head?_eq_some_iff.mp mark
    exact Reads.skipPower (.inl rfl) (next.after (gives_skip _ _))
  · rename_i mark
    obtain ⟨text, rfl⟩ := List.head?_eq_some_iff.mp mark
    exact Reads.skipPower (.inr rfl) (next.after (gives_skip _ _))
  · rw [next.of_pure.2]
    exact .none _

def skipFraction : Scan Unit := do
  match ← peek with
  | some '.' =>
    skip
    skipDigits
    skipExponent
  | _ => skipExponent

theorem Exponent.delimited {text rest : List Char} (exponent : Exponent text rest)
    (ended : Ended rest) : Delimited text := by
  cases exponent with
  | none => exact ended.delimited
  | unsigned marked digits => exact delimited_cons _ (by rcases marked with rfl | rfl <;> rfl)
  | signed marked signed digits =>
      exact delimited_cons _ (by rcases marked with rfl | rfl <;> rfl)

theorem gives_skipFraction {text middle rest : List Char} (fraction : Fraction text middle)
    (exponent : Exponent middle rest) (ended : Ended rest) : Gives skipFraction text () rest := by
  have past := gives_skipExponent exponent ended
  refine (gives_peek _).bind ?_
  cases fraction with
  | none =>
      split
      · rename_i point
        obtain ⟨behind, rfl⟩ := List.head?_eq_some_iff.mp point
        cases exponent with
        | none => exact absurd rfl (ended _ rfl).2.1
        | unsigned marked digits => rcases marked with mark | mark <;> cases mark
        | signed marked signed digits => rcases marked with mark | mark <;> cases mark
      · exact past
  | digits digits =>
      have ends := exponent.delimited ended
      exact (gives_skip _ _).bind ((gives_skipDigits digits ends).bind past)

theorem Reads.skipFraction {nothing : Unit} {text rest : List Char}
    (reads : Reads skipFraction text nothing rest) :
    ∃ middle, Fraction text middle ∧ Exponent middle rest := by
  have next := reads.after (gives_peek text)
  split at next
  · rename_i point
    obtain ⟨text, rfl⟩ := List.head?_eq_some_iff.mp point
    obtain ⟨_, middle, digits, next⟩ := (next.after (gives_skip _ _)).bind
    exact ⟨middle, .digits digits.skipDigits, next.skipExponent⟩
  · exact ⟨text, .none text, next.skipExponent⟩

/-! ### Whole numbers -/

theorem Fraction.delimited {text middle rest : List Char} (fraction : Fraction text middle)
    (exponent : Exponent middle rest) (ended : Ended rest) : Delimited text := by
  cases fraction with
  | none => exact exponent.delimited ended
  | digits digits => exact delimited_cons _ rfl

theorem gives_skipNumber {text rest : List Char} (number : Unsigned text rest)
    (ended : Ended rest) : Gives skipNumber text () rest := by
  cases number with
  | @parts middle _ _ whole fraction exponent =>
      have ends := fraction.delimited exponent ended
      have past := gives_skipFraction fraction exponent ended
      refine (gives_peek _).bind ?_
      cases whole with
      | zero =>
          refine (gives_skip _ _).bind ((gives_peek _).bind ?_)
          cases middle with
          | nil => exact past
          | cons c middle =>
              dsimp only [List.head?_cons]
              rw [ends c rfl, if_neg Bool.false_ne_true]
              exact past
      | digits first digits =>
          dsimp only [List.head?_cons]
          split
          · rename_i zero
            exact absurd (Option.some.inj zero) first
          · exact (gives_skipDigits digits ends).bind past

theorem Reads.skipNumber {nothing : Unit} {text rest : List Char}
    (reads : Reads skipNumber text nothing rest) : Unsigned text rest := by
  have next := reads.after (gives_peek text)
  dsimp only at next
  split at next
  · rename_i zero
    obtain ⟨text, rfl⟩ := List.head?_eq_some_iff.mp zero
    have next := (next.after (gives_skip _ _)).after (gives_peek text)
    have past : Reads Json.skipFraction text nothing rest := by
      split at next
      · split at next
        · obtain ⟨_, middle, failed, _⟩ := next.bind
          exact absurd failed (fails_fail _ _).not_reads
        · exact next
      · exact next
    obtain ⟨middle, fraction, exponent⟩ := past.skipFraction
    exact .parts (.zero text) fraction exponent
  · rename_i other
    obtain ⟨_, middle, digits, next⟩ := next.bind
    have past : Reads Json.skipFraction middle nothing rest := next
    obtain ⟨behind, fraction, exponent⟩ := past.skipFraction
    have digits := digits.skipDigits
    obtain ⟨c, text, rfl, digit⟩ := digits.exists_cons
    exact .parts (.digits (fun zero => other (congrArg some zero)) digits) fraction exponent

end SessionProbe.Json
