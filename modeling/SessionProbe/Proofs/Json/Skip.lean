import SessionProbe.Proofs.Json.Numeral
import SessionProbe.Proofs.Json.Quotation

set_option autoImplicit false

/-!
Going past values of any depth. `skipValue` stops behind the values of the grammar and refuses all
other texts. Its steps are counted down, so each rule of the grammar has to leave less text.
-/

namespace SessionProbe.Json

/-! ### Lengths -/

theorem Blanks.length_le {text rest : List Char} (blanks : Blanks text rest) :
    rest.length ≤ text.length := by
  induction blanks with
  | none text => exact Nat.le_refl _
  | more blank _ ih => exact Nat.le_succ_of_le ih

theorem Digits.length_lt {text rest : List Char} (digits : Digits text rest) :
    rest.length < text.length := by
  induction digits with
  | last digit rest => exact Nat.lt_succ_self _
  | more digit _ ih => exact Nat.lt_succ_of_lt ih

theorem Whole.length_lt {text rest : List Char} (whole : Whole text rest) :
    rest.length < text.length := by
  cases whole with
  | zero => exact Nat.lt_succ_self _
  | digits first digits => exact digits.length_lt

theorem Fraction.length_le {text rest : List Char} (fraction : Fraction text rest) :
    rest.length ≤ text.length := by
  cases fraction with
  | none => exact Nat.le_refl _
  | digits digits => exact Nat.le_of_lt (Nat.lt_succ_of_lt digits.length_lt)

theorem Exponent.length_le {text rest : List Char} (exponent : Exponent text rest) :
    rest.length ≤ text.length := by
  cases exponent with
  | none => exact Nat.le_refl _
  | unsigned marked digits => exact Nat.le_of_lt (Nat.lt_succ_of_lt digits.length_lt)
  | signed marked signed digits =>
      exact Nat.le_of_lt (Nat.lt_succ_of_lt (Nat.lt_succ_of_lt digits.length_lt))

theorem Unsigned.length_lt {text rest : List Char} (number : Unsigned text rest) :
    rest.length < text.length := by
  cases number with
  | parts whole fraction exponent =>
      exact Nat.lt_of_le_of_lt (Nat.le_trans exponent.length_le fraction.length_le) whole.length_lt

theorem Numeral.length_lt {text rest : List Char} (numeral : Numeral text rest) :
    rest.length < text.length := by
  cases numeral with
  | positive magnitude => exact magnitude.length_lt
  | negative magnitude => exact Nat.lt_succ_of_lt magnitude.length_lt

theorem Quotation.length_lt {text rest : List Char} (quotation : Quotation text rest) :
    rest.length < text.length := by
  induction quotation with
  | close rest => exact Nat.lt_succ_self _
  | plain plain _ ih => exact Nat.lt_succ_of_lt ih
  | escape form _ ih => exact Nat.lt_succ_of_lt (Nat.lt_trans ih form.length_lt)

theorem Form.length_lt {part : Part} {text rest : List Char} (form : Form part text rest) :
    rest.length < text.length := by
  induction form with
  | null rest | true rest | false rest => simp only [List.length_cons]; omega
  | number numeral => exact numeral.length_lt
  | string means => exact Nat.lt_succ_of_lt means.quotation.length_lt
  | map _ ih => exact ih
  | emptyList close | emptyObject close =>
      exact Nat.lt_succ_of_le (Nat.le_of_succ_le close.length_le)
  | list before _ ih | object before _ ih =>
      exact Nat.lt_succ_of_lt (Nat.lt_of_lt_of_le ih before.length_le)
  | lastItem _ close ih | lastMember _ close ih =>
      exact Nat.lt_trans (Nat.lt_of_succ_le close.length_le) ih
  | nextItem _ comma before _ first others | nextMember _ comma before _ first others =>
      have left := comma.length_le
      have next := before.length_le
      rw [List.length_cons] at left
      omega
  | member named colon before _ ih =>
      have key := named.quotation.length_lt
      have left := colon.length_le
      have next := before.length_le
      rw [List.length_cons] at left ⊢
      omega

/-! ### Around values -/

theorem Blanks.trans {text middle rest : List Char} (first : Blanks text middle)
    (second : Blanks middle rest) : Blanks text rest := by
  induction first with
  | none text => exact second
  | more blank _ ih => exact .more blank (ih second)

def Closed (text : List Char) : Prop :=
  ∀ c ∈ text.head?, isBlank c = true ∨ c = ',' ∨ c = ']' ∨ c = '\x7d'

theorem closed_cons {c : Char} (closing : c = ',' ∨ c = ']' ∨ c = '\x7d') (text : List Char) :
    Closed (c :: text) := by
  intro first here
  cases here
  exact .inr closing

theorem Blanks.closed {text rest : List Char} (blanks : Blanks text rest) (closed : Closed rest) :
    Closed text := by
  cases blanks with
  | none => exact closed
  | more blank others =>
      intro c first
      cases first
      exact .inl ((isBlank_iff _).mpr blank)

theorem Closed.ended {text : List Char} (closed : Closed text) : Ended text := by
  intro c first
  rcases closed c first with blank | rfl | rfl | rfl
  · rcases (isBlank_iff c).mp blank with rfl | rfl | rfl | rfl <;> decide
  all_goals decide

/-- How values and members begin: with no blank, and with nothing that closes. -/
structure Opens (c : Char) : Prop where
  isBlank : isBlank c = false
  notListEnd : c ≠ ']'
  notObjectEnd : c ≠ '\x7d'

theorem opens_of_isDigit {c : Char} (digit : c.isDigit = true) : Opens c := by
  refine ⟨?_, ?_, ?_⟩
  · rw [Bool.eq_false_iff]
    intro blank
    rcases (isBlank_iff c).mp blank with rfl | rfl | rfl | rfl <;> cases digit
  · rintro rfl
    cases digit
  · rintro rfl
    cases digit

theorem Unsigned.opens {text rest : List Char} (number : Unsigned text rest) :
    ∃ c behind, text = c :: behind ∧ c.isDigit = true := by
  cases number with
  | parts whole fraction exponent =>
      cases whole with
      | zero => exact ⟨_, _, rfl, rfl⟩
      | digits first digits => exact digits.exists_cons

theorem Form.opens {part : Part} {text rest : List Char} (form : Form part text rest) :
    ∃ c behind, text = c :: behind ∧ Opens c := by
  induction form with
  | number numeral =>
      cases numeral with
      | positive magnitude =>
          obtain ⟨c, behind, rfl, digit⟩ := magnitude.opens
          exact ⟨c, behind, rfl, opens_of_isDigit digit⟩
      | negative magnitude => exact ⟨_, _, rfl, by decide, by decide, by decide⟩
  | map _ ih | lastItem _ _ ih | nextItem _ _ _ _ ih | lastMember _ _ ih | nextMember _ _ _ _ ih =>
      exact ih
  | _ => exact ⟨_, _, rfl, by decide, by decide, by decide⟩

/-! ### Along a value -/

theorem gives_word (letters text : List Char) : Gives (word letters) (letters ++ text) () text := by
  induction letters with
  | nil => exact gives_pure () text
  | cons c letters ih =>
      refine (gives_peek _).bind ?_
      dsimp only [List.cons_append, List.head?_cons]
      rw [if_pos rfl]
      exact (gives_skip _ _).bind ih

theorem Opens.solid {c : Char} (opens : Opens c) (text : List Char) : Solid (c :: text) :=
  solid_cons opens.isBlank text

/-- What going past a part comes to, from the blanks in front of it and with enough steps left. -/
def Part.Passed : Part → List Char → List Char → Prop
  | .value _, text, rest | .object _, text, rest =>
      Closed rest → ∀ {fuel before}, 2 * text.length ≤ fuel → Blanks before text →
        Gives (skipValueWith (fuel + 1)) before () rest
  | .items, text, rest =>
      ∀ {fuel before}, 2 * text.length ≤ fuel → Blanks before text →
        Gives (do skipValueWith (fuel + 1); skipItems (fuel + 1) false) before () rest
  | .member _, text, rest =>
      Closed rest → ∀ {fuel before}, 2 * text.length ≤ fuel → Blanks before text →
        ∃ middle, Gives skipKey before () middle ∧ Gives (skipValueWith (fuel + 1)) middle () rest
  | .members _, text, rest =>
      ∀ {fuel before}, 2 * text.length ≤ fuel → Blanks before text →
        Gives (do skipKey; skipValueWith (fuel + 1); skipMembers (fuel + 1) false) before () rest

theorem gives_skipValueWith_number {text rest before : List Char} (numeral : Numeral text rest)
    (closed : Closed rest) {fuel : Nat} (blanks : Blanks before text) :
    Gives (skipValueWith (fuel + 1)) before () rest := by
  cases numeral with
  | positive magnitude =>
      have past := gives_skipNumber magnitude closed.ended
      obtain ⟨c, behind, rfl, digit⟩ := magnitude.opens
      refine (gives_peekPastBlanks blanks ((opens_of_isDigit digit).solid _)).bind ?_
      dsimp only [List.head?_cons]
      split
      all_goals first | exact absurd digit (by decide) | skip
      rw [if_pos digit]
      exact past
  | negative magnitude =>
      refine (gives_peekPastBlanks blanks (solid_cons rfl _)).bind ?_
      exact (gives_skip _ _).bind (gives_skipNumber magnitude closed.ended)

theorem gives_skipValueWith_list {before text rest : List Char} {fuel : Nat}
    (blanks : Blanks before ('[' :: text)) (inside : Gives (skipItems fuel true) text () rest) :
    Gives (skipValueWith (fuel + 1)) before () rest := by
  refine (gives_peekPastBlanks blanks (solid_cons rfl _)).bind ?_
  exact (gives_skip _ _).bind inside

theorem gives_skipValueWith_object {before text rest : List Char} {fuel : Nat}
    (blanks : Blanks before ('\x7b' :: text))
    (inside : Gives (skipMembers fuel true) text () rest) :
    Gives (skipValueWith (fuel + 1)) before () rest := by
  refine (gives_peekPastBlanks blanks (solid_cons rfl _)).bind ?_
  exact (gives_skip _ _).bind inside

theorem gives_skipItems_close {text rest : List Char} (close : Blanks text (']' :: rest))
    {fuel : Nat} {first : Bool} : Gives (skipItems (fuel + 1) first) text () rest := by
  refine (gives_peekPastBlanks close (solid_cons rfl _)).bind ?_
  exact gives_skip _ _

theorem gives_skipMembers_close {text rest : List Char} (close : Blanks text ('\x7d' :: rest))
    {fuel : Nat} {first : Bool} : Gives (skipMembers (fuel + 1) first) text () rest := by
  refine (gives_peekPastBlanks close (solid_cons rfl _)).bind ?_
  exact gives_skip _ _

theorem gives_skipItems_first {text start rest : List Char} {fuel : Nat}
    (before : Blanks text start) (form : Form .items start rest)
    (items : Gives (do skipValueWith fuel; skipItems fuel false) start () rest) :
    Gives (skipItems (fuel + 1) true) text () rest := by
  obtain ⟨c, behind, rfl, opens⟩ := form.opens
  refine (gives_peekPastBlanks before (opens.solid _)).bind ?_
  dsimp only [List.head?_cons]
  rw [if_neg opens.notListEnd, if_pos rfl]
  exact items

theorem gives_skipMembers_first {listed : List Member} {text start rest : List Char} {fuel : Nat}
    (before : Blanks text start) (form : Form (.members listed) start rest)
    (members :
      Gives (do skipKey; skipValueWith fuel; skipMembers fuel false) start () rest) :
    Gives (skipMembers (fuel + 1) true) text () rest := by
  obtain ⟨c, behind, rfl, opens⟩ := form.opens
  refine (gives_peekPastBlanks before (opens.solid _)).bind ?_
  dsimp only [List.head?_cons]
  rw [if_neg opens.notObjectEnd, if_pos rfl]
  exact members

theorem gives_skipItems_next {text next rest : List Char} {fuel : Nat}
    (comma : Blanks text (',' :: next))
    (items : Gives (do skipValueWith fuel; skipItems fuel false) next () rest) :
    Gives (skipItems (fuel + 1) false) text () rest := by
  refine (gives_peekPastBlanks comma (solid_cons rfl _)).bind ?_
  exact (gives_skip _ _).bind items

theorem gives_skipMembers_next {text next rest : List Char} {fuel : Nat}
    (comma : Blanks text (',' :: next))
    (members :
      Gives (do skipKey; skipValueWith fuel; skipMembers fuel false) next () rest) :
    Gives (skipMembers (fuel + 1) false) text () rest := by
  refine (gives_peekPastBlanks comma (solid_cons rfl _)).bind ?_
  exact (gives_skip _ _).bind members

theorem gives_skipKey {before key behind next : List Char} {name : Option String}
    (blanks : Blanks before ('"' :: key)) (named : Means name key behind)
    (colon : Blanks behind (':' :: next)) : Gives skipKey before () next := by
  refine (gives_peekPastBlanks blanks (solid_cons rfl _)).bind ?_
  refine (gives_skip _ _).bind ((gives_skipString named.quotation).bind ?_)
  refine (gives_peekPastBlanks colon (solid_cons rfl _)).bind ?_
  exact gives_skip _ _

theorem Form.passed {part : Part} {text rest : List Char} (form : Form part text rest) :
    part.Passed text rest := by
  -- A bracket, comma or key costs a step and is at least one character, so that two steps for each
  -- character last to the end.
  induction form with
  | null rest | true rest | false rest =>
      intro closed fuel before enough blanks
      refine (gives_peekPastBlanks blanks (solid_cons rfl _)).bind ?_
      exact (gives_skip _ _).bind (gives_word _ rest)
  | number numeral =>
      intro closed fuel before enough blanks
      exact gives_skipValueWith_number numeral closed blanks
  | string means =>
      intro closed fuel before enough blanks
      refine (gives_peekPastBlanks blanks (solid_cons rfl _)).bind ?_
      exact (gives_skip _ _).bind (gives_skipString means.quotation)
  | map _ ih => exact ih
  | emptyList close =>
      intro closed fuel before enough blanks
      obtain ⟨fuel, rfl⟩ := Nat.exists_eq_add_of_le' (Nat.le_trans (Nat.le_add_left 2 _) enough)
      exact gives_skipValueWith_list blanks (gives_skipItems_close close)
  | list before items ih =>
      intro closed fuel blanksBefore enough blanks
      obtain ⟨fuel, rfl⟩ := Nat.exists_eq_add_of_le' (Nat.le_trans (Nat.le_add_left 2 _) enough)
      have shorter := before.length_le
      rw [List.length_cons] at enough
      have inside := ih (show _ ≤ fuel by omega) (.none _)
      exact gives_skipValueWith_list blanks (gives_skipItems_first before items inside)
  | emptyObject close =>
      intro closed fuel before enough blanks
      obtain ⟨fuel, rfl⟩ := Nat.exists_eq_add_of_le' (Nat.le_trans (Nat.le_add_left 2 _) enough)
      exact gives_skipValueWith_object blanks (gives_skipMembers_close close)
  | object before members ih =>
      intro closed fuel blanksBefore enough blanks
      obtain ⟨fuel, rfl⟩ := Nat.exists_eq_add_of_le' (Nat.le_trans (Nat.le_add_left 2 _) enough)
      have shorter := before.length_le
      rw [List.length_cons] at enough
      have inside := ih (show _ ≤ fuel by omega) (.none _)
      exact gives_skipValueWith_object blanks (gives_skipMembers_first before members inside)
  | lastItem value close ih =>
      intro fuel before enough blanks
      refine (ih (close.closed (closed_cons (.inr (.inl rfl)) _)) enough blanks).bind ?_
      exact gives_skipItems_close close
  | nextItem value comma before others valueIh othersIh =>
      intro fuel blanksBefore enough blanks
      have here := valueIh (comma.closed (closed_cons (.inl rfl) _)) enough blanks
      have passed := value.length_lt
      have left := comma.length_le
      have shorter := before.length_le
      rw [List.length_cons] at left
      obtain ⟨fuel, rfl⟩ := Nat.exists_eq_add_of_le' (show 1 ≤ fuel by omega)
      exact here.bind (gives_skipItems_next comma (othersIh (by omega) before))
  | member named colon before value ih =>
      intro closed fuel blanksBefore enough blanks
      have key := named.quotation.length_lt
      have left := colon.length_le
      have shorter := before.length_le
      rw [List.length_cons] at enough left
      exact ⟨_, gives_skipKey blanks named colon, ih closed (by omega) before⟩
  | lastMember here close ih =>
      intro fuel before enough blanks
      obtain ⟨middle, key, value⟩ :=
        ih (close.closed (closed_cons (.inr (.inr rfl)) _)) enough blanks
      exact key.bind (value.bind (gives_skipMembers_close close))
  | nextMember here comma before others hereIh othersIh =>
      intro fuel blanksBefore enough blanks
      obtain ⟨middle, key, value⟩ := hereIh (comma.closed (closed_cons (.inl rfl) _)) enough blanks
      have passed := here.length_lt
      have left := comma.length_le
      have shorter := before.length_le
      rw [List.length_cons] at left
      obtain ⟨fuel, rfl⟩ := Nat.exists_eq_add_of_le' (show 1 ≤ fuel by omega)
      have members := gives_skipMembers_next comma (othersIh (show _ ≤ fuel by omega) before)
      exact key.bind (value.bind members)

/-- Going past a value of any depth ends right behind it. -/
theorem gives_skipValue {before text rest : List Char} {said : Option String}
    (blanks : Blanks before text) (value : Form (.value said) text rest) (closed : Closed rest) :
    Gives skipValue before () rest := by
  apply Gives.after_get
  intro place
  have shorter := blanks.length_le
  exact value.passed closed (by dsimp only; omega) blanks

/-! ### Back from the end of a value -/

theorem Reads.of_word {letters text rest : List Char} {nothing : Unit}
    (reads : Reads (word letters) text nothing rest) : text = letters ++ rest := by
  induction letters generalizing text with
  | nil => exact reads.of_pure.2.symm
  | cons c letters ih =>
      have next := reads.after (gives_peek text)
      cases text with
      | nil => exact absurd next (fails_fail _ _).not_reads
      | cons first text =>
          dsimp only [List.head?_cons] at next
          by_cases same : first = c
          · rw [if_pos same] at next
            rw [same, ih (next.after (gives_skip _ _))]
            rfl
          · rw [if_neg same] at next
            exact absurd next (fails_fail _ _).not_reads

/-- What is left of a list, with or without values passed before. -/
def ItemsLeft (first : Bool) (text rest : List Char) : Prop :=
  Blanks text (']' :: rest) ∨
    if first then ∃ start, Blanks text start ∧ Form .items start rest
    else ∃ next start, Blanks text (',' :: next) ∧ Blanks next start ∧ Form .items start rest

/-- What is left of an object, with or without members passed before. -/
def MembersLeft (first : Bool) (text rest : List Char) : Prop :=
  Blanks text ('\x7d' :: rest) ∨
    ∃ listed,
      if first then ∃ start, Blanks text start ∧ Form (.members listed) start rest
      else ∃ next start, Blanks text (',' :: next) ∧ Blanks next start ∧
        Form (.members listed) start rest

theorem ItemsLeft.items {said : Option String} {text behind rest : List Char}
    (value : Form (.value said) text behind) (left : ItemsLeft false behind rest) :
    Form .items text rest := by
  rcases left with close | ⟨next, start, comma, before, others⟩
  · exact .lastItem value close
  · exact .nextItem value comma before others

theorem MembersLeft.members {member : Member} {text behind rest : List Char}
    (here : Form (.member member) text behind) (left : MembersLeft false behind rest) :
    ∃ listed, Form (.members listed) text rest := by
  rcases left with close | ⟨listed, next, start, comma, before, others⟩
  · exact ⟨_, .lastMember here close⟩
  · exact ⟨_, .nextMember here comma before others⟩

theorem ItemsLeft.value {text rest : List Char} (left : ItemsLeft true text rest) :
    Form (.value none) ('[' :: text) rest := by
  rcases left with close | ⟨start, before, items⟩
  · exact .emptyList close
  · exact .list before items

theorem MembersLeft.object {text rest : List Char} (left : MembersLeft true text rest) :
    ∃ listed, Form (.object listed) ('\x7b' :: text) rest := by
  rcases left with close | ⟨listed, start, before, members⟩
  · exact ⟨[], .emptyObject close⟩
  · exact ⟨listed, .object before members⟩

theorem Reads.skipKey {nothing : Unit} {text rest : List Char}
    (reads : Reads skipKey text nothing rest) :
    ∃ key name behind, Blanks text ('"' :: key) ∧ Means name key behind ∧
      Blanks behind (':' :: rest) := by
  obtain ⟨start, before, next⟩ := reads.after_blanks
  split at next
  · exact absurd next (fails_fail _ _).not_reads
  · rename_i quote
    obtain ⟨key, rfl⟩ := List.head?_eq_some_iff.mp quote
    obtain ⟨_, behind, name, next⟩ := (next.after (gives_skip _ _)).bind
    obtain ⟨said, named⟩ := name.skipString
    obtain ⟨stop, colon, next⟩ := next.after_blanks
    split at next
    · exact absurd next (fails_fail _ _).not_reads
    · rename_i found
      obtain ⟨last, rfl⟩ := List.head?_eq_some_iff.mp found
      rw [← next.of_skip] at colon
      exact ⟨key, said, behind, before, named, colon⟩
    · exact absurd next (fails_fail _ _).not_reads
  · exact absurd next (fails_fail _ _).not_reads

/-- What was passed, whenever going past values, lists and objects succeeds. -/
structure Passing (fuel : Nat) : Prop where
  value {nothing : Unit} {text rest : List Char} :
    Reads (skipValueWith fuel) text nothing rest →
      ∃ said start, Blanks text start ∧ Form (.value said) start rest
  items {first : Bool} {nothing : Unit} {text rest : List Char} :
    Reads (skipItems fuel first) text nothing rest → ItemsLeft first text rest
  members {first : Bool} {nothing : Unit} {text rest : List Char} :
    Reads (skipMembers fuel first) text nothing rest → MembersLeft first text rest

theorem Passing.more_items {fuel : Nat} (passing : Passing fuel) {nothing : Unit}
    {text rest : List Char}
    (reads : Reads (do skipValueWith fuel; skipItems fuel false) text nothing rest) :
    ∃ start, Blanks text start ∧ Form .items start rest := by
  obtain ⟨_, behind, here, next⟩ := reads.bind
  obtain ⟨said, start, before, value⟩ := passing.value here
  exact ⟨start, before, (passing.items next).items value⟩

theorem Passing.more_members {fuel : Nat} (passing : Passing fuel) {nothing : Unit}
    {text rest : List Char}
    (reads : Reads (do skipKey; skipValueWith fuel; skipMembers fuel false) text nothing rest) :
    ∃ listed start, Blanks text start ∧ Form (.members listed) start rest := by
  obtain ⟨_, middle, name, next⟩ := reads.bind
  obtain ⟨_, behind, here, next⟩ := next.bind
  obtain ⟨key, said, afterKey, before, named, colon⟩ := name.skipKey
  obtain ⟨value, start, beforeValue, form⟩ := passing.value here
  obtain ⟨listed, members⟩ :=
    (passing.members next).members (.member named colon beforeValue form)
  exact ⟨listed, _, before, members⟩

theorem Passing.value_step {fuel : Nat} (passing : Passing fuel) {nothing : Unit}
    {text rest : List Char} (reads : Reads (skipValueWith (fuel + 1)) text nothing rest) :
    ∃ said start, Blanks text start ∧ Form (.value said) start rest := by
  obtain ⟨start, before, next⟩ := reads.after_blanks
  -- The first character tells which rule of the grammar the value has to come from.
  suffices value : ∃ said, Form (.value said) start rest by
    obtain ⟨said, form⟩ := value
    exact ⟨said, start, before, form⟩
  cases start with
  | nil => exact absurd next (fails_fail _ _).not_reads
  | cons c start =>
      dsimp only [List.head?_cons] at next
      split at next
      · rw [(next.after (gives_skip _ _)).of_word]
        exact ⟨none, .null rest⟩
      · rw [(next.after (gives_skip _ _)).of_word]
        exact ⟨none, .true rest⟩
      · rw [(next.after (gives_skip _ _)).of_word]
        exact ⟨none, .false rest⟩
      · have magnitude := (next.after (gives_skip _ _)).skipNumber
        exact ⟨none, .number (.negative magnitude)⟩
      · obtain ⟨said, means⟩ := (next.after (gives_skip _ _)).skipString
        exact ⟨said, .string means⟩
      · exact ⟨none, (passing.items (next.after (gives_skip _ _))).value⟩
      · obtain ⟨listed, object⟩ := (passing.members (next.after (gives_skip _ _))).object
        exact ⟨none, .map object⟩
      · by_cases digit : c.isDigit = true
        · rw [if_pos digit] at next
          exact ⟨none, .number (.positive next.skipNumber)⟩
        · rw [if_neg digit] at next
          exact absurd next (fails_fail _ _).not_reads

theorem Passing.items_step {fuel : Nat} (passing : Passing fuel) {first : Bool} {nothing : Unit}
    {text rest : List Char} (reads : Reads (skipItems (fuel + 1) first) text nothing rest) :
    ItemsLeft first text rest := by
  obtain ⟨start, before, next⟩ := reads.after_blanks
  cases start with
  | nil => exact absurd next (fails_fail _ _).not_reads
  | cons c start =>
      dsimp only [List.head?_cons] at next
      by_cases close : c = ']'
      · rw [if_pos close] at next
        rw [close, ← next.of_skip] at before
        exact .inl before
      · rw [if_neg close] at next
        cases first with
        | true =>
            rw [if_pos rfl] at next
            obtain ⟨item, blanks, items⟩ := passing.more_items next
            exact .inr ⟨item, before.trans blanks, items⟩
        | false =>
            rw [if_neg Bool.false_ne_true] at next
            by_cases comma : c = ','
            · rw [if_pos comma] at next
              obtain ⟨item, blanks, items⟩ := passing.more_items (next.after (gives_skip _ _))
              rw [comma] at before
              exact .inr ⟨start, item, before, blanks, items⟩
            · rw [if_neg comma] at next
              exact absurd next (fails_fail _ _).not_reads

theorem Passing.members_step {fuel : Nat} (passing : Passing fuel) {first : Bool} {nothing : Unit}
    {text rest : List Char} (reads : Reads (skipMembers (fuel + 1) first) text nothing rest) :
    MembersLeft first text rest := by
  obtain ⟨start, before, next⟩ := reads.after_blanks
  cases start with
  | nil => exact absurd next (fails_fail _ _).not_reads
  | cons c start =>
      dsimp only [List.head?_cons] at next
      by_cases close : c = '\x7d'
      · rw [if_pos close] at next
        rw [close, ← next.of_skip] at before
        exact .inl before
      · rw [if_neg close] at next
        cases first with
        | true =>
            rw [if_pos rfl] at next
            obtain ⟨listed, member, blanks, members⟩ := passing.more_members next
            exact .inr ⟨listed, member, before.trans blanks, members⟩
        | false =>
            rw [if_neg Bool.false_ne_true] at next
            by_cases comma : c = ','
            · rw [if_pos comma] at next
              obtain ⟨listed, member, blanks, members⟩ :=
                passing.more_members (next.after (gives_skip _ _))
              rw [comma] at before
              exact .inr ⟨listed, start, member, before, blanks, members⟩
            · rw [if_neg comma] at next
              exact absurd next (fails_fail _ _).not_reads

theorem passing (fuel : Nat) : Passing fuel := by
  induction fuel with
  | zero =>
      exact ⟨fun reads => absurd reads (fails_fail _ _).not_reads,
        fun reads => absurd reads (fails_fail _ _).not_reads,
        fun reads => absurd reads (fails_fail _ _).not_reads⟩
  | succ fuel ih => exact ⟨ih.value_step, ih.items_step, ih.members_step⟩

/-- What `skipValue` goes past is a value behind blanks. -/
theorem Reads.skipValue {nothing : Unit} {text rest : List Char}
    (reads : Reads skipValue text nothing rest) :
    ∃ said start, Blanks text start ∧ Form (.value said) start rest := by
  obtain ⟨place, next⟩ := reads.after_get
  exact (passing _).value next

end SessionProbe.Json
