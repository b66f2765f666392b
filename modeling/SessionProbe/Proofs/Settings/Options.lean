import SessionProbe.Proofs.Json.Skip
import SessionProbe.Settings.Options

set_option autoImplicit false

/-!
Reading options from an object. The members are taken in one after another; what they come to is
told from their listing alone, whatever lies between them and in the values that are skipped.
-/

namespace SessionProbe.Settings

open Json

/-! ### Values -/

theorem fails_unwanted {α : Type} (expected : String) (text : List Char) :
    Fails (unwanted expected : Scan α) text := by
  have told (found : Found) (middle : List Char) :
      Fails (failHere (.unexpected found expected) : Scan α) middle :=
    fails_failHere _ middle
  refine fails_bind peek (fun first middle => ?_) text
  split
  iterate 3
    exact fails_bind skip (fun _ => fails_bind (word _) fun _ => told _) middle
  · exact fails_bind skip (fun _ => fails_bind (number true) fun _ => told _) middle
  · exact fails_bind skip (fun _ => fails_bind string fun _ => told _) middle
  · exact told _ middle
  · exact told _ middle
  · split
    · exact fails_bind (number false) (fun _ => told _) middle
    · exact fails_fail _ middle
  · exact fails_fail _ middle

theorem Form.string_or_other {said : Option String} {text rest : List Char}
    (value : Form (.value said) text rest) :
    (∃ behind, text = '"' :: behind ∧ Means said behind rest) ∨
      said = none ∧ text.head? ≠ some '"' := by
  cases value with
  | null | true | false | emptyList | list => exact .inr ⟨rfl, nofun⟩
  | string means => exact .inl ⟨_, rfl, means⟩
  | number numeral =>
      refine .inr ⟨rfl, fun quote => ?_⟩
      cases numeral with
      | negative => cases quote
      | positive magnitude =>
          obtain ⟨c, behind, rfl, digit⟩ := magnitude.opens
          cases quote
          cases digit
  | map object => cases object <;> exact .inr ⟨rfl, nofun⟩

theorem wantedString_ends {before text rest : List Char} {said : Option String}
    (blanks : Blanks before text) (value : Form (.value said) text rest) :
    Ends wantedString before said rest := by
  obtain ⟨c, behind, rfl, opens⟩ := value.opens
  refine (gives_peekPastBlanks blanks (opens.solid behind)).bind_ends ?_
  rcases Form.string_or_other value with ⟨behind, here, means⟩ | ⟨rfl, other⟩
  · cases here
    exact (gives_skip _ _).bind_ends (string_means means)
  · dsimp only [List.head?_cons] at other ⊢
    split
    · rename_i quote
      cases quote
    · rename_i quote
      exact absurd quote other
    · exact fails_unwanted _ _

theorem Reads.wantedString {text rest : List Char} {said : String}
    (reads : Reads wantedString text said rest) :
    ∃ start, Blanks text ('"' :: start) ∧ Means (some said) start rest := by
  obtain ⟨start, before, next⟩ := reads.after_blanks
  split at next
  · exact absurd next (fails_fail _ _).not_reads
  · rename_i quote
    obtain ⟨behind, rfl⟩ := List.head?_eq_some_iff.mp quote
    exact ⟨behind, before, (next.after (gives_skip _ _)).string⟩
  · exact absurd next (fails_unwanted _ _).not_reads

theorem gives_colon {text next : List Char} (blanks : Blanks text (':' :: next)) :
    Gives colon text () next := by
  refine (gives_peekPastBlanks blanks (solid_cons rfl _)).bind ?_
  exact gives_skip _ _

theorem Reads.colon {nothing : Unit} {text rest : List Char}
    (reads : Reads colon text nothing rest) : Blanks text (':' :: rest) := by
  obtain ⟨start, before, next⟩ := reads.after_blanks
  split at next
  · exact absurd next (fails_fail _ _).not_reads
  · rename_i found
    obtain ⟨behind, rfl⟩ := List.head?_eq_some_iff.mp found
    rw [next.of_skip]
    exact before
  · exact absurd next (fails_fail _ _).not_reads

theorem fails_repeatedFilter {α : Type} (text : List Char) :
    Fails (repeatedFilter : Scan α) text := by
  refine fails_bind peekPastBlanks (fun first middle => ?_) text
  split
  · exact fails_bind skip (fun _ => fails_failHere _) middle
  · exact fails_failHere _ middle

/-! ### Members -/

def memberValue (key : String) (found : Option String) : Scan (Option String) :=
  if key = logFilterKey then do
    if found.isSome then
      repeatedFilter
    colon
    some <$> wantedString
  else do
    colon
    skipValue
    pure found

def moreMembers (fuel : Nat) (found : Option String) : Scan (Option String) := do
  match ← peekPastBlanks with
  | none => fail .endInObject
  | some c =>
    if c = '\x7d' then
      skip
      return found
    else if c = ',' then
      skip
      match ← peekPastBlanks with
      | none => fail .endInValue
      | some '"' =>
        skip
        members fuel found
      | some '\x7d' => fail .trailingComma
      | some _ => fail .keyNotString
    else
      fail .expectedObjectEnd

theorem members_succ (fuel : Nat) (found : Option String) :
    members (fuel + 1) found = (do
      let key ← string
      let found ← memberValue key found
      moreMembers fuel found) := by
  rw [members]
  refine bind_congr fun key => ?_
  unfold memberValue
  by_cases named : key = logFilterKey
  · rw [if_pos named, if_pos named]
    cases found with
    | none => simp only [Option.isSome_none, Bool.false_eq_true, if_false, bind_assoc]; rfl
    | some filter => simp only [Option.isSome_some, if_true, bind_assoc]; rfl
  · rw [if_neg named, if_neg named]
    simp only [bind_assoc, pure_bind]
    rfl

/-- What is found after a member, with what was found before; nothing if that cannot be told. -/
def taken (found : Option String) (member : Member) : Option (Option String) :=
  match member.name with
  | none => none
  | some name =>
    if name = logFilterKey then
      if found.isSome then none else some <$> member.value
    else
      some found

theorem memberValue_ends {name : String} {said : Option String} {behind next start rest : List Char}
    (found : Option String) (toValue : Blanks behind (':' :: next)) (before : Blanks next start)
    (value : Form (.value said) start rest) (closed : Closed rest) :
    Ends (memberValue name found) behind (taken found ⟨some name, said⟩) rest := by
  unfold memberValue taken
  dsimp only
  by_cases named : name = logFilterKey
  · rw [if_pos named, if_pos named]
    cases found with
    | some filter => exact (fails_repeatedFilter behind).bind _
    | none =>
        refine (gives_colon toValue).bind_ends ?_
        rw [map_eq_pure_bind]
        exact (wantedString_ends before value).then_gives fun said => gives_pure (some said) rest
  · rw [if_neg named, if_neg named]
    exact (gives_colon toValue).bind
      ((gives_skipValue before value closed).bind (gives_pure found rest))

theorem member_ends {member : Member} {key rest : List Char} (found : Option String)
    (form : Form (.member member) ('"' :: key) rest) (closed : Closed rest) :
    Ends (do let name ← string; memberValue name found) key (taken found member) rest := by
  cases form with
  | @member name said _ _ _ _ _ named toValue before value =>
      have told : taken found ⟨name, said⟩ =
          name >>= fun name => taken found ⟨some name, said⟩ := by
        cases name <;> rfl
      rw [told]
      exact (string_means named).bind fun name =>
        memberValue_ends found toValue before value closed

theorem moreMembers_close {text rest : List Char} (close : Blanks text ('\x7d' :: rest))
    (fuel : Nat) (found : Option String) : Gives (moreMembers fuel found) text found rest := by
  refine (gives_peekPastBlanks close (solid_cons rfl _)).bind ?_
  exact (gives_skip _ _).bind (gives_pure found rest)

theorem moreMembers_comma {text next key rest : List Char} {fuel : Nat}
    {found : Option String} {filter : Option (Option String)} (comma : Blanks text (',' :: next))
    (before : Blanks next ('"' :: key)) (others : Ends (members fuel found) key filter rest) :
    Ends (moreMembers fuel found) text filter rest := by
  refine (gives_peekPastBlanks comma (solid_cons rfl _)).bind_ends ?_
  refine (gives_skip _ _).bind_ends ?_
  refine (gives_peekPastBlanks before (solid_cons rfl _)).bind_ends ?_
  exact (gives_skip _ _).bind_ends others

theorem Form.quote {listed : List Member} {text rest : List Char}
    (members : Form (.members listed) text rest) : ∃ key, text = '"' :: key := by
  cases members with
  | lastMember here | nextMember here => cases here with | member => exact ⟨_, rfl⟩

theorem members_ends {listed : List Member} {key rest : List Char} {fuel : Nat}
    (found : Option String) (form : Form (.members listed) ('"' :: key) rest)
    (enough : key.length < fuel) :
    Ends (members fuel found) key (listed.foldlM taken found) rest := by
  -- What was found varies along the members, so the induction is for any that came before.
  induction listed generalizing key fuel found with
  | nil => cases form
  | cons member listed ih =>
      obtain ⟨fuel, rfl⟩ := Nat.exists_eq_add_one_of_ne_zero (Nat.ne_zero_of_lt enough)
      rw [members_succ, List.foldlM_cons, ← bind_assoc]
      cases form with
      | lastMember here close =>
          have first := member_ends found here (close.closed (closed_cons (.inr (.inr rfl)) _))
          exact first.bind fun found => moreMembers_close close fuel found
      | nextMember here comma before others =>
          have first := member_ends found here (comma.closed (closed_cons (.inl rfl) _))
          refine first.bind fun found => ?_
          have passed := here.length_lt
          have left := comma.length_le
          have shorter := before.length_le
          obtain ⟨next, rfl⟩ := Form.quote others
          simp only [List.length_cons] at passed left shorter
          exact moreMembers_comma comma before (ih found others (by omega))

def settled (listed : List Member) : Option Options :=
  (fun filter => { logFilter := filter.getD defaultLogFilter }) <$> listed.foldlM taken none

theorem object_ends {listed : List Member} {text rest : List Char}
    (form : Form (.object listed) ('\x7b' :: text) rest) :
    Ends object text (settled listed) rest := by
  cases form with
  | emptyObject close =>
      refine (gives_peekPastBlanks close (solid_cons rfl _)).bind ?_
      exact (gives_skip _ _).bind (gives_pure _ rest)
  | object before members =>
      obtain ⟨key, rfl⟩ := Form.quote members
      refine (gives_peekPastBlanks before (solid_cons rfl _)).bind_ends ?_
      refine (gives_skip _ _).bind_ends ?_
      refine Ends.after_get fun place => ?_
      have whole := members_ends none members (Nat.lt_succ_self _)
      refine whole.then_gives fun filter => ?_
      cases filter with
      | none => exact gives_pure _ rest
      | some filter => exact gives_pure _ rest

theorem document_ends {listed : List Member} {text : List Char} (form : IsObject listed text) :
    Ends document text (settled listed) [] := by
  obtain ⟨start, behind, before, object, after⟩ := form
  obtain ⟨inner, rfl⟩ : ∃ inner, start = '\x7b' :: inner := by
    cases object <;> exact ⟨_, rfl⟩
  refine (gives_peekPastBlanks before (solid_cons rfl _)).bind_ends ?_
  refine (gives_skip _ _).bind_ends ?_
  have whole := object_ends object
  cases told : settled listed with
  | none =>
      rw [told] at whole
      exact Fails.bind whole _
  | some options =>
      rw [told] at whole
      exact Gives.bind whole ((gives_peekPastBlanks after solid_nil).bind (gives_pure options []))

/-! ### What the members come to -/

def filters (listed : List Member) : List Member :=
  listed.filter fun member => member.name = some logFilterKey

theorem taken_of_filter {member : Member} (named : member.name = some logFilterKey)
    (found : Option String) :
    taken found member = if found.isSome then none else some <$> member.value := by
  unfold taken
  rw [named]
  exact if_pos rfl

theorem taken_of_other {member : Member} (legible : member.name ≠ none)
    (other : member.name ≠ some logFilterKey) (found : Option String) :
    taken found member = some found := by
  obtain ⟨name, named⟩ := Option.ne_none_iff_exists'.mp legible
  unfold taken
  rw [named] at other ⊢
  exact if_neg fun key => other (congrArg some key)

theorem foldlM_taken_filters {listed : List Member}
    (legible : ∀ member ∈ listed, member.name ≠ none) (found : Option String) :
    listed.foldlM taken found = (filters listed).foldlM taken found := by
  induction listed generalizing found with
  | nil => rfl
  | cons member listed ih =>
      obtain ⟨here, others⟩ := List.forall_mem_cons.mp legible
      rw [List.foldlM_cons]
      by_cases named : member.name = some logFilterKey
      · rw [filters, List.filter_cons_of_pos (by rwa [decide_eq_true_eq]), List.foldlM_cons]
        exact bind_congr fun found => ih others found
      · rw [taken_of_other here named, filters,
          List.filter_cons_of_neg (by rwa [decide_eq_true_eq])]
        exact ih others found

theorem name_of_mem_filters {listed : List Member} {member : Member}
    (among : member ∈ filters listed) : member.name = some logFilterKey :=
  of_decide_eq_true (List.mem_filter.mp among).2

theorem settled_none {listed : List Member} (legible : ∀ member ∈ listed, member.name ≠ none)
    (unset : filters listed = []) : settled listed = some {} := by
  rw [settled, foldlM_taken_filters legible, unset]
  rfl

theorem settled_one {listed : List Member} {member : Member}
    (legible : ∀ member ∈ listed, member.name ≠ none) (sole : filters listed = [member]) :
    settled listed = Options.mk <$> member.value := by
  have named := name_of_mem_filters (sole ▸ List.mem_singleton_self member)
  rw [settled, foldlM_taken_filters legible, sole, List.foldlM_cons, taken_of_filter named]
  cases member.value <;> rfl

theorem settled_several {listed others : List Member} {first second : Member}
    (legible : ∀ member ∈ listed, member.name ≠ none)
    (several : filters listed = first :: second :: others) : settled listed = none := by
  have firstNamed : first.name = some logFilterKey :=
    name_of_mem_filters (several ▸ List.mem_cons_self)
  have secondNamed : second.name = some logFilterKey :=
    name_of_mem_filters (several ▸ List.mem_cons_of_mem _ List.mem_cons_self)
  rw [settled, foldlM_taken_filters legible, several, List.foldlM_cons,
    taken_of_filter firstNamed]
  cases first.value with
  | none => rfl
  | some filter =>
      change _ <$> List.foldlM taken (some filter) (second :: others) = none
      rw [List.foldlM_cons, taken_of_filter secondNamed]
      rfl

theorem settled_illegible {listed : List Member} {member : Member} (among : member ∈ listed)
    (illegible : member.name = none) : settled listed = none := by
  suffices none_taken : ∀ found, listed.foldlM taken found = none by
    rw [settled, none_taken]
    rfl
  intro found
  induction listed generalizing found with
  | nil => cases among
  | cons first listed ih =>
      rw [List.foldlM_cons]
      rcases List.mem_cons.mp among with rfl | later
      · rw [taken, illegible]
        rfl
      · cases taken found first with
        | none => rfl
        | some found => exact ih later found

/-! ### Back from options -/

theorem Reads.memberValue {name : String} {found filter : Option String} {text rest : List Char}
    (reads : Reads (memberValue name found) text filter rest) :
    ∃ next start said, Blanks text (':' :: next) ∧ Blanks next start ∧
      Form (.value said) start rest := by
  unfold Settings.memberValue at reads
  by_cases key : name = logFilterKey
  · rw [if_pos key] at reads
    by_cases twice : found.isSome = true
    · rw [if_pos twice] at reads
      obtain ⟨_, _, failed, _⟩ := reads.bind
      exact absurd failed (fails_repeatedFilter _).not_reads
    · rw [if_neg twice] at reads
      obtain ⟨_, next, toValue, reads⟩ := reads.bind
      rw [map_eq_pure_bind] at reads
      obtain ⟨said, behind, wanted, reads⟩ := reads.bind
      obtain ⟨_, rfl⟩ := reads.of_pure
      obtain ⟨start, before, means⟩ := Reads.wantedString wanted
      exact ⟨next, _, some said, Reads.colon toValue, before, .string means⟩
  · rw [if_neg key] at reads
    obtain ⟨_, next, toValue, reads⟩ := reads.bind
    obtain ⟨_, behind, passed, reads⟩ := reads.bind
    obtain ⟨_, rfl⟩ := reads.of_pure
    obtain ⟨said, start, before, value⟩ := passed.skipValue
    exact ⟨next, start, said, Reads.colon toValue, before, value⟩

theorem Reads.members {fuel : Nat} {found filter : Option String} {key rest : List Char}
    (reads : Reads (members fuel found) key filter rest) :
    ∃ listed, Form (.members listed) ('"' :: key) rest := by
  induction fuel generalizing key found with
  | zero => exact absurd reads (fails_fail _ _).not_reads
  | succ fuel ih =>
      rw [members_succ] at reads
      obtain ⟨name, behind, named, next⟩ := reads.bind
      obtain ⟨filter, behind, value, next⟩ := next.bind
      obtain ⟨_, start, said, toValue, before, value⟩ := Reads.memberValue value
      have here : Form (.member ⟨some name, said⟩) ('"' :: key) behind :=
        .member named.string toValue before value
      obtain ⟨start, before, next⟩ := next.after_blanks
      cases start with
      | nil => exact absurd next (fails_fail _ _).not_reads
      | cons c text =>
          dsimp only [List.head?_cons] at next
          by_cases close : c = '\x7d'
          · rw [if_pos close] at next
            obtain ⟨_, rfl⟩ := (next.after (gives_skip _ _)).of_pure
            rw [close] at before
            exact ⟨_, .lastMember here before⟩
          · rw [if_neg close] at next
            by_cases comma : c = ','
            · rw [if_pos comma] at next
              obtain ⟨start, blanks, next⟩ := (next.after (gives_skip _ _)).after_blanks
              split at next
              · exact absurd next (fails_fail _ _).not_reads
              · rename_i quote
                obtain ⟨later, rfl⟩ := List.head?_eq_some_iff.mp quote
                obtain ⟨listed, others⟩ := ih (next.after (gives_skip _ _))
                rw [comma] at before
                exact ⟨_, .nextMember here before blanks others⟩
              · exact absurd next (fails_fail _ _).not_reads
              · exact absurd next (fails_fail _ _).not_reads
            · rw [if_neg comma] at next
              exact absurd next (fails_fail _ _).not_reads

theorem Reads.object {options : Options} {text rest : List Char}
    (reads : Reads object text options rest) :
    ∃ listed, Form (.object listed) ('\x7b' :: text) rest := by
  obtain ⟨start, before, next⟩ := reads.after_blanks
  split at next
  · exact absurd next (fails_fail _ _).not_reads
  · rename_i close
    obtain ⟨behind, rfl⟩ := List.head?_eq_some_iff.mp close
    obtain ⟨_, rfl⟩ := (next.after (gives_skip _ _)).of_pure
    exact ⟨_, .emptyObject before⟩
  · rename_i quote
    obtain ⟨key, rfl⟩ := List.head?_eq_some_iff.mp quote
    obtain ⟨place, next⟩ := (next.after (gives_skip _ _)).after_get
    obtain ⟨filter, behind, members, next⟩ := next.bind
    obtain ⟨listed, form⟩ := Reads.members members
    cases filter with
    | none | some =>
        obtain ⟨_, rfl⟩ := next.of_pure
        exact ⟨_, .object before form⟩
  · exact absurd next (fails_fail _ _).not_reads

theorem Reads.list {options : Options} {text rest : List Char}
    (reads : Reads list text options rest) : Form (.value none) ('[' :: text) rest := by
  obtain ⟨start, before, next⟩ := reads.after_blanks
  split at next
  · exact absurd next (fails_fail _ _).not_reads
  · rename_i close
    obtain ⟨behind, rfl⟩ := List.head?_eq_some_iff.mp close
    obtain ⟨_, rfl⟩ := (next.after (gives_skip _ _)).of_pure
    exact .emptyList before
  · obtain ⟨filter, behind, wanted, next⟩ := next.bind
    obtain ⟨inner, blanks, means⟩ := Reads.wantedString wanted
    obtain ⟨stop, after, next⟩ := next.after_blanks
    split at next
    · exact absurd next (fails_fail _ _).not_reads
    · rename_i close
      obtain ⟨last, rfl⟩ := List.head?_eq_some_iff.mp close
      obtain ⟨_, rfl⟩ := (next.after (gives_skip _ _)).of_pure
      exact .list (before.trans blanks) (.lastItem (.string means) after)
    · obtain ⟨_, _, _, next⟩ := next.bind
      obtain ⟨_, _, next⟩ := next.after_blanks
      split at next
      · exact absurd next (fails_fail _ _).not_reads
      · exact absurd next (fails_fail _ _).not_reads
    · exact absurd next (fails_fail _ _).not_reads

theorem Reads.atEnd {found options : Options} {text rest : List Char}
    (reads : Reads
      (do
        match ← peekPastBlanks with
        | none => return found
        | some _ => fail .trailingCharacters) text options rest) : Blanks text [] := by
  obtain ⟨start, before, next⟩ := reads.after_blanks
  cases start with
  | nil => exact before
  | cons => exact absurd next (fails_fail _ _).not_reads

theorem Reads.document {options : Options} {text : List Char} {rest : List Char}
    (reads : Reads document text options rest) : IsText text := by
  obtain ⟨start, before, next⟩ := reads.after_blanks
  split at next
  · exact absurd next (fails_fail _ _).not_reads
  · rename_i bracket
    obtain ⟨inner, rfl⟩ := List.head?_eq_some_iff.mp bracket
    obtain ⟨found, behind, list, next⟩ := (next.after (gives_skip _ _)).bind
    exact ⟨none, _, behind, before, Reads.list list, Reads.atEnd next⟩
  · rename_i brace
    obtain ⟨inner, rfl⟩ := List.head?_eq_some_iff.mp brace
    obtain ⟨found, behind, object, next⟩ := (next.after (gives_skip _ _)).bind
    obtain ⟨listed, object⟩ := Reads.object object
    exact ⟨none, _, behind, before, .map object, Reads.atEnd next⟩
  · obtain ⟨_, _, failed, _⟩ := next.bind
    exact absurd failed (fails_unwanted _ _).not_reads

end SessionProbe.Settings
