import SessionProbe.Json.Scan
import SessionProbe.Proofs.Json.Grammar

set_option autoImplicit false

/-!
Scans told by the text in front of them and the text behind. `Gives` and `Fails` say how a scan ends
wherever the text lies; they put scans together from the front, along a text of known form, and
`Ends` is one or the other. `Reads` says that a scan has ended in a way; it takes scans apart again,
to find the form of the text.
-/

namespace SessionProbe.Json

variable {α β : Type}

/-- Wherever the text lies, the scan gives the value and leaves the rest. -/
def Gives (scan : Scan α) (text : List Char) (value : α) (rest : List Char) : Prop :=
  ∀ place, ∃ next, scan { text, place } = .ok value { text := rest, place := next }

/-- Wherever the text lies, the scan fails. -/
def Fails (scan : Scan α) (text : List Char) : Prop :=
  ∀ place, ∃ fault rest, scan { text, place } = .error fault rest

/-- The scan gives the value and leaves the rest, or it fails if there is no value to give. -/
def Ends (scan : Scan α) (text : List Char) (value : Option α) (rest : List Char) : Prop :=
  match value with
  | some value => Gives scan text value rest
  | none => Fails scan text

/-- Somewhere the scan gives the value and leaves the rest. -/
def Reads (scan : Scan α) (text : List Char) (value : α) (rest : List Char) : Prop :=
  ∃ place next, scan { text, place } = .ok value { text := rest, place := next }

theorem scan_bind (scan : Scan α) (next : α → Scan β) (rest : Rest) :
    (scan >>= next) rest =
      match scan rest with
      | .ok value behind => next value behind
      | .error fault behind => .error fault behind := by
  change EStateM.bind scan next rest = _
  unfold EStateM.bind
  cases scan rest <;> rfl

/-! ### Along a text -/

section Along

variable {scan : Scan α} {next : α → Scan β} {text middle rest : List Char} {part : α} {value : β}

theorem gives_pure (value : α) (text : List Char) : Gives (pure value) text value text :=
  fun place => ⟨place, rfl⟩

theorem Gives.bind (first : Gives scan text part middle)
    (second : Gives (next part) middle value rest) : Gives (scan >>= next) text value rest := by
  intro place
  obtain ⟨between, firstRun⟩ := first place
  obtain ⟨last, secondRun⟩ := second between
  exact ⟨last, by rw [scan_bind, firstRun]; exact secondRun⟩

theorem Gives.bind_fails (first : Gives scan text part middle)
    (second : Fails (next part) middle) : Fails (scan >>= next) text := by
  intro place
  obtain ⟨between, firstRun⟩ := first place
  obtain ⟨fault, last, secondRun⟩ := second between
  exact ⟨fault, last, by rw [scan_bind, firstRun]; exact secondRun⟩

theorem Fails.bind (failed : Fails scan text) (next : α → Scan β) :
    Fails (scan >>= next) text := by
  intro place
  obtain ⟨fault, last, run⟩ := failed place
  exact ⟨fault, last, by rw [scan_bind, run]⟩

theorem Gives.bind_ends {value : Option β} (first : Gives scan text part middle)
    (second : Ends (next part) middle value rest) : Ends (scan >>= next) text value rest := by
  cases value with
  | none => exact first.bind_fails second
  | some value => exact first.bind second

theorem Ends.bind {part : Option α} {further : α → Option β} (first : Ends scan text part middle)
    (second : ∀ value, Ends (next value) middle (further value) rest) :
    Ends (scan >>= next) text (part >>= further) rest := by
  cases part with
  | none => exact Fails.bind first next
  | some value => exact first.bind_ends (second value)

/-- What a scan gives can be made into something else behind it. -/
theorem Ends.then_gives {part : Option α} {make : α → β} (first : Ends scan text part rest)
    (second : ∀ value, Gives (next value) rest (make value) rest) :
    Ends (scan >>= next) text (make <$> part) rest := by
  cases part with
  | none => exact Fails.bind first next
  | some value => exact Gives.bind first (second value)

theorem fails_fail (problem : Problem) (text : List Char) : Fails (fail problem : Scan α) text :=
  fun _ => ⟨_, _, rfl⟩

theorem fails_failHere (problem : Problem) (text : List Char) :
    Fails (failHere problem : Scan α) text :=
  fun _ => ⟨_, _, rfl⟩

theorem gives_peek (text : List Char) : Gives peek text text.head? text :=
  fun place => ⟨place, rfl⟩

theorem gives_skip (c : Char) (text : List Char) : Gives skip (c :: text) () text :=
  fun _ => ⟨_, rfl⟩

/-- Whoever looks at all that is left sees the text, wherever it lies. -/
theorem Gives.after_get {look : Rest → Scan β}
    (gives : ∀ place, Gives (look { text, place }) text value rest) :
    Gives (get >>= look) text value rest :=
  fun place => gives place place

theorem Ends.after_get {look : Rest → Scan β} {value : Option β}
    (ends : ∀ place, Ends (look { text, place }) text value rest) :
    Ends (get >>= look) text value rest := by
  cases value with
  | none => exact fun place => ends place place
  | some value => exact fun place => ends place place

end Along

/-! ### Back from an end -/

section Back

variable {scan : Scan α} {next : α → Scan β} {text rest : List Char} {value : α} {last : β}

theorem Gives.reads (gives : Gives scan text value rest) : Reads scan text value rest := by
  obtain ⟨next, run⟩ := gives 0
  exact ⟨0, next, run⟩

theorem Reads.bind (reads : Reads (scan >>= next) text last rest) :
    ∃ part middle, Reads scan text part middle ∧ Reads (next part) middle last rest := by
  obtain ⟨place, stop, run⟩ := reads
  rw [scan_bind] at run
  cases first : scan { text, place } with
  | ok part behind =>
      rw [first] at run
      exact ⟨part, behind.text, ⟨place, behind.place, first⟩, behind.place, stop, run⟩
  | error fault behind =>
      rw [first] at run
      cases run

theorem Reads.unique {other : α} {behind : List Char} (reads : Reads scan text value rest)
    (gives : Gives scan text other behind) : value = other ∧ rest = behind := by
  obtain ⟨place, stop, run⟩ := reads
  obtain ⟨next, again⟩ := gives place
  rw [run] at again
  cases again
  exact ⟨rfl, rfl⟩

theorem Fails.not_reads (fails : Fails scan text) : ¬Reads scan text value rest := by
  rintro ⟨place, stop, run⟩
  obtain ⟨fault, behind, failed⟩ := fails place
  rw [run] at failed
  cases failed

theorem fails_of_not_reads (none : ∀ value rest, ¬Reads scan text value rest) :
    Fails scan text := by
  intro place
  cases run : scan { text, place } with
  | ok value behind => exact absurd ⟨place, behind.place, run⟩ (none value behind.text)
  | error fault behind => exact ⟨fault, behind, rfl⟩

/-- What follows a scan that gives a value is read from where that scan ends. -/
theorem Reads.after {part : α} {middle : List Char}
    (reads : Reads (scan >>= next) text last rest) (first : Gives scan text part middle) :
    Reads (next part) middle last rest := by
  obtain ⟨found, between, here, behind⟩ := reads.bind
  obtain ⟨rfl, rfl⟩ := here.unique first
  exact behind

theorem fails_bind (scan : Scan α) {next : α → Scan β}
    (fails : ∀ part middle, Fails (next part) middle) (text : List Char) :
    Fails (scan >>= next) text := by
  refine fails_of_not_reads fun value rest reads => ?_
  obtain ⟨part, middle, _, behind⟩ := reads.bind
  exact (fails part middle).not_reads behind

theorem Reads.after_get {look : Rest → Scan β} (reads : Reads (get >>= look) text last rest) :
    ∃ place, Reads (look { text, place }) text last rest := by
  obtain ⟨place, stop, run⟩ := reads
  exact ⟨place, place, stop, run⟩

theorem Reads.of_pure {other : α} (reads : Reads (pure other) text value rest) :
    value = other ∧ rest = text :=
  reads.unique (gives_pure other text)

theorem Reads.of_skip {c : Char} {nothing : Unit}
    (reads : Reads skip (c :: text) nothing rest) : rest = text :=
  (reads.unique (gives_skip c text)).2

end Back

/-! ### Classes of characters -/

theorem isDigit_iff (c : Char) : c.isDigit = true ↔ '0' ≤ c ∧ c ≤ '9' := by
  simp [Char.isDigit, Char.le_def]

theorem isBlank_iff (c : Char) :
    isBlank c = true ↔ c = ' ' ∨ c = '\t' ∨ c = '\n' ∨ c = '\r' := by
  simp [isBlank, or_assoc]

/-- Whether a text does not go on with a blank. -/
def Solid (text : List Char) : Prop :=
  ∀ c ∈ text.head?, isBlank c = false

theorem solid_nil : Solid [] := by
  intro c first
  cases first

theorem solid_cons {c : Char} (solid : isBlank c = false) (text : List Char) :
    Solid (c :: text) := by
  intro first here
  cases here
  exact solid

theorem blanks_dropWhile (text : List Char) : Blanks text (text.dropWhile isBlank) := by
  induction text with
  | nil => exact .none []
  | cons c text ih =>
      rw [List.dropWhile_cons]
      split
      · rename_i blank
        exact .more ((isBlank_iff c).mp blank) ih
      · exact .none _

theorem solid_dropWhile (text : List Char) : Solid (text.dropWhile isBlank) := by
  intro c first
  have none := List.head?_dropWhile_not isBlank text
  rw [Option.mem_def.mp first] at none
  exact none

theorem Blanks.dropWhile_eq {text rest : List Char} (blanks : Blanks text rest)
    (solid : Solid rest) : text.dropWhile isBlank = rest := by
  induction blanks with
  | none text =>
      cases text with
      | nil => rfl
      | cons c text => exact List.dropWhile_cons_of_neg (by rw [solid c rfl]; decide)
  | more blank _ ih =>
      rw [List.dropWhile_cons_of_pos ((isBlank_iff _).mpr blank)]
      exact ih solid

theorem gives_peekPastBlanks {text start : List Char} (blanks : Blanks text start)
    (solid : Solid start) : Gives peekPastBlanks text start.head? start := by
  intro place
  rw [← blanks.dropWhile_eq solid]
  exact ⟨_, rfl⟩

theorem Reads.after_blanks {next : Option Char → Scan α} {text rest : List Char} {value : α}
    (reads : Reads (peekPastBlanks >>= next) text value rest) :
    ∃ start, Blanks text start ∧ Reads (next start.head?) start value rest :=
  have blanks := blanks_dropWhile text
  ⟨_, blanks, reads.after (gives_peekPastBlanks blanks (solid_dropWhile text))⟩

end SessionProbe.Json
