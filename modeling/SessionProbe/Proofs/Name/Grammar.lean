import SessionProbe.Name.Kind

set_option autoImplicit false

/-!
Names and their grammar. `Kind.Describes` writes down what the four kinds of names are, and
`Kind.Admits` what the checks accept. The two differ in elements that are left out at an end of a
name: a dot may stand behind the last element of a dotted name and in front of the first element of
a unique name.
-/

namespace SessionProbe.Name

def IsLetter (c : Char) : Prop :=
  'A' ≤ c ∧ c ≤ 'Z' ∨ 'a' ≤ c ∧ c ≤ 'z'

def IsDigit (c : Char) : Prop :=
  '0' ≤ c ∧ c ≤ '9'

structure ElementForm where
  first : Char → Prop
  further : Char → Prop

def ElementForm.Admits (form : ElementForm) : List Char → Prop
  | [] => False
  | c :: rest => form.first c ∧ ∀ d ∈ rest, form.further d

def uniqueElement : ElementForm where
  first c := IsLetter c ∨ IsDigit c ∨ c = '_' ∨ c = '-'
  further c := IsLetter c ∨ IsDigit c ∨ c = '_' ∨ c = '-'

def wellKnownElement : ElementForm where
  first c := IsLetter c ∨ c = '_' ∨ c = '-'
  further c := IsLetter c ∨ IsDigit c ∨ c = '_' ∨ c = '-'

/-- The form of member names and of the elements of interface names. -/
def memberElement : ElementForm where
  first c := IsLetter c ∨ c = '_'
  further c := IsLetter c ∨ IsDigit c ∨ c = '_'

def pathElement : ElementForm where
  first c := IsLetter c ∨ IsDigit c ∨ c = '_'
  further c := IsLetter c ∨ IsDigit c ∨ c = '_'

def ElementForm.Dotted (form : ElementForm) (text : List Char) : Prop :=
  ∃ elements : List (List Char), 2 ≤ elements.length ∧ (∀ element ∈ elements, form.Admits element) ∧
    text = ['.'].intercalate elements

def Kind.Describes : Kind → String → Prop
  | .service, name =>
    Text.Utf8.size name ≤ 255 ∧
      ((∃ rest, name.toList = ':' :: rest ∧ uniqueElement.Dotted rest) ∨
        wellKnownElement.Dotted name.toList)
  | .objectPath, path =>
    path = "/" ∨
      ∃ elements : List (List Char), elements ≠ [] ∧
        (∀ element ∈ elements, pathElement.Admits element) ∧
        path.toList = elements.flatMap ('/' :: ·)
  | .interface, name => Text.Utf8.size name ≤ 255 ∧ memberElement.Dotted name.toList
  | .method, name =>
    1 ≤ Text.Utf8.size name ∧ Text.Utf8.size name ≤ 255 ∧ memberElement.Admits name.toList

/-- Elements with dots between them, of which the last may be left out, and the first too if the
front is open. -/
def ElementForm.Loose (form : ElementForm) (openFront : Bool) (text : List Char) : Prop :=
  ∃ front inner back, (form.Admits front ∨ openFront = true ∧ front = []) ∧
    (∀ element ∈ inner, form.Admits element) ∧ (back = [] ∨ form.Admits back) ∧
    text = ['.'].intercalate (front :: (inner ++ [back]))

def Kind.Admits : Kind → String → Prop
  | .service, name =>
    Text.Utf8.size name ≤ 255 ∧
      ((∃ rest, name.toList = ':' :: rest ∧ uniqueElement.Loose true rest) ∨
        3 ≤ Text.Utf8.size name ∧ wellKnownElement.Loose false name.toList)
  | .interface, name =>
    3 ≤ Text.Utf8.size name ∧ Text.Utf8.size name ≤ 255 ∧ memberElement.Loose false name.toList
  | kind, name => kind.Describes name

/-- Whether an element is left out at an end of a dotted name. -/
def Kind.HasOpenEnd : Kind → String → Prop
  | .service, name =>
    name.toList.getLast? = some '.' ∨ ∃ rest, name.toList = ':' :: '.' :: rest
  | .interface, name => name.toList.getLast? = some '.'
  | _, _ => False

/-! ### Characters of names -/

theorem isDigit_iff (c : Char) : c.isDigit = true ↔ IsDigit c := by
  simp [Char.isDigit, IsDigit, Char.le_def, UInt32.le_iff_toNat_le]

theorem isWordChar_iff (c : Char) : isWordChar c = true ↔ IsLetter c ∨ IsDigit c ∨ c = '_' := by
  have upper : c.isUpper = true ↔ 'A' ≤ c ∧ c ≤ 'Z' := decide_eq_true_iff
  have lower : c.isLower = true ↔ 'a' ≤ c ∧ c ≤ 'z' := by
    change (decide ('a' ≤ c) && decide (c ≤ 'z')) = true ↔ _
    rw [Bool.and_eq_true, decide_eq_true_iff, decide_eq_true_iff]
  have parts : isWordChar c = (((c.isUpper || c.isLower) || c.isDigit) || c == '_') := rfl
  rw [parts]
  simp only [Bool.or_eq_true, beq_iff_eq, upper, lower, isDigit_iff, IsLetter, or_assoc]

theorem isWordChar_ascii {c : Char} (word : isWordChar c = true) : c.toNat < 0x80 := by
  have bounds : 'Z'.val.toNat = 90 ∧ 'z'.val.toNat = 122 ∧ '9'.val.toNat = 57 := by decide
  rcases (isWordChar_iff c).mp word with letter | digit | rfl
  · simp only [IsLetter, Char.le_def, UInt32.le_iff_toNat_le] at letter
    change c.val.toNat < 0x80
    omega
  · simp only [IsDigit, Char.le_def, UInt32.le_iff_toNat_le] at digit
    change c.val.toNat < 0x80
    omega
  · decide

end SessionProbe.Name
