import SessionProbe.Text.Utf8

set_option autoImplicit false

/-!
Reading back what was written. `decode_encode` says that the octets of a text read as that text;
the rest tells which octets are among those of a text.
-/

namespace SessionProbe.Text.Utf8

theorem encode_append (first second : String) :
    encode (first ++ second) = encode first ++ encode second := by
  rw [encode, String.toList_append, List.flatMap_append]
  rfl

theorem toNat_octet {n : Nat} (fits : n < 256) : n.toUInt8.toNat = n := by
  simpa using UInt8.toNat_ofNat_of_lt' fits

/-! ### One octet -/

theorem resume_last {part : Unfinished} {tail : Nat} (last : part.missing = 1) (bound : tail < 64)
    (inside : part.low ≤ 0x80 + tail ∧ 0x80 + tail ≤ part.high) :
    part.resume (0x80 + tail).toUInt8 = .finished (Char.ofNat (part.value * 64 + tail)) := by
  have octet : (0x80 + tail).toUInt8.toNat = 0x80 + tail := toNat_octet (by omega)
  have bits : (0x80 + tail) % 64 = tail := by omega
  simp only [Unfinished.resume, octet, bits]
  rw [if_neg (by omega), if_pos (by omega)]

theorem resume_more {part : Unfinished} {tail : Nat} (more : 1 < part.missing) (bound : tail < 64)
    (inside : part.low ≤ 0x80 + tail ∧ 0x80 + tail ≤ part.high) :
    part.resume (0x80 + tail).toUInt8 = .unfinished
      { missing := part.missing - 1, taken := part.taken + 1, value := part.value * 64 + tail } := by
  have octet : (0x80 + tail).toUInt8.toNat = 0x80 + tail := toNat_octet (by omega)
  have bits : (0x80 + tail) % 64 = tail := by omega
  simp only [Unfinished.resume, octet, bits]
  rw [if_neg (by omega), if_neg (by omega)]

theorem lead_one {n : Nat} (small : n < 0x80) : lead n.toUInt8 = .finished (Char.ofNat n) := by
  have octet : n.toUInt8.toNat = n := toNat_octet (by omega)
  simp only [lead, octet]
  rw [if_pos small]

theorem lead_two {n : Nat} (least : 0x80 ≤ n) (small : n < 0x800) :
    lead (0xC0 + n / 64).toUInt8 = .unfinished { missing := 1, taken := 1, value := n / 64 } := by
  have octet : (0xC0 + n / 64).toUInt8.toNat = 0xC0 + n / 64 := toNat_octet (by omega)
  simp only [lead, octet]
  rw [if_neg (by omega), if_neg (by omega), if_pos (by omega)]
  simp

/-- The first octet of three leaves room for the second one, which keeps surrogates out. -/
theorem lead_three {n : Nat} (least : 0x800 ≤ n) (small : n < 0x10000)
    (character : n < 0xD800 ∨ 0xDFFF < n) :
    ∃ part, lead (0xE0 + n / 4096).toUInt8 = .unfinished part ∧ part.missing = 2 ∧
      part.value = n / 4096 ∧
      part.low ≤ 0x80 + n / 64 % 64 ∧ 0x80 + n / 64 % 64 ≤ part.high := by
  have octet : (0xE0 + n / 4096).toUInt8.toNat = 0xE0 + n / 4096 := toNat_octet (by omega)
  simp only [lead, octet]
  rw [if_neg (by omega), if_neg (by omega), if_neg (by omega)]
  by_cases first : 0xE0 + n / 4096 = 0xE0
  · rw [if_pos first]
    exact ⟨_, rfl, rfl, by dsimp only; omega, by dsimp only; omega, by dsimp only; omega⟩
  · rw [if_neg first]
    by_cases surrogate : 0xE0 + n / 4096 = 0xED
    · rw [if_pos surrogate]
      exact ⟨_, rfl, rfl, by dsimp only; omega, by dsimp only; omega, by dsimp only; omega⟩
    · rw [if_neg surrogate, if_pos (by omega)]
      exact ⟨_, rfl, rfl, by dsimp only; omega, by dsimp only; omega, by dsimp only; omega⟩

/-- The first octet of four leaves room for the second one, which keeps to U+10FFFF. -/
theorem lead_four {n : Nat} (least : 0x10000 ≤ n) (character : n < 0x110000) :
    ∃ part, lead (0xF0 + n / 262144).toUInt8 = .unfinished part ∧ part.missing = 3 ∧
      part.value = n / 262144 ∧
      part.low ≤ 0x80 + n / 4096 % 64 ∧ 0x80 + n / 4096 % 64 ≤ part.high := by
  have octet : (0xF0 + n / 262144).toUInt8.toNat = 0xF0 + n / 262144 := toNat_octet (by omega)
  simp only [lead, octet]
  rw [if_neg (by omega), if_neg (by omega), if_neg (by omega), if_neg (by omega), if_neg (by omega),
    if_neg (by omega)]
  by_cases first : 0xF0 + n / 262144 = 0xF0
  · rw [if_pos first]
    exact ⟨_, rfl, rfl, by dsimp only; omega, by dsimp only; omega, by dsimp only; omega⟩
  · rw [if_neg first]
    by_cases inner : 0xF0 + n / 262144 < 0xF4
    · rw [if_pos inner]
      exact ⟨_, rfl, rfl, by dsimp only; omega, by dsimp only; omega, by dsimp only; omega⟩
    · rw [if_neg inner, if_pos (by omega)]
      exact ⟨_, rfl, rfl, by dsimp only; omega, by dsimp only; omega, by dsimp only; omega⟩

/-! ### Characters and texts -/

section Steps

variable {index : Nat} {part later : Unfinished} {octet : UInt8} {c : Char} {rest : List UInt8}

private theorem decodeFrom_lead (read : lead octet = .unfinished part) :
    decodeFrom index none (octet :: rest) = decodeFrom (index + 1) (some part) rest := by
  rw [decodeFrom, read]

private theorem decodeFrom_more (read : part.resume octet = .unfinished later) :
    decodeFrom index (some part) (octet :: rest) = decodeFrom (index + 1) (some later) rest := by
  rw [decodeFrom, read]

private theorem decodeFrom_last (read : part.resume octet = .finished c) :
    decodeFrom index (some part) (octet :: rest) =
      (c :: ·) <$> decodeFrom (index + 1) none rest := by
  rw [decodeFrom, read]

end Steps

theorem decodeFrom_encodeChar (index : Nat) (c : Char) (rest : List UInt8) :
    decodeFrom index none (encodeChar c ++ rest) =
      (c :: ·) <$> decodeFrom (index + (encodeChar c).length) none rest := by
  have same : Char.ofNat c.toNat = c := Char.ofNat_toNat c
  have character : c.toNat < 0xD800 ∨ 0xDFFF < c.toNat ∧ c.toNat < 0x110000 := c.valid
  unfold encodeChar
  dsimp only
  generalize c.toNat = n at same character ⊢
  by_cases one : n < 0x80
  · rw [if_pos one, List.singleton_append, decodeFrom, lead_one one, same]
    rfl
  · rw [if_neg one]
    by_cases two : n < 0x800
    · rw [if_pos two, List.cons_append, decodeFrom_lead (lead_two (by omega) two),
        List.singleton_append,
        decodeFrom_last (resume_last rfl (Nat.mod_lt _ (by decide)) (by dsimp only; omega))]
      have whole : n / 64 * 64 + n % 64 = n := by omega
      rw [whole, same]
      rfl
    · rw [if_neg two]
      by_cases three : n < 0x10000
      · obtain ⟨part, read, missing, value, inside⟩ :=
          lead_three (n := n) (by omega) three (by omega)
        rw [if_pos three, List.cons_append, decodeFrom_lead read, List.cons_append,
          decodeFrom_more (resume_more (by omega) (Nat.mod_lt _ (by decide)) inside),
          List.singleton_append,
          decodeFrom_last (resume_last (by dsimp only; omega) (Nat.mod_lt _ (by decide))
            (by dsimp only; omega))]
        have whole : (part.value * 64 + n / 64 % 64) * 64 + n % 64 = n := by omega
        rw [whole, same]
        rfl
      · obtain ⟨part, read, missing, value, inside⟩ :=
          lead_four (n := n) (by omega) (by omega)
        rw [if_neg three, List.cons_append, decodeFrom_lead read, List.cons_append,
          decodeFrom_more (resume_more (by omega) (Nat.mod_lt _ (by decide)) inside),
          List.cons_append,
          decodeFrom_more (resume_more (by dsimp only; omega) (Nat.mod_lt _ (by decide))
            (by dsimp only; omega)),
          List.singleton_append,
          decodeFrom_last (resume_last (by dsimp only; omega) (Nat.mod_lt _ (by decide))
            (by dsimp only; omega))]
        have whole :
            ((part.value * 64 + n / 4096 % 64) * 64 + n / 64 % 64) * 64 + n % 64 = n := by
          omega
        rw [whole, same]
        rfl

theorem decodeFrom_encode (index : Nat) (text : List Char) :
    decodeFrom index none (text.flatMap encodeChar) = .ok text := by
  induction text generalizing index with
  | nil => rfl
  | cons c rest ih =>
      rw [List.flatMap_cons, decodeFrom_encodeChar, ih]
      rfl

theorem decode_encode (text : String) : decode (encode text) = .ok text := by
  unfold decode encode
  rw [decodeFrom_encode]
  change Except.ok (String.ofList text.toList) = _
  rw [String.ofList_toList]

/-! ### Which octets a text has -/

theorem zero_mem_encodeChar {c : Char} (zero : (0 : UInt8) ∈ encodeChar c) : c = '\x00' := by
  have same : Char.ofNat c.toNat = c := Char.ofNat_toNat c
  have character : c.toNat < 0xD800 ∨ 0xDFFF < c.toNat ∧ c.toNat < 0x110000 := c.valid
  unfold encodeChar at zero
  dsimp only at zero
  generalize c.toNat = n at same character zero
  have octetIsZero {k : Nat} (fits : k < 256) (equal : (0 : UInt8) = k.toUInt8) : k = 0 := by
    rw [← toNat_octet fits, ← equal]
    rfl
  split at zero
  · have nothing := octetIsZero (by omega) (List.mem_singleton.mp zero)
    rw [← same, nothing]
  · exfalso
    split at zero
    · simp only [List.mem_cons, List.not_mem_nil, or_false] at zero
      rcases zero with equal | equal <;> have := octetIsZero (by omega) equal <;> omega
    · split at zero
      · simp only [List.mem_cons, List.not_mem_nil, or_false] at zero
        rcases zero with equal | equal | equal <;>
          have := octetIsZero (by omega) equal <;> omega
      · simp only [List.mem_cons, List.not_mem_nil, or_false] at zero
        rcases zero with equal | equal | equal | equal <;>
          have := octetIsZero (by omega) equal <;> omega

theorem zero_not_mem_encode {text : String} (clean : '\x00' ∉ text.toList) :
    (0 : UInt8) ∉ encode text := by
  intro zero
  obtain ⟨c, member, octet⟩ := List.mem_flatMap.mp zero
  exact clean (zero_mem_encodeChar octet ▸ member)

theorem length_encodeChar_pos (c : Char) : 1 ≤ (encodeChar c).length := by
  unfold encodeChar
  dsimp only
  split
  · exact Nat.le_refl 1
  · split
    · exact Nat.le_add_left 1 1
    · split
      · exact Nat.le_add_left 1 2
      · exact Nat.le_add_left 1 3

theorem length_le_size (text : String) : text.toList.length ≤ size text := by
  unfold size encode
  generalize text.toList = chars
  induction chars with
  | nil => exact Nat.le_refl 0
  | cons c rest ih =>
      have here := length_encodeChar_pos c
      rw [List.flatMap_cons, List.length_append, List.length_cons]
      omega

theorem octets_eq_toList {text : String} (ascii : ∀ c ∈ text.toList, c.toNat < 0x80) :
    octets text = text.toList := by
  unfold octets encode
  generalize text.toList = chars at ascii ⊢
  induction chars with
  | nil => rfl
  | cons c rest ih =>
      have small := ascii c List.mem_cons_self
      have code : encodeChar c = [c.toNat.toUInt8] := by
        unfold encodeChar
        dsimp only
        rw [if_pos small]
      rw [List.flatMap_cons, code, List.singleton_append, List.map_cons,
        ih fun other member => ascii other (List.mem_cons_of_mem _ member),
        toNat_octet (by omega), Char.ofNat_toNat]

theorem toNat_ofNat_of_isValidChar {n : Nat} (valid : n.isValidChar) :
    (Char.ofNat n).toNat = n := by
  rw [Char.ofNat, dif_pos valid]
  rfl

theorem toNat_ofNat_octet (octet : UInt8) : (Char.ofNat octet.toNat).toNat = octet.toNat :=
  toNat_ofNat_of_isValidChar (Or.inl (Nat.lt_trans octet.toNat_lt (by decide)))

theorem ascii_of_octets {text : String} (ascii : ∀ c ∈ octets text, c.toNat < 0x80) :
    ∀ c ∈ text.toList, c.toNat < 0x80 := by
  intro c member
  by_cases small : c.toNat < 0x80
  · exact small
  exfalso
  -- A character outside ASCII starts with an octet outside ASCII.
  obtain ⟨octet, among, high⟩ : ∃ octet ∈ encodeChar c, 0x80 ≤ octet.toNat := by
    have valid : c.toNat < 0x110000 := by
      rcases c.valid with below | ⟨_, below⟩
      · exact Nat.lt_trans below (by decide)
      · exact below
    unfold encodeChar
    dsimp only
    rw [if_neg small]
    split
    · exact ⟨_, List.mem_cons_self, by rw [toNat_octet (by omega)]; omega⟩
    · split
      · exact ⟨_, List.mem_cons_self, by rw [toNat_octet (by omega)]; omega⟩
      · exact ⟨_, List.mem_cons_self, by rw [toNat_octet (by omega)]; omega⟩
  have shown : Char.ofNat octet.toNat ∈ octets text :=
    List.mem_map.mpr ⟨octet, List.mem_flatMap.mpr ⟨c, member, among⟩, rfl⟩
  have bound := ascii _ shown
  rw [toNat_ofNat_octet] at bound
  omega

end SessionProbe.Text.Utf8
