import SessionProbe.Proofs.Text.Utf8

set_option autoImplicit false

/-!
Octets that read as a text are the octets of that text. Between two octets, those read so far begin
every character that the unfinished one can still become.
-/

namespace SessionProbe.Text.Utf8

/-- A number without its lowest bits, of which every octet behind the first holds six. -/
def withoutBits : (octets n : Nat) → Nat
  | 0, n => n
  | octets + 1, n => withoutBits octets n / 64

/-- The octets behind which a character ends, each with six bits of its number. -/
def lastOctets : (missing n : Nat) → List UInt8
  | 0, _ => []
  | missing + 1, n => (0x80 + withoutBits missing n % 64).toUInt8 :: lastOctets missing n

structure Unfinished.Begun (part : Unfinished) (before : List UInt8) : Prop where
  low : 0x80 ≤ part.low
  high : part.high ≤ 0xBF
  missing : 1 ≤ part.missing
  begins (n : Nat) : withoutBits part.missing n = part.value →
    part.low ≤ 0x80 + withoutBits (part.missing - 1) n % 64 →
    0x80 + withoutBits (part.missing - 1) n % 64 ≤ part.high →
    encodeChar (Char.ofNat n) = before ++ lastOctets part.missing n

/-! ### First octets -/

theorem encodeChar_of_lead_finished {octet : UInt8} {c : Char} (read : lead octet = .finished c) :
    encodeChar c = [octet] := by
  unfold lead at read
  dsimp only at read
  split at read
  · rename_i small
    cases read
    unfold encodeChar
    rw [toNat_ofNat_of_isValidChar (.inl (by omega)), if_pos small]
    exact congrArg ([·]) UInt8.ofNat_toNat
  · split at read
    · cases read
    · repeat' split at read
      all_goals cases read

theorem withoutBits_one (n : Nat) : withoutBits 1 n = n / 64 := rfl

theorem withoutBits_two (n : Nat) : withoutBits 2 n = n / 4096 :=
  Nat.div_div_eq_div_mul n 64 64

theorem withoutBits_three (n : Nat) : withoutBits 3 n = n / 262144 := by
  rw [withoutBits, withoutBits_two]
  exact Nat.div_div_eq_div_mul n 4096 64

theorem encodeChar_two {n : Nat} (least : 0x80 ≤ n) (small : n < 0x800) :
    encodeChar (Char.ofNat n) = (0xC0 + withoutBits 1 n).toUInt8 :: lastOctets 1 n := by
  unfold encodeChar
  rw [toNat_ofNat_of_isValidChar (.inl (by omega))]
  dsimp only
  rw [if_neg (by omega), if_pos small]
  rfl

theorem encodeChar_three {n : Nat} (least : 0x800 ≤ n) (small : n < 0x10000)
    (character : n < 0xD800 ∨ 0xDFFF < n) :
    encodeChar (Char.ofNat n) = (0xE0 + withoutBits 2 n).toUInt8 :: lastOctets 2 n := by
  unfold encodeChar
  rw [toNat_ofNat_of_isValidChar (by unfold Nat.isValidChar; omega)]
  dsimp only
  rw [if_neg (by omega), if_neg (by omega), if_pos small, withoutBits_two]
  rfl

theorem encodeChar_four {n : Nat} (least : 0x10000 ≤ n) (character : n < 0x110000) :
    encodeChar (Char.ofNat n) = (0xF0 + withoutBits 3 n).toUInt8 :: lastOctets 3 n := by
  unfold encodeChar
  rw [toNat_ofNat_of_isValidChar (.inr ⟨by omega, character⟩)]
  dsimp only
  rw [if_neg (by omega), if_neg (by omega), if_neg (by omega), withoutBits_three, lastOctets,
    withoutBits_two]
  rfl

/-- A first octet holds what is left of a number without the bits of the octets behind. -/
theorem begun_of_first {octet : UInt8} {base missing value low high : Nat}
    (first : octet.toNat = base + value) (some : 1 ≤ missing) (least : 0x80 ≤ low)
    (most : high ≤ 0xBF)
    (encoded : ∀ n, withoutBits missing n = value →
      low ≤ 0x80 + withoutBits (missing - 1) n % 64 →
      0x80 + withoutBits (missing - 1) n % 64 ≤ high →
      encodeChar (Char.ofNat n) =
        (base + withoutBits missing n).toUInt8 :: lastOctets missing n) :
    Unfinished.Begun { missing, taken := 1, value, low, high } [octet] := by
  refine ⟨least, most, some, fun n whole fromLow toHigh => ?_⟩
  rw [encoded n whole fromLow toHigh, whole, ← first]
  exact congrArg (· :: lastOctets missing n) UInt8.ofNat_toNat

theorem begun_two {octet : UInt8} {value : Nat} (first : octet.toNat = 0xC0 + value)
    (least : 2 ≤ value) (most : value < 0x20) :
    Unfinished.Begun { missing := 1, taken := 1, value } [octet] := by
  apply begun_of_first first (Nat.le_refl _) (Nat.le_refl _) (Nat.le_refl _)
  intro n whole _ _
  rw [withoutBits_one] at whole
  exact encodeChar_two (by omega) (by omega)

theorem begun_three {octet : UInt8} {value low high : Nat} (first : octet.toNat = 0xE0 + value)
    (small : value < 0x10) (least : 0x80 ≤ low) (most : high ≤ 0xBF)
    (overlong : value = 0 → 0xA0 ≤ low) (surrogate : value = 13 → high ≤ 0x9F) :
    Unfinished.Begun { missing := 2, taken := 1, value, low, high } [octet] := by
  apply begun_of_first first (Nat.le_succ 1) least most
  intro n whole fromLow toHigh
  rw [withoutBits_two] at whole
  rw [Nat.add_one_sub_one, withoutBits_one] at fromLow toHigh
  exact encodeChar_three (by omega) (by omega) (by omega)

theorem begun_four {octet : UInt8} {value low high : Nat} (first : octet.toNat = 0xF0 + value)
    (small : value < 5) (least : 0x80 ≤ low) (most : high ≤ 0xBF)
    (overlong : value = 0 → 0x90 ≤ low) (excess : value = 4 → high ≤ 0x8F) :
    Unfinished.Begun { missing := 3, taken := 1, value, low, high } [octet] := by
  apply begun_of_first first (by decide) least most
  intro n whole fromLow toHigh
  rw [withoutBits_three] at whole
  rw [Nat.add_one_sub_one, withoutBits_two] at fromLow toHigh
  exact encodeChar_four (by omega) (by omega)

theorem begun_of_lead {octet : UInt8} {part : Unfinished} (read : lead octet = .unfinished part) :
    part.Begun [octet] := by
  -- A case for each stretch of first octets; those that narrow the second octet leave out overlong
  -- forms, surrogates and what lies behind the last character.
  unfold lead at read
  dsimp only at read
  split at read
  · cases read
  split at read
  · cases read
  split at read
  · cases read
    exact begun_two (by omega) (by omega) (by omega)
  split at read
  · cases read
    exact begun_three (by omega) (by omega) (by omega) (by omega) (by omega) (by omega)
  split at read
  · cases read
    exact begun_three (by omega) (by omega) (by omega) (by omega) (by omega) (by omega)
  split at read
  · cases read
    exact begun_three (by omega) (by omega) (by omega) (by omega) (by omega) (by omega)
  split at read
  · cases read
    exact begun_four (by omega) (by omega) (by omega) (by omega) (by omega) (by omega)
  split at read
  · cases read
    exact begun_four (by omega) (by omega) (by omega) (by omega) (by omega) (by omega)
  split at read
  · cases read
    exact begun_four (by omega) (by omega) (by omega) (by omega) (by omega) (by omega)
  · cases read

/-! ### Later octets -/

/-- Six more bits of a number, and the octet that they stand in. -/
theorem Unfinished.Begun.more {part : Unfinished} {before : List UInt8} (begun : part.Begun before)
    {octet : UInt8} (low : part.low ≤ octet.toNat) (high : octet.toNat ≤ part.high) {n : Nat}
    (value : withoutBits (part.missing - 1) n = part.value * 64 + octet.toNat % 64) :
    encodeChar (Char.ofNat n) = before ++ octet :: lastOctets (part.missing - 1) n := by
  obtain ⟨missing, more⟩ := Nat.exists_eq_add_of_le' begun.missing
  have least := begun.low
  have most := begun.high
  have whole := begun.begins n
  rw [more, Nat.add_sub_cancel] at value whole ⊢
  -- The lowest six bits of what is left are those of the octet, whose highest two are fixed.
  have bits : withoutBits missing n % 64 = octet.toNat % 64 := by omega
  have same : 0x80 + octet.toNat % 64 = octet.toNat := by omega
  rw [withoutBits, bits, same] at whole
  rw [whole (by omega) low high, lastOctets, bits, same]
  exact congrArg (fun first => before ++ first :: lastOctets missing n) UInt8.ofNat_toNat

theorem Unfinished.Begun.resume {part later : Unfinished} {before : List UInt8} {octet : UInt8}
    (begun : part.Begun before) (read : part.resume octet = .unfinished later) :
    later.Begun (before ++ [octet]) := by
  unfold Unfinished.resume at read
  dsimp only at read
  split at read
  · cases read
  · split at read
    · cases read
    · cases read
      refine ⟨Nat.le_refl _, Nat.le_refl _, by dsimp only; omega, fun n value _ _ => ?_⟩
      rw [begun.more (by omega) (by omega) value, List.append_assoc]
      rfl

theorem Unfinished.Begun.finish {part : Unfinished} {before : List UInt8} {octet : UInt8} {c : Char}
    (begun : part.Begun before) (read : part.resume octet = .finished c) :
    encodeChar c = before ++ [octet] := by
  have missing := begun.missing
  unfold Unfinished.resume at read
  dsimp only at read
  split at read
  · cases read
  · split at read
    · cases read
      have last : part.missing - 1 = 0 := by omega
      have value (n : Nat) : withoutBits (part.missing - 1) n = n := by
        rw [last, withoutBits]
      have low : part.low ≤ octet.toNat := by omega
      have high : octet.toNat ≤ part.high := by omega
      rw [begun.more low high (value _), last]
      rfl
    · cases read

/-! ### Texts -/

/-- The octets held back while a character is read. -/
inductive Held : Option Unfinished → List UInt8 → Prop
  | none : Held none []
  | some {part : Unfinished} {before : List UInt8} (begun : part.Begun before) :
      Held (some part) before

theorem map_eq_ok {α β ε : Type} {f : α → β} {result : Except ε α} {value : β}
    (ok : f <$> result = .ok value) : ∃ part, result = .ok part ∧ f part = value := by
  cases result with
  | error fault => cases ok
  | ok part => exact ⟨part, rfl, Except.ok.inj ok⟩

theorem flatMap_encodeChar_of_decodeFrom {octets before : List UInt8} {part : Option Unfinished}
    {index : Nat} {text : List Char} (held : Held part before)
    (read : decodeFrom index part octets = .ok text) :
    before ++ octets = text.flatMap encodeChar := by
  induction octets generalizing index part before text with
  | nil =>
      cases held with
      | none =>
          rw [decodeFrom] at read
          cases read
          rfl
      | some begun => cases read
  | cons octet rest ih =>
      cases held with
      | none =>
          rw [decodeFrom] at read
          cases first : lead octet with
          | finished c =>
              rw [first] at read
              obtain ⟨letters, others, rfl⟩ := map_eq_ok read
              rw [List.flatMap_cons, encodeChar_of_lead_finished first, ← ih .none others]
              rfl
          | unfinished later =>
              rw [first] at read
              exact ih (.some (begun_of_lead first)) read
          | refused =>
              rw [first] at read
              cases read
      | @some part _ begun =>
          rw [decodeFrom] at read
          cases next : part.resume octet with
          | finished c =>
              rw [next] at read
              obtain ⟨letters, others, rfl⟩ := map_eq_ok read
              rw [List.flatMap_cons, begun.finish next, ← ih .none others, List.append_assoc]
              rfl
          | unfinished later =>
              rw [next] at read
              rw [List.append_cons]
              exact ih (.some (begun.resume next)) read
          | refused =>
              rw [next] at read
              cases read

theorem encode_of_decode {octets : List UInt8} {text : String} (read : decode octets = .ok text) :
    encode text = octets := by
  unfold decode at read
  cases run : decodeFrom 0 none octets with
  | error fault =>
      rw [run] at read
      cases read
  | ok letters =>
      rw [run] at read
      cases read
      rw [encode, String.toList_ofList]
      exact (flatMap_encodeChar_of_decodeFrom .none run).symm

end SessionProbe.Text.Utf8
