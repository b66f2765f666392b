import SessionProbe.Proofs.Wire.Extension
import SessionProbe.Reply

set_option autoImplicit false

/-!
Replies from bodies that were cut off or that go on. More octets behind a body that gives a reply
change nothing, so that the front of a body gives the same reply as the whole or none.
-/

namespace SessionProbe

open Wire

theorem Frame.values_append {signature : String} {order : ByteOrder} {octets : Array UInt8}
    {values : List Value} (read : Frame.values ⟨signature, order, octets⟩ = .ok values)
    (more : Array UInt8) : Frame.values ⟨signature, order, octets ++ more⟩ = .ok values := by
  unfold Frame.values at read ⊢
  cases first : Frame.types ⟨signature, order, octets⟩ with
  | error fault =>
      rw [first] at read
      cases read
  | ok types =>
      -- The types are those of the signature, whatever the octets.
      have again : Frame.types ⟨signature, order, octets ++ more⟩ = .ok types := first
      rw [first] at read
      rw [again]
      exact Body.values_extend read more

theorem Reply.ofFrame_append_of_ok {signature : String} {order : ByteOrder} {octets : Array UInt8}
    {reply : Reply} (decoded : Reply.ofFrame ⟨signature, order, octets⟩ = .ok reply)
    (more : Array UInt8) : Reply.ofFrame ⟨signature, order, octets ++ more⟩ = .ok reply := by
  rcases Reply.ofFrame_eq_ok decoded with ⟨empty, rfl⟩ | ⟨some, values, read, rfl⟩
  · exact if_pos empty
  · exact Reply.ofFrame_of_values some (Frame.values_append read more)

/-- A body that gives a reply gives the same reply with any octets behind it. So the front of a body
with a reply gives that reply as well, or fails as one that cannot be decoded; it never gives
another reply. This holds of all octets, whether they are a well-formed body or not. -/
theorem Reply.ofFrame_append (signature : String) (order : ByteOrder) (octets more : Array UInt8) :
    (∀ reply, Reply.ofFrame ⟨signature, order, octets⟩ = .ok reply →
        Reply.ofFrame ⟨signature, order, octets ++ more⟩ = .ok reply) ∧
      (∀ reply, Reply.ofFrame ⟨signature, order, octets ++ more⟩ = .ok reply →
        Reply.ofFrame ⟨signature, order, octets⟩ = .ok reply ∨
          ∃ text, Reply.ofFrame ⟨signature, order, octets⟩ = .error (.reply text)) := by
  constructor
  · intro reply decoded
    exact Reply.ofFrame_append_of_ok decoded more
  · intro reply whole
    cases front : Reply.ofFrame ⟨signature, order, octets⟩ with
    | ok other =>
        have extended := Reply.ofFrame_append_of_ok front more
        rw [whole] at extended
        cases extended
        exact Or.inl rfl
    | error error =>
        obtain ⟨text, rfl⟩ := Reply.ofFrame_eq_error front
        exact Or.inr ⟨text, rfl⟩

/-- An array of one text, whose last octet, the zero behind the text, is missing. -/
def unterminatedTexts : Array UInt8 :=
  #[7, 0, 0, 0, 2, 0, 0, 0, 0x6F, 0x6B]

/-- The missing octet is not looked for, and none behind it makes a difference. -/
theorem unterminatedTexts_append :
    Reply.ofFrame ⟨"as", .little, unterminatedTexts⟩ =
        .ok { signature := "as", values := ["[\"ok\"]"] } ∧
      Reply.ofFrame ⟨"as", .little, unterminatedTexts ++ #[0xFF, 1]⟩ =
        .ok { signature := "as", values := ["[\"ok\"]"] } ∧
      (Reply.ofFrame ⟨"as", .little, unterminatedTexts.pop⟩ =
          .ok { signature := "as", values := ["[\"ok\"]"] } ∨
        ∃ text, Reply.ofFrame ⟨"as", .little, unterminatedTexts.pop⟩ = .error (.reply text)) := by
  have decoded : Reply.ofFrame ⟨"as", .little, unterminatedTexts⟩ =
      .ok { signature := "as", values := ["[\"ok\"]"] } := by
    decide +kernel
  have whole : Reply.ofFrame ⟨"as", .little, unterminatedTexts.pop ++ #[0x6B]⟩ =
      .ok { signature := "as", values := ["[\"ok\"]"] } := decoded
  exact ⟨decoded, (Reply.ofFrame_append "as" .little unterminatedTexts #[0xFF, 1]).1 _ decoded,
    (Reply.ofFrame_append "as" .little unterminatedTexts.pop #[0x6B]).2 _ whole⟩

end SessionProbe
