import SessionProbe.Proofs.Text.Utf8
import SessionProbe.Reply
import SessionProbe.Sink

set_option autoImplicit false

/-!
What a sink holds. It takes octets from the front as long as they fit, and it makes no difference
into which offers and texts a line is cut: `write_append` and `writeTexts_eq`. `write_of_kept` tells
what a sink that many lines are written to holds by all octets that were due so far.
-/

namespace SessionProbe

def FullSink.message : FullSink → String
  | .fails text => text
  | .takesNothing => "failed to write whole buffer"

namespace Sink

def took (sink : Sink) (octets : List UInt8) : Sink :=
  { sink with written := sink.written ++ octets }

variable {sink : Sink} {octets : List UInt8}

theorem took_nil (sink : Sink) : sink.took [] = sink := by
  simp [took]

theorem took_took (sink : Sink) (first second : List UInt8) :
    (sink.took first).took second = sink.took (first ++ second) := by
  simp [took]

/-! ### Writing octets -/

theorem offer_of_room (room : 0 < sink.fitting octets) :
    sink.offer octets =
      (.ok (octets.take (sink.fitting octets)).length,
        sink.took (octets.take (sink.fitting octets))) := by
  obtain ⟨count, fitting⟩ := Nat.exists_eq_add_one.mpr room
  unfold offer
  rw [fitting]
  rfl

theorem write_of_no_room (some : octets ≠ []) (full : sink.fitting octets = 0) :
    sink.write octets = (.error sink.full.message, sink) := by
  cases octets with
  | nil => exact absurd rfl some
  | cons first rest =>
      rw [write, offer, full]
      cases way : sink.full with
      | fails text => rfl
      | takesNothing =>
          simp only [List.take_zero, List.length_nil, List.append_nil, FullSink.message]
          rw [← way]

theorem write_of_fits (fits : octets.length ≤ sink.fitting octets) :
    sink.write octets = (.ok (), sink.took octets) := by
  cases octets with
  | nil => rw [write, took_nil]
  | cons first rest =>
      have room : 0 < sink.fitting (first :: rest) := Nat.lt_of_lt_of_le (by simp) fits
      rw [write, offer_of_room room, List.take_of_length_le fits]
      dsimp only [List.length_cons]
      rw [List.drop_length, write]

/-- Once some octets did not fit, none does. -/
theorem fitting_took_take (full : sink.fitting octets < octets.length) (rest : List UInt8) :
    (sink.took (octets.take (sink.fitting octets))).fitting rest = 0 := by
  cases limit : sink.capacity with
  | none => simp [fitting, limit] at full
  | some capacity =>
      simp only [fitting, limit] at full
      simp only [fitting, took, limit, List.length_append, List.length_take]
      omega

theorem write_of_full (full : sink.fitting octets < octets.length) :
    sink.write octets =
      (.error sink.full.message, sink.took (octets.take (sink.fitting octets))) := by
  have some : octets ≠ [] := List.ne_nil_of_length_pos (Nat.zero_lt_of_lt full)
  by_cases room : 0 < sink.fitting octets
  · -- The first offer fills the sink, and the second one finds no room.
    obtain ⟨count, fitting⟩ := Nat.exists_eq_add_one.mpr room
    have left := fitting_took_take full (octets.drop (sink.fitting octets))
    have more : octets.drop (sink.fitting octets) ≠ [] := by
      intro empty
      have short := List.drop_eq_nil_iff.mp empty
      omega
    have taken : (octets.take (sink.fitting octets)).length = count + 1 := by
      rw [List.length_take]
      omega
    cases octets with
    | nil => exact absurd rfl some
    | cons first rest =>
        have again := write_of_no_room more left
        rw [write, offer_of_room room, taken]
        rw [fitting, List.drop_succ_cons] at again
        rw [fitting]
        exact again
  · have none : sink.fitting octets = 0 := Nat.eq_zero_of_not_pos room
    rw [write_of_no_room some none, none, List.take_zero, took_nil]

/-! ### Writing a line in pieces -/

theorem fitting_took (first second : List UInt8) (fits : first.length ≤ sink.fitting first) :
    (sink.took first).fitting second + first.length = sink.fitting (first ++ second) := by
  cases limit : sink.capacity with
  | none => simp [fitting, took, limit, Nat.add_comm]
  | some capacity =>
      simp only [fitting, limit] at fits
      simp only [fitting, took, limit, List.length_append]
      omega

theorem fitting_append_of_full {first : List UInt8} (full : sink.fitting first < first.length)
    (second : List UInt8) : sink.fitting (first ++ second) = sink.fitting first := by
  cases limit : sink.capacity with
  | none => simp [fitting, limit] at full
  | some capacity => simp only [fitting, limit]

theorem write_append (sink : Sink) (first second : List UInt8) :
    sink.write (first ++ second) =
      match sink.write first with
      | (.ok (), sink) => sink.write second
      | (.error fault, sink) => (.error fault, sink) := by
  by_cases fits : first.length ≤ sink.fitting first
  · have room := fitting_took first second fits
    rw [write_of_fits fits]
    dsimp only
    by_cases more : second.length ≤ (sink.took first).fitting second
    · have whole : (first ++ second).length ≤ sink.fitting (first ++ second) := by
        rw [List.length_append]
        omega
      rw [write_of_fits more, write_of_fits whole, took_took]
    · have cut : sink.fitting (first ++ second) < (first ++ second).length := by
        rw [List.length_append]
        omega
      rw [write_of_full (Nat.lt_of_not_le more), write_of_full cut, took_took, ← room, Nat.add_comm,
        List.take_length_add_append]
      rfl
  · -- The first part is cut already, so the second one is not looked at.
    have full := Nat.lt_of_not_le fits
    have same := fitting_append_of_full full second
    have cut : sink.fitting (first ++ second) < (first ++ second).length := by
      rw [same, List.length_append]
      omega
    rw [write_of_full full, write_of_full cut, same, List.take_append_of_le_length (Nat.le_of_lt full)]

theorem writeTexts_eq (sink : Sink) (texts : List String) :
    sink.writeTexts texts = sink.write (Text.Utf8.encode (String.join texts)) := by
  induction texts generalizing sink with
  | nil =>
      rw [writeTexts]
      exact (write.eq_1 sink).symm
  | cons text rest ih =>
      rw [writeTexts, String.join_cons, Text.Utf8.encode_append, write_append]
      rcases sink.write (Text.Utf8.encode text) with ⟨fault | ⟨⟩, next⟩
      · rfl
      · exact ih next

theorem join_pieces (reply : Reply) : String.join reply.pieces = reply.display := by
  unfold Reply.pieces Reply.display
  split
  · rfl
  · simp
  · simp [String.append_assoc]

/-- The pieces of a reply and the line end make the line, wherever a piece is cut. -/
theorem writeTexts_line (sink : Sink) (reply : Reply) :
    sink.writeTexts (reply.pieces ++ ["\n"]) =
      sink.write (Text.Utf8.encode (reply.display ++ "\n")) := by
  have joined : String.join (reply.pieces ++ ["\n"]) = reply.display ++ "\n" := by
    rw [String.join_append, join_pieces]
    rfl
  rw [writeTexts_eq, joined]

end Sink

/-! ### What is held of all that was due -/

namespace Sink

/-- The octets that a sink of a capacity holds when it is offered some from its start on. -/
def kept (capacity : Option Nat) (octets : List UInt8) : List UInt8 :=
  octets.take (capacity.getD octets.length)

/-- A sink of the capacity holds the octets whole. -/
def Fits (capacity : Option Nat) (octets : List UInt8) : Prop :=
  octets.length ≤ capacity.getD octets.length

instance (capacity : Option Nat) (octets : List UInt8) : Decidable (Fits capacity octets) :=
  inferInstanceAs (Decidable (_ ≤ _))

variable {sink : Sink} {due octets : List UInt8}

/-- Writing goes on where the sink was left, even when octets that were due before are lost. -/
theorem write_of_kept (holds : sink.written = kept sink.capacity due) (some : octets ≠ []) :
    sink.write octets =
      (if Fits sink.capacity (due ++ octets) then .ok () else .error sink.full.message,
        { sink with written := kept sink.capacity (due ++ octets) }) := by
  have positive := List.length_pos_iff.mpr some
  cases limit : sink.capacity with
  | none =>
      have fits : octets.length ≤ sink.fitting octets := by simp [fitting, limit]
      rw [write_of_fits fits, if_pos (by exact Nat.le_refl _)]
      simp only [took, holds, kept, limit, Option.getD_none, List.take_length]
  | some capacity =>
      -- What did not fit before counts as due, so that the room comes out as zero then.
      have fitting : sink.fitting octets = capacity - due.length := by
        rw [limit] at holds
        simp only [Sink.fitting, limit, holds, kept, Option.getD_some, List.length_take]
        omega
      by_cases fits : (due ++ octets).length ≤ capacity
      · rw [List.length_append] at fits
        rw [write_of_fits (by omega), if_pos (by simpa [Fits] using fits)]
        simp only [took, holds, kept, limit, Option.getD_some]
        rw [List.take_of_length_le (by omega), List.take_of_length_le (by simpa using fits)]
      · rw [List.length_append] at fits
        rw [write_of_full (by omega), if_neg (by simpa [Fits] using fits), fitting]
        simp only [took, holds, kept, limit, Option.getD_some]
        rw [List.take_append]

end Sink

end SessionProbe
