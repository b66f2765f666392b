import SessionProbe.Proofs.Bus.Search

set_option autoImplicit false

/-!
Exchanges: requests with the answers they met. A search for an owner is settled by its own
exchanges, wherever on a line they took place.
-/

namespace SessionProbe.Bus

structure Exchange where
  request : Request
  answer : Answer

/-- Requests with the next answers of a line. -/
def Line.exchanges (line : Line) (requests : List Request) : List Exchange :=
  requests.zipIdx.map fun (request, number) => { request, answer := line.answer number }

/-- The line on which exchanges find just the answers they met. -/
def Line.ofExchanges (exchanges : List Exchange) : Line :=
  { answers := exchanges.map Exchange.answer, afterwards := .hungUp }

variable (line : Line) (requests : List Request)

theorem Line.getElem?_exchanges (number : Nat) :
    (line.exchanges requests)[number]? =
      requests[number]?.map fun request => { request, answer := line.answer number } := by
  simp only [Line.exchanges, List.getElem?_map, List.getElem?_zipIdx, Option.map_map, Nat.zero_add]
  rfl

@[simp]
theorem Line.length_exchanges : (line.exchanges requests).length = requests.length := by
  simp [Line.exchanges]

@[simp]
theorem Line.requests_exchanges :
    (line.exchanges requests).map Exchange.request = requests := by
  apply List.ext_getElem?
  intro number
  rw [List.getElem?_map, Line.getElem?_exchanges, Option.map_map]
  exact Option.map_id_apply

theorem Line.answer_ofExchanges {requests : List Request} {number : Nat}
    (inside : number < requests.length) :
    (Line.ofExchanges (line.exchanges requests)).answer number = line.answer number := by
  have present := List.getElem?_eq_getElem inside
  simp [Line.answer, Line.ofExchanges, List.getD_eq_getElem?_getD, Line.getElem?_exchanges, present]

theorem Line.afterAll_append (first second : List Request) :
    line.afterAll (first ++ second) = (line.afterAll first).afterAll second := by
  simp [Line.afterAll, List.drop_drop]

theorem Line.answer_afterAll (made : List Request) (number : Nat) :
    (line.afterAll made).answer number = line.answer (made.length + number) := by
  simp [Line.answer, Line.afterAll, List.getD_eq_getElem?_getD]

theorem Line.exchanges_append (first second : List Request) :
    line.exchanges (first ++ second) =
      line.exchanges first ++ (line.afterAll first).exchanges second := by
  apply List.ext_getElem?
  intro number
  by_cases inside : number < first.length
  · rw [List.getElem?_append_left (by simpa using inside), Line.getElem?_exchanges,
      Line.getElem?_exchanges, List.getElem?_append_left inside]
  · have past := Nat.le_of_not_lt inside
    rw [List.getElem?_append_right (by simpa using past), Line.getElem?_exchanges,
      Line.getElem?_exchanges, List.getElem?_append_right past, Line.answer_afterAll,
      Line.length_exchanges, Nat.add_sub_cancel' past]

variable {line : Line} {service : String} {asked : List Request}
  {result : Except BusError String}

/-- No search looks at an answer that is not to one of its requests. -/
theorem Resolves.congr {other : Line} (search : Resolves line service asked result)
    (agree : ∀ number, number < asked.length → line.answer number = other.answer number) :
    Resolves other service asked result := by
  cases search with
  | unique isUnique => exact .unique isUnique
  | running named owned =>
      rw [agree 0 (by simp)] at owned
      exact .running named owned
  | unanswered named failed =>
      rw [agree 0 (by simp)] at failed
      exact .unanswered named failed
  | notStarted named unowned failed =>
      rw [agree 0 (by simp)] at unowned
      rw [agree 1 (by simp)] at failed
      exact .notStarted named unowned failed
  | started named unowned active owned =>
      rw [agree 0 (by simp)] at unowned
      rw [agree 1 (by simp)] at active
      rw [agree 2 (by simp)] at owned
      exact .started named unowned active owned
  | lost named unowned active failed =>
      rw [agree 0 (by simp)] at unowned
      rw [agree 1 (by simp)] at active
      rw [agree 2 (by simp)] at failed
      exact .lost named unowned active failed
  | gone named unowned active absent =>
      rw [agree 0 (by simp)] at unowned
      rw [agree 1 (by simp)] at active
      rw [agree 2 (by simp)] at absent
      exact .gone named unowned active absent

theorem Resolves.of_exchanges (search : Resolves line service asked result) :
    Resolves (.ofExchanges (line.exchanges asked)) service
      ((line.exchanges asked).map Exchange.request) result := by
  rw [Line.requests_exchanges]
  apply search.congr
  intro number inside
  exact (line.answer_ofExchanges inside).symm

end SessionProbe.Bus
