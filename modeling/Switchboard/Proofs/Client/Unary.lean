-- SUMMARY: The headers of a POST, name by name.
import Switchboard.Client.Unary
import Switchboard.Proofs.Http.Headers

/-!
# Headers of a POST

Three layers make the headers of a POST: those that every POST has, the extra headers of
the client over them, and those of the call over all. The trace identifier of the message
comes beside them, under its own name, if a header can hold it.
-/

namespace Switchboard.UnaryClient

/-- The headers of a POST that is given no others of their names. -/
def usualHeaders : Headers := [("content-type", "application/json"), ("accept", "application/json")]

/-- What a POST says of the trace identifier of its message. -/
def traceValues (m : Message) (name : String) : List String :=
  if name = traceHeader ∧ m.traceId ≠ "" ∧ Headers.isValue m.traceId = true then [m.traceId] else []

theorem getAll_request_headers (c : UnaryClient) (callHeaders : Headers) (m : Message) (name : String) :
    (c.request callHeaders m).headers.getAll name =
      (if callHeaders.overlay c.extraHeaders name = [] then usualHeaders.getAll name
        else callHeaders.overlay c.extraHeaders name) ++ traceValues m name := by
  have hgiven : Headers.getAll name (callHeaders.replaceAll (c.extraHeaders.replaceAll usualHeaders)) =
      if callHeaders.overlay c.extraHeaders name = [] then usualHeaders.getAll name
      else callHeaders.overlay c.extraHeaders name := by
    simp only [Headers.getAll_replaceAll, Headers.overlay_eq]
    by_cases hcall : callHeaders.getAll name = []
    · by_cases hextra : c.extraHeaders.getAll name = [] <;> simp only [hcall, hextra, if_true, if_false]
    · simp only [hcall, if_false]
  rw [← hgiven]
  by_cases hheld : m.traceId ≠ "" ∧ Headers.isValue m.traceId = true
  · simp [request, traceValues, usualHeaders, hheld, Headers.getAll_append_line, eq_comm]
  · simp [request, traceValues, usualHeaders, hheld]

end Switchboard.UnaryClient
