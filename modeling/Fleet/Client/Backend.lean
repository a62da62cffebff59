/-
A backend whose replies are scripted. One that accepts no connection gives no reply and sees no
request; one that does records every request and gives the replies in order, and refuses what is
asked after the last one.
-/
import Fleet.Client.Exchange

namespace Fleet

/-- A backend with the replies to come and the requests so far, last one first. A reply may be
absent: then the connection ends without one. -/
structure Backend where
  accepts : Bool
  script : List (Option Reply) := []
  requests : List Request := []

namespace Backend

/-- The reply after the end of the script. -/
def unscripted : Reply := ⟨500, some "\x7b\"error\":\"no reply scripted\"\x7d"⟩

/-- The reply to a request, and the backend after it. -/
def serve (backend : Backend) (request : Request) : Option Reply × Backend :=
  if backend.accepts then
    (backend.script.head?.getD (some unscripted),
      { backend with script := backend.script.tail, requests := request :: backend.requests })
  else (none, backend)

end Backend

end Fleet
