namespace clearsync

/-- A `csEventClient *`, `none` being `NULL`: the inbox an event is dispatched to. -/
abbrev Client := Option Nat

end clearsync
