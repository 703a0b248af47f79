import SessionTokens.Server.Build

/-! A server from its start to its end. Between requests it counts its registry at regular
times and logs the counts. -/

namespace SessionTokens.Server

def count (s : Server) (h : Host) : Server × Host :=
  let r := (s.counted.getD h.registry).call h.clock .stats
  let event : Log.Event := match r.answer with
    | .ok stats => .registryCounted none stats
    | .error e => .reporterFailed e
  let h := h.log (r.events ++ [event])
  match s.counted with
  | some _ => ({ s with counted := some r.registry }, h)
  | none => (s, { h with registry := r.registry })

/-- Counts the registry at once, and sets the time for the next count. -/
def start (s : Server) (h : Host) : Server × Host :=
  let (s, h) := s.count (h.log [.serverStarted s.registryName])
  ({ s with nextCount := some (h.timer + s.interval) }, h)

/-- The counts that fell due before now, of which there is no more than one a millisecond. -/
def catchUp : Nat → Server → Host → Server × Host
  | 0, s, h => (s, h)
  | fuel + 1, s, h =>
    match s.nextCount with
    | some due =>
      if due < h.timer then
        let (s, h) := s.count h
        catchUp fuel { s with nextCount := some (due + s.interval) } h
      else (s, h)
    | none => (s, h)

def respond (s : Server) (q : Http.Request) (h : Host) : Http.Response × Server × Host :=
  let (response, _, after) := (s.api.respond q).run { timeout := s.api.timeout } h
  (response, catchUp (after.timer - h.timer) s after)

/-- Ends the counts; a second time there are none to end. -/
def shutDown (s : Server) (h : Host) : Server × Host :=
  let stopping : List Log.Event :=
    if s.nextCount.isSome then [.reporterStopping, .reporterStopped] else []
  ({ s with nextCount := none }, h.log (.serverStopping :: stopping))

end SessionTokens.Server
