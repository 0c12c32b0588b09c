/-!
# Statistics

Running counters of a session.
-/

namespace ShaderPipeline

/-- What a session has done. -/
structure Statistics where
  created : Nat := 0
  /-- Creations that a cached binary served. -/
  cacheHits : Nat := 0
  /-- Creations that had to compile. -/
  cacheMisses : Nat := 0
  compileFailures : Nat := 0
  linkFailures : Nat := 0
  /-- Programs that are there now. -/
  live : Nat := 0
deriving Repr, DecidableEq

/-- The counters in one line. -/
def Statistics.text (statistics : Statistics) : String :=
  Nat.repr statistics.live ++ " live, " ++ Nat.repr statistics.created ++ " created (" ++
    Nat.repr statistics.cacheHits ++ " cached, " ++ Nat.repr statistics.cacheMisses ++
    " compiled), " ++ Nat.repr statistics.compileFailures ++ " compile / " ++
    Nat.repr statistics.linkFailures ++ " link failures"

end ShaderPipeline
