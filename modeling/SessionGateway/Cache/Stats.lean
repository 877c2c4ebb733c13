import SessionGateway.Cache.Lookup

/-!
Counts of how lookups came out, and the share of those that were served fresh.
-/

namespace SessionGateway

structure Stats where
  hits : UInt64
  misses : UInt64
  stale : UInt64
  totalEntries : Nat
  deriving DecidableEq, Repr

namespace Stats

def zero : Stats := ⟨0, 0, 0, 0⟩

/-- Counts wrap around: after the last number of 64 bits comes zero. With checked arithmetic the
program would stop there instead. -/
def record (s : Stats) : LookupOutcome → Stats
  | .hit => { s with hits := s.hits + 1 }
  | .miss => { s with misses := s.misses + 1 }
  | .stale => { s with stale := s.stale + 1 }

def lookups (s : Stats) : UInt64 := s.hits + s.misses + s.stale

/-- The share of hits, both counts rounded before the division; zero before the first lookup. -/
def hitRate (s : Stats) : Binary64 :=
  if s.lookups = 0 then .zero false
  else
    ((Binary64.ofNat s.hits.toNat).divide? (.ofNat s.lookups.toNat)).getD (.zero false)

def snapshot (s : Stats) (totalEntries : Nat) : Stats := { s with totalEntries }

def toJson (s : Stats) : Json :=
  .obj [("hits", .int s.hits.toNat), ("misses", .int s.misses.toNat),
    ("stale", .int s.stale.toNat), ("total_entries", .int s.totalEntries),
    ("hit_rate", .float s.hitRate)]

theorem eq_stale_of_record {s : Stats} {o : LookupOutcome}
    (h : s.record o = s.record .stale) : o = .stale := by
  have hgrows : s.stale ≠ s.stale + 1 := by simp
  cases o with
  | stale => rfl
  | hit => exact absurd (congrArg Stats.stale h) hgrows
  | miss => exact absurd (congrArg Stats.stale h) hgrows

end Stats
end SessionGateway
