import SessionGateway.Cache.Entry

/-!
How a lookup comes out: on a fresh entry, on a stale one, or on none.
-/

namespace SessionGateway

inductive LookupOutcome where
  | hit
  | miss
  | stale
  deriving DecidableEq, Repr

def LookupOutcome.of (window : Window) (now : Instant) : Option Entry → LookupOutcome
  | none => .miss
  | some e => if e.isFresh window now then .hit else .stale

def Entry.served? (window : Window) (now : Instant) (found : Option Entry) : Option Json :=
  found.bind fun e => if e.isFresh window now then some e.data else none

theorem Entry.served?_eq_some_iff {window : Window} {now : Instant} {found : Option Entry}
    {d : Json} :
    served? window now found = some d
      ↔ ∃ e, found = some e ∧ e.isFresh window now ∧ e.data = d := by
  simp [served?, Option.bind_eq_some_iff]

namespace LookupOutcome

variable {window : Window} {now : Instant} {found : Option Entry}

theorem of_eq_hit_iff :
    of window now found = .hit ↔ ∃ d, Entry.served? window now found = some d := by
  cases found with
  | none => simp [of, Entry.served?]
  | some e => cases he : e.isFresh window now <;> simp [of, Entry.served?, he]

theorem of_eq_miss_iff : of window now found = .miss ↔ found = none := by
  cases found with
  | none => simp [of]
  | some e => cases he : e.isFresh window now <;> simp [of, he]

theorem of_eq_stale_iff :
    of window now found = .stale ↔ ∃ e, found = some e ∧ e.isFresh window now = false := by
  cases found with
  | none => simp [of]
  | some e => cases he : e.isFresh window now <;> simp [of, he]

end LookupOutcome
end SessionGateway
