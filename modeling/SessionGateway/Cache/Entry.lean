import SessionGateway.Json.Basic

/-!
A cached value and the time it was written. How long it stays fresh is the reader's choice of a
window: an entry is fresh while its age is below the window.
-/

namespace SessionGateway

/-- Milliseconds since the start of 1970. -/
abbrev Instant := Int64

/-- A length of time in milliseconds. -/
abbrev Window := UInt64

def defaultWindow : Window := 120000

structure Entry where
  data : Json
  timestamp : Instant
  deriving BEq, Repr

/-- The time since the entry was written, negative for an entry from the future. It stops at the
ends of the range of instants. -/
def Entry.age (e : Entry) (now : Instant) : Int64 :=
  Int64.ofIntClamp (now.toInt - e.timestamp.toInt)

def Entry.isFresh (e : Entry) (window : Window) (now : Instant) : Bool :=
  (e.age now).toInt < window.toNat

theorem toInt_ofIntClamp_cases (i : Int) :
    (Int64.minValue.toInt ≤ i ∧ i ≤ Int64.maxValue.toInt ∧ (Int64.ofIntClamp i).toInt = i)
      ∨ (Int64.maxValue.toInt < i ∧ (Int64.ofIntClamp i).toInt = Int64.maxValue.toInt)
      ∨ (i < Int64.minValue.toInt ∧ (Int64.ofIntClamp i).toInt = Int64.minValue.toInt) := by
  unfold Int64.ofIntClamp
  split
  · rename_i hmin
    split
    · rename_i hmax
      exact .inl ⟨hmin, hmax, Int64.toInt_ofIntLE⟩
    · rename_i hmax
      exact .inr (.inl ⟨Int.not_le.mp hmax, rfl⟩)
  · rename_i hmin
    exact .inr (.inr ⟨Int.not_le.mp hmin, rfl⟩)

theorem toInt_ofIntClamp_le {a b : Int} (h : a ≤ b) :
    (Int64.ofIntClamp a).toInt ≤ (Int64.ofIntClamp b).toInt := by
  have hends : Int64.minValue.toInt ≤ Int64.maxValue.toInt := by decide
  rcases toInt_ofIntClamp_cases a with ⟨_, _, ha⟩ | ⟨_, ha⟩ | ⟨_, ha⟩ <;>
    rcases toInt_ofIntClamp_cases b with ⟨_, _, hb⟩ | ⟨_, hb⟩ | ⟨_, hb⟩ <;>
    omega

theorem Entry.age_le_age (e : Entry) {now now' : Instant} (h : now ≤ now') :
    (e.age now).toInt ≤ (e.age now').toInt := by
  have hle : now.toInt ≤ now'.toInt := Int64.le_iff_toInt_le.mp h
  exact toInt_ofIntClamp_le (by omega)

theorem Entry.isFresh_of_le {e : Entry} {window : Window} {now now' : Instant} (h : now ≤ now')
    (hf : e.isFresh window now') : e.isFresh window now := by
  have hage := e.age_le_age h
  simp only [isFresh, decide_eq_true_eq] at hf ⊢
  omega

end SessionGateway
