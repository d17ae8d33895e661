/-!
# Instants

A moment in time, as nanoseconds since 1970-01-01T00:00:00Z, leap seconds not counted.  Only
instants that every offset from UTC can show in the years -9999 to 9999 exist.
-/

namespace CargoTracking

namespace Instant

/-- The first moment of the year -9999 by a clock that is 25:59:59 behind UTC. -/
def firstNanos : Int := -377705023201 * 1000000000

/-- The last nanosecond of the year 9999 by a clock that is 25:59:59 ahead of UTC. -/
def lastNanos : Int := 253402207200 * 1000000000 + 999999999

end Instant

structure Instant where
  nanos : Int
  first_le : Instant.firstNanos ≤ nanos := by decide
  le_last : nanos ≤ Instant.lastNanos := by decide
  deriving DecidableEq

namespace Instant

/-- The instant so many nanoseconds after 1970-01-01T00:00:00Z, if there is one. -/
def ofNanos? (nanos : Int) : Option Instant :=
  if h : firstNanos ≤ nanos ∧ nanos ≤ lastNanos then some ⟨nanos, h.1, h.2⟩ else none

theorem ofNanos?_nanos (t : Instant) : ofNanos? t.nanos = some t := by
  rw [ofNanos?, dif_pos ⟨t.first_le, t.le_last⟩]

theorem nanos_eq_of_ofNanos? {nanos : Int} {t : Instant} (h : ofNanos? nanos = some t) :
    t.nanos = nanos := by
  unfold ofNanos? at h
  split at h
  · cases h; rfl
  · cases h

instance : LE Instant := ⟨fun a b => a.nanos ≤ b.nanos⟩
instance : LT Instant := ⟨fun a b => a.nanos < b.nanos⟩
instance (a b : Instant) : Decidable (a ≤ b) := inferInstanceAs (Decidable (a.nanos ≤ b.nanos))
instance (a b : Instant) : Decidable (a < b) := inferInstanceAs (Decidable (a.nanos < b.nanos))

theorem le_def {a b : Instant} : a ≤ b ↔ a.nanos ≤ b.nanos := Iff.rfl
theorem lt_def {a b : Instant} : a < b ↔ a.nanos < b.nanos := Iff.rfl

theorem le_refl (a : Instant) : a ≤ a := Int.le_refl a.nanos

theorem le_trans {a b c : Instant} (hab : a ≤ b) (hbc : b ≤ c) : a ≤ c := by
  rw [le_def] at hab hbc ⊢
  exact Int.le_trans hab hbc

theorem le_antisymm {a b : Instant} (hab : a ≤ b) (hba : b ≤ a) : a = b := by
  have hnanos : a.nanos = b.nanos := Int.le_antisymm hab hba
  cases a
  cases b
  cases hnanos
  rfl

end Instant

end CargoTracking
