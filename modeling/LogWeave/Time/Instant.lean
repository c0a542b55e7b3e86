import LogWeave.Time.Civil

/-! Moments of universal time.

An `Instant` counts seconds since 1970 and the nanoseconds within the second. A leap second has no
number of its own: it is the second nanosecond range of the last second of its minute, so it comes
after second 59 and before the next minute. The order is total (`le_total`) and antisymmetric
(`le_antisymm`). -/
namespace LogWeave.Time

/-- Nanoseconds in a second. -/
def nanosPerSecond : Nat := 1000000000

def firstSecond : Int := -8334601228800

def lastSecond : Int := 8210266876799

namespace Instant

/-- The counts of a moment between the first and the last day of the calendar. Only the last
second of a minute may be followed by a leap second. -/
def Valid (seconds : Int) (nanos : Nat) : Prop :=
  firstSecond ≤ seconds ∧ seconds ≤ lastSecond ∧
    (nanos < nanosPerSecond ∨ nanos < 2 * nanosPerSecond ∧ seconds % 60 = 59)

instance (seconds : Int) (nanos : Nat) : Decidable (Valid seconds nanos) := by
  unfold Valid
  infer_instance

end Instant

structure Instant where
  seconds : Int
  nanos : Nat
  valid : Instant.Valid seconds nanos
  deriving DecidableEq, Repr

namespace Instant

theorem ext {a b : Instant} (hs : a.seconds = b.seconds) (hn : a.nanos = b.nanos) : a = b := by
  obtain ⟨_, _, _⟩ := a
  obtain ⟨_, _, _⟩ := b
  simp only at hs hn
  subst hs hn
  rfl

/-- The moment with these counts, where there is one. -/
def ofCounts? (seconds : Int) (nanos : Nat) : Option Instant :=
  if h : Valid seconds nanos then some ⟨seconds, nanos, h⟩ else none

theorem ofCounts?_counts (t : Instant) : ofCounts? t.seconds t.nanos = some t := by
  simp [ofCounts?, t.valid]

def date (t : Instant) : Date := dateOf (t.seconds / 86400)

def secondOfDay (t : Instant) : Nat := (t.seconds % 86400).toNat

def isLeap (t : Instant) : Bool := nanosPerSecond ≤ t.nanos

/-- Earlier or the same. -/
def le (a b : Instant) : Bool :=
  decide (a.seconds < b.seconds) || (a.seconds == b.seconds && decide (a.nanos ≤ b.nanos))

instance : LE Instant := ⟨fun a b => a.le b = true⟩

instance : LT Instant := ⟨fun a b => ¬ b ≤ a⟩

instance (a b : Instant) : Decidable (a ≤ b) := inferInstanceAs (Decidable (a.le b = true))

instance (a b : Instant) : Decidable (a < b) := inferInstanceAs (Decidable (¬ b ≤ a))

theorem le_iff {a b : Instant} :
    a ≤ b ↔ a.seconds < b.seconds ∨ (a.seconds = b.seconds ∧ a.nanos ≤ b.nanos) := by
  change a.le b = true ↔ _
  simp [le]

theorem lt_iff_not_le {a b : Instant} : a < b ↔ ¬ b ≤ a := Iff.rfl

theorem le_refl (a : Instant) : a ≤ a := le_iff.2 (by omega)

theorem le_trans {a b c : Instant} (hab : a ≤ b) (hbc : b ≤ c) : a ≤ c := by
  rw [le_iff] at *
  omega

theorem le_total (a b : Instant) : a ≤ b ∨ b ≤ a := by
  simp only [le_iff]
  omega

theorem le_antisymm {a b : Instant} (hab : a ≤ b) (hba : b ≤ a) : a = b := by
  rw [le_iff] at *
  exact ext (by omega) (by omega)

/-- The later of a moment and one that may be missing. -/
def later : Option Instant → Instant → Instant
  | none, t => t
  | some seen, t => if t ≤ seen then seen else t

/-- Midnight of 1970-01-01. -/
def epoch : Instant := ⟨0, 0, by decide⟩

end Instant

end LogWeave.Time
