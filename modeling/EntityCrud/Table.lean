/-! The table an entity maps to, and the time a statement may take. -/
namespace EntityCrud

structure Table where
  name : String
  aliasName : Option String := none
  /-- The declared type of the entity, shown in diagnostics. -/
  sourceType : String := name
  deriving DecidableEq, Repr, Inhabited

/-- A length of time in whole seconds and nanoseconds below one second. -/
structure Timeout where
  seconds : UInt64
  nanos : UInt32 := 0
  nanos_lt : nanos.toNat < 1000000000 := by decide
  deriving DecidableEq, Repr

namespace Timeout

theorem zero_nanos_lt : (0 : UInt32).toNat < 1000000000 := by decide

instance : Inhabited Timeout := ⟨{ seconds := 0 }⟩

/-- Whole seconds. -/
def ofSeconds (seconds : UInt64) : Timeout := { seconds }

/-- Seconds and nanoseconds, where nanoseconds from one second on count as seconds; none if
the seconds do not fit. -/
def ofParts? (seconds : UInt64) (nanos : UInt32) : Option Timeout :=
  let total := seconds.toNat + nanos.toNat / 1000000000
  if total < UInt64.size then
    some {
      seconds := UInt64.ofNat total
      nanos := UInt32.ofNat (nanos.toNat % 1000000000)
      nanos_lt := by
        have small : nanos.toNat % 1000000000 < 1000000000 := Nat.mod_lt _ (by decide)
        rw [UInt32.toNat_ofNat_of_lt' (Nat.lt_trans small (by decide))]
        exact small }
  else none

end Timeout
end EntityCrud
