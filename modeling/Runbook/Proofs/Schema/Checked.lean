import Runbook.Schema.Field

/-!
# Readings and entries

A reading that is put together fits if and only if its parts do, and gives what they give. An entry
whose key is a text is found under this text and under nothing else.
-/

namespace Runbook

section Entries

theorem Scalar.sameKey_str_iff {scalar : Scalar} {key : String} :
    scalar.sameKey (.str key) = true ↔ scalar = .str key := by
  cases scalar with
  | float x => cases h : x.toInt? <;> simp [sameKey, integral?, h]
  | _ => simp [sameKey, integral?]

namespace Value

variable (key : String) (value : Value) (entries : List (Scalar × Value))

theorem find?_setEntry_self : find? (.str key) (setEntry (.str key) value entries) = some value := by
  induction entries with
  | nil => simp [setEntry, find?, Scalar.sameKey_str_iff]
  | cons entry entries ih =>
      obtain ⟨name, old⟩ := entry
      rw [setEntry]
      split
      · next same => rw [find?, if_pos same]
      · next other => rw [find?, if_neg other, ih]

theorem find?_setEntry_of_ne {other : String} (apart : key ≠ other) :
    find? (.str other) (setEntry (.str key) value entries) = find? (.str other) entries := by
  induction entries with
  | nil => simp [setEntry, find?, Scalar.sameKey_str_iff, apart]
  | cons entry entries ih =>
      obtain ⟨name, old⟩ := entry
      rw [setEntry]
      split
      · next same =>
        obtain rfl := Scalar.sameKey_str_iff.mp same
        simp [find?, Scalar.sameKey_str_iff, apart]
      · rw [find?, find?, ih]

end Value

end Entries

namespace Checked

variable {α β : Type}

theorem under_eq_ok_iff {reading : Checked α} {name : String} {a : α} :
    reading.under name = .ok a ↔ reading = .ok a := by
  cases reading with
  | ok b => exact Iff.rfl
  | error found => exact iff_of_false nofun nofun

theorem both_eq_ok_iff {first : Checked α} {second : Checked β} {pair : α × β} :
    both first second = .ok pair ↔ first = .ok pair.1 ∧ second = .ok pair.2 := by
  obtain ⟨a, b⟩ := pair
  cases first <;> cases second <;> simp [both]

theorem map_eq_ok_iff {reading : Checked α} {f : α → β} {b : β} :
    reading.map f = .ok b ↔ ∃ a, reading = .ok a ∧ f a = b := by
  cases reading <;> simp [Except.map]

theorem bind_eq_ok_iff {reading : Checked α} {next : α → Checked β} {b : β} :
    (reading >>= next) = .ok b ↔ ∃ a, reading = .ok a ∧ next a = .ok b := by
  cases reading <;> simp [bind, Except.bind]

theorem all_eq_ok_iff {readings : List (Checked α)} {items : List α} :
    all readings = .ok items ↔ readings = items.map .ok := by
  induction readings generalizing items with
  | nil => cases items <;> simp [all]
  | cons first others ih =>
      cases items with
      | nil => simp [all, map_eq_ok_iff]
      | cons item items => simp [all, map_eq_ok_iff, both_eq_ok_iff, ih]

end Checked

end Runbook
