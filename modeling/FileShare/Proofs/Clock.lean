import FileShare.Clock

/-!
# Readings that are dates

A reading is a date if it lies between 1970 and the end of the calendar, and is
then taken as it is.
-/

set_option autoImplicit false

namespace FileShare.Instant

def IsDate (now : Instant) : Prop := 0 ≤ now.seconds ∧ now.seconds < calendarEnd

instance (now : Instant) : Decidable now.IsDate := inferInstanceAs (Decidable (_ ∧ _))

theorem dated_of_isDate {now : Instant} (date : now.IsDate) : now.dated = .ok now := by
  obtain ⟨past, future⟩ := date
  rw [dated, if_neg (by omega), if_neg (by omega)]

theorem dated_of_not_isDate {now : Instant} (noDate : ¬ now.IsDate) :
    ∃ fault, now.dated = .error fault := by
  rw [dated]
  by_cases past : now.seconds < 0
  · exact ⟨_, if_pos past⟩
  · have future : calendarEnd ≤ now.seconds := by
      rw [IsDate] at noDate
      omega
    exact ⟨_, by rw [if_neg past, if_pos future]⟩

theorem eq_of_dated {now date : Instant} (read : now.dated = .ok date) : date = now := by
  by_cases isDate : now.IsDate
  · rw [dated_of_isDate isDate] at read
    exact (Except.ok.inj read).symm
  · obtain ⟨fault, stopped⟩ := dated_of_not_isDate isDate
    rw [stopped] at read
    cases read

end FileShare.Instant
