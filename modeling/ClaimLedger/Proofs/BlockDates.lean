import Mathlib.Algebra.BigOperators.Group.List.Basic
import Mathlib.Algebra.Ring.Nat
import ClaimLedger.Ledger

/-! The dates of blocks. The calendar is described by its rules: which dates it has, and which of
them follows which. Counting days is shown to agree with the rules, so each day count is the count
of one date and each date is found again by its count. Main statement: a block is dated by the day
on which its estimated moment falls, as long as that moment can be counted and its year has at most
four digits. -/
namespace ClaimLedger

namespace Date

/-! ## Years -/

theorem sum_monthLengths (leap : Bool) :
    (monthLengths leap).sum = 365 + (if leap then 1 else 0) := by
  cases leap <;> rfl

theorem daysBeforeYear_succ (year : Int) :
    daysBeforeYear (year + 1) = daysBeforeYear year + ((monthLengths (isLeap year)).sum : Nat) := by
  rw [sum_monthLengths]
  simp only [daysBeforeYear, isLeap, decide_eq_true_eq]
  split <;> omega

theorem daysBeforeYear_mono {year later : Int} (le : year ≤ later) :
    daysBeforeYear year ≤ daysBeforeYear later := by
  simp only [daysBeforeYear]
  omega

/-- Four hundred times the days before a year, by the mean length of years. -/
theorem daysBeforeYear_mean (year : Int) :
    146097 * (year - 1) - 699 ≤ 400 * daysBeforeYear year ∧
      400 * daysBeforeYear year ≤ 146097 * (year - 1) + 396 := by
  simp only [daysBeforeYear]
  omega

/-- A day count falls within the year found for it. -/
theorem within_yearOfOrdinal (count : Int) :
    daysBeforeYear (yearOfOrdinal count) < count ∧
      count ≤ daysBeforeYear (yearOfOrdinal count + 1) := by
  simp only [yearOfOrdinal]
  generalize guessed : (count - 1) * 400 / 146097 + 1 = guess
  split
  · rename_i early
    have mean := (daysBeforeYear_mean (guess - 1)).2
    rw [Int.sub_add_cancel]
    omega
  · rename_i reached
    split
    · have mean := (daysBeforeYear_mean (guess + 1 + 1)).1
      omega
    · omega

theorem yearOfOrdinal_eq {year count : Int} (behind : daysBeforeYear year < count)
    (within : count ≤ daysBeforeYear (year + 1)) : yearOfOrdinal count = year := by
  obtain ⟨behind', within'⟩ := within_yearOfOrdinal count
  rcases Int.lt_trichotomy (yearOfOrdinal count) year with lt | same | gt
  · have := daysBeforeYear_mono (show yearOfOrdinal count + 1 ≤ year from lt)
    omega
  · exact same
  · have := daysBeforeYear_mono (show year + 1 ≤ yearOfOrdinal count from gt)
    omega

/-! ## Months -/

/-- A day of the year is split where the months before it end. -/
theorem splitYearDay_take {lengths : List Nat} (month : Nat) {index day : Nat}
    (inside : day < lengths.getD index 0) :
    splitYearDay lengths month ((lengths.take index).sum + day) = (month + index, day + 1) := by
  induction lengths generalizing month index with
  | nil => simp at inside
  | cons length lengths ih =>
    cases index with
    | zero =>
      rw [List.take_zero, List.sum_nil, Nat.zero_add, splitYearDay, if_pos (by simpa using inside)]
      rfl
    | succ index =>
      have within : day < lengths.getD index 0 := by simpa using inside
      have beyond : ¬length + (lengths.take index).sum + day < length := by omega
      rw [List.take_succ_cons, List.sum_cons, splitYearDay, if_neg beyond, Nat.add_assoc,
        Nat.add_sub_cancel_left, ih (month + 1) within, Nat.add_right_comm, Nat.add_assoc]

/-- Every day of the year falls into one of the months. -/
theorem exists_month {lengths : List Nat} {yearDay : Nat} (inside : yearDay < lengths.sum) :
    ∃ index day, day < lengths.getD index 0 ∧ yearDay = (lengths.take index).sum + day := by
  induction lengths generalizing yearDay with
  | nil => simp at inside
  | cons length lengths ih =>
    by_cases first : yearDay < length
    · exact ⟨0, yearDay, by simpa using first, by simp⟩
    · have behind : yearDay - length < lengths.sum := by
        rw [List.sum_cons] at inside
        omega
      obtain ⟨index, day, within, split⟩ := ih behind
      refine ⟨index + 1, day, by simpa using within, ?_⟩
      rw [List.take_succ_cons, List.sum_cons]
      omega

theorem sum_take_succ (lengths : List Nat) (index : Nat) :
    (lengths.take (index + 1)).sum = (lengths.take index).sum + lengths.getD index 0 := by
  rw [List.take_add_one, List.sum_append]
  cases found : lengths[index]? <;> simp [found]

theorem sum_take_le (lengths : List Nat) (index : Nat) :
    (lengths.take index).sum ≤ lengths.sum := by
  conv_rhs => rw [← List.take_append_drop index lengths, List.sum_append]
  exact Nat.le_add_right _ _

theorem monthLengths_pos : ∀ leap, ∀ index < 12, 0 < (monthLengths leap).getD index 0 := by
  decide

/-! ## The dates of the calendar -/

/-- The length of the month of a date. -/
def monthLength (date : Date) : Nat :=
  (monthLengths (isLeap date.year)).getD (date.month - 1) 0

/-- The months of a year are numbered from one to twelve, and the days of a month from one to its
length. -/
structure OnCalendar (date : Date) : Prop where
  month_pos : 1 ≤ date.month
  month_le : date.month ≤ 12
  day_pos : 1 ≤ date.day
  day_le : date.day ≤ date.monthLength

/-- The date after a date: a month ends with its last day, a year with its last month. -/
def next (date : Date) : Date :=
  if date.day < date.monthLength then { date with day := date.day + 1 }
  else if date.month < 12 then ⟨date.year, date.month + 1, 1⟩
  else ⟨date.year + 1, 1, 1⟩

/-- Dates whose months and days are numbered from zero. -/
theorem onCalendar_iff {date : Date} :
    date.OnCalendar ↔ ∃ year index day, date = ⟨year, index + 1, day + 1⟩ ∧ index < 12 ∧
      day < (monthLengths (isLeap year)).getD index 0 := by
  constructor
  · obtain ⟨year, month, day⟩ := date
    rintro ⟨month_pos, month_le, day_pos, day_le⟩
    obtain ⟨index, rfl⟩ := Nat.exists_eq_add_of_le' month_pos
    obtain ⟨day, rfl⟩ := Nat.exists_eq_add_of_le' day_pos
    exact ⟨year, index, day, rfl, month_le, day_le⟩
  · rintro ⟨year, index, day, rfl, inYear, inMonth⟩
    exact ⟨Nat.le_add_left 1 index, inYear, Nat.le_add_left 1 day, inMonth⟩

/-! ## Counting days -/

/-- The count of a date whose month and day are numbered from zero. -/
theorem ordinal_eq (year : Int) (index day : Nat) :
    ordinal ⟨year, index + 1, day + 1⟩ =
      daysBeforeYear year + (((monthLengths (isLeap year)).take index).sum + day : Nat) + 1 := by
  simp only [ordinal, daysBeforeMonth, Nat.add_sub_cancel, List.sum]
  omega

/-- A date is counted within its year. -/
theorem OnCalendar.within {date : Date} (on : date.OnCalendar) :
    daysBeforeYear date.year < date.ordinal ∧
      date.ordinal ≤ daysBeforeYear (date.year + 1) := by
  obtain ⟨year, index, day, rfl, -, inside⟩ := onCalendar_iff.mp on
  have ends := sum_take_le (monthLengths (isLeap year)) (index + 1)
  rw [sum_take_succ] at ends
  rw [ordinal_eq]
  simp only [daysBeforeYear_succ]
  omega

/-- A date is found again by its count. -/
theorem OnCalendar.ofOrdinal_ordinal {date : Date} (on : date.OnCalendar) :
    ofOrdinal date.ordinal = date := by
  have year_eq : yearOfOrdinal date.ordinal = date.year :=
    yearOfOrdinal_eq on.within.1 on.within.2
  obtain ⟨year, index, day, rfl, -, inside⟩ := onCalendar_iff.mp on
  have yearDay : (ordinal ⟨year, index + 1, day + 1⟩ - 1 - daysBeforeYear year).toNat =
      ((monthLengths (isLeap year)).take index).sum + day := by
    rw [ordinal_eq]
    omega
  simp only [ofOrdinal, year_eq, yearDay, splitYearDay_take 1 inside, Nat.add_comm 1 index]

/-- Every number counts a date. -/
theorem exists_onCalendar (count : Int) :
    ∃ date : Date, date.OnCalendar ∧ date.ordinal = count := by
  obtain ⟨behind, within⟩ := within_yearOfOrdinal count
  generalize yearOfOrdinal count = year at behind within
  rw [daysBeforeYear_succ] at within
  obtain ⟨yearDay, counted⟩ : ∃ yearDay : Nat, count = daysBeforeYear year + yearDay + 1 :=
    ⟨(count - daysBeforeYear year - 1).toNat, by omega⟩
  have ofYear : yearDay < (monthLengths (isLeap year)).sum := by omega
  obtain ⟨index, day, inside, split⟩ := exists_month ofYear
  have inYear : index < 12 := by
    by_contra outside
    rw [List.getD_eq_getElem?_getD, List.getElem?_eq_none (Nat.le_of_not_lt outside)] at inside
    exact Nat.not_lt_zero day inside
  exact ⟨⟨year, index + 1, day + 1⟩, onCalendar_iff.mpr ⟨year, index, day, rfl, inYear, inside⟩,
    by rw [ordinal_eq, counted, split]⟩

theorem ofOrdinal_eq_iff {count : Int} {date : Date} :
    ofOrdinal count = date ↔ date.OnCalendar ∧ date.ordinal = count := by
  constructor
  · rintro rfl
    obtain ⟨date, on, rfl⟩ := exists_onCalendar count
    rw [on.ofOrdinal_ordinal]
    exact ⟨on, rfl⟩
  · rintro ⟨on, rfl⟩
    exact on.ofOrdinal_ordinal

/-- The dates that follow each other are counted one after the other. -/
theorem OnCalendar.next {date : Date} (on : date.OnCalendar) :
    date.next.OnCalendar ∧ date.next.ordinal = date.ordinal + 1 := by
  obtain ⟨year, index, day, rfl, inYear, inside⟩ := onCalendar_iff.mp on
  have length : monthLength ⟨year, index + 1, day + 1⟩ =
    (monthLengths (isLeap year)).getD index 0 := rfl
  simp only [Date.next, length]
  split
  · rename_i more
    refine ⟨onCalendar_iff.mpr ⟨year, index, day + 1, rfl, inYear, more⟩, ?_⟩
    rw [ordinal_eq, ordinal_eq]
    omega
  · rename_i last
    split
    · rename_i more
      refine ⟨onCalendar_iff.mpr ⟨year, index + 1, 0, rfl, more, monthLengths_pos _ _ more⟩, ?_⟩
      rw [ordinal_eq year (index + 1) 0, ordinal_eq, sum_take_succ]
      omega
    · rename_i december
      refine ⟨onCalendar_iff.mpr ⟨year + 1, 0, 0, rfl, by decide, monthLengths_pos _ 0 (by decide)⟩,
        ?_⟩
      have ends : ((monthLengths (isLeap year)).take (index + 1)).sum =
          (monthLengths (isLeap year)).sum := by
        rw [List.take_of_length_le]
        exact Nat.le_of_not_lt december
      rw [sum_take_succ] at ends
      rw [ordinal_eq (year + 1) 0 0, ordinal_eq, daysBeforeYear_succ, List.take_zero, List.sum_nil]
      omega

/-! ## Moments -/

/-- The moment at which a date begins, in seconds since the start of 1970. -/
def midnight (date : Date) : Int :=
  (date.ordinal - epochOrdinal) * 86400

/-- A date lasts for a day. -/
def Covers (date : Date) (seconds : Int) : Prop :=
  date.midnight ≤ seconds ∧ seconds < date.midnight + 86400

theorem covers_iff {date : Date} {seconds : Int} :
    date.Covers seconds ↔ date.ordinal = seconds / 86400 + epochOrdinal := by
  simp only [Covers, midnight]
  omega

/-- A moment is dated if its year has at most four digits. -/
theorem ofTimestamp?_eq_some_iff {seconds : Int} {date : Date} :
    ofTimestamp? seconds = some date ↔
      date.OnCalendar ∧ date.Covers seconds ∧ -9999 ≤ date.year ∧ date.year ≤ 9999 := by
  have years (on : date.OnCalendar) (covers : date.Covers seconds) :
      (-377705116800 ≤ seconds ∧ seconds ≤ 253402300799) ↔
        -9999 ≤ date.year ∧ date.year ≤ 9999 := by
    rw [covers_iff] at covers
    obtain ⟨behind, within⟩ := on.within
    simp only [daysBeforeYear, epochOrdinal] at behind within covers
    omega
  unfold ofTimestamp?
  split
  · rename_i inside
    rw [Option.some_inj, ofOrdinal_eq_iff, ← covers_iff]
    exact ⟨fun ⟨on, covers⟩ => ⟨on, covers, (years on covers).mp inside⟩,
      fun ⟨on, covers, _⟩ => ⟨on, covers⟩⟩
  · rename_i outside
    exact ⟨nofun, fun ⟨on, covers, within⟩ => absurd ((years on covers).mpr within) outside⟩

end Date

/-! ## Blocks -/

namespace Ledger

/-- The moment at which a ledger expects the block at a height. -/
def estimatedMoment (ledger : Ledger) (height : Int) : Int :=
  ledger.genesisTimestamp + height * ledger.targetBlockTime

theorem estimatedMoment_mono {ledger : Ledger} (forward : 0 ≤ ledger.targetBlockTime)
    {height later : Int} (le : height ≤ later) :
    ledger.estimatedMoment height ≤ ledger.estimatedMoment later :=
  Int.add_le_add_left (Int.mul_le_mul_of_nonneg_right le forward) _

/-- A height is dated by the calendar unless a number that leads to its moment leaves a signed word
or the year has more than four digits. -/
theorem estimatedDate?_eq_some_iff {ledger : Ledger} {height : Int} {date : Date} :
    ledger.estimatedDate? height = some date ↔
      (InSigned64 (height * ledger.targetBlockTime) ∧
        InSigned64 (ledger.estimatedMoment height)) ∧
      date.OnCalendar ∧ date.Covers (ledger.estimatedMoment height) ∧
      -9999 ≤ date.year ∧ date.year ≤ 9999 := by
  rw [← Date.ofTimestamp?_eq_some_iff]
  simp only [estimatedDate?, estimatedMoment]
  split
  · rename_i fits
    exact ⟨fun dated => ⟨fits, dated⟩, fun ⟨_, dated⟩ => dated⟩
  · rename_i overflows
    exact ⟨nofun, fun ⟨fits, _⟩ => absurd fits overflows⟩

/-- A height has no date exactly when the time since the first block or the moment of the block
leaves a signed word, or the moment falls on no date of the years −9999 to 9999. Otherwise the count
of its date is the number of days since the start of 1970, rounded down, behind the 719163 until
then. So while blocks take no negative time, the count of days never falls from a height to a later
one, and the date after a date has the next count. -/
theorem estimatedDate_exact (ledger : Ledger) (height : Int) :
    (ledger.estimatedDate? height = none ↔
      ¬InSigned64 (height * ledger.targetBlockTime) ∨
      ¬InSigned64 (ledger.estimatedMoment height) ∨
      ¬∃ date : Date, date.OnCalendar ∧ date.Covers (ledger.estimatedMoment height) ∧
        -9999 ≤ date.year ∧ date.year ≤ 9999) ∧
    (∀ date, ledger.estimatedDate? height = some date →
      date.OnCalendar ∧ date.ordinal = ledger.estimatedMoment height / 86400 + 719163) ∧
    (0 ≤ ledger.targetBlockTime → ∀ later ≥ height, ∀ date laterDate,
      ledger.estimatedDate? height = some date → ledger.estimatedDate? later = some laterDate →
      date.ordinal ≤ laterDate.ordinal) ∧
    (Date.mk 1970 1 1).midnight = 0 ∧
    ∀ date : Date, date.OnCalendar →
      date.next.OnCalendar ∧ date.next.ordinal = date.ordinal + 1 := by
  have counted {height : Int} {date : Date} (dated : ledger.estimatedDate? height = some date) :
      date.OnCalendar ∧ date.ordinal = ledger.estimatedMoment height / 86400 + 719163 := by
    obtain ⟨-, on, covers, -⟩ := estimatedDate?_eq_some_iff.mp dated
    exact ⟨on, Date.covers_iff.mp covers⟩
  refine ⟨?_, fun date => counted, ?_, rfl, fun date on => on.next⟩
  · rw [← Option.not_isSome_iff_eq_none, Option.isSome_iff_exists]
    simp only [estimatedDate?_eq_some_iff, exists_and_left, not_and_or, or_assoc]
  · intro forward later le date laterDate dated laterDated
    rw [(counted dated).2, (counted laterDated).2]
    exact Int.add_le_add_right
      (Int.ediv_le_ediv (by decide) (estimatedMoment_mono forward le)) _

/-- Blocks once a day, from the last second of the leap day of the year zero on. -/
def daily : Ledger :=
  { Ledger.mainNetwork with genesisTimestamp := -62162035201, targetBlockTime := 86400 }

theorem estimatedDate_exact_daily :
    daily.estimatedDate? 0 = some ⟨0, 2, 29⟩ ∧ daily.estimatedDate? 1 = some ⟨0, 3, 1⟩ ∧
    (Date.mk 0 2 29).ordinal ≤ (Date.mk 0 3 1).ordinal ∧ (Date.mk 0 3 1).ordinal = -305 := by
  have first : daily.estimatedDate? 0 = some ⟨0, 2, 29⟩ := by decide
  have second : daily.estimatedDate? 1 = some ⟨0, 3, 1⟩ := by decide
  obtain ⟨-, -, monotone, -⟩ := estimatedDate_exact daily 0
  obtain ⟨-, counted, -⟩ := estimatedDate_exact daily 1
  exact ⟨first, second, monotone (by decide) 1 (by decide) _ _ first second,
    (counted _ second).2⟩

end Ledger

end ClaimLedger
