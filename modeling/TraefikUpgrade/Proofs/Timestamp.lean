import TraefikUpgrade.Proofs.Decimal.Integer
import TraefikUpgrade.Proofs.Text.Blank
import TraefikUpgrade.Timestamp

/-!
Contract: points in time are read from their texts.

Owns: the points in time that there are, that only such ones are read, and
that each of them is read from the text that is written for it.

Does not own: the other texts that are read as points in time.
-/

set_option autoImplicit false

namespace TraefikUpgrade

/-! ### Dates -/

namespace Date

/-- A month of twelve and a day of the month, in any year. -/
structure IsDay (date : Date) : Prop where
  month_pos : 1 ≤ date.month
  month_le : date.month ≤ 12
  day_pos : 1 ≤ date.day
  day_le : date.day ≤ daysInMonth date.year date.month

theorem isValid_iff {date : Date} :
    date.isValid = true ↔ isYear date.year = true ∧ date.IsDay := by
  simp only [isValid, Bool.and_eq_true, decide_eq_true_iff]
  constructor
  · rintro ⟨⟨⟨⟨isYear, month_pos⟩, month_le⟩, day_pos⟩, day_le⟩
    exact ⟨isYear, ⟨month_pos, month_le, day_pos, day_le⟩⟩
  · rintro ⟨isYear, isDay⟩
    exact ⟨⟨⟨⟨isYear, isDay.month_pos⟩, isDay.month_le⟩, isDay.day_pos⟩, isDay.day_le⟩

theorem daysInMonth_pos (year : Int) (month : Nat) : 1 ≤ daysInMonth year month := by
  unfold daysInMonth
  split
  · split <;> decide
  all_goals decide

theorem daysInMonth_le (year : Int) (month : Nat) : daysInMonth year month ≤ 31 := by
  unfold daysInMonth
  split
  · split <;> decide
  all_goals decide

theorem IsDay.next {date : Date} (isDay : date.IsDay) : date.next.IsDay := by
  unfold Date.next
  split
  · rename_i notLast
    exact { isDay with day_pos := by simp, day_le := notLast }
  · split
    · rename_i notDecember
      exact ⟨by simp, notDecember, by simp, daysInMonth_pos _ _⟩
    · exact ⟨by simp, by simp, by simp, daysInMonth_pos _ _⟩

theorem IsDay.previous {date : Date} (isDay : date.IsDay) : date.previous.IsDay := by
  have month_le := isDay.month_le
  have day_le := isDay.day_le
  unfold Date.previous
  split
  · rename_i notFirst
    exact { isDay with day_pos := by dsimp only; omega, day_le := by dsimp only; omega }
  · split
    · rename_i notJanuary
      exact ⟨by dsimp only; omega, by dsimp only; omega, daysInMonth_pos _ _, le_refl _⟩
    · exact ⟨by simp, by simp, by simp, by simp [daysInMonth]⟩

end Date

namespace Timestamp

/-- A point in time on a day of the calendar. -/
structure IsValid (timestamp : Timestamp) : Prop where
  date : timestamp.date.isValid = true
  hour : timestamp.hour < 24
  minute : timestamp.minute < 60
  second : timestamp.second ≤ 60

/-! ### Only valid points in time are read -/

theorem atOffset_isDay {date : Date} (isDay : date.IsDay) (hour minute second : Nat) (offset : Int) :
    (atOffset date hour minute second offset).date.IsDay := by
  unfold atOffset
  dsimp only
  split
  · exact isDay.previous
  · split
    · exact isDay.next
    · exact isDay

theorem isValid_of_date? {text rest : List Char} {date : Date}
    (read : date? text = some (date, rest)) : date.isValid = true := by
  unfold date? at read
  obtain ⟨_, -, read⟩ := Option.bind_eq_some_iff.1 read
  obtain ⟨_, -, read⟩ := Option.bind_eq_some_iff.1 read
  obtain ⟨_, -, read⟩ := Option.bind_eq_some_iff.1 read
  obtain ⟨_, -, read⟩ := Option.bind_eq_some_iff.1 read
  obtain ⟨_, -, read⟩ := Option.bind_eq_some_iff.1 read
  obtain ⟨valid, same⟩ := Option.ite_none_right_eq_some.1 read
  obtain ⟨rfl, -⟩ := Prod.mk.inj (Option.some.inj same)
  exact valid

theorem isValid_of_ofText? {text : String} {timestamp : Timestamp}
    (read : ofText? text = some timestamp) : timestamp.IsValid := by
  unfold ofText? at read
  obtain ⟨⟨date, _⟩, ofDate, read⟩ := Option.bind_eq_some_iff.1 read
  obtain ⟨_, -, read⟩ := Option.bind_eq_some_iff.1 read
  obtain ⟨⟨hour, _⟩, -, read⟩ := Option.bind_eq_some_iff.1 read
  obtain ⟨_, -, read⟩ := Option.bind_eq_some_iff.1 read
  obtain ⟨⟨minute, _⟩, -, read⟩ := Option.bind_eq_some_iff.1 read
  obtain ⟨_, -, read⟩ := Option.bind_eq_some_iff.1 read
  obtain ⟨⟨second, _⟩, -, read⟩ := Option.bind_eq_some_iff.1 read
  obtain ⟨_, -, read⟩ := Option.bind_eq_some_iff.1 read
  obtain ⟨⟨offset, _⟩, -, read⟩ := Option.bind_eq_some_iff.1 read
  obtain ⟨inRange, read⟩ := Option.ite_none_right_eq_some.1 read
  simp only [Bool.and_eq_true, decide_eq_true_iff] at inRange
  obtain ⟨same, isYear⟩ := Option.filter_eq_some_iff.1 read
  have isDay := (Date.isValid_iff.1 (isValid_of_date? ofDate)).2
  obtain rfl := Option.some.inj same
  exact
    { date := Date.isValid_iff.2 ⟨isYear, atOffset_isDay isDay hour minute second offset⟩
      hour := by simp only [atOffset]; omega
      minute := by simp only [atOffset]; omega
      second := inRange.1.2 }

/-! ### Every valid point in time is read from its text -/

theorem isBlank_eq_false_of_isDigit {character : Char} (isDigit : character.isDigit = true) :
    Text.isBlank character = false := by
  have inRange : 48 ≤ character.toNat ∧ character.toNat ≤ 57 := by
    simpa [Char.isDigit, UInt32.le_iff_toNat_le] using isDigit
  unfold Text.isBlank
  simp
  omega

section Padded

variable {width value : Nat} {rest : List Char}

theorem isDigit_of_mem_padded : ∀ character ∈ padded width value, character.isDigit = true :=
  Decimal.isDigit_of_mem_zeros_append

theorem natural?_padded : Decimal.natural? 10 (padded width value) = some value :=
  Decimal.natural?_zeros_append _ value

/-- A padded number starts with a digit, which is neither a blank nor a sign. -/
theorem exists_padded_eq_cons :
    ∃ first digits, padded width value = first :: digits ∧ first.isDigit = true := by
  obtain ⟨first, digits, starts⟩ : ∃ first digits, padded width value = first :: digits :=
    List.exists_cons_of_ne_nil (List.append_ne_nil_of_right_ne_nil _ Nat.toDigits_ne_nil)
  exact ⟨first, digits, starts, isDigit_of_mem_padded first (starts ▸ List.mem_cons_self)⟩

theorem trimStart_padded : Text.trimStart (padded width value ++ rest) = padded width value ++ rest := by
  obtain ⟨first, digits, starts, isDigit⟩ := @exists_padded_eq_cons width value
  rw [starts]
  refine Text.dropWhile_eq_self fun character isFirst => ?_
  obtain rfl : first = character := by simpa using isFirst
  exact isBlank_eq_false_of_isDigit isDigit

theorem length_padded (fits : (Nat.toDigits 10 value).length ≤ width) :
    (padded width value).length = width := by
  unfold padded
  rw [List.length_append, List.length_replicate]
  omega

theorem number?_padded (fits : (Nat.toDigits 10 value).length ≤ width) :
    number? width (padded width value ++ rest) = some (value, rest) := by
  have taken : (padded width value ++ rest).take width = padded width value :=
    List.take_left' (length_padded fits)
  have digits : (padded width value).takeWhile Char.isDigit = padded width value :=
    List.takeWhile_eq_self_iff.2 isDigit_of_mem_padded
  unfold number?
  simp [trimStart_padded, taken, digits, natural?_padded]

theorem signed_padded (sign : Int) (stopped : ∀ character ∈ rest.head?, character.isDigit = false) :
    year?.signed sign (padded width value ++ rest) = some (sign * value, rest) := by
  have digits : (padded width value ++ rest).takeWhile Char.isDigit = padded width value :=
    Text.takeWhile_run isDigit_of_mem_padded stopped
  unfold year?.signed
  simp [digits, natural?_padded]

/-- Four digits without a sign are a year. -/
theorem year?_padded (fits : (Nat.toDigits 10 value).length ≤ 4) :
    year? (padded 4 value ++ rest) = some ((value : Int), rest) := by
  obtain ⟨first, digits, starts, isDigit⟩ := @exists_padded_eq_cons 4 value
  have read := @number?_padded 4 value rest fits
  unfold year?
  rw [trimStart_padded]
  rw [starts, List.cons_append] at read ⊢
  split
  · rename_i isPlus
    rw [(List.cons.inj isPlus).1] at isDigit
    cases isDigit
  · rename_i isMinus
    rw [(List.cons.inj isMinus).1] at isDigit
    cases isDigit
  · rw [read]
    rfl

end Padded

theorem year?_yearText (year : Int) {rest : List Char}
    (stopped : ∀ character ∈ rest.head?, character.isDigit = false) :
    year? (yearText year ++ rest) = some (year, rest) := by
  unfold yearText
  dsimp only
  split
  · rename_i fourDigits
    have inRange : 0 ≤ year ∧ year ≤ 9999 := by simpa using fourDigits
    have fits : (Nat.toDigits 10 year.natAbs).length ≤ 4 :=
      (Nat.length_toDigits_le_iff (by decide) (by decide)).2 (by omega)
    rw [year?_padded fits, Int.natAbs_of_nonneg inRange.1]
  · split
    · have same : -1 * (year.natAbs : Int) = year := by omega
      exact (@signed_padded 4 year.natAbs rest (-1) stopped).trans (by rw [same])
    · have same : 1 * (year.natAbs : Int) = year := by omega
      exact (@signed_padded 4 year.natAbs rest 1 stopped).trans (by rw [same])

theorem afterSeparator?_cons {separator : Char} (visible : Text.isBlank separator = false)
    (rest : List Char) : afterSeparator? separator (separator :: rest) = some rest := by
  unfold afterSeparator?
  rw [Text.trimStart, Text.dropWhile_eq_self (by simpa using visible)]
  simp

theorem number?_two {value : Nat} (fits : value < 100) (rest : List Char) :
    number? 2 (padded 2 value ++ rest) = some (value, rest) :=
  number?_padded ((Nat.length_toDigits_le_iff (by decide) (by decide)).2 fits)

theorem date?_text {date : Date} (valid : date.isValid = true) (rest : List Char) :
    date? (yearText date.year ++ '-' :: (padded 2 date.month ++ '-' :: (padded 2 date.day ++ rest))) =
      some (date, rest) := by
  have isDay := (Date.isValid_iff.1 valid).2
  have month : date.month < 100 := by have := isDay.month_le; omega
  have day : date.day < 100 := by
    have := isDay.day_le
    have := Date.daysInMonth_le date.year date.month
    omega
  unfold date?
  rw [year?_yearText date.year (by simp)]
  simp [afterSeparator?_cons (show Text.isBlank '-' = false by decide),
    number?_two month, number?_two day, valid]

theorem atOffset_zero {timestamp : Timestamp} (hour : timestamp.hour < 24)
    (minute : timestamp.minute < 60) :
    atOffset timestamp.date timestamp.hour timestamp.minute timestamp.second 0 = timestamp := by
  have sameDay : ¬(timestamp.hour * 60 + timestamp.minute - 0 : Int) < 0 ∧
      ¬(1440 : Int) ≤ timestamp.hour * 60 + timestamp.minute - 0 := by omega
  unfold atOffset
  dsimp only
  rw [if_neg sameDay.1, if_neg sameDay.2]
  cases timestamp
  simp only [mk.injEq, true_and, and_true] at hour minute ⊢
  omega

/-- A valid point in time is read from its text. -/
theorem ofText?_text {timestamp : Timestamp} (valid : timestamp.IsValid) :
    ofText? timestamp.text = some timestamp := by
  have hour : timestamp.hour < 100 := by have := valid.hour; omega
  have minute : timestamp.minute < 100 := by have := valid.minute; omega
  have second : timestamp.second < 100 := by have := valid.second; omega
  have isYear := (Date.isValid_iff.1 valid.date).1
  have visible : Text.isBlank ':' = false := by decide
  unfold ofText? text
  simp only [String.toList_ofList, List.append_assoc, List.cons_append]
  refine Option.bind_eq_some_iff.2 ⟨_, date?_text valid.date _, ?_⟩
  refine Option.bind_eq_some_iff.2 ⟨_, rfl, ?_⟩
  refine Option.bind_eq_some_iff.2 ⟨_, number?_two hour _, ?_⟩
  refine Option.bind_eq_some_iff.2 ⟨_, afterSeparator?_cons visible _, ?_⟩
  refine Option.bind_eq_some_iff.2 ⟨_, number?_two minute _, ?_⟩
  refine Option.bind_eq_some_iff.2 ⟨_, afterSeparator?_cons visible _, ?_⟩
  refine Option.bind_eq_some_iff.2 ⟨_, number?_two second _, ?_⟩
  refine Option.bind_eq_some_iff.2 ⟨['Z'], rfl, ?_⟩
  refine Option.bind_eq_some_iff.2 ⟨(0, []), by decide, ?_⟩
  simp [atOffset_zero valid.hour valid.minute, isYear, valid.hour, valid.minute, valid.second,
    Text.allBlank]

end Timestamp

end TraefikUpgrade
