import Automation.Proofs.Time.Calendar
import Automation.Proofs.Time.Decimals
import Automation.Proofs.Validation.Field
import Automation.Time.Reader
import Mathlib.Data.List.Induction

/-!
# Timestamps that are written and read again

Every timestamp that is read, from a text or from a number, has a text, and the text is read as the
same timestamp, with its offset.

## Main definitions

* `Timestamp.Sound` — a timestamp has a year of four digits and an offset of whole minutes.

## Main statements

* `Timestamp.ofText_text` — the text of a sound timestamp is read as that timestamp.
* `Timestamp.sound_of_ofJson` — what is read is sound.
-/

namespace Automation.Timestamp

open Text

/-- The clock of a timestamp shows a year from 1 to 9999, and its offset is made of whole minutes and
less than a day. -/
structure Sound (t : Timestamp) : Prop where
  writable : t.isWritable = true
  minutes : 60 ∣ t.offset
  small : t.offset.natAbs < 86400

/-! ## Reading what was written -/

section

variable {rest : List Char}

theorem twoDigits?_digitChar {a b : Nat} (ha : a < 10) (hb : b < 10) :
    twoDigits? (Nat.digitChar a) (Nat.digitChar b) = some (10 * a + b) := by
  simp [twoDigits?, asciiDigit?_digitChar ha, asciiDigit?_digitChar hb]

theorem decimals_two (n : Nat) :
    decimals 2 n = [Nat.digitChar (n / 10 % 10), Nat.digitChar (n % 10)] := rfl

theorem twoDigits?_decimals {n : Nat} (h : n < 100) :
    twoDigits? (Nat.digitChar (n / 10 % 10)) (Nat.digitChar (n % 10)) = some n := by
  rw [twoDigits?_digitChar (Nat.mod_lt _ (by decide)) (Nat.mod_lt _ (by decide))]
  exact congrArg some (by omega)

theorem decimals_four (n : Nat) : decimals 4 n =
    [Nat.digitChar (n / 100 / 10 % 10), Nat.digitChar (n / 100 % 10)] ++ decimals 2 n := by
  simp [decimals, Nat.div_div_eq_div_mul]

/-- The date that was written is read. -/
theorem takeDate_decimals {date : Date} (hvalid : date.isValid = true) (hlow : 1 ≤ date.year)
    (hhigh : date.year ≤ 9999) :
    takeDate (decimals 4 date.year.toNat ++ '-' :: (decimals 2 date.month ++
      '-' :: (decimals 2 date.day ++ rest))) = some (date, rest) := by
  have hbounds := hvalid
  simp only [Date.isValid, Bool.and_eq_true, decide_eq_true_eq] at hbounds
  have hlong : Date.daysInMonth date.year date.month ≤ 31 := Date.daysInMonth_le _ _
  have hcentury := @twoDigits?_decimals (date.year.toNat / 100) (by omega)
  have hyear := @twoDigits?_digitChar (date.year.toNat / 10 % 10) (date.year.toNat % 10)
    (by omega) (by omega)
  have hmonth := @twoDigits?_decimals date.month (by omega)
  have hday := @twoDigits?_decimals date.day (by omega)
  have hdate : Date.mk (100 * (date.year.toNat / 100) +
      (10 * (date.year.toNat / 10 % 10) + date.year.toNat % 10) : Nat) date.month date.day =
        date := by
    have hwhole : ((100 * (date.year.toNat / 100) + (10 * (date.year.toNat / 10 % 10) +
      date.year.toNat % 10) : Nat) : Int) = date.year := by omega
    rw [hwhole]
  rw [decimals_four, decimals_two, decimals_two, decimals_two]
  simp only [List.cons_append, List.nil_append, takeDate, hcentury, hyear, hmonth, hday,
    Option.bind_eq_bind, Option.bind_some, hdate, hvalid, if_true]

theorem takeSeconds_decimals {second micros : Nat} {rest' : List Char} (hsecond : second < 60)
    (hfraction : takeFraction rest = some (micros, rest')) :
    takeSeconds (':' :: (decimals 2 second ++ rest)) =
      some (second * 1000000 + micros, rest') := by
  have htwo := @twoDigits?_decimals second (by omega)
  rw [decimals_two]
  simp only [List.cons_append, List.nil_append, takeSeconds, htwo, hfraction,
    Option.bind_eq_bind, Option.bind_some, if_neg (Nat.not_lt.mpr (Nat.le_of_lt_succ hsecond))]

/-- The time of day that was written is read. -/
theorem takeTime_decimals {hour minute second micros : Nat} {rest' : List Char} (hhour : hour < 24)
    (hminute : minute < 60) (hsecond : second < 60)
    (hfraction : takeFraction rest = some (micros, rest')) :
    takeTime (decimals 2 hour ++ ':' :: (decimals 2 minute ++ ':' :: (decimals 2 second ++ rest))) =
      some ((hour * 60 + minute) * 60000000 + (second * 1000000 + micros), rest') := by
  have hhours := @twoDigits?_decimals hour (by omega)
  have hminutes := @twoDigits?_decimals minute (by omega)
  have hrange : ¬ (23 < hour ∨ 59 < minute) := by omega
  have hseconds := @takeSeconds_decimals rest second micros rest' hsecond hfraction
  rw [decimals_two hour, decimals_two minute]
  simp only [List.cons_append, List.nil_append, takeTime, hhours, hminutes, hseconds,
    Option.bind_eq_bind, Option.bind_some, if_neg hrange]

/-- What comes behind the time when there is no fraction to be read. -/
theorem takeFraction_of_head (h : ∀ c ∈ rest.head?, c ≠ '.' ∧ c ≠ ',') :
    takeFraction rest = some (0, rest) := by
  cases rest with
  | nil => rfl
  | cons c rest =>
    obtain ⟨hpoint, hcomma⟩ := h c rfl
    rw [takeFraction, if_neg (by simp [hpoint, hcomma])]

/-- The fraction that was written is read. -/
theorem takeFraction_decimals {micros : Nat} (hmicros : micros < 1000000)
    (h : ∀ c ∈ rest.head?, c.isDigit = false) :
    takeFraction ('.' :: (decimals 6 micros ++ rest)) = some (micros, rest) := by
  have hdigits := Json.spanDigits_decimals 6 micros h
  have hlength := length_filterMap_decimals 6 micros
  have hvalue := @ofDigits_decimals 6 micros (by omega)
  rw [takeFraction, if_pos (.inl rfl), hdigits]
  generalize (decimals 6 micros).filterMap asciiDigit? = digits at *
  cases digits with
  | nil => cases hlength
  | cons d digits =>
    have hsix : (d :: digits).take 6 = d :: digits := List.take_of_length_le (Nat.le_of_eq hlength)
    simp only [fractionMicros, hsix, hvalue, hlength]
    simp

end

theorem readOffset_decimals {c : Char} {sign : Int} {hours minutes : Nat}
    (hsign : offsetSign? c = some sign) (hhours : hours < 24) (hminutes : minutes < 60) :
    readOffset (c :: (decimals 2 hours ++ ':' :: decimals 2 minutes)) =
      some (sign * 60 * (60 * hours + minutes : Nat)) := by
  have hhour := @twoDigits?_decimals hours (by omega)
  have hminute := @twoDigits?_decimals minutes (by omega)
  rw [decimals_two, decimals_two]
  simp only [List.cons_append, List.nil_append, readOffset, hsign, offsetMinutes?, hhour, hminute,
    Option.bind_eq_bind, Option.bind_some, hhours, hminutes, and_self, if_true]

/-- The offset that was written is read, and neither a digit nor a fraction comes in front of it. -/
theorem readOffset_offsetText {t : Timestamp} (h : t.Sound) :
    readOffset t.offsetText.toList = some t.offset ∧
      ∀ c ∈ t.offsetText.toList.head?, c.isDigit = false ∧ c ≠ '.' ∧ c ≠ ',' := by
  have hminutes := h.minutes
  have hsmall := h.small
  by_cases hzero : t.offset = 0
  · have htext : t.offsetText.toList = ['Z'] := by rw [offsetText, if_pos hzero]; rfl
    rw [htext, hzero]
    exact ⟨rfl, by simp⟩
  · have hhours : t.offset.natAbs / 60 / 60 < 24 := by omega
    have hminutes : t.offset.natAbs / 60 % 60 < 60 := Nat.mod_lt _ (by decide)
    have htext : ∀ sign : Char, (t.offset < 0 ∧ sign = '-' ∨ ¬ t.offset < 0 ∧ sign = '+') →
        t.offsetText.toList = sign :: (decimals 2 (t.offset.natAbs / 60 / 60) ++
          ':' :: decimals 2 (t.offset.natAbs / 60 % 60)) := by
      intro sign hsign
      rw [offsetText, if_neg hzero]
      rcases hsign with ⟨hnegative, rfl⟩ | ⟨hpositive, rfl⟩ <;>
        simp [*, toList_padded, Nat.lt_trans hhours, Nat.lt_trans hminutes]
    rcases Int.lt_or_le t.offset 0 with hsign | hsign
    · rw [htext '-' (.inl ⟨hsign, rfl⟩), @readOffset_decimals '-' (-1) _ _ rfl hhours hminutes]
      refine ⟨congrArg some (by omega), ?_⟩
      rintro c hc
      obtain rfl := Option.some.inj hc
      decide
    · rw [htext '+' (.inr ⟨by omega, rfl⟩), @readOffset_decimals '+' 1 _ _ rfl hhours hminutes]
      refine ⟨congrArg some (by omega), ?_⟩
      rintro c hc
      obtain rfl := Option.some.inj hc
      decide

/-- The fraction of a second in the text of a timestamp. -/
def fractionText (micros : Nat) : List Char := if micros = 0 then [] else '.' :: decimals 6 micros

/-- The text of a sound timestamp, character by character. -/
theorem toList_text {t : Timestamp} (h : t.Sound) :
    let seconds := (t.wall / microsPerSecond % secondsPerDay).toNat
    t.text.toList = decimals 4 t.date.year.toNat ++ '-' :: (decimals 2 t.date.month ++
      '-' :: (decimals 2 t.date.day ++ 'T' :: (decimals 2 (seconds / 3600) ++
        ':' :: (decimals 2 (seconds / 60 % 60) ++ ':' :: (decimals 2 (seconds % 60) ++
          (fractionText (t.wall % microsPerSecond).toNat ++ t.offsetText.toList)))))) := by
  intro seconds
  have hwritable := h.writable
  have hvalid := Date.isValid_ofDays (t.wall / (secondsPerDay * microsPerSecond))
  simp only [isWritable, Bool.and_eq_true, decide_eq_true_eq] at hwritable
  rw [← date] at hvalid
  simp only [Date.isValid, Bool.and_eq_true, decide_eq_true_eq] at hvalid
  have hlong := Date.daysInMonth_le t.date.year t.date.month
  have hseconds : seconds < 86400 := by
    simp only [seconds, secondsPerDay]
    omega
  have hmicros : (t.wall % microsPerSecond).toNat < 1000000 := by
    simp only [microsPerSecond]
    omega
  have hyear := @toList_padded 4 t.date.year.toNat (by decide) (by omega)
  have hmonth := @toList_padded 2 t.date.month (by decide) (by omega)
  have hday := @toList_padded 2 t.date.day (by decide) (by omega)
  have hhour := @toList_padded 2 (seconds / 3600) (by decide) (by omega)
  have hminute := @toList_padded 2 (seconds / 60 % 60) (by decide) (by omega)
  have hsecond := @toList_padded 2 (seconds % 60) (by decide) (by omega)
  have hfraction : (if (t.wall % microsPerSecond).toNat = 0 then ""
      else "." ++ padded 6 (t.wall % microsPerSecond).toNat).toList =
        fractionText (t.wall % microsPerSecond).toNat := by
    rw [fractionText]
    split
    · rfl
    · rw [String.toList_append, toList_padded (by decide) (by omega)]
      rfl
  simp only [text, naiveText, String.toList_append, hyear, hmonth, hday, hfraction]
  rw [hhour, hminute, hsecond]
  simp only [List.append_assoc]
  rfl

theorem ofWall_wall (t : Timestamp) : ofWall t.wall t.offset = t := by
  rw [ofWall, wall, Int.add_sub_cancel]

/-- The text of a sound timestamp is read as that timestamp. -/
theorem ofText_text {t : Timestamp} (h : t.Sound) : ofText t.text = .ok t := by
  obtain ⟨hoffset, hhead⟩ := readOffset_offsetText h
  have hwritable := h.writable
  simp only [isWritable, Bool.and_eq_true, decide_eq_true_eq] at hwritable
  have hvalid : t.date.isValid = true := Date.isValid_ofDays _
  have hdays : t.date.toDays = t.wall / (secondsPerDay * microsPerSecond) := Date.toDays_ofDays _
  let seconds := (t.wall / microsPerSecond % secondsPerDay).toNat
  let micros := (t.wall % microsPerSecond).toNat
  have hseconds : seconds < 86400 := by
    simp only [seconds, secondsPerDay]
    omega
  have hmicros : micros < 1000000 := by
    simp only [micros, microsPerSecond]
    omega
  have hfraction : takeFraction (fractionText micros ++ t.offsetText.toList) =
      some (micros, t.offsetText.toList) := by
    rw [fractionText]
    split
    next hnone =>
      rw [List.nil_append, takeFraction_of_head fun c hc => (hhead c hc).2, hnone]
    next =>
      exact takeFraction_decimals hmicros fun c hc => (hhead c hc).1
  have htime := @takeTime_decimals _ (seconds / 3600) (seconds / 60 % 60) (seconds % 60) micros _
    (by omega) (by omega) (by omega) hfraction
  have hiso : readIso t.text.toList = some (t.date, t) := by
    have hwall : t.date.toDays * secondsPerDay * microsPerSecond +
        ((seconds / 3600 * 60 + seconds / 60 % 60) * 60000000 +
          (seconds % 60 * 1000000 + micros) : Nat) = t.wall := by
      rw [hdays]
      simp only [seconds, micros, secondsPerDay, microsPerSecond]
      omega
    have hseparator : isDateTimeSeparator 'T' = true := by decide
    rw [toList_text h, readIso, takeDate_decimals hvalid hwritable.1 hwritable.2]
    simp only [Option.bind_eq_bind, Option.bind_some, hseparator, if_true]
    rw [htime]
    simp only [Option.bind_some, hoffset, hwall, ofWall_wall]
  have hyear : t.date.year ≠ 0 := by omega
  rw [ofText, hiso]
  simp only [if_neg hyear]

/-! ## What is read -/

theorem wall_ofWall (wall offset : Int) : (ofWall wall offset).wall = wall := by
  rw [Timestamp.wall, ofWall, Int.sub_add_cancel]

/-- A timestamp is sound when its clock shows a day between the bounds. -/
theorem sound_of_days {t : Timestamp}
    (hlow : -719162 ≤ t.wall / (secondsPerDay * microsPerSecond))
    (hhigh : t.wall / (secondsPerDay * microsPerSecond) ≤ 2932896) (hminutes : 60 ∣ t.offset)
    (hsmall : t.offset.natAbs < 86400) : t.Sound := by
  obtain ⟨hyear, hyear'⟩ := Date.year_ofDays hlow hhigh
  refine ⟨?_, hminutes, hsmall⟩
  rw [isWritable, date]
  simp [hyear, hyear']

theorem lt_of_asciiDigit? {c : Char} {d : Nat} (h : asciiDigit? c = some d) : d < 10 := by
  rw [asciiDigit?] at h
  split at h
  next hbounds =>
    obtain rfl := Option.some.inj h
    have hnine : c.toNat ≤ '9'.toNat := hbounds.2
    have hzero : '0'.toNat = 48 := rfl
    have hnine' : '9'.toNat = 57 := rfl
    omega
  · cases h

theorem lt_of_twoDigits? {a b : Char} {n : Nat} (h : twoDigits? a b = some n) : n < 100 := by
  simp only [twoDigits?, Option.bind_eq_bind, Option.bind_eq_some_iff, Option.some.injEq] at h
  obtain ⟨tens, htens, ones, hones, rfl⟩ := h
  have := lt_of_asciiDigit? htens
  have := lt_of_asciiDigit? hones
  omega

theorem of_takeDate {cs rest : List Char} {date : Date} (h : takeDate cs = some (date, rest)) :
    date.isValid = true ∧ 0 ≤ date.year ∧ date.year ≤ 9999 := by
  unfold takeDate at h
  split at h
  · simp only [Option.bind_eq_bind, Option.bind_eq_some_iff] at h
    obtain ⟨century, hcentury, year, hyear, month, -, day, -, h⟩ := h
    have := lt_of_twoDigits? hcentury
    have := lt_of_twoDigits? hyear
    split at h
    next hvalid =>
      obtain ⟨rfl, -⟩ := Prod.mk.inj (Option.some.inj h)
      refine ⟨hvalid, ?_, ?_⟩
      · exact Int.natCast_nonneg _
      · change ((100 * century + year : Nat) : Int) ≤ 9999
        omega
    · cases h
  · cases h

theorem ofDigits_lt {digits : List Nat} (h : ∀ d ∈ digits, d < 10) :
    ofDigits digits < 10 ^ digits.length := by
  induction digits using List.reverseRecOn with
  | nil => decide
  | append_singleton digits d ih =>
    have hfront := ih fun d hd => h d (List.mem_append_left _ hd)
    have hlast := h d (by simp)
    rw [ofDigits_concat, List.length_append, List.length_singleton, Nat.pow_succ]
    omega

theorem fractionMicros_lt {digits : List Nat} (h : ∀ d ∈ digits, d < 10) :
    fractionMicros digits < 1000000 := by
  have hkept := @ofDigits_lt (digits.take 6) fun d hd => h d (List.mem_of_mem_take hd)
  have hlength : (digits.take 6).length ≤ 6 := List.length_take_le 6 digits
  have hpow : 10 ^ (digits.take 6).length * 10 ^ (6 - (digits.take 6).length) = 10 ^ 6 := by
    rw [← Nat.pow_add, Nat.add_sub_of_le hlength]
  calc fractionMicros digits
    _ < 10 ^ (digits.take 6).length * 10 ^ (6 - (digits.take 6).length) :=
      Nat.mul_lt_mul_of_pos_right hkept (Nat.pow_pos (by decide))
    _ = 1000000 := hpow

theorem of_takeFraction {cs rest : List Char} {micros : Nat}
    (h : takeFraction cs = some (micros, rest)) : micros < 1000000 := by
  unfold takeFraction at h
  split at h
  next c cs =>
    split at h
    · split at h
      · cases h
      next digits rest' _ hdigits =>
        obtain ⟨rfl, -⟩ := Prod.mk.inj (Option.some.inj h)
        refine fractionMicros_lt fun d hd => ?_
        obtain ⟨rfl, -⟩ := Prod.mk.inj hdigits
        obtain ⟨c, -, hc⟩ := List.mem_filterMap.mp hd
        exact lt_of_asciiDigit? hc
    · obtain ⟨rfl, -⟩ := Prod.mk.inj (Option.some.inj h)
      decide
  · obtain ⟨rfl, -⟩ := Prod.mk.inj (Option.some.inj h)
    decide

theorem of_takeSeconds {cs rest : List Char} {micros : Nat}
    (h : takeSeconds cs = some (micros, rest)) : micros < 60000000 := by
  unfold takeSeconds at h
  split at h
  · simp only [Option.bind_eq_bind, Option.bind_eq_some_iff] at h
    obtain ⟨second, -, h⟩ := h
    split at h
    · cases h
    · simp only [Option.bind_eq_some_iff] at h
      obtain ⟨⟨fraction, rest'⟩, hfraction, h⟩ := h
      obtain ⟨rfl, -⟩ := Prod.mk.inj (Option.some.inj h)
      have := of_takeFraction hfraction
      omega
  · cases h
  · obtain ⟨rfl, -⟩ := Prod.mk.inj (Option.some.inj h)
    decide

theorem of_takeTime {cs rest : List Char} {micros : Nat}
    (h : takeTime cs = some (micros, rest)) : micros < 86400000000 := by
  unfold takeTime at h
  split at h
  · simp only [Option.bind_eq_bind, Option.bind_eq_some_iff] at h
    obtain ⟨hour, -, minute, -, h⟩ := h
    split at h
    · cases h
    · simp only [Option.bind_eq_some_iff] at h
      obtain ⟨⟨seconds, rest'⟩, hseconds, h⟩ := h
      obtain ⟨rfl, -⟩ := Prod.mk.inj (Option.some.inj h)
      have := of_takeSeconds hseconds
      omega
  · cases h

theorem of_offsetMinutes? {cs : List Char} {minutes : Nat} (h : offsetMinutes? cs = some minutes) :
    minutes < 1440 := by
  unfold offsetMinutes? at h
  split at h
  · simp only [Option.bind_eq_bind, Option.bind_eq_some_iff] at h
    obtain ⟨hours, -, rest, -, h⟩ := h
    split at h
    · obtain rfl := Option.some.inj h
      omega
    · cases h
  · simp only [Option.bind_eq_bind, Option.bind_eq_some_iff] at h
    obtain ⟨hours, -, rest, -, h⟩ := h
    split at h
    · obtain rfl := Option.some.inj h
      omega
    · cases h
  · cases h

theorem of_readOffset {cs : List Char} {offset : Int} (h : readOffset cs = some offset) :
    60 ∣ offset ∧ offset.natAbs < 86400 := by
  unfold readOffset at h
  split at h
  · obtain rfl := Option.some.inj h
    decide
  · obtain rfl := Option.some.inj h
    decide
  · obtain rfl := Option.some.inj h
    decide
  · simp only [Option.bind_eq_bind, Option.bind_eq_some_iff, Option.some.injEq] at h
    obtain ⟨sign, hsign, minutes, hminutes, rfl⟩ := h
    have hsign : sign = 1 ∨ sign = -1 := by
      unfold offsetSign? at hsign
      split at hsign
      · exact .inl (Option.some.inj hsign).symm
      · split at hsign
        · exact .inr (Option.some.inj hsign).symm
        · cases hsign
    have hminutes := of_offsetMinutes? hminutes
    rcases hsign with rfl | rfl
    · omega
    · omega

/-- What an ISO text is read as: the clock of a timestamp shows a time of the day that was read. -/
theorem of_readIso {cs : List Char} {date : Date} {t : Timestamp}
    (h : readIso cs = some (date, t)) : date.isValid = true ∧ 0 ≤ date.year ∧ date.year ≤ 9999 ∧
      t.wall / (secondsPerDay * microsPerSecond) = date.toDays ∧ 60 ∣ t.offset ∧
      t.offset.natAbs < 86400 := by
  simp only [readIso, Option.bind_eq_bind, Option.bind_eq_some_iff] at h
  obtain ⟨⟨date', rest⟩, hdate, h⟩ := h
  obtain ⟨hvalid, hlow, hhigh⟩ := of_takeDate hdate
  have hwall : ∀ {micros : Nat} {offset : Int}, micros < 86400000000 →
      (ofWall (date'.toDays * secondsPerDay * microsPerSecond + micros) offset).wall /
        (secondsPerDay * microsPerSecond) = date'.toDays := by
    intro micros offset hmicros
    rw [wall_ofWall]
    simp only [secondsPerDay, microsPerSecond]
    omega
  split at h
  · obtain ⟨rfl, rfl⟩ := Prod.mk.inj (Option.some.inj h)
    have hmidnight := @hwall 0 0 (by decide)
    rw [Int.natCast_zero, Int.add_zero] at hmidnight
    exact ⟨hvalid, hlow, hhigh, hmidnight, ⟨0, rfl⟩, Nat.zero_lt_succ _⟩
  · split at h
    · simp only [Option.bind_eq_some_iff] at h
      obtain ⟨⟨micros, rest'⟩, hmicros, offset, hoffset, h⟩ := h
      obtain ⟨rfl, rfl⟩ := Prod.mk.inj (Option.some.inj h)
      obtain ⟨hminutes, hsmall⟩ := of_readOffset hoffset
      exact ⟨hvalid, hlow, hhigh, hwall (of_takeTime hmicros), hminutes, hsmall⟩
    · cases h

theorem sound_of_ofCount {inSeconds : Bool} {count : Int} {micros : Nat} {t : Timestamp}
    (h : ofCount inSeconds count micros = .ok t) : t.Sound := by
  unfold ofCount at h
  generalize (if inSeconds = true then (count, (0 : Int))
    else (count / 1000, count % 1000 * 1000)) = whole at h
  obtain ⟨seconds, extra⟩ := whole
  dsimp only at h
  split at h
  · cases h
  next hrange =>
    split at h
    · cases h
    next hfirst =>
      obtain rfl := Except.ok.inj h
      refine sound_of_days ?_ ?_ ⟨0, rfl⟩ (Nat.zero_lt_succ _)
      · simp only [wall, secondsPerDay, microsPerSecond, firstSecond] at *
        omega
      · simp only [wall, secondsPerDay, microsPerSecond, latestSecond] at *
        omega

theorem sound_of_ofFloat {x : Binary64} {t : Timestamp} (h : ofFloat x = .ok t) : t.Sound := by
  unfold ofFloat at h
  split at h
  · cases h
  · dsimp only at h
    split at h
    · cases h
    · exact sound_of_ofCount h

theorem sound_of_ofInt {i : Int} {t : Timestamp} (h : ofInt i = .ok t) : t.Sound := by
  unfold ofInt at h
  split at h
  · exact sound_of_ofCount h
  · split at h <;> cases h

theorem sound_of_ofText {text : String} {t : Timestamp} (h : ofText text = .ok t) : t.Sound := by
  unfold ofText at h
  split at h
  next date timestamp hiso =>
    obtain ⟨hvalid, hlow, hhigh, hdays, hminutes, hsmall⟩ := of_readIso hiso
    split at h
    · cases h
    next hyear =>
      obtain rfl := Except.ok.inj h
      obtain ⟨hfirst, hlast⟩ := Date.toDays_bounds hvalid (by omega) hhigh
      exact sound_of_days (hdays ▸ hfirst) (hdays ▸ hlast) hminutes hsmall
  next =>
    have h := mapError_eq_ok_iff.mp h
    split at h
    · exact sound_of_ofInt h
    · exact sound_of_ofFloat h
    · cases h

/-- What is read is sound. -/
theorem sound_of_ofJson {value : Json} {t : Timestamp} (h : ofJson value = .ok t) : t.Sound := by
  cases value with
  | str s => exact sound_of_ofText h
  | num n =>
    cases n with
    | int i => exact sound_of_ofInt h
    | float x => exact sound_of_ofFloat h
  | null | bool _ | arr _ | obj _ => cases h

end Automation.Timestamp
