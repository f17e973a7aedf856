import Snowflake.Proofs.Text.Decimal
import Snowflake.Proofs.Text.Reader
import Snowflake.Proofs.Time.Calendar
import Snowflake.Proofs.Time.Instant
import Snowflake.Time.Timestamp

/-!
A timestamp that was written is read back as the instant it stands for. Each part of it is read from
the front of what is left, up to the mark that follows it.
-/

namespace Snowflake.Timestamp

open Calendar Reader

theorem trimStart_of_not_isBlank {c : Char} (h : Blank.isBlank c = false) (rest : List Char) :
    Blank.trimStart (c :: rest) = c :: rest := by
  simp [Blank.trimStart, h]

theorem trimStart_padded (width n : Nat) (rest : List Char) :
    Blank.trimStart (Decimal.padded width n ++ rest) = Decimal.padded width n ++ rest := by
  obtain ⟨c, cs, hpadded, hdigit⟩ := Decimal.exists_padded_eq_cons width n
  rw [hpadded]
  exact trimStart_of_not_isBlank (Decimal.isBlank_of_isDigit hdigit) _

section Number

variable {max : Nat} {ds rest : List Char}

theorem number_append (hne : ds ≠ []) (hds : ds.all Char.isDigit = true) (hmax : ds.length ≤ max)
    (hrest : ds.length = max ∨ Decimal.Ends rest)
    (hvalue : Nat.ofDigitChars 10 ds 0 < 0x8000000000000000) :
    number max (ds ++ rest) = .ok (Nat.ofDigitChars 10 ds 0, rest) := by
  have hdigits : ((ds ++ rest).take max).takeWhile Char.isDigit = ds := by
    rw [List.take_append, List.take_of_length_le hmax]
    apply Decimal.takeWhile_append hds
    rcases hrest with hlength | hends
    · simp [hlength, Decimal.Ends]
    · intro c hc
      rw [List.head?_take] at hc
      split at hc
      · cases hc
      · exact hends c hc
  obtain ⟨d, ds, rfl⟩ := List.exists_cons_of_ne_nil hne
  simp only [number, hdigits]
  simp only [List.cons_append, hvalue, if_true]
  simp

theorem number_padded {width n : Nat} (hmax : (Decimal.padded width n).length ≤ max)
    (hrest : (Decimal.padded width n).length = max ∨ Decimal.Ends rest)
    (hn : n < 0x8000000000000000) :
    number max (Decimal.padded width n ++ rest) = .ok (n, rest) := by
  have hvalue := Decimal.ofDigitChars_padded width n
  rw [number_append (Decimal.padded_ne_nil width n) (Decimal.all_isDigit_padded width n) hmax hrest
    (by rwa [hvalue]), hvalue]

end Number

variable {rest : List Char}

theorem mark_cons {c : Char} (h : Blank.isBlank c = false) : mark c (c :: rest) = .ok rest := by
  rw [mark, trimStart_of_not_isBlank h]
  simp [literal]

theorem readPart_padded {low high n : Nat} (hlow : low ≤ n) (hhigh : n ≤ high) (hn : n < 100) :
    readPart low high (Decimal.padded 2 n ++ rest) = .ok (n, rest) := by
  have hlength := Decimal.length_padded (by decide : 0 < 2) hn
  rw [readPart, trimStart_padded, number_padded hlength.le (.inl hlength) (by omega)]
  exact if_pos ⟨hlow, hhigh⟩

section Year

variable {c : Char} {cs : List Char} {n : Nat}

theorem readYear_minus (hcs : number cs.length cs = .ok (n, rest)) (hn : n ≤ 0x80000000) :
    readYear ('-' :: cs) = .ok (-n, rest) := by
  have hrange : -0x80000000 ≤ -(n : Int) ∧ -(n : Int) < 0x80000000 := by omega
  rw [readYear, trimStart_of_not_isBlank (by decide)]
  split
  · rename_i heq
    obtain ⟨-, rfl⟩ := List.cons.inj heq
    rw [hcs, ok_bind]
    simp only [pure_bind, if_pos hrange]
    rfl
  · rename_i heq
    exact absurd (List.cons.inj heq).1 (by decide)
  · rename_i hminus _
    exact absurd rfl (hminus cs)

theorem readYear_plus (hcs : number cs.length cs = .ok (n, rest)) (hn : n < 0x80000000) :
    readYear ('+' :: cs) = .ok (n, rest) := by
  have hrange : -0x80000000 ≤ (n : Int) ∧ (n : Int) < 0x80000000 := by omega
  rw [readYear, trimStart_of_not_isBlank (by decide)]
  split
  · rename_i heq
    exact absurd (List.cons.inj heq).1 (by decide)
  · rename_i heq
    obtain ⟨-, rfl⟩ := List.cons.inj heq
    rw [hcs, ok_bind]
    simp only [pure_bind, if_pos hrange]
    rfl
  · rename_i _ hplus
    exact absurd rfl (hplus cs)

theorem readYear_plain (hc : c.isDigit = true) (hcs : number 4 (c :: cs) = .ok (n, rest))
    (hn : n < 0x80000000) : readYear (c :: cs) = .ok (n, rest) := by
  have hrange : -0x80000000 ≤ (n : Int) ∧ (n : Int) < 0x80000000 := by omega
  rw [readYear, trimStart_of_not_isBlank (Decimal.isBlank_of_isDigit hc)]
  split
  · rename_i heq
    obtain rfl : c = '-' := (List.cons.inj heq).1
    exact absurd hc (by decide)
  · rename_i heq
    obtain rfl : c = '+' := (List.cons.inj heq).1
    exact absurd hc (by decide)
  · rw [hcs, ok_bind]
    simp only [pure_bind, if_pos hrange]
    rfl

theorem readYear_writeYear {year : Int} (h : -0x80000000 ≤ year ∧ year < 0x80000000) :
    readYear (writeYear year ++ '-' :: rest) = .ok (year, '-' :: rest) := by
  have hends : Decimal.Ends ('-' :: rest) := Decimal.ends_cons (by decide)
  rw [writeYear]
  split
  · rename_i hplain
    have hlength := Decimal.length_padded (n := year.toNat) (by decide : 0 < 4) (by omega)
    have hnumber : number 4 (Decimal.padded 4 year.toNat ++ '-' :: rest) =
        .ok (year.toNat, '-' :: rest) := number_padded hlength.le (.inr hends) (by omega)
    obtain ⟨c, cs, hpadded, hc⟩ := Decimal.exists_padded_eq_cons 4 year.toNat
    rw [hpadded, List.cons_append] at hnumber
    rw [hpadded, List.cons_append, readYear_plain hc hnumber (by omega),
      Int.toNat_of_nonneg hplain.1]
  · -- After a sign all digits that follow are read.
    have hnumber : number (Decimal.padded 4 year.natAbs ++ '-' :: rest).length
        (Decimal.padded 4 year.natAbs ++ '-' :: rest) = .ok (year.natAbs, '-' :: rest) :=
      number_padded (by simp) (.inr hends) (by omega)
    rw [List.cons_append]
    split
    · have habs : -(year.natAbs : Int) = year := by omega
      rw [readYear_minus hnumber (by omega), habs]
    · have habs : (year.natAbs : Int) = year := by omega
      rw [readYear_plus hnumber (by omega), habs]

end Year

theorem readFraction_point {width n : Nat} (hwidth : 0 < width) (hwidth' : width ≤ 9)
    (hn : n < 10 ^ width) :
    readFraction ('.' :: Decimal.padded width n ++ 'Z' :: rest) =
      .ok (n * 10 ^ (9 - width), 'Z' :: rest) := by
  have hends : Decimal.Ends ('Z' :: rest) := Decimal.ends_cons (by decide)
  have hlength := Decimal.length_padded hwidth hn
  have hlarge : n < 0x8000000000000000 :=
    calc
      n < 10 ^ width := hn
      _ ≤ 10 ^ 9 := Nat.pow_le_pow_right (by decide) hwidth'
      _ < 0x8000000000000000 := by decide
  have hnumber : number 9 (Decimal.padded width n ++ 'Z' :: rest) = .ok (n, 'Z' :: rest) :=
    number_padded (hlength.le.trans hwidth') (.inr hends) hlarge
  have hread : (Decimal.padded width n ++ 'Z' :: rest).length - ('Z' :: rest).length = width := by
    rw [List.length_append, hlength, Nat.add_sub_cancel]
  have hdrop : ('Z' :: rest).dropWhile Char.isDigit = 'Z' :: rest := rfl
  simp only [readFraction, List.cons_append, hnumber, bind, Except.bind, pure, Except.pure, hread,
    hdrop]
  rfl

theorem readFraction_writeFraction {nanos : Nat} (h : nanos < 1000000000) :
    readFraction (writeFraction nanos ++ 'Z' :: rest) = .ok (nanos, 'Z' :: rest) := by
  rw [writeFraction]
  split
  · rename_i hzero
    rw [hzero]
    rfl
  split
  · rw [readFraction_point (by decide) (by decide) (by omega)]
    congr 2
    omega
  split
  · rw [readFraction_point (by decide) (by decide) (by omega)]
    congr 2
    omega
  · rw [readFraction_point (by decide) (by decide) (by omega)]
    congr 2
    omega

theorem readOffset_utc : readOffset ('Z' :: rest) = .ok (0, rest) :=
  rfl

/-- The parts of a timestamp that was written. -/
def parts (i : Instant) : Local :=
  let inDay := (i.second % 86400).toNat
  ⟨Date.ofDays (i.second / 86400), inDay / 3600, inDay / 60 % 60, inDay % 60 + i.nanos / 1000000000,
    i.nanos % 1000000000, 0⟩

theorem readLocal_write (i : Instant) : readLocal (write i) = .ok (parts i, []) := by
  have hge := i.second_ge
  have hle := i.second_le
  have hnanos := i.nanos_lt
  obtain ⟨⟨hmonth, hmonth', hday, hday'⟩, -⟩ := Date.ofDays_spec (i.second / 86400)
  have hday31 := hday'.trans (daysInMonth_le _ _)
  have hyear : -0x80000000 ≤ (Date.ofDays (i.second / 86400)).year ∧
      (Date.ofDays (i.second / 86400)).year < 0x80000000 := by
    have hbounds := yearOf_bounds (i.second / 86400 + daysBefore1970)
    simp only [Date.year_ofDays, daysBefore1970] at *
    omega
  simp only [write, List.append_assoc, List.cons_append]
  rw [readLocal, readYear_writeYear hyear, ok_bind]
  dsimp only
  rw [mark_cons (by decide), ok_bind, readPart_padded hmonth hmonth' (by omega), ok_bind]
  dsimp only
  rw [mark_cons (by decide), ok_bind, readPart_padded hday hday31 (by omega), ok_bind]
  dsimp only
  rw [if_pos (.inl rfl), pure_bind, readPart_padded (by omega) (by omega) (by omega), ok_bind]
  dsimp only
  rw [mark_cons (by decide), ok_bind, readPart_padded (by omega) (by omega) (by omega), ok_bind]
  dsimp only
  rw [mark_cons (by decide), ok_bind, readPart_padded (by omega) (by omega) (by omega), ok_bind]
  dsimp only
  rw [readFraction_writeFraction (by omega), ok_bind]
  dsimp only
  rw [trimStart_of_not_isBlank (by decide), readOffset_utc, ok_bind]
  rfl

/-- A leap second is told from the second before it only where the minute ends. -/
theorem toInstant_parts {i : Instant} (h : i.IsRegular ∨ i.second % 60 = 59) :
    (parts i).toInstant = .ok i := by
  have hnanos := i.nanos_lt
  simp only [Instant.IsRegular] at h
  obtain ⟨hvalid, hdays⟩ :
      (parts i).date.IsValid ∧ (parts i).date.toDays = i.second / 86400 := Date.ofDays_spec _
  have hunix : Instant.ofUnix?
      ((parts i).date.toDays * 86400 + ((parts i).hour * 3600 + (parts i).minute * 60 +
        ((parts i).second - (parts i).second / 60) : Nat))
      ((parts i).second / 60 * 1000000000 + (parts i).nanos) = some i := by
    rw [Instant.ofUnix?_eq_some_iff, hdays]
    simp only [parts]
    omega
  have hoffset : Instant.ofUnix? (i.second - (parts i).offset) i.nanos = some i :=
    Instant.ofUnix?_eq_some_iff.mpr ⟨by simp [parts], rfl⟩
  rw [Local.toInstant, if_neg (not_not.mpr hvalid)]
  dsimp only
  rw [hunix]
  dsimp only
  rw [if_neg (not_not.mpr ⟨by simp [parts], by simp [parts]⟩), hoffset]
  rfl

/-- A timestamp stands for the instant for which it was written, in every year and to the
nanosecond. Only a leap second that does not end its minute is lost. -/
theorem read_write {i : Instant} (h : i.IsRegular ∨ i.second % 60 = 59) :
    read (write i) = .ok i := by
  rw [read, readLocal_write, ok_bind]
  exact toInstant_parts h

end Snowflake.Timestamp
