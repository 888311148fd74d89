/-
# `ZeroTrust.Connector.AcceptedTimes` — which accepted expiry times are read correctly

`parse_rfc3339` has no range checks and does not look at what follows a point, so it accepts
more than RFC 3339 date-times and does not always read one correctly.

    not a date-time     2025-13-01T00:00:00Z        January 2026
    offset dropped      …T00:00:00.5+05:30          midnight in UTC
    offset refused      …T00:00:00+05:30            the seconds are no number
    overflow            a year of nineteen digits   wraps

`numbers` is the reader up to its arithmetic, `Numbers.checkedSecs` the arithmetic with
overflow checks.  An accepted text is a date-time, read as the time it denotes and without
overflow, iff it is laid out as the comment in the source has it, its numbers are in range,
and its offset is zero (`readsTo_iff_laid`).
-/
import ZeroTrust.WrittenTimes

namespace ZeroTrust.Connector.AcceptedTimes

open Lib Lib.Rfc3339

/-! ## The numbers of a text -/

structure Numbers where
  year : Int
  month : Int
  day : Int
  hour : Int
  min : Int
  sec : Int
  deriving DecidableEq

/-- The six numbers of a date part and a time part. -/
def readNumbers (datePart timePart : List Char) : Option Numbers :=
  match datePart.splitOn '-', timePart.splitOn ':' with
  | y :: mo :: d :: _, h :: mi :: sec :: _ => do
      let year ← parseI64 y
      let month ← parseI64 mo
      let day ← parseI64 d
      let hour ← parseI64 h
      let min ← parseI64 mi
      let sec ← parseI64 (sec.takeWhile (· ≠ '.'))
      some { year, month, day, hour, min, sec }
  | _, _ => none

/-- The text without its zone, as the reader removes it. -/
def stripZone (s : String) : List Char :=
  (dropTrailing "+00:00" (dropTrailing "Z" (trim s))).toList

/-- `parse_rfc3339` up to its arithmetic. -/
def numbers (s : String) : Option Numbers :=
  (splitOnce 'T' (stripZone s)).bind fun parts => readNumbers parts.1 parts.2

namespace Numbers

/-- `unix_secs`. -/
def unixSecs (n : Numbers) : Int :=
  i64 (i64 (i64 (i64 (daysFromCivil n.year n.month n.day * 86400) + i64 (n.hour * 3600)) +
    i64 (n.min * 60)) + n.sec)

/-- `unix_secs` with overflow checks. -/
def checkedSecs (n : Numbers) : Option Int := do
  let days ← checkedDaysFromCivil n.year n.month n.day
  let hours ← tryI64 ((← tryI64 (days * 86400)) + (← tryI64 (n.hour * 3600)))
  let mins ← tryI64 (hours + (← tryI64 (n.min * 60)))
  tryI64 (mins + n.sec)

theorem unixSecs_of_checked {n : Numbers} {v : Int} (h : n.checkedSecs = some v) :
    n.unixSecs = v := by
  simp only [checkedSecs, Option.bind_eq_bind, Option.bind_eq_some_iff] at h
  obtain ⟨days, hdays, a, ha, b, hb, hours, hhours, c, hc, mins, hmins, hv⟩ := h
  simp only [unixSecs, daysFromCivil_of_checked hdays, i64_of_tryI64 ha, i64_of_tryI64 hb,
    i64_of_tryI64 hhours, i64_of_tryI64 hc, i64_of_tryI64 hmins, i64_of_tryI64 hv]

end Numbers

theorem parseRfc3339_eq (s : String) :
    parseRfc3339 s = (numbers s).bind fun n =>
      if n.unixSecs < 0 then none else some (n.unixSecs * nanosPerSec) := by
  unfold numbers stripZone
  simp only [parseRfc3339, Option.bind_eq_bind]
  cases splitOnce 'T' (dropTrailing "+00:00" (dropTrailing "Z" (trim s))).toList with
  | none => rfl
  | some parts =>
      obtain ⟨date, time⟩ := parts
      simp only [Option.bind_some]
      split
      next hdate htime =>
        simp only [readNumbers, hdate, htime, Option.bind_eq_bind, Option.bind_assoc,
          Option.bind_some, Numbers.unixSecs]
        rfl
      next hshort =>
        have hnone : readNumbers date time = none := by
          unfold readNumbers
          split
          next hdate htime => exact (hshort _ _ _ _ _ _ _ _ hdate htime).elim
          · rfl
        rw [hnone, Option.bind_none]

/-! ## What is cut off and split -/

theorem dropTrailing_append {p s : String} {body : List Char} (h : s.toList = body ++ p.toList) :
    (dropTrailing p s).toList = body := by
  have hsuffix : p.toList <:+ s.toList := ⟨body, h.symm⟩
  rw [dropTrailing, if_pos hsuffix, String.toList_ofList, h, List.length_append,
    Nat.add_sub_cancel, List.take_left]

theorem dropTrailing_of_notMem {p s : String} {c : Char} (hc : c ∈ p.toList)
    (h : c ∉ s.toList) : dropTrailing p s = s :=
  if_neg fun hsuffix => h (hsuffix.subset hc)

theorem splitOnce_eq_none {sep : Char} {cs : List Char} (h : sep ∉ cs) :
    splitOnce sep cs = none := by
  have hdrop : cs.dropWhile (· ≠ sep) = [] := by
    rw [List.dropWhile_eq_nil_iff]
    intro c hc
    rw [decide_eq_true_eq]
    rintro rfl
    exact h hc
  rw [splitOnce, hdrop]

/-- The first piece ends at the first separator. -/
theorem splitOn_eq_cons (sep : Char) (cs : List Char) :
    ∃ pieces, cs.splitOn sep = cs.takeWhile (· ≠ sep) :: pieces := by
  have hbefore : ∀ {before : List Char}, sep ∉ before →
      ∀ c ∈ before, decide (c ≠ sep) = true := by
    intro before h c hc
    rw [decide_eq_true_eq]
    rintro rfl
    exact h hc
  by_cases hmem : sep ∈ cs
  · obtain ⟨before, after, rfl, hno⟩ := List.eq_append_cons_of_mem hmem
    refine ⟨after.splitOn sep, ?_⟩
    rw [List.splitOn_append_cons_self_of_not_mem hno,
      List.takeWhile_append_of_pos (hbefore hno)]
    simp
  · refine ⟨[], ?_⟩
    rw [List.splitOn_eq_singleton hmem, List.takeWhile_eq_self_iff.mpr (hbefore hmem)]

theorem parseI64_digits {w n : Nat} (hw : 0 < w) (hlt : n < 10 ^ w) (h : n < 2 ^ 63) :
    parseI64 (digits w n) = some (n : Int) := by
  rw [← padded_eq_digits hw hlt, parseI64_padded h]

/-- A digit, and later something else. -/
theorem parseI64_eq_none {d c : Char} {cs : List Char} (hd : d.isDigit = true) (hmem : c ∈ cs)
    (hc : c.isDigit = false) : parseI64 (d :: cs) = none := by
  have hall : (d :: cs).all Char.isDigit = false := by
    rw [List.all_eq_false]
    exact ⟨c, List.mem_cons_of_mem d hmem, by rw [hc]; exact Bool.false_ne_true⟩
  unfold parseI64
  split
  next neg ds heq =>
    split at heq
    next h =>
      obtain rfl := (List.cons.inj h).1
      exact absurd hd (by decide)
    next h =>
      obtain rfl := (List.cons.inj h).1
      exact absurd hd (by decide)
    next =>
      cases heq
      rw [hall, Bool.not_false, Bool.or_true, if_pos rfl]

/-! ## The text of a date-time -/

section

variable (dt : DateTime)

def separator : Char := if dt.lower then 't' else 'T'

/-- The text without its zone. -/
def bodyText : List Char :=
  dt.dateText ++ separator dt :: (dt.timeText ++ fractionText dt.fraction)

/-- The zones the reader cuts off. -/
def Cut (z : Zone) : Prop := z = .zulu false ∨ z = .offset false 0 0

instance (z : Zone) : Decidable (Cut z) := inferInstanceAs (Decidable (_ ∨ _))

/-- What the reader finds behind the seconds. -/
def restText : List Char :=
  fractionText dt.fraction ++ if Cut dt.zone then [] else dt.zone.text

variable {dt}

theorem text_eq : dt.text = bodyText dt ++ dt.zone.text := by
  simp only [DateTime.text, bodyText, separator, List.append_assoc, List.cons_append]

theorem mem_fields {sep c : Char} {w a b d : Nat}
    (h : c ∈ digits w a ++ sep :: (digits 2 b ++ sep :: digits 2 d)) :
    c.isDigit = true ∨ c = sep := by
  simp only [List.mem_append, List.mem_cons] at h
  rcases h with h | h | h | h | h
  · exact Or.inl (isDigit_of_mem_digits h)
  · exact Or.inr h
  · exact Or.inl (isDigit_of_mem_digits h)
  · exact Or.inr h
  · exact Or.inl (isDigit_of_mem_digits h)

theorem mem_dateText {c : Char} (h : c ∈ dt.dateText) : c.isDigit = true ∨ c = '-' :=
  mem_fields h

theorem mem_timeText {c : Char} (h : c ∈ dt.timeText) : c.isDigit = true ∨ c = ':' :=
  mem_fields h

theorem mem_fractionText {c : Char} (h : c ∈ fractionText dt.fraction) :
    c.isDigit = true ∨ c = '.' := by
  unfold fractionText at h
  split at h
  · exact absurd h List.not_mem_nil
  · rcases List.mem_cons.mp h with h | h
    · exact Or.inr h
    · exact Or.inl (dt.isDigit_fraction c h)

theorem mem_bodyText {c : Char} (h : c ∈ bodyText dt) :
    c.isDigit = true ∨ c ∈ ['-', ':', '.'] ∨ c = separator dt := by
  simp only [bodyText, List.mem_append, List.mem_cons] at h
  rcases h with h | h | h | h
  · exact (mem_dateText h).imp_right fun h => Or.inl (by simp [h])
  · exact Or.inr (Or.inr h)
  · exact (mem_timeText h).imp_right fun h => Or.inl (by simp [h])
  · exact (mem_fractionText h).imp_right fun h => Or.inl (by simp [h])

theorem notMem_bodyText {c : Char} (hdigit : c.isDigit = false)
    (h : c ∉ ['-', ':', '.', 'T', 't']) : c ∉ bodyText dt := by
  intro hmem
  rcases mem_bodyText hmem with hc | hc | rfl
  · rw [hdigit] at hc
    cases hc
  · exact h (List.mem_append_left ['T', 't'] hc)
  · unfold separator at h
    split at h
    · exact h (by decide)
    · exact h (by decide)

theorem mem_offsetText {west : Bool} {hour : Fin 24} {minute : Fin 60} {c : Char}
    (h : c ∈ (Zone.offset west hour minute).text) : c.isDigit = true ∨ c ∈ ['+', '-', ':'] := by
  simp only [Zone.text, List.mem_cons, List.mem_append] at h
  rcases h with h | h | h | h
  · cases west <;> exact Or.inr (by simp [h])
  · exact Or.inl (isDigit_of_mem_digits h)
  · exact Or.inr (by simp [h])
  · exact Or.inl (isDigit_of_mem_digits h)

/-- An offset is cut off iff it is `+00:00`. -/
theorem dropTrailing_offset {s : String} {body : List Char} {west : Bool} {hour : Fin 24}
    {minute : Fin 60} (h : s.toList = body ++ (Zone.offset west hour minute).text) :
    (dropTrailing "+00:00" s).toList = body ++
      if Cut (.offset west hour minute) then [] else (Zone.offset west hour minute).text := by
  have hzero : "+00:00".toList = (Zone.offset false 0 0).text := by decide
  by_cases hcut : Cut (.offset west hour minute)
  · have hsame : Zone.offset west hour minute = .offset false 0 0 :=
      hcut.resolve_left fun h => by cases h
    rw [hsame, ← hzero] at h
    rw [if_pos hcut, dropTrailing_append h, List.append_nil]
  · rw [if_neg hcut, dropTrailing, if_neg, h]
    intro hsuffix
    have hlength : ∀ z w : Fin 24, ∀ m n : Fin 60, ∀ a b : Bool,
        (Zone.offset a z m).text.length = (Zone.offset b w n).text.length := by
      intro z w m n a b
      simp [Zone.text, length_digits]
    rw [hzero, h] at hsuffix
    have hsame : (Zone.offset false 0 0).text = (Zone.offset west hour minute).text :=
      (List.suffix_of_suffix_length_le hsuffix (List.suffix_append _ _)
        (hlength _ _ _ _ _ _).le).eq_of_length (hlength _ _ _ _ _ _)
    exact hcut (Or.inr (Zone.text_injective hsame).symm)

theorem stripZone_text {s : String} (h : (trim s).toList = dt.text) :
    stripZone s = bodyText dt ++ if Cut dt.zone then [] else dt.zone.text := by
  have hZ : 'Z' ∉ bodyText dt := notMem_bodyText rfl (by decide)
  have hplus : '+' ∉ bodyText dt := notMem_bodyText rfl (by decide)
  have hmemZ : 'Z' ∈ "Z".toList := by decide
  have hmemPlus : '+' ∈ "+00:00".toList := by decide
  rw [text_eq] at h
  unfold stripZone
  cases hz : dt.zone with
  | zulu lower =>
      rw [hz] at h
      cases lower with
      | false =>
          have hdrop : (dropTrailing "Z" (trim s)).toList = bodyText dt := dropTrailing_append h
          have hcut : Cut (.zulu false) := Or.inl rfl
          rw [dropTrailing_of_notMem hmemPlus (hdrop ▸ hplus), hdrop, if_pos hcut,
            List.append_nil]
      | true =>
          have hnoZ : 'Z' ∉ (trim s).toList := by
            rw [h]
            simpa [Zone.text] using hZ
          have hnoPlus : '+' ∉ (trim s).toList := by
            rw [h]
            simpa [Zone.text] using hplus
          have hkept : ¬ Cut (.zulu true) := by decide
          rw [dropTrailing_of_notMem hmemZ hnoZ, dropTrailing_of_notMem hmemPlus hnoPlus, h,
            if_neg hkept]
  | offset west hour minute =>
      rw [hz] at h
      have hnoZ : 'Z' ∉ (trim s).toList := by
        rw [h, List.mem_append, not_or]
        refine ⟨hZ, fun hmem => ?_⟩
        rcases mem_offsetText hmem with hc | hc
        · cases hc
        · exact absurd hc (by decide)
      rw [dropTrailing_of_notMem hmemZ hnoZ, dropTrailing_offset h]

/-- The numbers of a date-time. -/
def numbersOf (dt : DateTime) : Numbers where
  year := dt.date.year
  month := dt.date.month
  day := dt.date.day
  hour := (dt.hour : Nat)
  min := (dt.minute : Nat)
  sec := (dt.second : Nat)

/-- Behind the seconds there is a point, or nothing. -/
def Ends (dt : DateTime) : Prop := dt.fraction ≠ [] ∨ Cut dt.zone

instance (dt : DateTime) : Decidable (Ends dt) := inferInstanceAs (Decidable (_ ∨ _))

/-- The reader stops at the seconds, or finds the first character of a zone behind them. -/
theorem restText_cases :
    (Ends dt ∧ (restText dt = [] ∨ ∃ more, restText dt = '.' :: more)) ∨
      (¬ Ends dt ∧ ∃ c cs, restText dt = c :: cs ∧ c ∈ ['Z', 'z', '+', '-'] ∧
        c.isDigit = false) := by
  by_cases hfraction : dt.fraction = []
  · have hrest : restText dt = if Cut dt.zone then [] else dt.zone.text := by
      rw [restText, fractionText, if_pos hfraction, List.nil_append]
    by_cases hcut : Cut dt.zone
    · exact Or.inl ⟨Or.inr hcut, Or.inl (hrest.trans (if_pos hcut))⟩
    · obtain ⟨c, cs, hzone, hc, hdigit⟩ := dt.zone.text_eq_cons
      refine Or.inr ⟨?_, c, cs, hrest.trans ((if_neg hcut).trans hzone), hc, hdigit⟩
      rintro (h | h)
      · exact h hfraction
      · exact hcut h
  · refine Or.inl ⟨Or.inl hfraction, Or.inr ?_⟩
    rw [restText, fractionText, if_neg hfraction]
    exact ⟨_, rfl⟩

/-- Up to the point, if there is one, behind the seconds there are no other characters. -/
theorem parseI64_seconds :
    parseI64 (((digits 2 dt.second ++ restText dt).takeWhile (· ≠ ':')).takeWhile (· ≠ '.')) =
      if Ends dt then some (dt.second.val : Int) else none := by
  have hdigit : ∀ {sep : Char}, sep.isDigit = false →
      ∀ c ∈ digits 2 dt.second.val, decide (c ≠ sep) = true := by
    intro sep hsep c hc
    rw [decide_eq_true_eq]
    rintro rfl
    exact notMem_digits hsep _ _ hc
  have hnumber : parseI64 (digits 2 dt.second.val) = some (dt.second.val : Int) :=
    parseI64_digits (by decide) (by omega) (by omega)
  rw [List.takeWhile_append_of_pos (hdigit rfl), List.takeWhile_append_of_pos (hdigit rfl)]
  rcases restText_cases with ⟨hends, hrest | ⟨more, hrest⟩⟩ | ⟨hends, c, cs, hrest, hc, hcdigit⟩
  · rw [if_pos hends, hrest, List.takeWhile_nil, List.takeWhile_nil, List.append_nil, hnumber]
  · rw [if_pos hends, hrest, List.takeWhile_cons_of_pos (by decide),
      List.takeWhile_cons_of_neg (by decide), List.append_nil, hnumber]
  · have hcolon : c ≠ ':' := by
      rintro rfl
      exact absurd hc (by decide)
    have hpoint : c ≠ '.' := by
      rintro rfl
      exact absurd hc (by decide)
    obtain ⟨d, ds, hds⟩ : ∃ d ds, digits 2 dt.second.val = d :: ds :=
      List.exists_cons_of_length_pos (by rw [length_digits]; decide)
    rw [if_neg hends, hrest, List.takeWhile_cons_of_pos (by simp [hcolon]),
      List.takeWhile_cons_of_pos (by simp [hpoint]), hds, List.cons_append]
    refine parseI64_eq_none (isDigit_of_mem_digits (hds ▸ List.mem_cons_self)) ?_ hcdigit
    exact List.mem_append_right _ List.mem_cons_self

theorem readNumbers_text :
    readNumbers dt.dateText (dt.timeText ++ restText dt) =
      if Ends dt then some (numbersOf dt) else none := by
  have hdate : dt.dateText.splitOn '-' =
      [digits 4 dt.date.year, digits 2 dt.date.month, digits 2 dt.date.day] := by
    rw [DateTime.dateText, List.splitOn_append_cons_self_of_not_mem (notMem_digits rfl _ _),
      List.splitOn_append_cons_self_of_not_mem (notMem_digits rfl _ _),
      List.splitOn_eq_singleton (notMem_digits rfl _ _)]
  obtain ⟨pieces, htime⟩ : ∃ pieces, (dt.timeText ++ restText dt).splitOn ':' =
      digits 2 dt.hour :: digits 2 dt.minute ::
        (digits 2 dt.second ++ restText dt).takeWhile (· ≠ ':') :: pieces := by
    obtain ⟨pieces, hlast⟩ := splitOn_eq_cons ':' (digits 2 dt.second ++ restText dt)
    refine ⟨pieces, ?_⟩
    simp only [DateTime.timeText, List.append_assoc, List.cons_append]
    rw [List.splitOn_append_cons_self_of_not_mem (notMem_digits rfl _ _),
      List.splitOn_append_cons_self_of_not_mem (notMem_digits rfl _ _), hlast]
  have hyear := dt.year_le
  have hmonth := dt.month_lt
  have hday := dt.day_lt
  simp only [readNumbers, hdate, htime, parseI64_seconds]
  rw [parseI64_digits (by decide) (by omega) (by omega),
    parseI64_digits (by decide) hmonth (by omega), parseI64_digits (by decide) hday (by omega),
    parseI64_digits (by decide) (by omega) (by omega),
    parseI64_digits (by decide) (by omega) (by omega)]
  split
  · rfl
  · rfl

theorem notMem_zoneText {z : Zone} : 'T' ∉ z.text := by
  intro hmem
  cases z with
  | zulu lower =>
      cases lower <;> exact absurd hmem (by decide)
  | offset west hour minute =>
      rcases mem_offsetText hmem with hc | hc
      · cases hc
      · exact absurd hc (by decide)

/-- **What the reader finds in a date-time.** -/
theorem numbers_text {s : String} (h : (trim s).toList = dt.text) :
    numbers s = if dt.lower = false ∧ Ends dt then some (numbersOf dt)
      else none := by
  have hstrip : stripZone s = dt.dateText ++ separator dt :: (dt.timeText ++ restText dt) := by
    rw [stripZone_text h]
    simp only [bodyText, restText, List.append_assoc, List.cons_append]
  have hnoDate : 'T' ∉ dt.dateText := by
    intro hmem
    rcases mem_dateText hmem with hc | hc
    · cases hc
    · cases hc
  rw [numbers, hstrip]
  cases hlower : dt.lower with
  | false =>
      have hsep : separator dt = 'T' := by rw [separator, hlower]; rfl
      rw [hsep, splitOnce_append hnoDate, Option.bind_some, readNumbers_text]
      simp
  | true =>
      have hnoT : 'T' ∉ stripZone s := by
        rw [stripZone_text h, List.mem_append, not_or]
        refine ⟨fun hmem => ?_, ?_⟩
        · rcases mem_bodyText hmem with hc | hc | hc
          · cases hc
          · exact absurd hc (by decide)
          · rw [separator, hlower] at hc
            cases hc
        · split
          · exact List.not_mem_nil
          · exact notMem_zoneText
      rw [← hstrip, splitOnce_eq_none hnoT]
      simp

/-! ## The time of a date-time -/

theorem checkedSecs_numbersOf : (numbersOf dt).checkedSecs = some dt.localSeconds := by
  have hyear := dt.year_le
  have hlt := dt.date.dayNumber_lt
  have hrule := daysBeforeYear_add (dt.date.year + 1)
  have hepoch := daysBeforeYear_1970
  simp only [Numbers.checkedSecs, Option.bind_eq_bind, Option.bind_eq_some_iff]
  refine ⟨_, checkedDaysFromCivil_date dt.date (by omega), _, tryI64_of (by omega) (by omega),
    _, tryI64_of ?_ ?_, _, tryI64_of ?_ ?_, _, tryI64_of ?_ ?_, _, tryI64_of ?_ ?_, ?_⟩
  all_goals simp only [numbersOf, DateTime.localSeconds]
  all_goals try omega
  rw [tryI64_of (by omega) (by omega)]

/-- **How the reader reads a date-time.**  The offset does not count. -/
theorem parseRfc3339_text {s : String} (h : (trim s).toList = dt.text) :
    parseRfc3339 s = if dt.lower = false ∧ Ends dt ∧ 0 ≤ dt.localSeconds then
      some (dt.localSeconds * nanosPerSec) else none := by
  have hsecs : (numbersOf dt).unixSecs = dt.localSeconds :=
    Numbers.unixSecs_of_checked checkedSecs_numbersOf
  rw [parseRfc3339_eq, numbers_text h]
  by_cases hread : dt.lower = false ∧ Ends dt
  · rw [if_pos hread, Option.bind_some, hsecs]
    by_cases hneg : dt.localSeconds < 0
    · rw [if_pos hneg, if_neg fun hall => Int.not_le.mpr hneg hall.2.2]
    · rw [if_neg hneg, if_pos ⟨hread.1, hread.2, Int.not_lt.mp hneg⟩]
  · rw [if_neg hread, Option.bind_none, if_neg fun hall => hread ⟨hall.1, hall.2.1⟩]

theorem seconds_eq_zero {z : Zone} :
    z.seconds = 0 ↔ z = .zulu false ∨ z = .zulu true ∨ z = .offset false 0 0 ∨
      z = .offset true 0 0 := by
  constructor
  · intro h
    cases z with
    | zulu lower => cases lower <;> simp
    | offset west hour minute =>
        have hboth : hour.val = 0 ∧ minute.val = 0 := by
          cases west <;>
            simp only [Zone.seconds, Bool.false_eq_true, if_true, if_false] at h <;> omega
        obtain rfl : hour = 0 := Fin.ext hboth.1
        obtain rfl : minute = 0 := Fin.ext hboth.2
        cases west <;> simp
  · rintro (rfl | rfl | rfl | rfl) <;> simp [Zone.seconds]

end

/-! ## Texts that are read correctly -/

/-- Without white space around it, `s` is a date-time that occurs, and `t` is its Unix time. -/
def ReadsTo (leapDay : Int → Prop) (s : String) (t : SystemTime) : Prop :=
  ∃ dt : DateTime, (trim s).toList = dt.text ∧ dt.Occurs leapDay ∧ t = dt.unix * nanosPerSec

/-- With overflow checks the reader does not panic. -/
def NoOverflow (s : String) : Prop :=
  ∀ n, numbers s = some n → n.checkedSecs.isSome = true

/-- The fields of a text `YYYY-MM-DDTHH:MM:SS`, with a fraction or not, and what is behind. -/
structure Layout where
  year : List Char
  month : List Char
  day : List Char
  hour : List Char
  min : List Char
  sec : List Char
  fraction : List Char
  suffix : List Char

namespace Layout

variable (l : Layout)

def text : List Char :=
  l.year ++ '-' :: (l.month ++ '-' :: (l.day ++ 'T' :: (l.hour ++ ':' :: (l.min ++ ':' ::
    (l.sec ++ (fractionText l.fraction ++ l.suffix))))))

/-- The day, counted from 1970-01-01. -/
def dayNumber : Int :=
  ((daysBeforeYear (value l.year) + daysBeforeMonth (value l.year) (value l.month) +
    (value l.day - 1) : Nat) : Int) - daysBeforeYear 1970

/-- Every field has its width, every number is in its range, and the offset is zero. -/
structure Fits (leapDay : Int → Prop) : Prop where
  year : Digits 4 l.year
  month : Digits 2 l.month
  day : Digits 2 l.day
  hour : Digits 2 l.hour
  min : Digits 2 l.min
  sec : Digits 2 l.sec
  one_le_month : 1 ≤ value l.month
  month_le : value l.month ≤ 12
  one_le_day : 1 ≤ value l.day
  day_le : value l.day ≤ daysInMonth (value l.year) (value l.month)
  hour_lt : value l.hour < 24
  min_lt : value l.min < 60
  sec_lt : value l.sec < 61
  leap : value l.sec = 60 → value l.hour = 23 ∧ value l.min = 59 ∧ leapDay l.dayNumber
  isDigit_fraction : ∀ c ∈ l.fraction, c.isDigit = true
  suffix : l.suffix = "Z".toList ∨ l.suffix = "+00:00".toList ∨
    l.fraction ≠ [] ∧ (l.suffix = "z".toList ∨ l.suffix = "-00:00".toList)

end Layout

/-- The comment's layout, with numbers in range and no offset. -/
def Laid (leapDay : Int → Prop) (s : String) : Prop :=
  ∃ l : Layout, l.Fits leapDay ∧ (trim s).toList = l.text

variable {leapDay : Int → Prop} {dt : DateTime}

/-- A date-time with a capital `T`, with a point or nothing behind the seconds, in UTC. -/
structure Plain (leapDay : Int → Prop) (dt : DateTime) : Prop where
  upper : dt.lower = false
  ends : Ends dt
  zone : dt.zone.seconds = 0
  occurs : dt.Occurs leapDay

theorem Plain.unix_eq (h : Plain leapDay dt) : dt.unix = dt.localSeconds := by
  rw [DateTime.unix, h.zone, Int.sub_zero]

/-- In UTC, a minute has a second 60 only at the end of a day. -/
theorem occurs_iff (h : dt.zone.seconds = 0) :
    dt.Occurs leapDay ↔ (dt.second.val = 60 → dt.hour.val = 23 ∧ dt.minute.val = 59 ∧
      leapDay ((dt.date.dayNumber : Int) - daysBeforeYear 1970)) := by
  have hhour := dt.hour.isLt
  have hminute := dt.minute.isLt
  have hunix : dt.unix = ((dt.date.dayNumber : Int) - daysBeforeYear 1970) * 86400 +
      dt.hour.val * 3600 + dt.minute.val * 60 + dt.second.val := by
    rw [DateTime.unix, h, Int.sub_zero, DateTime.localSeconds]
  constructor
  · intro hoccurs hsec
    obtain ⟨day, hday, hend⟩ := hoccurs hsec
    have hsame : day = (dt.date.dayNumber : Int) - daysBeforeYear 1970 := by omega
    exact ⟨by omega, by omega, hsame ▸ hday⟩
  · intro hleap hsec
    obtain ⟨hhour, hminute, hday⟩ := hleap hsec
    exact ⟨_, hday, by omega⟩

/-- The fields of a date-time. -/
def layoutOf (dt : DateTime) : Layout where
  year := digits 4 dt.date.year
  month := digits 2 dt.date.month
  day := digits 2 dt.date.day
  hour := digits 2 dt.hour
  min := digits 2 dt.minute
  sec := digits 2 dt.second
  fraction := dt.fraction
  suffix := dt.zone.text

theorem text_layoutOf (h : dt.lower = false) : (layoutOf dt).text = dt.text := by
  simp [Layout.text, layoutOf, DateTime.text, DateTime.dateText, DateTime.timeText, h]

theorem fits_layoutOf (h : Plain leapDay dt) : (layoutOf dt).Fits leapDay := by
  have hyear : value (digits 4 dt.date.year) = dt.date.year :=
    value_digits (Nat.lt_of_le_of_lt dt.year_le (by decide))
  have hmonth : value (digits 2 dt.date.month) = dt.date.month := value_digits dt.month_lt
  have hday : value (digits 2 dt.date.day) = dt.date.day := value_digits dt.day_lt
  have hhour : value (digits 2 dt.hour.val) = dt.hour.val := value_digits (by omega)
  have hmin : value (digits 2 dt.minute.val) = dt.minute.val := value_digits (by omega)
  have hsec : value (digits 2 dt.second.val) = dt.second.val := value_digits (by omega)
  refine ⟨digits_digits _ _, digits_digits _ _, digits_digits _ _, digits_digits _ _,
    digits_digits _ _, digits_digits _ _, ?_, ?_, ?_, ?_, ?_, ?_, ?_, ?_, dt.isDigit_fraction, ?_⟩
  all_goals simp only [layoutOf, Layout.dayNumber, hyear, hmonth, hday, hhour, hmin, hsec]
  · exact dt.date.one_le_month
  · exact dt.date.month_le
  · exact dt.date.one_le_day
  · exact dt.date.day_le
  · exact dt.hour.isLt
  · exact dt.minute.isLt
  · exact dt.second.isLt
  · exact (occurs_iff h.zone).mp h.occurs
  · have hends := h.ends
    rcases seconds_eq_zero.mp h.zone with hz | hz | hz | hz
    · exact Or.inl (by rw [hz]; rfl)
    · have hfraction : dt.fraction ≠ [] := hends.resolve_right (by rw [hz]; decide)
      exact Or.inr (Or.inr ⟨hfraction, Or.inl (by rw [hz]; rfl)⟩)
    · exact Or.inr (Or.inl (by rw [hz]; decide))
    · have hfraction : dt.fraction ≠ [] := hends.resolve_right (by rw [hz]; decide)
      exact Or.inr (Or.inr ⟨hfraction, Or.inr (by rw [hz]; decide)⟩)

/-- A text that fits is the text of a date-time. -/
theorem exists_of_fits {l : Layout} (h : l.Fits leapDay) :
    ∃ dt : DateTime, Plain leapDay dt ∧ dt.text = l.text := by
  obtain ⟨zone, hzone, hcut, htext⟩ : ∃ zone : Zone, zone.seconds = 0 ∧
      (l.fraction ≠ [] ∨ Cut zone) ∧ zone.text = l.suffix := by
    rcases h.suffix with hs | hs | ⟨hfraction, hs | hs⟩
    · exact ⟨.zulu false, rfl, Or.inr (Or.inl rfl), by rw [hs]; rfl⟩
    · exact ⟨.offset false 0 0, by decide, Or.inr (Or.inr rfl), by rw [hs]; decide⟩
    · exact ⟨.zulu true, rfl, Or.inl hfraction, by rw [hs]; rfl⟩
    · exact ⟨.offset true 0 0, by decide, Or.inl hfraction, by rw [hs]; decide⟩
  have hyear : value l.year < 10 ^ 4 := h.year.value_lt
  let dt : DateTime :=
    { date := ⟨value l.year, value l.month, value l.day, h.one_le_month, h.month_le, h.one_le_day,
        h.day_le⟩
      year_le := Nat.le_of_lt_succ hyear
      lower := false
      hour := ⟨value l.hour, h.hour_lt⟩
      minute := ⟨value l.min, h.min_lt⟩
      second := ⟨value l.sec, h.sec_lt⟩
      fraction := l.fraction
      isDigit_fraction := h.isDigit_fraction
      zone := zone }
  refine ⟨dt, ⟨rfl, hcut, hzone, (occurs_iff hzone).mpr h.leap⟩, ?_⟩
  have hfields : layoutOf dt = l := by
    simp only [layoutOf, dt, h.year.eq, h.month.eq, h.day.eq, h.hour.eq, h.min.eq, h.sec.eq, htext]
  rw [← text_layoutOf rfl, hfields]

theorem laid_iff {s : String} :
    Laid leapDay s ↔ ∃ dt : DateTime, Plain leapDay dt ∧ (trim s).toList = dt.text := by
  constructor
  · rintro ⟨l, hfits, htext⟩
    obtain ⟨dt, hplain, hsame⟩ := exists_of_fits hfits
    exact ⟨dt, hplain, htext.trans hsame.symm⟩
  · rintro ⟨dt, hplain, htext⟩
    exact ⟨layoutOf dt, fits_layoutOf hplain, htext.trans (text_layoutOf hplain.upper).symm⟩

/-- **An accepted text is a date-time, read as its Unix time and without overflow, iff it has
the layout of the comment, with numbers in range and no offset.** -/
theorem readsTo_iff_laid (leapDay : Int → Prop) {s : String} {t : SystemTime}
    (h : parseRfc3339 s = some t) :
    (ReadsTo leapDay s t ∧ NoOverflow s) ↔ Laid leapDay s := by
  rw [laid_iff]
  constructor
  · rintro ⟨⟨dt, htext, hoccurs, htime⟩, -⟩
    rw [parseRfc3339_text htext] at h
    split at h
    next hread =>
      obtain ⟨hupper, hends, -⟩ := hread
      have hlocal : dt.localSeconds = dt.unix := by
        have hsame : dt.localSeconds * nanosPerSec = dt.unix * nanosPerSec :=
          (Option.some.inj h).trans htime
        exact Int.eq_of_mul_eq_mul_right (by decide) hsame
      have hzone : dt.zone.seconds = 0 := by
        unfold DateTime.unix at hlocal
        omega
      exact ⟨dt, ⟨hupper, hends, hzone, hoccurs⟩, htext⟩
    · cases h
  · rintro ⟨dt, hplain, htext⟩
    refine ⟨⟨dt, htext, hplain.occurs, ?_⟩, ?_⟩
    · rw [parseRfc3339_text htext] at h
      split at h
      · rw [hplain.unix_eq]
        exact (Option.some.inj h).symm
      · cases h
    · intro n hn
      rw [numbers_text htext, if_pos ⟨hplain.upper, hplain.ends⟩] at hn
      rw [← Option.some.inj hn, checkedSecs_numbersOf]
      rfl

/-- The start of the year 2025. -/
def newYear (fraction : List Char) (h : ∀ c ∈ fraction, c.isDigit = true) (zone : Zone) :
    DateTime where
  date := ⟨2025, 1, 1, by decide, by decide, by decide, by decide⟩
  year_le := by decide
  lower := false
  hour := 0
  minute := 0
  second := 0
  fraction := fraction
  isDigit_fraction := h
  zone := zone

theorem newYear_readsTo :
    (ReadsTo (fun _ => False) "2025-01-01T00:00:00Z" (1735689600 * nanosPerSec) ∧
      NoOverflow "2025-01-01T00:00:00Z") :=
  (readsTo_iff_laid (fun _ => False) (by decide)).mpr
    (laid_iff.mpr ⟨newYear [] (fun _ h => absurd h List.not_mem_nil) (.zulu false),
      ⟨rfl, Or.inr (Or.inl rfl), rfl, fun h => absurd h (by decide)⟩, by decide +kernel⟩)

/-- Half a second into the year 2025 in India is read as the start of the year in UTC. -/
theorem offset_dropped :
    parseRfc3339 "2025-01-01T00:00:00.5+05:30" = some (1735689600 * nanosPerSec) ∧
      ∀ leapDay, ¬ ReadsTo leapDay "2025-01-01T00:00:00.5+05:30" (1735689600 * nanosPerSec) := by
  have hparse : parseRfc3339 "2025-01-01T00:00:00.5+05:30" = some (1735689600 * nanosPerSec) := by
    decide
  refine ⟨hparse, ?_⟩
  rintro leapDay ⟨dt, htext, -, htime⟩
  let india := newYear ['5'] (List.forall_mem_singleton.mpr rfl) (.offset false 5 30)
  have hindia : (trim "2025-01-01T00:00:00.5+05:30").toList = india.text := by
    decide +kernel
  have hsame : dt = india := DateTime.text_injective (htext.symm.trans hindia)
  have hzone : dt.zone.seconds = 19800 := by rw [hsame]; rfl
  rw [parseRfc3339_text htext] at hparse
  split at hparse
  · have hunix : dt.localSeconds * nanosPerSec = dt.unix * nanosPerSec :=
      (Option.some.inj hparse).trans htime
    have hlocal := Int.eq_of_mul_eq_mul_right (by decide) hunix
    unfold DateTime.unix at hlocal
    omega
  · cases hparse

-- a month 13 is the next January, and a far year wraps to a time after 1970
example : parseRfc3339 "2025-13-01T00:00:00Z" = parseRfc3339 "2026-01-01T00:00:00Z" := by decide

example : (parseRfc3339 "2000000000000-01-01T00:00:00Z").isSome = true ∧
    (numbers "2000000000000-01-01T00:00:00Z").bind Numbers.checkedSecs = none := by decide

end ZeroTrust.Connector.AcceptedTimes
