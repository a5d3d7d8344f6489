import Issuance.Proofs.Calendar
import Issuance.Proofs.Json.Digits

/-! # What a timestamp says

    A timestamp gives a date and a time of day, and so a second. The timestamp of an instant gives
    the second of the instant and none besides, whatever year it falls in; what is left of the
    second is not written. As long as the years have four digits, timestamps compare as texts the
    way their seconds do. -/

namespace Issuance

/-! ### Numbers in digits -/

/-- A number in decimal digits, with any zeros in front. -/
structure ReadsAs (s : List Char) (n : Nat) : Prop where
  digits : ∀ c ∈ s, Json.isDigit c = true
  value : Nat.ofDigitChars 10 s 0 = n

/-- A year: in four digits, or behind a sign. -/
inductive ReadsAsYear : List Char → Int → Prop
  | plain {s : List Char} {n : Nat} : s.length = 4 → ReadsAs s n → ReadsAsYear s n
  | after {s : List Char} {n : Nat} : ReadsAs s n → ReadsAsYear ('+' :: s) n
  | before {s : List Char} {n : Nat} : ReadsAs s n → ReadsAsYear ('-' :: s) (-n)

variable {s s' u v : List Char} {n m width : Nat}

theorem ofDigitChars_replicate_zero (k : Nat) :
    Nat.ofDigitChars 10 (List.replicate k '0') 0 = 0 := by
  induction k with
  | zero => rfl
  | succ k ih => rw [List.replicate_succ, Nat.ofDigitChars_cons]; exact ih

theorem readsAs_padded (width n : Nat) : ReadsAs (padded width n) n := by
  constructor
  · intro c hc
    rcases List.mem_append.mp hc with hc | hc
    · rw [List.eq_of_mem_replicate hc]; decide
    · exact Json.isDigit_of_mem_digitsOf hc
  · simp only [padded]
    rw [Nat.ofDigitChars_append, ofDigitChars_replicate_zero]
    exact Nat.ofDigitChars_toDigits (by decide) (by decide)

theorem length_padded (hwidth : 0 < width) (h : n < 10 ^ width) :
    (padded width n).length = width := by
  have hle := (Json.length_digitsOf_le_iff hwidth).mpr h
  simp only [padded, List.length_append, List.length_replicate]
  omega

theorem ReadsAs.unique (h : ReadsAs s n) (h' : ReadsAs s m) : n = m := h.value.symm.trans h'.value

theorem ReadsAsYear.unique {y z : Int} (h : ReadsAsYear s y) (h' : ReadsAsYear s z) : y = z := by
  have hsign : ∀ {c s n}, ReadsAs (c :: s) n → Json.isDigit c = true := fun h =>
    h.digits _ List.mem_cons_self
  cases h with
  | plain _ h =>
    cases h' with
    | plain _ h' => rw [← h.value, ← h'.value]
    | after _ => exact absurd (hsign h) (by decide)
    | before _ => exact absurd (hsign h) (by decide)
  | after h =>
    cases h' with
    | plain _ h' => exact absurd (hsign h') (by decide)
    | after h' => rw [← h.value, ← h'.value]
  | before h =>
    cases h' with
    | plain _ h' => exact absurd (hsign h') (by decide)
    | before h' => rw [← h.value, ← h'.value]

theorem readsAsYear_yearText (year : Int) : ReadsAsYear (yearText year) year := by
  rw [yearText]
  split_ifs with hplain hnegative
  · have hread := ReadsAsYear.plain (length_padded (by decide) (by omega))
      (readsAs_padded 4 year.toNat)
    rwa [Int.toNat_of_nonneg hplain.1] at hread
  · have hread := ReadsAsYear.before (readsAs_padded 4 year.natAbs)
    rwa [show -(year.natAbs : Int) = year by omega] at hread
  · have hread := ReadsAsYear.after (readsAs_padded 4 year.natAbs)
    rwa [show (year.natAbs : Int) = year by omega] at hread

/-! ### The parts of a timestamp -/

/-- The texts of the parts of a timestamp. -/
@[ext]
structure Timestamp where
  year : List Char
  month : List Char
  day : List Char
  hour : List Char
  minute : List Char
  second : List Char

namespace Timestamp

/-- The text with the parts. -/
def text (p : Timestamp) : List Char :=
  p.year ++ '-' :: (p.month ++ '-' :: (p.day ++ 'T' ::
    (p.hour ++ ':' :: (p.minute ++ ':' :: (p.second ++ ['Z'])))))

/-- A date with a number, and a time of the day with it, that the parts give. All parts but the year
    have two digits. -/
structure Gives (p : Timestamp) (d : Date) (n : Int) (hour minute second : Nat) : Prop where
  numbered : d.Numbered n
  hour_lt : hour < 24
  minute_lt : minute < 60
  second_lt : second < 60
  year : ReadsAsYear p.year d.year
  month : ReadsAs p.month d.month
  day : ReadsAs p.day d.day
  hour : ReadsAs p.hour hour
  minute : ReadsAs p.minute minute
  second : ReadsAs p.second second
  lengths : p.month.length = 2 ∧ p.day.length = 2 ∧ p.hour.length = 2 ∧ p.minute.length = 2 ∧
    p.second.length = 2

variable {p q : Timestamp} {d e : Date} {a b : Int} {h m sec h' m' sec' : Nat}

/-- All but the year have their place from the end of the text, so the parts are found again. -/
theorem Gives.parts_eq (hp : p.Gives d a h m sec) (hq : q.Gives e b h' m' sec')
    (htext : p.text = q.text) : p = q := by
  obtain ⟨hmonth, hday, hhour, hminute, hsecond⟩ := hp.lengths
  obtain ⟨hmonth', hday', hhour', hminute', hsecond'⟩ := hq.lengths
  obtain ⟨hyears, htext⟩ := List.append_inj' htext (by simp [*])
  obtain ⟨hmonths, htext⟩ := List.append_inj (List.cons.inj htext).2 (by rw [hmonth, hmonth'])
  obtain ⟨hdays, htext⟩ := List.append_inj (List.cons.inj htext).2 (by rw [hday, hday'])
  obtain ⟨hhours, htext⟩ := List.append_inj (List.cons.inj htext).2 (by rw [hhour, hhour'])
  obtain ⟨hminutes, htext⟩ := List.append_inj (List.cons.inj htext).2 (by rw [hminute, hminute'])
  obtain ⟨hseconds, -⟩ := List.append_inj (List.cons.inj htext).2 (by rw [hsecond, hsecond'])
  exact Timestamp.ext hyears hmonths hdays hhours hminutes hseconds

theorem Gives.unique (hp : p.Gives d a h m sec) (hp' : p.Gives e b h' m' sec') :
    a = b ∧ h = h' ∧ m = m' ∧ sec = sec' := by
  have hyear : d.year = e.year := hp.year.unique hp'.year
  have hmonth : d.month = e.month := hp.month.unique hp'.month
  have hday : d.day = e.day := hp.day.unique hp'.day
  have hdate : d = e := by
    cases d
    cases e
    simp only at hyear hmonth hday
    rw [hyear, hmonth, hday]
  subst hdate
  exact ⟨hp.numbered.unique hp'.numbered, hp.hour.unique hp'.hour, hp.minute.unique hp'.minute,
    hp.second.unique hp'.second⟩

end Timestamp

/-- The second that a timestamp denotes, counted from the start of 1970. -/
def Denotes (text : List Char) (seconds : Int) : Prop :=
  ∃ (p : Timestamp) (d : Date) (n : Int) (hour minute second : Nat), text = p.text ∧
    p.Gives d n hour minute second ∧ seconds = 86400 * n + 3600 * hour + 60 * minute + second

/-- A text denotes one second at most. -/
theorem Denotes.unique {a b : Int} (h : Denotes s a) (h' : Denotes s b) : a = b := by
  obtain ⟨p, d, n, hour, minute, second, rfl, hp, rfl⟩ := h
  obtain ⟨q, e, k, hour', minute', second', htext, hq, rfl⟩ := h'
  obtain rfl := hp.parts_eq hq htext
  obtain ⟨rfl, rfl, rfl, rfl⟩ := hp.unique hq
  rfl

/-! ### The timestamp of an instant -/

namespace Instant

/-- The parts of the timestamp of an instant. -/
def timestamp (t : Instant) : Timestamp where
  year := yearText t.date.year
  month := padded 2 t.date.month
  day := padded 2 t.date.day
  hour := padded 2 (t.secondOfDay / 3600)
  minute := padded 2 (t.secondOfDay / 60 % 60)
  second := padded 2 (t.secondOfDay % 60)

theorem text_eq (t : Instant) : t.text = t.timestamp.text := by
  simp only [text, Date.text, clockText, timestamp, Timestamp.text, List.append_assoc,
    List.cons_append]

theorem secondOfDay_lt (t : Instant) : t.secondOfDay < 86400 := by
  rw [secondOfDay]
  omega

/-- The months, days and hours of an instant have two digits at most. -/
theorem two_digits (t : Instant) :
    t.date.month < 10 ^ 2 ∧ t.date.day < 10 ^ 2 ∧ t.secondOfDay / 3600 < 24 := by
  have hlengths : ∀ leap, ∀ m ≤ 12, Date.monthLength leap m ≤ 31 := by decide
  obtain ⟨-, hmonth, -, hlast⟩ := Date.valid_ofDay (t.seconds / 86400 + Date.epochDay)
  have hday := t.secondOfDay_lt
  refine ⟨hmonth.trans_lt (by decide), ?_, by omega⟩
  exact (hlast.trans (hlengths _ _ hmonth)).trans_lt (by decide)

/-- The parts give the day that the second falls in and the time in that day. -/
theorem gives_timestamp (t : Instant) :
    t.timestamp.Gives t.date (t.seconds / 86400) (t.secondOfDay / 3600) (t.secondOfDay / 60 % 60)
      (t.secondOfDay % 60) := by
  obtain ⟨hmonth, hday, hhour⟩ := t.two_digits
  have htwo : ∀ {n}, n < 10 ^ 2 → (padded 2 n).length = 2 := length_padded Nat.two_pos
  exact ⟨Date.numbered_ofDay _, hhour, by omega, by omega, readsAsYear_yearText _,
    readsAs_padded 2 _, readsAs_padded 2 _, readsAs_padded 2 _, readsAs_padded 2 _,
    readsAs_padded 2 _, htwo hmonth, htwo hday, htwo (by omega), htwo (by omega),
    htwo (by omega)⟩

/-- The timestamp of an instant denotes its second, and no other. -/
theorem denotes_text_iff (t : Instant) (seconds : Int) :
    Denotes t.text seconds ↔ seconds = t.seconds := by
  have hself : Denotes t.text t.seconds := by
    refine ⟨_, _, _, _, _, _, t.text_eq, t.gives_timestamp, ?_⟩
    rw [secondOfDay]
    omega
  constructor
  · exact fun h => h.unique hself
  · rintro rfl
    exact hself

/-- Two instants have the same timestamp just when they fall in the same second. -/
theorem text_eq_text_iff (t t' : Instant) : t.text = t'.text ↔ t.seconds = t'.seconds := by
  constructor
  · intro h
    exact (denotes_text_iff t' _).mp (h ▸ (denotes_text_iff t _).mpr rfl)
  · intro h
    simp only [text, date, secondOfDay, h]

end Instant

/-! ### The order of timestamps -/

/-- Texts of one length decide, and what comes behind them only if they are the same. -/
theorem append_cons_lt_append_cons (c : Char) (hlength : s.length = s'.length)
    (h : s < s' ∨ s = s' ∧ u < v) : s ++ c :: u < s' ++ c :: v := by
  induction s generalizing s' with
  | nil =>
    obtain rfl : s' = [] := List.length_eq_zero_iff.mp hlength.symm
    rcases h with h | ⟨-, h⟩
    · exact absurd h (List.not_lt_nil _)
    · exact List.cons_lt_cons_iff.mpr (.inr ⟨rfl, h⟩)
  | cons d s ih =>
    cases s' with
    | nil => cases hlength
    | cons d' s' =>
      rw [List.cons_append, List.cons_append, List.cons_lt_cons_iff]
      rw [List.cons_lt_cons_iff, List.cons.injEq] at h
      rcases h with (hd | ⟨rfl, hrest⟩) | ⟨⟨rfl, rfl⟩, hbehind⟩
      · exact .inl hd
      · exact .inr ⟨rfl, ih (Nat.succ.inj hlength) (.inl hrest)⟩
      · exact .inr ⟨rfl, ih rfl (.inr ⟨rfl, hbehind⟩)⟩

theorem digit_bounds {c : Char} (h : Json.isDigit c = true) :
    '0'.toNat ≤ c.toNat ∧ c.toNat - '0'.toNat < 10 := by
  simp only [Json.isDigit, Bool.and_eq_true, decide_eq_true_eq] at h
  have hlow : 0x30 ≤ c.toNat := h.1
  have hhigh : c.toNat ≤ 0x39 := h.2
  have hzero : '0'.toNat = 0x30 := rfl
  omega

theorem ofDigitChars_cons (c : Char) (s : List Char) : Nat.ofDigitChars 10 (c :: s) 0 =
    10 ^ s.length * (c.toNat - '0'.toNat) + Nat.ofDigitChars 10 s 0 := by
  rw [Nat.ofDigitChars_cons, Nat.ofDigitChars_eq_ofDigitChars_zero, Nat.mul_zero, Nat.zero_add]

theorem ofDigitChars_lt (h : ∀ c ∈ s, Json.isDigit c = true) :
    Nat.ofDigitChars 10 s 0 < 10 ^ s.length := by
  induction s with
  | nil => decide
  | cons c s ih =>
    have hrest := ih fun d hd => h d (List.mem_cons_of_mem c hd)
    have hdigit := (digit_bounds (h c List.mem_cons_self)).2
    calc Nat.ofDigitChars 10 (c :: s) 0
        = 10 ^ s.length * (c.toNat - '0'.toNat) + Nat.ofDigitChars 10 s 0 := ofDigitChars_cons c s
      _ < 10 ^ s.length * (c.toNat - '0'.toNat) + 10 ^ s.length := Nat.add_lt_add_left hrest _
      _ = 10 ^ s.length * (c.toNat - '0'.toNat + 1) := (Nat.mul_succ _ _).symm
      _ ≤ 10 ^ s.length * 10 := Nat.mul_le_mul_left _ hdigit
      _ = 10 ^ (c :: s).length := (Nat.pow_succ ..).symm

/-- Numbers with as many digits compare by their digits from the left. -/
theorem ReadsAs.lt (h : ReadsAs s n) (h' : ReadsAs s' m) (hlength : s.length = s'.length)
    (hlt : n < m) : s < s' := by
  obtain ⟨hdigits, rfl⟩ := h
  obtain ⟨hdigits', rfl⟩ := h'
  induction s generalizing s' with
  | nil =>
    cases s' with
    | nil => exact absurd hlt (Nat.lt_irrefl _)
    | cons c' s' => cases hlength
  | cons c s ih =>
    cases s' with
    | nil => cases hlength
    | cons c' s' =>
      have hc := digit_bounds (hdigits c List.mem_cons_self)
      have hc' := digit_bounds (hdigits' c' List.mem_cons_self)
      have hrest : ∀ d ∈ s, Json.isDigit d = true :=
        fun d hd => hdigits d (List.mem_cons_of_mem c hd)
      have hrest' : ∀ d ∈ s', Json.isDigit d = true :=
        fun d hd => hdigits' d (List.mem_cons_of_mem c' hd)
      have hsame : s.length = s'.length := Nat.succ.inj hlength
      rw [ofDigitChars_cons, ofDigitChars_cons, hsame] at hlt
      rw [List.cons_lt_cons_iff]
      rcases lt_trichotomy c.toNat c'.toNat with hless | heq | hmore
      · exact .inl hless
      · rw [heq] at hlt
        exact .inr ⟨Char.toNat_inj.mp heq, ih hsame hrest hrest' (Nat.lt_of_add_lt_add_left hlt)⟩
      · have hbelow := ofDigitChars_lt hrest'
        have hstep : 10 ^ s'.length * (c'.toNat - '0'.toNat + 1) ≤
            10 ^ s'.length * (c.toNat - '0'.toNat) := Nat.mul_le_mul_left _ (by omega)
        rw [Nat.mul_succ] at hstep
        omega

theorem padded_append_lt (c : Char) (hn : n < 10 ^ width) (hm : m < 10 ^ width)
    (h : n < m ∨ n = m ∧ u < v) : padded width n ++ c :: u < padded width m ++ c :: v := by
  rcases h with hlt | ⟨rfl, hbehind⟩
  · have hwidth : 0 < width := by
      rw [Nat.pos_iff_ne_zero]
      rintro rfl
      omega
    have hlength : (padded width n).length = (padded width m).length := by
      rw [length_padded hwidth hn, length_padded hwidth hm]
    exact append_cons_lt_append_cons c hlength
      (.inl ((readsAs_padded width n).lt (readsAs_padded width m) hlength hlt))
  · exact append_cons_lt_append_cons c rfl (.inr ⟨rfl, hbehind⟩)

namespace Instant

/-- A year of four digits, for which timestamps compare as texts. -/
def HasPlainYear (t : Instant) : Prop := 0 ≤ t.date.year ∧ t.date.year ≤ 9999

variable {t t' : Instant}

/-- Of two instants the earlier has the earlier date, or the same date and the earlier time. -/
theorem parts_lt (h : t.seconds < t'.seconds) :
    t.date.year < t'.date.year ∨ t.date.year = t'.date.year ∧
      (t.date.month < t'.date.month ∨ t.date.month = t'.date.month ∧
        (t.date.day < t'.date.day ∨ t.date.day = t'.date.day ∧
          (t.secondOfDay / 3600 < t'.secondOfDay / 3600 ∨
            t.secondOfDay / 3600 = t'.secondOfDay / 3600 ∧
              (t.secondOfDay / 60 % 60 < t'.secondOfDay / 60 % 60 ∨
                t.secondOfDay / 60 % 60 = t'.secondOfDay / 60 % 60 ∧
                  t.secondOfDay % 60 < t'.secondOfDay % 60)))) := by
  by_cases hday : t.seconds / 86400 = t'.seconds / 86400
  · have hdate : t.date = t'.date := by rw [date, date, hday]
    have htime : t.secondOfDay < t'.secondOfDay := by
      rw [secondOfDay, secondOfDay]
      omega
    rw [hdate]
    omega
  · have hbefore : t.date.Before t'.date := Date.before_ofDay (by omega)
    rw [Date.Before] at hbefore
    omega

/-- Later seconds have later timestamps, as long as the years have four digits. -/
theorem text_lt_text (ht : t.HasPlainYear) (ht' : t'.HasPlainYear) (h : t.seconds < t'.seconds) :
    t.text < t'.text := by
  have htwo := t.two_digits
  have htwo' := t'.two_digits
  have hyear : yearText t.date.year = padded 4 t.date.year.toNat := if_pos ht
  have hyear' : yearText t'.date.year = padded 4 t'.date.year.toNat := if_pos ht'
  obtain ⟨hlow, hhigh⟩ := ht
  obtain ⟨hlow', hhigh'⟩ := ht'
  rw [text_eq, text_eq]
  simp only [Timestamp.text, timestamp, hyear, hyear']
  refine padded_append_lt '-' (by omega) (by omega) ?_
  refine (parts_lt h).imp (by omega) (And.imp (by omega) fun h => ?_)
  refine padded_append_lt '-' (by omega) (by omega) (h.imp_right (And.imp_right fun h => ?_))
  refine padded_append_lt 'T' (by omega) (by omega) (h.imp_right (And.imp_right fun h => ?_))
  refine padded_append_lt ':' (by omega) (by omega) (h.imp_right (And.imp_right fun h => ?_))
  refine padded_append_lt ':' (by omega) (by omega) (h.imp_right (And.imp_right fun h => ?_))
  exact padded_append_lt 'Z' (by omega) (by omega) (.inl h)

theorem text_lt_text_iff (ht : t.HasPlainYear) (ht' : t'.HasPlainYear) :
    t.text < t'.text ↔ t.seconds < t'.seconds := by
  refine ⟨fun h => ?_, text_lt_text ht ht'⟩
  rcases lt_trichotomy t.seconds t'.seconds with hlt | heq | hgt
  · exact hlt
  · rw [(text_eq_text_iff t t').mpr heq] at h
    exact absurd h (List.lt_irrefl _)
  · exact absurd (List.lt_trans h (text_lt_text ht' ht hgt)) (List.lt_irrefl _)

end Instant

end Issuance
