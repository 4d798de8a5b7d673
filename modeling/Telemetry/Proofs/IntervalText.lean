import Mathlib.Data.List.SplitBy
import Mathlib.Data.List.TakeWhile
import Telemetry.Interval

/-!
# Intervals as they are written

An interval is written as numbers with their units, one behind the other. The reader cuts a text
into runs, and what it accepts is the same as what a loop accepts that takes a number and a unit from
the front in each round, both as long as they can be.

* **`Interval.number?_eq_some_iff`** — a run of digits and points is a number exactly if it has at
  most one point, and a digit.
* **`Interval.sumParts_runs`**, **`Interval.Reading.shorter`** — the runs are gone through round by
  round, and each round leaves less text.
* **`Interval.sumParts_eq_some_iff`** — the sum is that of the parts of which the text consists.
* **`Interval.parse_malformed_iff`** — a text is refused as malformed exactly if it does not consist
  of such parts, and the loop always ends.
-/

namespace Telemetry.Interval

/-! ## The grammar -/

/-- Digits with at most one point among them, and at least one digit. -/
structure IsNumber (cs : List Char) : Prop where
  chars : ∀ c ∈ cs, c.isDigit = true ∨ c = '.'
  onePoint : cs.count '.' ≤ 1
  digit : ∃ c ∈ cs, c.isDigit = true

/-- The units: milliseconds, seconds, minutes and hours. -/
def units : List (List Char) := [['m', 's'], ['s'], ['m'], ['h']]

/-- A number and a unit. -/
structure Part where
  number : List Char
  unit : List Char

/-- What the user writes for a part. -/
def Part.text (p : Part) : List Char :=
  p.number ++ p.unit

/-- A part as it may be written. -/
structure Part.Proper (p : Part) : Prop where
  number : IsNumber p.number
  unit : p.unit ∈ units

/-- A text is one part behind the other, and nothing else. -/
def Consists (parts : List Part) (cs : List Char) : Prop :=
  (∀ p ∈ parts, p.Proper) ∧ cs = parts.flatMap Part.text

/-- A text is that of an interval. -/
def IsInterval (cs : List Char) : Prop :=
  ∃ parts, parts ≠ [] ∧ Consists parts cs

/-! ## Numbers and units -/

/-- The value of a number: its digits, as many of them behind the point as there are. -/
def numberValue (cs : List Char) : Magnitude :=
  .ofDecimal (digitsValue (cs.filter (· ≠ '.'))) (-((cs.dropWhile (· ≠ '.')).drop 1).length)

/-- The seconds of a part. -/
def Part.seconds (p : Part) : Magnitude :=
  (numberValue p.number).mul ((unit? p.unit).getD (.finite 0))

/-- The seconds of some parts, added one after the other to what there was before. -/
def addSeconds (total : Magnitude) (parts : List Part) : Magnitude :=
  parts.foldl (fun total p => total.add p.seconds) total

theorem isNumberChar_iff {c : Char} : isNumberChar c = true ↔ c.isDigit = true ∨ c = '.' := by
  simp [isNumberChar]

/-- A point ends a run of digits. -/
theorem isDigit_ne_point {c : Char} (h : c.isDigit = true) : c ≠ '.' := by
  rintro rfl
  exact absurd h (by decide)

/-- Digits and points, cut behind the first digits: there is nothing, or a point. -/
theorem cut_digits {cs : List Char} (h : ∀ c ∈ cs, isNumberChar c = true) :
    (∀ c ∈ cs, c.isDigit = true) ∨ ∃ whole fraction, cs = whole ++ '.' :: fraction ∧
      ∀ c ∈ whole, c.isDigit = true := by
  induction cs with
  | nil => exact .inl fun _ hc => nomatch hc
  | cons c cs ih =>
      obtain ⟨hc, hcs⟩ := List.forall_mem_cons.mp h
      rcases isNumberChar_iff.mp hc with hc | rfl
      · rcases ih hcs with hall | ⟨whole, fraction, rfl, hwhole⟩
        · exact .inl (List.forall_mem_cons.mpr ⟨hc, hall⟩)
        · exact .inr ⟨c :: whole, fraction, rfl, List.forall_mem_cons.mpr ⟨hc, hwhole⟩⟩
      · exact .inr ⟨[], cs, rfl, fun _ hc => nomatch hc⟩

theorem count_point_of_digits {cs : List Char} (h : ∀ c ∈ cs, c.isDigit = true) :
    cs.count '.' = 0 :=
  List.count_eq_zero.mpr fun hm => isDigit_ne_point (h _ hm) rfl

theorem filter_digits {cs : List Char} (h : ∀ c ∈ cs, c.isDigit = true) :
    cs.filter (· ≠ '.') = cs :=
  List.filter_eq_self.mpr fun c hc => by simpa using isDigit_ne_point (h c hc)

/-- Digits alone are read if there are any. -/
theorem number?_of_digits {cs : List Char} (h : ∀ c ∈ cs, c.isDigit = true) {m : Magnitude} :
    number? cs = some m ↔ cs ≠ [] ∧ m = .ofDecimal (digitsValue cs) 0 := by
  have htake : cs.takeWhile Char.isDigit = cs := List.takeWhile_eq_self_iff.mpr h
  have hdrop : cs.dropWhile Char.isDigit = [] := List.dropWhile_eq_nil_iff.mpr h
  rw [number?, htake, hdrop]
  cases cs <;> simp [eq_comm]

/-- With a point, digits alone are read behind it, and on one of its sides there must be some. -/
theorem number?_of_point {whole fraction : List Char} (h : ∀ c ∈ whole, c.isDigit = true)
    {m : Magnitude} : number? (whole ++ '.' :: fraction) = some m ↔
      ((∀ c ∈ fraction, c.isDigit = true) ∧ (whole ≠ [] ∨ fraction ≠ [])) ∧
        m = .ofDecimal (digitsValue (whole ++ fraction)) (-fraction.length) := by
  have htake : (whole ++ '.' :: fraction).takeWhile Char.isDigit = whole := by
    rw [List.takeWhile_append_of_pos h, List.takeWhile_cons_of_neg (by decide), List.append_nil]
  have hdrop : (whole ++ '.' :: fraction).dropWhile Char.isDigit = '.' :: fraction := by
    rw [List.dropWhile_append_of_pos h, List.dropWhile_cons_of_neg (by decide)]
  rw [number?, htake, hdrop, Option.ite_none_right_eq_some, Option.some.injEq]
  refine and_congr ?_ eq_comm
  simp only [List.drop_succ_cons, List.drop_zero, Bool.and_eq_true, List.all_eq_true,
    Bool.not_eq_true', Bool.and_eq_false_iff, List.isEmpty_eq_false_iff]

/-- A run of other characters is no number. -/
theorem number?_of_other {c : Char} {cs : List Char} (h : ∀ d ∈ c :: cs, isNumberChar d = false) :
    number? (c :: cs) = none := by
  obtain ⟨hc, hcs⟩ := List.forall_mem_cons.mp h
  have hdigit : ∀ d, isNumberChar d = false → d.isDigit = false := by
    intro d hd
    simp only [isNumberChar, Bool.or_eq_false_iff] at hd
    exact hd.1
  have htake : (c :: cs).takeWhile Char.isDigit = [] :=
    List.takeWhile_cons_of_neg (by simp [hdigit c hc])
  have hdrop : (c :: cs).dropWhile Char.isDigit = c :: cs :=
    List.dropWhile_cons_of_neg (by simp [hdigit c hc])
  rw [number?, htake, hdrop]
  cases cs with
  | nil => rfl
  | cons d cs =>
      have hd := hdigit d (hcs d List.mem_cons_self)
      simp [hd]

/-- Digits alone are a number if there are any. -/
theorem isNumber_of_digits {cs : List Char} (h : ∀ c ∈ cs, c.isDigit = true) :
    IsNumber cs ↔ cs ≠ [] := by
  constructor
  · rintro ⟨-, -, c, hc, -⟩
    exact List.ne_nil_of_mem hc
  · intro hne
    obtain ⟨c, hc⟩ := List.exists_mem_of_ne_nil cs hne
    exact ⟨fun c hc => .inl (h c hc), (count_point_of_digits h).trans_le (Nat.zero_le 1), c, hc,
      h c hc⟩

theorem numberValue_of_digits {cs : List Char} (h : ∀ c ∈ cs, c.isDigit = true) :
    numberValue cs = .ofDecimal (digitsValue cs) 0 := by
  have hdrop : cs.dropWhile (· ≠ '.') = [] :=
    List.dropWhile_eq_nil_iff.mpr fun c hc => by simpa using isDigit_ne_point (h c hc)
  rw [numberValue, filter_digits h, hdrop]
  rfl

/-- With a point, there must be digits alone behind it, and digits on one of its sides. -/
theorem isNumber_of_point {whole fraction : List Char} (h : ∀ c ∈ whole, c.isDigit = true) :
    IsNumber (whole ++ '.' :: fraction) ↔
      (∀ c ∈ fraction, c.isDigit = true) ∧ (whole ≠ [] ∨ fraction ≠ []) := by
  have hpoints : (whole ++ '.' :: fraction).count '.' = fraction.count '.' + 1 := by
    rw [List.count_append, count_point_of_digits h, List.count_cons_self, Nat.zero_add]
  constructor
  · rintro ⟨hchars, hone, c, hc, hdigit⟩
    -- one point is there already, so behind it there are digits alone
    have hzero : fraction.count '.' = 0 := by omega
    refine ⟨?_, ?_⟩
    · intro c hc
      refine (hchars c (by simp [hc])).resolve_right ?_
      rintro rfl
      exact List.count_eq_zero.mp hzero hc
    · rcases List.mem_append.mp hc with hc | hc
      · exact .inl (List.ne_nil_of_mem hc)
      · rcases List.mem_cons.mp hc with rfl | hc
        · exact absurd hdigit (by decide)
        · exact .inr (List.ne_nil_of_mem hc)
  · rintro ⟨hdigits, hsome⟩
    refine ⟨?_, ?_, ?_⟩
    · intro c hc
      rcases List.mem_append.mp hc with hc | hc
      · exact .inl (h c hc)
      · rcases List.mem_cons.mp hc with rfl | hc
        · exact .inr rfl
        · exact .inl (hdigits c hc)
    · rw [hpoints, count_point_of_digits hdigits]
    · rcases hsome with hne | hne
      · obtain ⟨c, hc⟩ := List.exists_mem_of_ne_nil _ hne
        exact ⟨c, by simp [hc], h c hc⟩
      · obtain ⟨c, hc⟩ := List.exists_mem_of_ne_nil _ hne
        exact ⟨c, by simp [hc], hdigits c hc⟩

theorem numberValue_of_point {whole fraction : List Char} (h : ∀ c ∈ whole, c.isDigit = true)
    (hdigits : ∀ c ∈ fraction, c.isDigit = true) : numberValue (whole ++ '.' :: fraction)
      = .ofDecimal (digitsValue (whole ++ fraction)) (-fraction.length) := by
  have hdrop : (whole ++ '.' :: fraction).dropWhile (· ≠ '.') = '.' :: fraction := by
    rw [List.dropWhile_append_of_pos (fun c hc => by simpa using isDigit_ne_point (h c hc))]
    rfl
  rw [numberValue, hdrop, List.filter_append, filter_digits h, List.filter_cons_of_neg (by simp),
    filter_digits hdigits]
  rfl

/-- **A number is read to its value,** and what is none is not read. The cases are those of the
point: there is none, or a first one. -/
theorem number?_eq_some_iff {cs : List Char} (h : ∀ c ∈ cs, isNumberChar c = true) {m : Magnitude} :
    number? cs = some m ↔ IsNumber cs ∧ m = numberValue cs := by
  rcases cut_digits h with hdigits | ⟨whole, fraction, rfl, hwhole⟩
  · rw [number?_of_digits hdigits, isNumber_of_digits hdigits, numberValue_of_digits hdigits]
  · rw [number?_of_point hwhole, isNumber_of_point hwhole]
    refine and_congr_right ?_
    rintro ⟨hfraction, -⟩
    rw [numberValue_of_point hwhole hfraction]

/-- **A unit is one of the four.** -/
theorem unit?_isSome_iff {cs : List Char} : (unit? cs).isSome = true ↔ cs ∈ units := by
  simp only [unit?, units, List.mem_cons, List.not_mem_nil, or_false]
  split
  · simp_all
  · split
    · simp_all
    · split
      · simp_all
      · split <;> simp_all

/-! ## Rounds -/

/-- What is still to be read, and the sum of what was read. -/
structure Reading where
  rest : List Char
  total : Magnitude

/-- One round takes a number and a unit from the front, each as long as it can be, and adds what they
mean to the sum. -/
def Reading.round? (r : Reading) : Option Reading :=
  let behind := r.rest.dropWhile isNumberChar
  match number? (r.rest.takeWhile isNumberChar), unit? (behind.takeWhile (!isNumberChar ·)) with
  | some n, some u => some ⟨behind.dropWhile (!isNumberChar ·), r.total.add (n.mul u)⟩
  | _, _ => none

/-- The loop makes so many rounds and ends: with the sum when nothing is left, and with nothing in
front of what is neither a number nor a unit. -/
inductive Reading.Ends : Nat → Reading → Option Magnitude → Prop where
  | done (total : Magnitude) : Ends 0 ⟨[], total⟩ (some total)
  | stuck {r : Reading} : r.rest ≠ [] → r.round? = none → Ends 0 r none
  | round {n : Nat} {r r' : Reading} {o : Option Magnitude} :
      r.rest ≠ [] → r.round? = some r' → Ends n r' o → Ends (n + 1) r o

/-- No character of a unit could belong to a number. -/
theorem units_spec : ∀ u ∈ units, u ≠ [] ∧ ∀ c ∈ u, isNumberChar c = false := by
  simp [units, isNumberChar]

/-- What is cut off as long as it can be: all of the first part, if the second begins with another
character. -/
theorem cut_append {q : Char → Bool} {as bs : List Char} (has : ∀ c ∈ as, q c = true)
    (hbs : ∀ c ∈ bs.head?, q c = false) :
    (as ++ bs).takeWhile q = as ∧ (as ++ bs).dropWhile q = bs := by
  rw [List.takeWhile_append_of_pos has, List.dropWhile_append_of_pos has]
  cases bs with
  | nil => simp
  | cons b bs =>
      have hb : ¬ q b = true := by simpa using hbs b rfl
      rw [List.takeWhile_cons_of_neg hb, List.dropWhile_cons_of_neg hb, List.append_nil]
      exact ⟨rfl, rfl⟩

/-- What is left begins with another character. -/
theorem head_behind {q : Char → Bool} {cs : List Char} :
    ∀ c ∈ (cs.dropWhile q).head?, q c = false := by
  intro c hc
  have h := List.head?_dropWhile_not q cs
  rw [hc] at h
  exact h

/-- **A round takes a part** from the front. -/
theorem Reading.round?_eq_some {r r' : Reading} (h : r.round? = some r') :
    ∃ p : Part, p.Proper ∧ r.rest = p.text ++ r'.rest ∧ r'.total = r.total.add p.seconds := by
  rw [round?] at h
  split at h
  · rename_i n u hn hu
    obtain rfl := Option.some.inj h
    obtain ⟨hnumber, rfl⟩ := (number?_eq_some_iff fun c hc => List.mem_takeWhile_imp hc).mp hn
    refine ⟨⟨_, _⟩, ⟨hnumber, unit?_isSome_iff.mp (by rw [hu]; rfl)⟩, ?_, ?_⟩
    · rw [Part.text, List.append_assoc, List.takeWhile_append_dropWhile,
        List.takeWhile_append_dropWhile]
    · rw [Part.seconds, hu]
      rfl
  · exact nomatch h

/-- The cuts of a round find the number and the unit of a part, if behind it there is nothing or
another number. -/
theorem Part.Proper.cut {p : Part} (hp : p.Proper) {rest : List Char}
    (hrest : ∀ c ∈ rest.head?, isNumberChar c = true) :
    ((p.text ++ rest).takeWhile isNumberChar = p.number ∧
      (p.text ++ rest).dropWhile isNumberChar = p.unit ++ rest) ∧
    (p.unit ++ rest).takeWhile (!isNumberChar ·) = p.unit ∧
      (p.unit ++ rest).dropWhile (!isNumberChar ·) = rest := by
  obtain ⟨hne, hunit⟩ := units_spec _ hp.unit
  constructor
  · rw [Part.text, List.append_assoc]
    refine cut_append (fun c hc => isNumberChar_iff.mpr (hp.number.chars c hc)) ?_
    obtain ⟨c, cs, hcs⟩ := List.exists_cons_of_ne_nil hne
    rw [hcs] at hunit ⊢
    simpa using hunit c List.mem_cons_self
  · exact cut_append (fun c hc => by simpa using hunit c hc) fun c hc => by simpa using hrest c hc

/-- **A round takes the part** with which the text begins, under the same condition. -/
theorem Reading.round?_of_part {p : Part} (hp : p.Proper) {rest : List Char}
    (hrest : ∀ c ∈ rest.head?, isNumberChar c = true) (total : Magnitude) :
    Reading.round? ⟨p.text ++ rest, total⟩ = some ⟨rest, total.add p.seconds⟩ := by
  obtain ⟨⟨hnumber, hbehind⟩, hunit, hothers⟩ := hp.cut hrest
  have hn : number? p.number = some (numberValue p.number) :=
    (number?_eq_some_iff fun c hc => isNumberChar_iff.mpr (hp.number.chars c hc)).mpr
      ⟨hp.number, rfl⟩
  obtain ⟨u, hu⟩ := Option.isSome_iff_exists.mp (unit?_isSome_iff.mpr hp.unit)
  rw [round?, hnumber, hbehind, hunit, hothers]
  simp only [hn, hu, Part.seconds, Option.getD_some]

/-- **Each round leaves less text:** it takes at least a digit. -/
theorem Reading.shorter {r r' : Reading} (h : r.round? = some r') :
    r'.rest.length < r.rest.length := by
  obtain ⟨p, hp, hrest, -⟩ := round?_eq_some h
  obtain ⟨c, hc, -⟩ := hp.number.digit
  have hpos := List.length_pos_of_mem hc
  rw [hrest, Part.text, List.length_append, List.length_append]
  omega

/-- The first run reaches as far as its first character tells. -/
theorem runs_cons (c : Char) (cs : List Char) :
    runs (c :: cs) = (c :: cs).takeWhile (isNumberChar · == isNumberChar c)
      :: runs ((c :: cs).dropWhile (isNumberChar · == isNumberChar c)) := by
  have hcut : (c :: cs).takeWhile (isNumberChar · == isNumberChar c)
      ++ (c :: cs).dropWhile (isNumberChar · == isNumberChar c) = c :: cs :=
    List.takeWhile_append_dropWhile
  have halike : ∀ d ∈ (c :: cs).takeWhile (isNumberChar · == isNumberChar c),
      isNumberChar d = isNumberChar c := fun d hd => by simpa using List.mem_takeWhile_imp hd
  have hother : ∀ d ∈ ((c :: cs).dropWhile (isNumberChar · == isNumberChar c)).head?,
      isNumberChar d ≠ isNumberChar c := fun d hd => by simpa using head_behind d hd
  have hne : (c :: cs).takeWhile (isNumberChar · == isNumberChar c) ≠ [] := by simp
  revert hcut halike hother hne
  generalize (c :: cs).takeWhile (isNumberChar · == isNumberChar c) = first
  generalize (c :: cs).dropWhile (isNumberChar · == isNumberChar c) = others
  intro hcut halike hother hne
  rw [← hcut, runs, runs, List.splitBy_append, List.splitBy_of_isChain hne]
  · rfl
  · refine (List.pairwise_of_forall_mem_list ?_).isChain
    intro a ha b hb
    simp [halike a ha, halike b hb]
  · intro a ha b hb
    rw [halike a (List.mem_of_getLast? ha)]
    simpa using (hother b hb).symm

/-- Nothing is read further that does not begin with a number. -/
theorem sumParts_of_other {c : Char} {cs : List Char} (h : ∀ d ∈ c :: cs, isNumberChar d = false)
    (total : Magnitude) (others : List (List Char)) :
    sumParts total ((c :: cs) :: others) = none := by
  cases others with
  | nil => rfl
  | cons unit others => simp only [sumParts, number?_of_other h]

/-- **The runs are gone through round by round.** The cases are those of the first character, and
then whether there is anything behind the number. -/
theorem sumParts_runs (total : Magnitude) {cs : List Char} (h : cs ≠ []) :
    sumParts total (runs cs)
      = (Reading.round? ⟨cs, total⟩).bind fun r => sumParts r.total (runs r.rest) := by
  obtain ⟨c, cs, rfl⟩ := List.exists_cons_of_ne_nil h
  rw [runs_cons]
  cases hc : isNumberChar c with
  | false =>
      have hround : Reading.round? ⟨c :: cs, total⟩ = none := by
        rw [Reading.round?, List.takeWhile_cons_of_neg (by simp [hc])]
        rfl
      rw [hround, List.takeWhile_cons_of_pos (by simp [hc]), sumParts_of_other]
      · rfl
      · refine List.forall_mem_cons.mpr ⟨hc, fun d hd => ?_⟩
        simpa using List.mem_takeWhile_imp hd
  | true =>
      have hnumber : (fun d => isNumberChar d == true) = isNumberChar := by
        funext d
        simp
      have hhead : ∀ d ∈ ((c :: cs).dropWhile isNumberChar).head?, isNumberChar d = false :=
        head_behind
      rw [hnumber, Reading.round?]
      dsimp only
      revert hhead
      generalize (c :: cs).takeWhile isNumberChar = number
      generalize (c :: cs).dropWhile isNumberChar = behind
      intro hhead
      cases behind with
      | nil => cases number? number <;> rfl
      | cons d ds =>
          have hunit : (fun e => isNumberChar e == isNumberChar d) = (!isNumberChar ·) := by
            funext e
            rw [hhead d rfl]
            simp
          rw [runs_cons, hunit, sumParts]
          cases number? number with
          | none => rfl
          | some n => cases unit? ((d :: ds).takeWhile (!isNumberChar ·)) <;> rfl

/-- **The loop ends,** after at most as many rounds as there are characters, with what the runs add
up to. The induction is on the length of the text. -/
theorem exists_ends (cs : List Char) (total : Magnitude) :
    ∃ n ≤ cs.length, Reading.Ends n ⟨cs, total⟩ (sumParts total (runs cs)) := by
  induction hlen : cs.length using Nat.strong_induction_on generalizing cs total with
  | _ len ih =>
      by_cases hne : cs = []
      · subst hne
        exact ⟨0, Nat.zero_le _, .done total⟩
      · rw [sumParts_runs total hne]
        cases hround : Reading.round? ⟨cs, total⟩ with
        | none => exact ⟨0, Nat.zero_le _, .stuck hne hround⟩
        | some r =>
            have hshort : r.rest.length < len := hlen ▸ Reading.shorter hround
            obtain ⟨n, hn, hends⟩ := ih _ hshort r.rest r.total rfl
            exact ⟨n + 1, hn.trans_lt hshort, .round hne hround hends⟩

/-! ## What is accepted -/

/-- Behind a part there is nothing or another number. -/
theorem head_flatMap_text {parts : List Part} (h : ∀ p ∈ parts, p.Proper) :
    ∀ c ∈ (parts.flatMap Part.text).head?, isNumberChar c = true := by
  cases parts with
  | nil => exact fun _ hc => nomatch hc
  | cons p parts =>
      have hp := (h p List.mem_cons_self).number
      obtain ⟨c, hc, -⟩ := hp.digit
      obtain ⟨d, ds, hds⟩ := List.exists_cons_of_ne_nil (List.ne_nil_of_mem hc)
      intro e he
      rw [List.flatMap_cons, Part.text, hds] at he
      obtain rfl : d = e := Option.some.inj he
      exact isNumberChar_iff.mpr (hp.chars d (by rw [hds]; exact List.mem_cons_self))

/-- **The sum of a text is that of its parts,** if it consists of such. -/
theorem Reading.Ends.consists {n : Nat} {r : Reading} {o : Option Magnitude} (h : Ends n r o)
    {sum : Magnitude} (ho : o = some sum) :
    ∃ parts, Consists parts r.rest ∧ sum = addSeconds r.total parts := by
  induction h with
  | done total =>
      obtain rfl := Option.some.inj ho
      exact ⟨[], ⟨by simp, rfl⟩, rfl⟩
  | stuck _ _ => exact nomatch ho
  | round _ hround _ ih =>
      obtain ⟨p, hp, hrest, htotal⟩ := round?_eq_some hround
      obtain ⟨parts, ⟨hparts, htext⟩, rfl⟩ := ih ho
      refine ⟨p :: parts, ⟨List.forall_mem_cons.mpr ⟨hp, hparts⟩, ?_⟩, ?_⟩
      · rw [hrest, htext]
        rfl
      · rw [htotal]
        rfl

/-- The runs of a text that consists of parts add up. The induction is on the parts, each of which is
a round. -/
theorem sumParts_of_consists {parts : List Part} {cs : List Char} (h : Consists parts cs)
    (total : Magnitude) : sumParts total (runs cs) = some (addSeconds total parts) := by
  obtain ⟨hparts, rfl⟩ := h
  induction parts generalizing total with
  | nil => rfl
  | cons p parts ih =>
      obtain ⟨hp, hparts⟩ := List.forall_mem_cons.mp hparts
      have hround : Reading.round? ⟨(p :: parts).flatMap Part.text, total⟩
          = some ⟨parts.flatMap Part.text, total.add p.seconds⟩ :=
        Reading.round?_of_part hp (head_flatMap_text hparts) total
      obtain ⟨c, hc, -⟩ := hp.number.digit
      have hne : (p :: parts).flatMap Part.text ≠ [] :=
        List.ne_nil_of_mem (List.mem_append_left _ (List.mem_append_left _ hc))
      rw [sumParts_runs total hne, hround, Option.bind_some, ih _ hparts]
      rfl

/-- **What the runs of a text add up to.** -/
theorem sumParts_eq_some_iff {total sum : Magnitude} {cs : List Char} :
    sumParts total (runs cs) = some sum ↔
      ∃ parts, Consists parts cs ∧ sum = addSeconds total parts := by
  constructor
  · intro h
    obtain ⟨n, -, hends⟩ := exists_ends cs total
    exact hends.consists h
  · rintro ⟨parts, hparts, rfl⟩
    exact sumParts_of_consists hparts total

/-- A sum of seconds is never malformed. -/
theorem ofMagnitude_ne_malformed (m : Magnitude) : ofMagnitude m ≠ .error .malformed := by
  cases m with
  | infinite => simp [ofMagnitude]
  | finite units =>
      rw [ofMagnitude]
      split <;> simp

/-- Reading an interval trims the text, and adds up what is left unless that is nothing. -/
theorem parse_eq (s : String) : parse s =
    if Text.trimChars s.toList = [] then .error .malformed
    else match sumParts (.finite 0) (runs (Text.trimChars s.toList)) with
      | some total => ofMagnitude total
      | none => .error .malformed := by
  rw [parse]
  cases Text.trimChars s.toList <;> rfl

/-- **An interval that is made of parts** has the length that they add up to. -/
theorem parse_of_consists {s : String} {parts : List Part} (hne : parts ≠ [])
    (h : Consists parts (Text.trimChars s.toList)) :
    parse s = ofMagnitude (addSeconds (.finite 0) parts) := by
  have htext : Text.trimChars s.toList ≠ [] := by
    obtain ⟨p, ps, rfl⟩ := List.exists_cons_of_ne_nil hne
    obtain ⟨c, hc, -⟩ := (h.1 p List.mem_cons_self).number.digit
    rw [h.2]
    exact List.ne_nil_of_mem (List.mem_append_left _ (List.mem_append_left _ hc))
  rw [parse_eq, if_neg htext, sumParts_of_consists h]

/-- A text of something else is malformed. -/
theorem parse_of_not_isInterval {s : String} (h : ¬ IsInterval (Text.trimChars s.toList)) :
    parse s = .error .malformed := by
  rw [parse_eq]
  split
  · rfl
  · rename_i hne
    cases hsum : sumParts (.finite 0) (runs (Text.trimChars s.toList)) with
    | none => rfl
    | some sum =>
        obtain ⟨parts, hparts, -⟩ := sumParts_eq_some_iff.mp hsum
        refine absurd ⟨parts, ?_, hparts⟩ h
        rintro rfl
        exact hne hparts.2

/-- **What is read as an interval.** A text is malformed exactly if it is not, but for white space
around it, one or more numbers with their units and nothing between them; otherwise it has the length
that these add up to. And reading is a loop that always ends, because each round leaves less text. -/
theorem parse_malformed_iff (s : String) :
    (parse s = .error .malformed ↔ ¬ IsInterval (Text.trimChars s.toList)) ∧
    (∀ parts, parts ≠ [] → Consists parts (Text.trimChars s.toList) →
      parse s = ofMagnitude (addSeconds (.finite 0) parts)) ∧
    (∀ r r' : Reading, r.round? = some r' → r'.rest.length < r.rest.length) ∧
    ∃ n ≤ (Text.trimChars s.toList).length, ∃ sum,
      Reading.Ends n ⟨Text.trimChars s.toList, .finite 0⟩ sum ∧
      parse s = if Text.trimChars s.toList = [] then .error .malformed else
        match sum with
        | some total => ofMagnitude total
        | none => .error .malformed := by
  refine ⟨⟨?_, parse_of_not_isInterval⟩, fun _ => parse_of_consists, fun _ _ => Reading.shorter, ?_⟩
  · rintro h ⟨parts, hne, hparts⟩
    rw [parse_of_consists hne hparts] at h
    exact ofMagnitude_ne_malformed _ h
  · obtain ⟨n, hn, hends⟩ := exists_ends (Text.trimChars s.toList) (.finite 0)
    exact ⟨n, hn, _, hends, parse_eq s⟩

/-- A number with a point at its end and one with a point in front are read, and one with two points
is not. -/
theorem parse_malformed_iff_points :
    parse " 1.m.5h\t" = ofMagnitude (addSeconds (.finite 0) [⟨['1', '.'], ['m']⟩, ⟨['.', '5'], ['h']⟩])
      ∧ parse " 1.m.5h\t" = .ok (.ofSeconds 1860) ∧ ¬ IsInterval "1..5s".toList := by
  have hparts : Consists [⟨['1', '.'], ['m']⟩, ⟨['.', '5'], ['h']⟩]
      (Text.trimChars " 1.m.5h\t".toList) := by
    refine ⟨?_, rfl⟩
    simp only [List.mem_cons, List.not_mem_nil, or_false]
    rintro p (rfl | rfl)
    · exact ⟨⟨by simp, by simp, by simp⟩, by simp [units]⟩
    · exact ⟨⟨by simp, by simp, by simp⟩, by simp [units]⟩
  obtain ⟨-, hread, -⟩ := parse_malformed_iff " 1.m.5h\t"
  refine ⟨hread _ (by simp) hparts, by decide +kernel, ?_⟩
  have htrim : Text.trimChars "1..5s".toList = "1..5s".toList := rfl
  rw [← htrim]
  exact (parse_malformed_iff "1..5s").1.mp rfl

end Telemetry.Interval
