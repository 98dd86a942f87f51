import BranchVersion.Toml.Reader
import Mathlib.Data.List.TakeWhile

/-!
Readers that stay on a line. They treat a line feed like the end of the text, so what they read in
front of one does not depend on what comes behind it.
-/
namespace BranchVersion.Toml

/-- A line feed is to the reader what the end of the text is. -/
def StaysOnLine {α : Type} (read : Reader α) : Prop :=
  ∀ s t, read (s ++ '\n' :: t) = (read s).map (Prod.map id (· ++ '\n' :: t))

def SkipsOnLine (skip : List Char → Option (List Char)) : Prop :=
  ∀ s t, skip (s ++ '\n' :: t) = (skip s).map (· ++ '\n' :: t)

section Steps

variable {α : Type}

private theorem StaysOnLine.bind {read : Reader α} {next : α → List Char → Option (List Char)}
    (h : StaysOnLine read) (hnext : ∀ a, SkipsOnLine (next a)) :
    SkipsOnLine fun s => (read s).bind fun found => next found.1 found.2 := by
  intro s t
  simp only [h s t, Option.bind_map]
  cases read s with
  | none => rfl
  | some found => exact hnext found.1 found.2 t

private theorem SkipsOnLine.bind {skip next : List Char → Option (List Char)} (h : SkipsOnLine skip)
    (hnext : SkipsOnLine next) : SkipsOnLine fun s => (skip s).bind next := by
  intro s t
  simp only [h s t, Option.bind_map]
  cases skip s with
  | none => rfl
  | some r => exact hnext r t

private theorem skipsOnLine_some : SkipsOnLine some := fun _ _ => rfl

private theorem SkipsOnLine.guard {skip : List Char → Option (List Char)} (h : SkipsOnLine skip)
    (p : Prop) [Decidable p] : SkipsOnLine fun s => if p then skip s else none := by
  intro s t
  by_cases hp : p
  · simp only [hp, if_true, h s t]
  · simp only [hp, if_false, Option.map_none]

end Steps

/-- Characters that a test tells apart. -/
theorem ne_of_test {p : Char → Bool} {c d : Char} (hc : p c = true) (hd : p d = false) : c ≠ d := by
  rintro rfl
  simp [hc] at hd

/-- Text without a line feed stands in front of a line feed only if it stands in the line. -/
theorem line_ne {s t : List Char} (w : List Char) (hw : '\n' ∉ w) (h : ∀ r, s = w ++ r → False) :
    ∀ u, s ++ '\n' :: t = w ++ u → False := by
  intro u hu
  rcases List.append_eq_append_iff.mp hu with ⟨k, rfl, hk⟩ | ⟨k, hs, -⟩
  · cases k with
    | nil => exact h [] (by simp)
    | cons c k => exact hw (by simp [← (List.cons.inj hk).1])
  · exact h k hs

section Runs

variable {p : Char → Bool}

private theorem takeWhile_line (h : p '\n' = false) (s t : List Char) :
    (s ++ '\n' :: t).takeWhile p = s.takeWhile p := by
  induction s with
  | nil => simp [h]
  | cons c s ih => cases hc : p c <;> simp [hc, ih]

theorem dropWhile_line (h : p '\n' = false) (s t : List Char) :
    (s ++ '\n' :: t).dropWhile p = s.dropWhile p ++ '\n' :: t := by
  induction s with
  | nil => simp [h]
  | cons c s ih => cases hc : p c <;> simp [hc, ih]

theorem skipSpaces_line (s t : List Char) :
    skipSpaces (s ++ '\n' :: t) = skipSpaces s ++ '\n' :: t :=
  dropWhile_line rfl s t

end Runs

private theorem readHex_line (n v : Nat) (s t : List Char) : Text.readHex n v (s ++ '\n' :: t) =
    (Text.readHex n v s).map (Prod.map id (· ++ '\n' :: t)) := by
  fun_induction Text.readHex n v s with
  | case1 v s => simp [Text.readHex]
  | case2 n v =>
    have hd : Text.hexDigit? '\n' = none := by decide
    simp [Text.readHex, hd]
  | case3 n v c s hd => simp [Text.readHex, hd]
  | case4 n v c s d hd ih => simpa [Text.readHex, hd] using ih

private theorem readCodePoint_line (n : Nat) : StaysOnLine (Text.readCodePoint n) := by
  intro s t
  unfold Text.readCodePoint
  rw [readHex_line]
  cases Text.readHex n 0 s with
  | none => rfl
  | some found =>
    obtain ⟨v, r⟩ := found
    simp only [Option.map_some, Prod.map_apply, id_eq]
    split <;> rfl

theorem readEscape_line : StaysOnLine readEscape := by
  intro s t
  fun_cases readEscape s with
  | case8 s => simpa [readEscape] using readCodePoint_line 4 s t
  | case9 s => simpa [readEscape] using readCodePoint_line 8 s t
  | case10 s hb ht hn hf hr hquote hback hu hU =>
    exact readEscape.eq_10 _ (line_ne ['b'] (by decide) hb) (line_ne ['t'] (by decide) ht)
      (line_ne ['n'] (by decide) hn) (line_ne ['f'] (by decide) hf)
      (line_ne ['r'] (by decide) hr) (line_ne ['"'] (by decide) hquote)
      (line_ne ['\\'] (by decide) hback) (line_ne ['u'] (by decide) hu)
      (line_ne ['U'] (by decide) hU)
  | _ => rfl

private theorem readBasic_line : StaysOnLine readBasic := by
  intro s t
  fun_induction readBasic s with
  | case1 => simp [readBasic, isPlain]
  | case2 s => simp [readBasic]
  | case3 s h =>
    rw [List.cons_append, readBasic_backslash, readEscape_line, h]
    rfl
  | case4 s c r h ih =>
    rw [List.cons_append, readBasic_backslash, readEscape_line, h]
    simp [ih, Function.comp_def]
  | case5 c s hquote hback hplain ih =>
    rw [List.cons_append, readBasic.eq_4 _ _ (by simpa using hquote) (by simpa using hback)]
    simp [hplain, ih, Function.comp_def]
  | case6 c s hquote hback hplain =>
    rw [List.cons_append, readBasic.eq_4 _ _ (by simpa using hquote) (by simpa using hback)]
    simp [hplain]

private theorem readLiteral_line : StaysOnLine readLiteral := by
  intro s t
  fun_induction readLiteral s with
  | case1 => simp [readLiteral, isPlain]
  | case2 s => simp [readLiteral]
  | case3 c s hquote hplain ih =>
    rw [List.cons_append, readLiteral.eq_3 _ _ (by simpa using hquote)]
    simp [hplain, ih, Function.comp_def]
  | case4 c s hquote hplain =>
    rw [List.cons_append, readLiteral.eq_3 _ _ (by simpa using hquote)]
    simp [hplain]

theorem readLineText_line : StaysOnLine readLineText := by
  intro s t
  fun_cases readLineText s with
  | case1 s => simp [readLineText, readBasic_line s t, Function.comp_def]
  | case2 s => simp [readLineText, readLiteral_line s t, Function.comp_def]
  | case3 s hbasic hliteral =>
    exact readLineText.eq_3 _ (line_ne ['"'] (by decide) hbasic)
      (line_ne ['\''] (by decide) hliteral)

section Numbers

variable {isDigit : Char → Bool}

private theorem digitRun_line (hfeed : isDigit '\n' = false) (hbar : isDigit '_' = false)
    (s t : List Char) : digitRun isDigit (s ++ '\n' :: t) =
      Prod.map id (· ++ '\n' :: t) (digitRun isDigit s) := by
  have hstop : digitRun isDigit ('\n' :: t) = ([], '\n' :: t) := by
    cases t <;> simp [digitRun, hfeed]
  fun_induction digitRun isDigit s with
  | case1 => simpa using hstop
  | case2 c hc =>
    have hne : c ≠ '_' := ne_of_test hc hbar
    simp [digitRun, hne, hc, hstop]
  | case3 c hc =>
    by_cases hne : c = '_' <;> simp [digitRun, hne, hc, hfeed]
  | case4 c s hc ih => simp [digitRun, hc, ih, Prod.map_map]
  | case5 c s hc => simp [digitRun, hc]
  | case6 c s hne hpair hc ih =>
    obtain ⟨d, r, rfl⟩ := List.exists_cons_of_ne_nil hne
    have hc' : c ≠ '_' := fun h => hpair d r h rfl
    rw [List.cons_append, digitRun.eq_4 _ _ _ (by simp) (fun _ _ h _ => hc' h), ih]
    simp [hc, Prod.map_map]
  | case7 c s hne hpair hc =>
    obtain ⟨d, r, rfl⟩ := List.exists_cons_of_ne_nil hne
    have hc' : c ≠ '_' := fun h => hpair d r h rfl
    rw [List.cons_append, digitRun.eq_4 _ _ _ (by simp) (fun _ _ h _ => hc' h)]
    simp [hc]

private theorem readDigits_line (hfeed : isDigit '\n' = false) (hbar : isDigit '_' = false) :
    StaysOnLine (readDigits isDigit) := by
  intro s t
  cases s with
  | nil => simp [readDigits, hfeed]
  | cons c s =>
    have hrun := digitRun_line hfeed hbar (c :: s) t
    rw [List.cons_append] at hrun
    simp only [readDigits, List.cons_append, hrun]
    split <;> rfl

private theorem readSign_line (s t : List Char) :
    readSign (s ++ '\n' :: t) = Prod.map id (· ++ '\n' :: t) (readSign s) := by
  fun_cases readSign s with
  | case1 s => rfl
  | case2 s => rfl
  | case3 s hminus hplus =>
    exact readSign.eq_3 _ (line_ne ['-'] (by decide) hminus) (line_ne ['+'] (by decide) hplus)

private theorem readDecimal_line : StaysOnLine (readDigits Char.isDigit) := readDigits_line rfl rfl

private theorem readWhole_line : StaysOnLine readWhole := by
  intro s t
  fun_cases readWhole s with
  | case1 s => rfl
  | case2 s hzero =>
    rw [← readDecimal_line]
    exact readWhole.eq_2 _ (line_ne ['0'] (by decide) hzero)

private theorem readFraction?_line : StaysOnLine readFraction? := by
  intro s t
  fun_cases readFraction? s with
  | case1 s => simp [readFraction?, readDecimal_line s t, Function.comp_def]
  | case2 s hdot =>
    exact readFraction?.eq_2 _ (line_ne ['.'] (by decide) hdot)

private theorem readExponent?_line : StaysOnLine readExponent? := by
  intro s t
  cases s with
  | nil => simp [readExponent?]
  | cons c s =>
    simp only [readExponent?, List.cons_append, readSign_line]
    split
    · simp [readDecimal_line _ t, Function.comp_def]
    · rfl

private theorem skipBased?_line (base : Nat) : SkipsOnLine (skipBased? base) := by
  intro s t
  have hfeed : digitBelow base '\n' = false := rfl
  have hbar : digitBelow base '_' = false := rfl
  unfold skipBased?
  rw [readDigits_line hfeed hbar]
  cases readDigits (digitBelow base) s with
  | none => rfl
  | some found =>
    obtain ⟨ds, r⟩ := found
    simp only [Option.map_some, Prod.map_apply, id_eq]
    split <;> rfl

/-- A sign, a number of digits or a letter cannot begin with a line feed. -/
private theorem skipDecimal?_line : SkipsOnLine skipDecimal? := by
  intro s t
  fun_cases skipDecimal? s with
  | case1 negative r hsign => simp [skipDecimal?, readSign_line, hsign]
  | case2 negative r hsign => simp [skipDecimal?, readSign_line, hsign]
  | case3 negative r hinf hnan hsign =>
    simp only [skipDecimal?, readSign_line, hsign, Prod.map_apply, id_eq]
    split
    · next heq => exact (line_ne ['i', 'n', 'f'] (by decide) hinf _ (Prod.mk.inj heq).2).elim
    · next heq => exact (line_ne ['n', 'a', 'n'] (by decide) hnan _ (Prod.mk.inj heq).2).elim
    · next heq =>
      obtain ⟨rfl, rfl⟩ := Prod.mk.inj heq
      exact (readWhole_line.bind fun whole => readFraction?_line.bind fun fraction =>
        readExponent?_line.bind fun exponent =>
          skipsOnLine_some.guard (isInRange negative whole fraction exponent = true)) r t

private theorem skipNumber?_line : SkipsOnLine skipNumber? := by
  intro s t
  fun_cases skipNumber? s with
  | case1 s => exact skipBased?_line 16 s t
  | case2 s => exact skipBased?_line 8 s t
  | case3 s => exact skipBased?_line 2 s t
  | case4 s hx ho hb =>
    rw [← skipDecimal?_line]
    exact skipNumber?.eq_4 _ (line_ne ['0', 'x'] (by decide) hx)
      (line_ne ['0', 'o'] (by decide) ho) (line_ne ['0', 'b'] (by decide) hb)

end Numbers

section Moments

private theorem readFixed_line (n : Nat) : StaysOnLine (readFixed n) := by
  intro s t
  by_cases hn : n ≤ s.length
  · simp only [readFixed, List.take_append_of_le_length hn, List.drop_append_of_le_length hn]
    split <;> rfl
  · -- The line is too short, so `n` characters reach over its end and are not all digits.
    have hs : ¬(s.take n).length = n := by
      rw [List.length_take]
      omega
    have hfeed : '\n' ∈ (s ++ '\n' :: t).take n := by
      obtain ⟨k, rfl⟩ : ∃ k, n = s.length + (k + 1) := ⟨n - s.length - 1, by omega⟩
      simp [List.take_length_add_append]
    have hall : ¬((s ++ '\n' :: t).take n).all Char.isDigit = true := by
      intro h
      have hdigit := List.all_eq_true.mp h '\n' hfeed
      contradiction
    simp only [readFixed]
    rw [if_neg fun h => hall h.2, if_neg fun h => hs h.1, Option.map_none]

private theorem afterChar?_line {c : Char} (hc : c ≠ '\n') : SkipsOnLine (afterChar? c) := by
  intro s t
  cases s with
  | nil => simp [afterChar?, hc.symm]
  | cons d s =>
    simp only [afterChar?, List.cons_append]
    split <;> rfl

private theorem afterColon?_line : SkipsOnLine (afterChar? ':') := afterChar?_line (by decide)

private theorem afterHyphen?_line : SkipsOnLine (afterChar? '-') := afterChar?_line (by decide)

private theorem afterHour?_line : SkipsOnLine afterHour? :=
  (readFixed_line 2).bind fun hour =>
    afterColon?_line.bind (skipsOnLine_some.guard (hour ≤ 23))

private theorem afterMinute?_line : SkipsOnLine afterMinute? :=
  (readFixed_line 2).bind fun minute => skipsOnLine_some.guard (minute ≤ 59)

private theorem skipSecondFraction_line (s t : List Char) :
    skipSecondFraction (s ++ '\n' :: t) = skipSecondFraction s ++ '\n' :: t := by
  fun_cases skipSecondFraction s with
  | case1 c s hc => simp [skipSecondFraction, hc, dropWhile_line]
  | case2 c s hc => simp [skipSecondFraction, hc]
  | case3 s hdot =>
    rcases s with _ | ⟨c, _ | ⟨d, s⟩⟩
    · rfl
    · by_cases hc : c = '.'
      · subst hc
        rfl
      · exact skipSecondFraction.eq_2 _ (by simp [hc])
    · exact skipSecondFraction.eq_2 _ (by simpa using hdot)

private theorem afterHourRest?_line : SkipsOnLine afterHourRest? := by
  have hfraction : SkipsOnLine fun s => some (skipSecondFraction s) := by
    intro s t
    exact congrArg some (skipSecondFraction_line s t)
  exact afterMinute?_line.bind <| afterColon?_line.bind <| (readFixed_line 2).bind fun second =>
    hfraction.guard (second ≤ 60)

private theorem afterOffset?_line : SkipsOnLine afterOffset? := by
  intro s t
  cases s with
  | nil => simp [afterOffset?]
  | cons c s =>
    simp only [afterOffset?, List.cons_append]
    split
    · rfl
    · split
      · exact afterHour?_line.bind afterMinute?_line s t
      · rfl

private theorem afterDateTime?_line : SkipsOnLine afterDateTime? := by
  intro s t
  cases s with
  | nil => simp [afterDateTime?]
  | cons c s =>
    simp only [afterDateTime?, List.cons_append, afterHour?_line.guard _ s t]
    cases if c = 'T' ∨ c = 't' ∨ c = ' ' then afterHour? s else none with
    | none => rfl
    | some r => exact afterHourRest?_line.bind afterOffset?_line r t

private theorem afterYear?_line (year : Nat) : SkipsOnLine (afterYear? year) :=
  (readFixed_line 2).bind fun month => afterHyphen?_line.bind <|
    (readFixed_line 2).bind fun day =>
      afterDateTime?_line.guard (1 ≤ month ∧ month ≤ 12 ∧ 1 ≤ day ∧ day ≤ daysIn year month)

def MomentLead.extend (t : List Char) : MomentLead → MomentLead
  | .date year r => .date year (r ++ '\n' :: t)
  | .time r => .time (r ++ '\n' :: t)
  | .neither => .neither

private theorem MomentLead.ofChars_line (s t : List Char) :
    ofChars (s ++ '\n' :: t) = (ofChars s).extend t := by
  unfold ofChars
  rw [readFixed_line, afterHour?_line]
  rcases readFixed 4 s with _ | ⟨year, _ | ⟨c, r⟩⟩
  · cases afterHour? s <;> rfl
  · cases afterHour? s <;> rfl
  · by_cases hc : c = '-'
    · subst hc
      rfl
    · cases afterHour? s <;> simp [hc, extend]

private theorem momentText_append (s r t : List Char) :
    momentText (s ++ t) (r ++ t) = momentText s r := by
  have hread : (s ++ t).take ((s ++ t).length - (r ++ t).length) =
      s.take (s.length - r.length) := by
    rw [List.length_append, List.length_append, Nat.add_sub_add_right,
      List.take_append_of_le_length (Nat.sub_le _ _)]
  unfold momentText
  rw [hread]

theorem readQuantity_line : StaysOnLine readQuantity := by
  intro s t
  unfold readQuantity
  rw [MomentLead.ofChars_line]
  cases MomentLead.ofChars s with
  | date year r =>
    simp only [MomentLead.extend, afterYear?_line year r t, Option.map_map]
    congr 1
    funext rest
    simp [momentText_append]
  | time r =>
    simp only [MomentLead.extend, afterHourRest?_line r t, Option.map_map]
    congr 1
    funext rest
    simp [momentText_append]
  | neither =>
    simp only [MomentLead.extend, skipNumber?_line s t, Option.map_map]
    rfl

end Moments

section Keys

private theorem readKeyPart_line : StaysOnLine readKeyPart := by
  intro s t
  have hfeed : isBareKeyChar '\n' = false := rfl
  unfold readKeyPart
  rw [readLineText_line]
  cases readLineText s with
  | some found => rfl
  | none =>
    simp only [Option.map_none, takeWhile_line hfeed, dropWhile_line hfeed]
    split <;> rfl

theorem readKey_line (limit : Nat) : StaysOnLine (readKey limit) := by
  induction limit with
  | zero => exact fun _ _ => rfl
  | succ limit ih =>
    intro s t
    simp only [readKey, skipSpaces_line, readKeyPart_line _ t]
    cases readKeyPart (skipSpaces s) with
    | none => rfl
    | some found =>
      obtain ⟨part, r⟩ := found
      simp only [Option.map_some, Prod.map_apply, id_eq, skipSpaces_line]
      rcases skipSpaces r with _ | ⟨c, r⟩
      · rfl
      · by_cases hc : c = '.'
        · subst hc
          simp [ih r t, Function.comp_def]
        · simp [hc]

end Keys

end BranchVersion.Toml
