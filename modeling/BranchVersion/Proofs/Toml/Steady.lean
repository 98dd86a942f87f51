import BranchVersion.Proofs.Toml.OneLine

/-!
Readers that go over line ends. Filler, long strings and arrays go on behind a line feed, but once
such a reader has read a value, text behind a further line feed changes nothing about it.
-/
namespace BranchVersion.Toml

/-- What is read is read again when a line feed and more stand behind it. -/
def Steady {α : Type} (read : Reader α) : Prop :=
  ∀ ⦃s r : List Char⦄ ⦃a : α⦄ (t : List Char), read s = some (a, r) →
    read (s ++ '\n' :: t) = some (a, r ++ '\n' :: t)

theorem StaysOnLine.steady {α : Type} {read : Reader α} (h : StaysOnLine read) : Steady read := by
  intro s r a t hread
  rw [h, hread]
  rfl

theorem Steady.map {α β : Type} {read : Reader α} (h : Steady read) (f : α → β) :
    Steady fun s => (read s).map fun (a, r) => (f a, r) := by
  intro s r b t hread
  obtain ⟨⟨a, u⟩, ha, hau⟩ := Option.map_eq_some_iff.mp hread
  obtain ⟨rfl, rfl⟩ := Prod.mk.inj hau
  simp only [h t ha, Option.map_some]

section Filler

/-- Filler ends in front of such a text, whatever comes behind it. At the end of a text it could go
on, and so it could after a carriage return. -/
def EndsFiller (s : List Char) : Prop := s ≠ [] ∧ s ≠ ['\r']

/-- A line end does not come about by a line feed behind the text. -/
private theorem EndsFiller.no_lineEnd {c : Char} {s : List Char} (h : EndsFiller (c :: s))
    (hcr : ∀ r, c = '\r' → s = '\n' :: r → False) (t : List Char) :
    ∀ r, c = '\r' → s ++ '\n' :: t = '\n' :: r → False := by
  intro r hc hs
  cases s with
  | nil => exact h.2 (by rw [hc])
  | cons d s => exact hcr s hc (by rw [(List.cons.inj hs).1])

private theorem skipLines_steady {s : List Char} (h : EndsFiller (skipLines s)) (t : List Char) :
    skipLines (s ++ '\n' :: t) = skipLines s ++ '\n' :: t := by
  fun_induction skipLines s with
  | case1 => exact absurd rfl h.1
  | case2 s ih => exact ih h
  | case3 c s hcr hc ih =>
    have hne : c ≠ '\r' := by
      rintro rfl
      simp [isSpace] at hc
    rw [List.cons_append, skipLines.eq_3 _ _ fun _ hr _ => hne hr, if_pos hc, ih h]
  | case4 c s hcr hc =>
    rw [List.cons_append, skipLines.eq_3 _ _ (h.no_lineEnd hcr t), if_neg hc]

private theorem skipFillerFrom_steady {inComment : Bool} {s : List Char}
    (h : EndsFiller (skipFillerFrom inComment s)) (t : List Char) :
    skipFillerFrom inComment (s ++ '\n' :: t) = skipFillerFrom inComment s ++ '\n' :: t := by
  fun_induction skipFillerFrom inComment s with
  | case1 => exact absurd rfl h.1
  | case2 inComment s ih => exact ih h
  | case3 inComment c s hcr hc ih =>
    have hne : c ≠ '\r' := by
      rintro rfl
      simp [isPlain] at hc
    rw [List.cons_append, skipFillerFrom.eq_3 _ _ _ fun _ hr _ => hne hr, if_pos hc, ih h]
  | case4 inComment c s hcr hc hhash ih =>
    have hne : c ≠ '\r' := by
      rintro rfl
      simp at hhash
    rw [List.cons_append, skipFillerFrom.eq_3 _ _ _ fun _ hr _ => hne hr, if_neg hc, if_pos hhash,
      ih h]
  | case5 inComment c s hcr hc hhash hspace ih =>
    have hne : c ≠ '\r' := by
      rintro rfl
      simp [isSpace] at hspace
    rw [List.cons_append, skipFillerFrom.eq_3 _ _ _ fun _ hr _ => hne hr, if_neg hc, if_neg hhash,
      if_pos hspace, ih h]
  | case6 inComment c s hcr hc hhash hspace =>
    rw [List.cons_append, skipFillerFrom.eq_3 _ _ _ (h.no_lineEnd hcr t), if_neg hc, if_neg hhash,
      if_neg hspace]

private theorem skipFiller_steady {s : List Char} (h : EndsFiller (skipFiller s)) (t : List Char) :
    skipFiller (s ++ '\n' :: t) = skipFiller s ++ '\n' :: t :=
  skipFillerFrom_steady h t

end Filler

section LongStrings

private theorem takeExtraQuotes_line {quote : Char} (h : quote ≠ '\n') (s t : List Char) :
    takeExtraQuotes quote (s ++ '\n' :: t) =
      Prod.map id (· ++ '\n' :: t) (takeExtraQuotes quote s) := by
  rcases s with _ | ⟨a, _ | ⟨b, s⟩⟩
  · cases t <;> simp [takeExtraQuotes, h.symm]
  · by_cases ha : a = quote <;> simp [takeExtraQuotes, ha, h.symm]
  · by_cases ha : a = quote <;> by_cases hb : b = quote <;> simp [takeExtraQuotes, ha, hb]

private theorem afterLineEnd?_steady {s r : List Char} (h : afterLineEnd? s = some r)
    (t : List Char) : afterLineEnd? (s ++ '\n' :: t) = some (r ++ '\n' :: t) := by
  fun_cases afterLineEnd? s with
  | case1 s => simp_all [afterLineEnd?]
  | case2 s => simp_all [afterLineEnd?]
  | case3 s hlf hcrlf => simp [afterLineEnd?] at h

private theorem afterLineJoin?_steady {s r : List Char} (h : afterLineJoin? s = some r)
    (hr : EndsFiller r) (t : List Char) :
    afterLineJoin? (s ++ '\n' :: t) = some (r ++ '\n' :: t) := by
  obtain ⟨u, hu, rfl⟩ := Option.map_eq_some_iff.mp h
  rw [afterLineJoin?, skipSpaces_line, afterLineEnd?_steady hu, Option.map_some,
    skipLines_steady hr]

/-- What begins an escape is no line end. -/
private theorem afterLineJoin?_escape {s r : List Char} {c : Char} (h : readEscape s = some (c, r))
    (t : List Char) : afterLineJoin? (s ++ t) = none := by
  fun_cases readEscape s with
  | case10 => simp_all [readEscape]
  | _ => rfl

private theorem eq_some_of_map_cons {c : Char} {found : Option (List Char × List Char)}
    {w r : List Char} (h : (found.map fun (t, r) => (c :: t, r)) = some (w, r)) :
    ∃ u, found = some (u, r) ∧ w = c :: u := by
  obtain ⟨⟨u, v⟩, hfound, huv⟩ := Option.map_eq_some_iff.mp h
  obtain ⟨rfl, rfl⟩ := Prod.mk.inj huv
  exact ⟨u, hfound, rfl⟩

/-- Three quotes do not come about by a line feed behind the text. -/
private theorem quotes_line {c quote : Char} {s : List Char} (hquote : quote ≠ '\n')
    (h : ∀ r, c = quote → s = quote :: quote :: r → False) (t : List Char) :
    ∀ r, c = quote → s ++ '\n' :: t = quote :: quote :: r → False := by
  intro r hc
  exact line_ne [quote, quote] (by simp [hquote.symm]) (fun r hs => h r hc hs) r

private theorem readLongBasic_backslash (s : List Char) :
    readLongBasic ('\\' :: s) =
      match afterLineJoin? s with
      | some r => readLongBasic r
      | none =>
        (readEscape s).bind fun (c, r) => (readLongBasic r).map fun (t, r) => (c :: t, r) := by
  rw [readLongBasic]
  split
  · next h => rw [h]
  · next h =>
    rw [h]
    split <;> rename_i h <;> simp [h]

private theorem readLongBasic_endsFiller {s r w : List Char} (h : readLongBasic s = some (w, r)) :
    EndsFiller s := by
  constructor <;> rintro rfl <;> simp [readLongBasic, isPlain] at h

private theorem readLongBasic_steady : Steady readLongBasic := by
  intro s r w t h
  fun_induction readLongBasic s generalizing r w with
  | case1 => simp at h
  | case2 s =>
    rw [List.cons_append, List.cons_append, List.cons_append, readLongBasic.eq_2,
      takeExtraQuotes_line (by decide), Option.some.inj h]
    rfl
  | case3 s u hu ih =>
    -- The string goes on behind the joined lines, so the blank lines end before the text does.
    rw [List.cons_append, readLongBasic_backslash,
      afterLineJoin?_steady hu (readLongBasic_endsFiller h)]
    exact ih h
  | case4 s hjoin hescape => simp at h
  | case5 s hjoin c u hescape ih =>
    obtain ⟨w, hw, rfl⟩ := eq_some_of_map_cons h
    rw [List.cons_append, readLongBasic_backslash, afterLineJoin?_escape hescape,
      readEscape_line.steady t hescape]
    simp [ih hw]
  | case6 s ih =>
    obtain ⟨w, hw, rfl⟩ := eq_some_of_map_cons h
    rw [List.cons_append, List.cons_append, readLongBasic.eq_4, ih hw]
    rfl
  | case7 c s hquotes hback hcrlf hc ih =>
    obtain ⟨w, hw, rfl⟩ := eq_some_of_map_cons h
    have hne : c ≠ '\r' := by
      rintro rfl
      simp [isPlain] at hc
    rw [List.cons_append, readLongBasic.eq_5 _ _ (quotes_line (by decide) hquotes t) hback
      fun _ hr _ => hne hr, if_pos hc, ih hw]
    rfl
  | case8 c s hquotes hback hcrlf hc => simp at h

private theorem readLongLiteral_steady : Steady readLongLiteral := by
  intro s r w t h
  fun_induction readLongLiteral s generalizing r w with
  | case1 => simp at h
  | case2 s =>
    rw [List.cons_append, List.cons_append, List.cons_append, readLongLiteral.eq_2,
      takeExtraQuotes_line (by decide), Option.some.inj h]
    rfl
  | case3 s ih =>
    obtain ⟨w, hw, rfl⟩ := eq_some_of_map_cons h
    rw [List.cons_append, List.cons_append, readLongLiteral.eq_3, ih hw]
    rfl
  | case4 c s hquotes hcrlf hc ih =>
    obtain ⟨w, hw, rfl⟩ := eq_some_of_map_cons h
    have hne : c ≠ '\r' := by
      rintro rfl
      simp [isPlain] at hc
    rw [List.cons_append, readLongLiteral.eq_4 _ _ (quotes_line (by decide) hquotes t)
      fun _ hr _ => hne hr, if_pos hc, ih hw]
    rfl
  | case5 c s hquotes hcrlf hc => simp at h

private theorem readLongLiteral_endsFiller {s r w : List Char}
    (h : readLongLiteral s = some (w, r)) :
    EndsFiller s := by
  constructor <;> rintro rfl <;> simp [readLongLiteral, isPlain] at h

/-- Neither the end of the text nor a carriage return there is a line end. -/
private theorem EndsFiller.of_skipFirstLineEnd {s : List Char}
    (h : EndsFiller (skipFirstLineEnd s)) :
    EndsFiller s := by
  constructor <;> rintro rfl
  · exact h.1 rfl
  · exact h.2 rfl

private theorem skipFirstLineEnd_steady {s : List Char} (h : EndsFiller s) (t : List Char) :
    skipFirstLineEnd (s ++ '\n' :: t) = skipFirstLineEnd s ++ '\n' :: t := by
  unfold skipFirstLineEnd
  fun_cases afterLineEnd? s with
  | case1 s => rfl
  | case2 s => rfl
  | case3 s hlf hcrlf =>
    have hnone : afterLineEnd? (s ++ '\n' :: t) = none := by
      rcases s with _ | ⟨c, _ | ⟨d, s⟩⟩
      · exact absurd rfl h.1
      · refine afterLineEnd?.eq_3 _ (by simpa using hlf) ?_
        intro r hr
        exact h.2 (by rw [(List.cons.inj hr).1])
      · exact afterLineEnd?.eq_3 _ (by simpa using hlf) (by simpa using hcrlf)
    rw [hnone]
    rfl

private theorem readText_steady : Steady readText := by
  intro s r w t h
  fun_cases readText s with
  | case1 s =>
    obtain ⟨⟨u, v⟩, hlong, huv⟩ := Option.map_eq_some_iff.mp h
    have hs := (readLongBasic_endsFiller hlong).of_skipFirstLineEnd
    rw [List.cons_append, List.cons_append, List.cons_append, readText.eq_1,
      skipFirstLineEnd_steady hs, readLongBasic_steady t hlong]
    simp_all
  | case2 s =>
    obtain ⟨⟨u, v⟩, hlong, huv⟩ := Option.map_eq_some_iff.mp h
    have hs := (readLongLiteral_endsFiller hlong).of_skipFirstLineEnd
    rw [List.cons_append, List.cons_append, List.cons_append, readText.eq_2,
      skipFirstLineEnd_steady hs, readLongLiteral_steady t hlong]
    simp_all
  | case3 s hbasic hliteral =>
    rw [readText.eq_3 _ (line_ne ['"', '"', '"'] (by decide) hbasic)
      (line_ne ['\'', '\'', '\''] (by decide) hliteral)]
    exact readLineText_line.steady t (by rwa [readText.eq_3 _ hbasic hliteral] at h)

end LongStrings

section Values

variable {item : Reader Value}

theorem readItems_close {s r : List Char} (h : skipFiller s = ']' :: r) :
    readItems item s = some ([], r) := by
  rw [readItems]
  simp only [h]

theorem readItems_last {s r u : List Char} {v : Value} (hs : ∀ r, skipFiller s = ']' :: r → False)
    (hv : item (skipFiller s) = some (v, r)) (hr : skipFiller r = ']' :: u) :
    readItems item s = some ([v], u) := by
  rw [readItems]
  simp only [hv, hr]

theorem readItems_comma {s r u : List Char} {v : Value}
    (hs : ∀ r, skipFiller s = ']' :: r → False) (hv : item (skipFiller s) = some (v, r))
    (hr : skipFiller r = ',' :: u) (hu : u.length < s.length) :
    readItems item s = (readItems item u).map fun (vs, r) => (v :: vs, r) := by
  rw [readItems]
  simp only [hv, hr, hu, if_true]

private theorem readItems_steady (hitem : Steady item)
    (hends : ∀ ⦃s found⦄, item s = some found → EndsFiller s) : Steady (readItems item) := by
  intro s r vs t h
  fun_induction readItems item s generalizing r vs with
  | case1 s u hu =>
    obtain ⟨rfl, rfl⟩ : [] = vs ∧ u = r := by simpa using h
    refine readItems_close ?_
    rw [skipFiller_steady (by simp [hu, EndsFiller]), hu]
    rfl
  | case3 s v r₁ u hu hs hv =>
    -- An item and a bracket were read, so neither filler reaches the end of the text.
    obtain ⟨rfl, rfl⟩ : [v] = vs ∧ u = r := by simpa using h
    have hfront := skipFiller_steady (hends hv) t
    have hback : skipFiller (r₁ ++ '\n' :: t) = ']' :: (u ++ '\n' :: t) := by
      rw [skipFiller_steady (by simp [hu, EndsFiller]), hu]
      rfl
    refine readItems_last ?_ ?_ hback
    · rw [hfront]
      exact line_ne [']'] (by decide) hs
    · rw [hfront, hitem t hv]
  | case4 s v r₁ u hu hlt hs hv ih =>
    obtain ⟨⟨vs, r⟩, hvs, hwr⟩ := Option.map_eq_some_iff.mp h
    obtain ⟨rfl, rfl⟩ := Prod.mk.inj hwr
    have hfront := skipFiller_steady (hends hv) t
    have hback : skipFiller (r₁ ++ '\n' :: t) = ',' :: (u ++ '\n' :: t) := by
      rw [skipFiller_steady (by simp [hu, EndsFiller]), hu]
      rfl
    rw [readItems_comma ?_ ?_ hback (by simpa using hlt), ih hvs]
    · rfl
    · rw [hfront]
      exact line_ne [']'] (by decide) hs
    · rw [hfront, hitem t hv]
  | case2 | case5 | case6 => simp at h

theorem readPair_eq_some {s r : List Char} {key : Key} {v : Value} :
    readPair item s = some ((key, v), r) ↔ ∃ u w, readKey depthLimit s = some (key, '=' :: u) ∧
      item (skipSpaces u) = some (v, w) ∧ skipSpaces w = r := by
  fun_cases readPair item s with
  | case1 found u hkey =>
    rw [hkey]
    constructor
    · intro h
      obtain ⟨⟨w, z⟩, hw, hwr⟩ := Option.map_eq_some_iff.mp h
      simp only [Prod.mk.injEq] at hwr
      obtain ⟨⟨rfl, rfl⟩, rfl⟩ := hwr
      exact ⟨u, z, rfl, hw, rfl⟩
    · rintro ⟨u, w, hu, hv, rfl⟩
      simp only [Option.some.injEq, Prod.mk.injEq, List.cons.injEq, true_and] at hu
      obtain ⟨rfl, rfl⟩ := hu
      rw [hv]
      rfl
  | case2 hkey =>
    simp only [reduceCtorEq, false_iff]
    rintro ⟨u, w, hu, -⟩
    exact hkey _ _ hu

private theorem readPair_steady (hitem : Steady item) : Steady (readPair item) := by
  intro s r p t h
  obtain ⟨u, w, hkey, hv, rfl⟩ := readPair_eq_some.mp h
  refine readPair_eq_some.mpr ⟨u ++ '\n' :: t, w ++ '\n' :: t, ?_, ?_, skipSpaces_line w t⟩
  · exact (readKey_line depthLimit).steady t hkey
  · rw [skipSpaces_line]
    exact hitem t hv

theorem readPairs_last {s r : List Char} {p : Key × Value}
    (h : readPair item s = some (p, '\x7d' :: r)) : readPairs item s = some ([p], r) := by
  rw [readPairs]
  simp only [h]

theorem readPairs_comma {s r : List Char} {p : Key × Value}
    (h : readPair item s = some (p, ',' :: r)) (hr : r.length < s.length) :
    readPairs item s = (readPairs item r).map fun (ps, r) => (p :: ps, r) := by
  rw [readPairs]
  simp only [h, hr, if_true]

private theorem readPairs_steady (hitem : Steady item) : Steady (readPairs item) := by
  intro s r ps t h
  fun_induction readPairs item s generalizing r ps with
  | case1 s p u hp =>
    obtain ⟨rfl, rfl⟩ : [p] = ps ∧ u = r := by simpa using h
    exact readPairs_last (readPair_steady hitem t hp)
  | case2 s p u hp hlt ih =>
    obtain ⟨⟨ps, r⟩, hps, hpr⟩ := Option.map_eq_some_iff.mp h
    obtain ⟨rfl, rfl⟩ := Prod.mk.inj hpr
    have hp' : readPair item (s ++ '\n' :: t) = some (p, ',' :: (u ++ '\n' :: t)) :=
      readPair_steady hitem t hp
    rw [readPairs_comma hp' (by simpa using hlt), ih hps]
    rfl
  | case3 | case4 => simp at h

theorem readBraces_close {s r : List Char} (h : skipSpaces s = '\x7d' :: r) :
    readBraces item s = some (.table .braces [], r) := by
  simp only [readBraces, h]

theorem readBraces_pairs {s r : List Char} {ps : List (Key × Value)}
    (hs : ∀ r, skipSpaces s = '\x7d' :: r → False) (hps : readPairs item s = some (ps, r)) :
    readBraces item s = (Table.ofPairs? ps).map fun t => (.table .braces t, r) := by
  simp only [readBraces, hps]

private theorem readBraces_steady (hitem : Steady item) : Steady (readBraces item) := by
  intro s r v t h
  by_cases hclose : ∃ u, skipSpaces s = '\x7d' :: u
  · obtain ⟨u, hu⟩ := hclose
    obtain ⟨rfl, rfl⟩ := Prod.mk.inj (Option.some.inj ((readBraces_close hu).symm.trans h))
    exact readBraces_close (by rw [skipSpaces_line, hu]; rfl)
  · have hopen : ∀ u, skipSpaces s = '\x7d' :: u → False := fun u hu => hclose ⟨u, hu⟩
    cases hps : readPairs item s with
    | none => simp [readBraces, hps] at h
    | some found =>
      obtain ⟨ps, u⟩ := found
      rw [readBraces_pairs hopen hps] at h
      obtain ⟨table, htable, hvr⟩ := Option.map_eq_some_iff.mp h
      obtain ⟨rfl, rfl⟩ := Prod.mk.inj hvr
      have hline : ∀ w, skipSpaces (s ++ '\n' :: t) = '\x7d' :: w → False := by
        rw [skipSpaces_line]
        exact line_ne ['\x7d'] (by decide) hopen
      rw [readBraces_pairs hline (readPairs_steady hitem t hps), htable]
      rfl

/-- A value begins with neither the end of the text nor a carriage return there. -/
private theorem readValue_endsFiller {depth : Nat} ⦃s : List Char⦄ ⦃found : Value × List Char⦄
    (h : readValue depth s = some found) : EndsFiller s := by
  constructor <;> rintro rfl <;>
    simp [readValue, readQuantity, MomentLead.ofChars, readFixed, afterHour?, skipNumber?,
      skipDecimal?, readSign, readWhole, readDigits] at h

theorem readValue_steady (depth : Nat) : Steady (readValue depth) := by
  induction depth using Nat.strongRecOn with
  | ind depth ih =>
    intro s r v t h
    fun_cases readValue depth s with
    | case1 s => simp [readValue] at h
    | case2 s depth =>
      have hitem := ih depth depth.lt_succ_self
      rw [readValue.eq_2] at h
      rw [List.cons_append, readValue.eq_2]
      exact (readItems_steady hitem readValue_endsFiller).map Value.array t h
    | case3 s => simp [readValue] at h
    | case4 s depth =>
      rw [readValue.eq_4] at h
      rw [List.cons_append, readValue.eq_4]
      exact readBraces_steady (ih depth depth.lt_succ_self) t h
    | case5 depth s =>
      rw [readValue.eq_5] at h
      rw [List.cons_append, readValue.eq_5]
      exact readText_steady.map Value.text t h
    | case6 depth s =>
      rw [readValue.eq_6] at h
      rw [List.cons_append, readValue.eq_6]
      exact readText_steady.map Value.text t h
    | case7 depth s =>
      obtain ⟨rfl, rfl⟩ : .scalar = v ∧ s = r := by simpa [readValue] using h
      exact readValue.eq_7 depth _
    | case8 depth s =>
      obtain ⟨rfl, rfl⟩ : .scalar = v ∧ s = r := by simpa [readValue] using h
      exact readValue.eq_8 depth _
    | case9 depth s hbracket hbrace hbasic hliteral htrue hfalse =>
      rw [readValue.eq_9 _ _ hbracket hbrace hbasic hliteral htrue hfalse] at h
      rw [readValue.eq_9 _ _ (line_ne ['['] (by decide) hbracket)
        (line_ne ['\x7b'] (by decide) hbrace) (line_ne ['"'] (by decide) hbasic)
        (line_ne ['\''] (by decide) hliteral) (line_ne ['t', 'r', 'u', 'e'] (by decide) htrue)
        (line_ne ['f', 'a', 'l', 's', 'e'] (by decide) hfalse)]
      exact readQuantity_line.steady t h

end Values

section Statements

private theorem skipComment_line (s t : List Char) :
    skipComment (s ++ '\n' :: t) = skipComment s ++ '\n' :: t := by
  fun_cases skipComment s with
  | case1 s => exact dropWhile_line rfl s t
  | case2 s hhash => exact skipComment.eq_2 _ (line_ne ['#'] (by decide) hhash)

/-- A line feed behind the text either ends its last line or stands behind the end of that. -/
private theorem endLine?_steady {s r : List Char} (h : endLine? s = some r) (t : List Char) :
    endLine? (s ++ '\n' :: t) = some (r ++ '\n' :: t) ∨
      r = [] ∧ endLine? (s ++ '\n' :: t) = some t := by
  unfold endLine? at h ⊢
  rw [skipSpaces_line, skipComment_line]
  cases hs : skipComment (skipSpaces s) with
  | nil =>
    refine .inr ⟨?_, rfl⟩
    simpa [hs] using h.symm
  | cons c u =>
    rw [hs] at h
    exact .inl (afterLineEnd?_steady h t)

private theorem readPair_bracket (item : Reader Value) (s : List Char) :
    readPair item ('[' :: s) = none := by
  have hpart : readKeyPart ('[' :: s) = none := by simp [readKeyPart, readLineText, isBareKeyChar]
  have hkey : readKey depthLimit ('[' :: s) = none := by
    simp [readKey, depthLimit, skipSpaces, isSpace, hpart]
  simp [readPair, hkey]

theorem readStatement_eq_pair {s r : List Char} {key : Key} {v : Value} :
    readStatement s = some (.pair key v, r) ↔
      ∃ u, readPair (readValue depthLimit) s = some ((key, v), u) ∧ endLine? u = some r := by
  fun_cases readStatement s with
  | case5 s hitem htable key₁ v₁ u hpair =>
    rw [hpair]
    constructor
    · intro h
      obtain ⟨w, hw, hkey⟩ := Option.map_eq_some_iff.mp h
      simp only [Prod.mk.injEq, Statement.pair.injEq] at hkey
      obtain ⟨⟨rfl, rfl⟩, rfl⟩ := hkey
      exact ⟨u, rfl, hw⟩
    · rintro ⟨w, hw, hend⟩
      simp only [Option.some.injEq, Prod.mk.injEq] at hw
      obtain ⟨⟨rfl, rfl⟩, rfl⟩ := hw
      rw [hend]
      rfl
  | case6 s hitem htable hpair => simp [hpair]
  | _ => simp [readPair_bracket]

theorem readStatement_steady {s : List Char} {key : Key} {v : Value} (t : List Char)
    (h : readStatement s = some (.pair key v, [])) :
    ∃ r, readStatement (s ++ '\n' :: t) = some (.pair key v, r) ∧ (r = t ∨ r = '\n' :: t) := by
  obtain ⟨u, hu, hend⟩ := readStatement_eq_pair.mp h
  have hpair := readPair_steady (readValue_steady depthLimit) t hu
  rcases endLine?_steady hend t with hline | ⟨-, hline⟩
  · exact ⟨'\n' :: t, readStatement_eq_pair.mpr ⟨_, hpair, hline⟩, .inr rfl⟩
  · exact ⟨t, readStatement_eq_pair.mpr ⟨_, hpair, hline⟩, .inl rfl⟩

end Statements

end BranchVersion.Toml
