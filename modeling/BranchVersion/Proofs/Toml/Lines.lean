import BranchVersion.Proofs.Toml.Steady
import BranchVersion.Toml.Document
import Mathlib.Data.List.Forall2

/-!
Documents that are written line by line. If each line on its own is a pair of a simple key, and no
two keys are the same, then the document is the table of these pairs, in their order.
-/
namespace BranchVersion.Toml

section Fresh

def simplePair (e : String × Value) : Key × Value := (⟨[], e.1⟩, e.2)

private theorem Table.set_fresh {key : String} {v : Value} {t : Table} (h : key ∉ t.map Prod.fst) :
    t.set key v = t ++ [(key, v)] := by
  induction t with
  | nil => rfl
  | cons e t ih =>
    simp only [List.map_cons, List.mem_cons, not_or] at h
    rw [Table.set, if_neg (Ne.symm h.1), ih h.2, List.cons_append]

private theorem Table.put_fresh {key : String} {v : Value} {t : Table} (h : key ∉ t.map Prod.fst) :
    Table.put key v [] t = some (t ++ [(key, v)]) := by
  have hnone : t.lookup key = none := by
    rw [List.lookup_eq_none_iff]
    intro e he
    simpa using fun hkey : key = e.1 => h (hkey ▸ List.mem_map_of_mem he)
  simp only [Table.put, Table.alter, hnone, Option.map_some, Table.set_fresh h]

private theorem Table.foldlM_put_fresh {t es : Table} (h : ((t ++ es).map Prod.fst).Nodup) :
    (es.map simplePair).foldlM (fun t p => put p.1.last p.2 p.1.parents t) t = some (t ++ es) := by
  induction es generalizing t with
  | nil => simp
  | cons e es ih =>
    have hfresh : e.1 ∉ t.map Prod.fst := by
      intro hmem
      rw [List.map_append, List.nodup_append] at h
      exact h.2.2 e.1 hmem e.1 (by simp) rfl
    have hrest : ((t ++ [e] ++ es).map Prod.fst).Nodup := by simpa using h
    simp only [List.map_cons, List.foldlM_cons, simplePair, put_fresh hfresh]
    simpa using ih hrest

/-- Simple keys that differ from each other make the table of their pairs. -/
theorem Table.ofPairs?_simple {t : Table} (h : (t.map Prod.fst).Nodup) :
    ofPairs? (t.map simplePair) = some t :=
  foldlM_put_fresh h

private theorem Draft.foldlM_pairs (pairs : List (Key × Value)) (t : Table) :
    (pairs.map fun p => Statement.pair p.1 p.2).foldlM add ⟨t, []⟩ =
      (pairs.foldlM (fun t p => Table.put p.1.last p.2 p.1.parents t) t).map (⟨·, []⟩) := by
  induction pairs generalizing t with
  | nil => rfl
  | cons p pairs ih =>
    simp only [List.map_cons, List.foldlM_cons, add, Table.descend]
    cases Table.put p.1.last p.2 p.1.parents t with
    | none => rfl
    | some u => exact ih u

/-- Pairs that stand before any header go into the table of the document. -/
theorem Table.ofStatements?_pairs (pairs : List (Key × Value)) :
    ofStatements? (pairs.map fun p => .pair p.1 p.2) = ofPairs? pairs := by
  rw [ofStatements?, Draft.foldlM_pairs, ofPairs?, Option.map_map]
  exact congrFun Option.map_id _

end Fresh

section Front

private theorem skipSpaces_idem (s : List Char) : skipSpaces (skipSpaces s) = skipSpaces s := by
  induction s with
  | nil => rfl
  | cons c s ih =>
    unfold skipSpaces at ih ⊢
    by_cases hc : isSpace c <;> simp [hc, ih]

/-- Neither a line end nor a comment starts like this. -/
def isTokenFront (c : Char) : Bool := c != '\n' && c != '\r' && c != '#'

theorem skipFiller_front {s u : List Char} {c : Char} (h : skipSpaces s = c :: u)
    (hc : isTokenFront c = true) : skipFiller s = c :: u := by
  simp only [isTokenFront, Bool.and_eq_true, bne_iff_ne, ne_eq] at hc
  obtain ⟨⟨hlf, hcr⟩, hhash⟩ := hc
  induction s with
  | nil => simp [skipSpaces] at h
  | cons d s ih =>
    by_cases hd : isSpace d
    · have hdcr : d ≠ '\r' := ne_of_test hd rfl
      have hdhash : d ≠ '#' := ne_of_test hd rfl
      have hs : skipSpaces s = c :: u := by simpa [skipSpaces, hd] using h
      rw [← ih hs, skipFiller, skipFillerFrom.eq_3 _ _ _ fun _ hr _ => hdcr hr]
      simp [hdhash, hd]
    · obtain ⟨rfl, rfl⟩ : d = c ∧ s = u := by simpa [skipSpaces, hd] using h
      rw [skipFiller, skipFillerFrom.eq_3 _ _ _ fun _ hr _ => hcr hr]
      simp [hlf, hhash, hd]

def isKeyFront (c : Char) : Bool := c == '"' || c == '\'' || isBareKeyChar c

private theorem isTokenFront_of_isKeyFront {c : Char} (h : isKeyFront c = true) :
    isTokenFront c = true := by
  simp only [isTokenFront, Bool.and_eq_true, bne_iff_ne]
  exact ⟨⟨ne_of_test h rfl, ne_of_test h rfl⟩, ne_of_test h rfl⟩

private theorem readKeyPart_front {s : List Char} {found : String × List Char}
    (h : readKeyPart s = some found) : ∃ c u, s = c :: u ∧ isKeyFront c = true := by
  cases s with
  | nil => simp [readKeyPart, readLineText] at h
  | cons c s =>
    refine ⟨c, s, rfl, ?_⟩
    by_contra hc
    simp only [isKeyFront, Bool.or_eq_true, beq_iff_eq, not_or] at hc
    obtain ⟨⟨hbasic, hliteral⟩, hbare⟩ := hc
    simp [readKeyPart, readLineText, hbasic, hliteral, hbare] at h

private theorem readKey_skipSpaces (limit : Nat) (s : List Char) :
    readKey limit (skipSpaces s) = readKey limit s := by
  cases limit with
  | zero => rfl
  | succ limit => simp only [readKey, skipSpaces_idem]

theorem readKey_front {limit : Nat} {s : List Char} {found : Key × List Char}
    (h : readKey limit s = some found) : ∃ c u, skipSpaces s = c :: u ∧ isKeyFront c = true := by
  cases limit with
  | zero => simp [readKey] at h
  | succ limit =>
    cases hpart : readKeyPart (skipSpaces s) with
    | none => simp [readKey, hpart] at h
    | some part => exact readKeyPart_front hpart

end Front

section Statements

private theorem readPair_skipSpaces (item : Reader Value) (s : List Char) :
    readPair item (skipSpaces s) = readPair item s := by
  simp only [readPair, readKey_skipSpaces]

private theorem readStatement_front {s r : List Char} {key : Key} {v : Value}
    (h : readStatement s = some (.pair key v, r)) :
    ∃ c u, skipSpaces s = c :: u ∧ isKeyFront c = true := by
  obtain ⟨u, hu, -⟩ := readStatement_eq_pair.mp h
  obtain ⟨w, x, hkey, -, -⟩ := readPair_eq_some.mp hu
  exact readKey_front hkey

private theorem readStatement_skipSpaces {s r : List Char} {key : Key} {v : Value}
    (h : readStatement s = some (.pair key v, r)) :
    readStatement (skipSpaces s) = some (.pair key v, r) := by
  rw [readStatement_eq_pair] at h ⊢
  simpa only [readPair_skipSpaces] using h

/-- Whatever filler comes to stand in front, the text has these statements. -/
def HasStatements (s : List Char) (statements : List Statement) : Prop :=
  ∀ u, skipFiller u = skipFiller s → s.length ≤ u.length → readStatements u = some statements

private theorem HasStatements.of_filler {s : List Char} (h : skipFiller s = []) :
    HasStatements s [] := by
  intro u hu _
  rw [readStatements]
  simp only [hu, h]

private theorem HasStatements.of_pair {s r : List Char} {key : Key} {v : Value}
    {statements : List Statement} (h : readStatement s = some (.pair key v, r))
    (hlen : r.length < s.length) (hr : readStatements r = some statements) :
    HasStatements s (.pair key v :: statements) := by
  obtain ⟨c, z, hs, hc⟩ := readStatement_front h
  have hread := readStatement_skipSpaces h
  intro u hu hsu
  rw [skipFiller_front hs (isTokenFront_of_isKeyFront hc), ← hs] at hu
  rw [readStatements]
  rw [hs] at hu hread
  simp only [hu, hread, hlen.trans_le hsu, if_true, hr, Option.map_some]

/-- A line that is a pair of a simple key, with nothing else in it but spaces and a comment. -/
def IsPairLine (line : List Char) (e : String × Value) : Prop :=
  readStatement line = some (.pair (simplePair e).1 (simplePair e).2, [])

private theorem IsPairLine.length_pos {line : List Char} {e : String × Value}
    (h : IsPairLine line e) :
    0 < line.length := by
  obtain ⟨c, u, hs, -⟩ := readStatement_front h
  rw [List.length_pos_iff]
  rintro rfl
  simp [skipSpaces] at hs

theorem IsPairLine.alone {line : List Char} {e : String × Value} (h : IsPairLine line e) :
    HasStatements line [.pair (simplePair e).1 (simplePair e).2] := by
  refine .of_pair h h.length_pos ?_
  exact HasStatements.of_filler rfl [] rfl (Nat.le_refl _)

theorem IsPairLine.before {line rest : List Char} {e : String × Value}
    {statements : List Statement} (h : IsPairLine line e) (hrest : HasStatements rest statements) :
    HasStatements (line ++ '\n' :: rest)
      (.pair (simplePair e).1 (simplePair e).2 :: statements) := by
  obtain ⟨r, hread, hr⟩ := readStatement_steady rest h
  have hpos := h.length_pos
  -- A line that has a line end of its own leaves the line feed behind it.
  rcases hr with rfl | rfl
  · exact .of_pair hread (by simp; omega) (hrest r rfl (Nat.le_refl _))
  · exact .of_pair hread (by simp; omega) (hrest ('\n' :: rest) rfl (Nat.le_succ _))

/-- The last line may end the text or be closed by a line feed. -/
theorem hasStatements_lines {lines : List (List Char)} {t : Table} {closing : List Char}
    (h : List.Forall₂ IsPairLine lines t) (hclosing : closing = [] ∨ closing = ['\n']) :
    HasStatements (['\n'].intercalate lines ++ closing)
      ((t.map simplePair).map fun p => .pair p.1 p.2) := by
  induction h with
  | nil =>
    refine .of_filler ?_
    rcases hclosing with rfl | rfl <;> rfl
  | @cons line e lines t hline hlines ih =>
    cases hlines with
    | nil =>
      rw [List.intercalate_singleton]
      rcases hclosing with rfl | rfl
      · simpa using hline.alone
      · exact hline.before (.of_filler rfl)
    | cons hnext hmore =>
      rw [List.intercalate_cons_cons]
      simpa using hline.before ih

/-- No line starts with a byte order mark. -/
private theorem IsPairLine.skipMark {line : List Char} {e : String × Value} (h : IsPairLine line e)
    (t : List Char) : skipMark (line ++ t) = line ++ t := by
  obtain ⟨c, u, hs, hc⟩ := readStatement_front h
  cases line with
  | nil => simp [skipSpaces] at hs
  | cons d line =>
    refine skipMark.eq_2 _ ?_
    rintro w hw
    obtain ⟨rfl, -⟩ := List.cons.inj hw
    obtain ⟨rfl, -⟩ : '\ufeff' = c ∧ line = u := by simpa [skipSpaces, isSpace] using hs
    simp [isKeyFront, isBareKeyChar] at hc

private theorem skipMark_lines {lines : List (List Char)} {t : Table} {closing : List Char}
    (h : List.Forall₂ IsPairLine lines t) (hclosing : closing = [] ∨ closing = ['\n']) :
    skipMark (['\n'].intercalate lines ++ closing) = ['\n'].intercalate lines ++ closing := by
  cases h with
  | nil => rcases hclosing with rfl | rfl <;> rfl
  | cons hline hlines =>
    cases hlines with
    | nil => simpa using hline.skipMark closing
    | cons => simpa [List.intercalate_cons_cons] using hline.skipMark _

/-- A text of pairs with simple keys that differ from each other is a document with just these. -/
theorem Table.ofString?_lines {lines : List String} {t : Table} {closing : String}
    (h : List.Forall₂ (fun line => IsPairLine line.toList) lines t) (hkeys : (t.map Prod.fst).Nodup)
    (hclosing : closing = "" ∨ closing = "\n") :
    ofString? ("\n".intercalate lines ++ closing) = some t := by
  have hlines : List.Forall₂ IsPairLine (lines.map String.toList) t :=
    List.forall₂_map_left_iff.mpr h
  have hends : closing.toList = [] ∨ closing.toList = ['\n'] := by
    rcases hclosing with rfl | rfl <;> simp
  have htext : ("\n".intercalate lines ++ closing).toList =
      ['\n'].intercalate (lines.map String.toList) ++ closing.toList := by
    rw [String.toList_append, String.toList_intercalate]
    rfl
  rw [ofString?, htext, skipMark_lines hlines hends,
    hasStatements_lines hlines hends _ rfl (Nat.le_refl _), Option.bind_some,
    ofStatements?_pairs, ofPairs?_simple hkeys]

end Statements

end BranchVersion.Toml
