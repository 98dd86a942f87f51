import BranchVersion.Proofs.Toml.Lines
import Mathlib.Data.Nat.Digits.Lemmas

/-!
How texts, lists of texts and tables of texts are written in TOML: as basic strings, arrays and
inline tables. Whatever escapes and spaces are chosen, the readers give back what was written.
-/
namespace BranchVersion.Toml

section Characters

def IsHex (n : Nat) (ds : List Char) (v : Nat) : Prop :=
  ds.length = n ∧ ∃ vs, ds.mapM Text.hexDigit? = some vs ∧ Nat.ofDigits 16 vs.reverse = v

/-- The letters that stand behind a backslash for a character. -/
def shortEscapes : List (Char × Char) :=
  [('\x08', 'b'), ('\t', 't'), ('\n', 'n'), ('\x0c', 'f'), ('\r', 'r'), ('"', '"'), ('\\', '\\')]

/-- How a character may stand in a basic string. A quote, a backslash and a control character have
to be escaped, and any other may be. -/
inductive SpellsChar : Char → List Char → Prop
  | plain {c : Char} (hplain : isPlain c = true) (hquote : c ≠ '"') (hback : c ≠ '\\') :
    SpellsChar c [c]
  | letter {c d : Char} (h : (c, d) ∈ shortEscapes) : SpellsChar c ['\\', d]
  | code {c : Char} {ds : List Char} (h : IsHex 4 ds c.toNat) : SpellsChar c ('\\' :: 'u' :: ds)
  | longCode {c : Char} {ds : List Char} (h : IsHex 8 ds c.toNat) :
    SpellsChar c ('\\' :: 'U' :: ds)

private theorem exists_isHex {n v : Nat} (h : v < 16 ^ n) : ∃ ds, IsHex n ds v := by
  induction n generalizing v with
  | zero =>
    obtain rfl : v = 0 := by simpa using h
    exact ⟨[], rfl, [], rfl, rfl⟩
  | succ n ih =>
    have hdigit : ∀ d < 16, Text.hexDigit? (Nat.digitChar d) = some d := by decide
    have hmod : v % 16 < 16 := Nat.mod_lt _ (by decide)
    obtain ⟨ds, hlen, vs, hvs, hv⟩ := @ih (v / 16) (by rw [Nat.pow_succ] at h; omega)
    refine ⟨ds ++ [Nat.digitChar (v % 16)], by simp [hlen], vs ++ [v % 16], ?_, ?_⟩
    · simp [List.mapM_append, hvs, hdigit _ hmod]
    · rw [List.reverse_append, List.reverse_singleton, List.singleton_append, Nat.ofDigits_cons,
        hv]
      exact Nat.mod_add_div v 16

/-- Any character may be written by its code point. -/
theorem exists_spellsChar (c : Char) : ∃ w, SpellsChar c w := by
  have hc : c.toNat < 16 ^ 8 := c.val.toNat_lt
  obtain ⟨ds, hds⟩ := exists_isHex hc
  exact ⟨_, .longCode hds⟩

private theorem readHex_digits {ds : List Char} {vs : List Nat}
    (h : ds.mapM Text.hexDigit? = some vs) (v : Nat) (rest : List Char) :
    Text.readHex ds.length v (ds ++ rest) =
      some (vs.foldl (fun v d => 16 * v + d) v, rest) := by
  induction ds generalizing v vs with
  | nil =>
    obtain rfl : [] = vs := by simpa using h
    rfl
  | cons c ds ih =>
    simp only [List.mapM_cons, Option.bind_eq_bind, Option.bind_eq_some_iff, Option.pure_def,
      Option.some.injEq] at h
    obtain ⟨d, hd, ws, hws, rfl⟩ := h
    simp only [List.length_cons, List.cons_append, Text.readHex, hd, ih hws, List.foldl_cons]

private theorem readCodePoint_isHex {n : Nat} {ds : List Char} {c : Char} (h : IsHex n ds c.toNat)
    (rest : List Char) : Text.readCodePoint n (ds ++ rest) = some (c, rest) := by
  obtain ⟨rfl, vs, hvs, hv⟩ := h
  have hfold : vs.foldl (fun v d => 16 * v + d) 0 = c.toNat := by
    rw [← hv, Nat.ofDigits_eq_foldr, List.foldr_reverse]
    simp [Nat.add_comm]
  have hvalid : c.toNat.isValidChar := c.valid
  simp only [Text.readCodePoint, readHex_digits hvs, hfold, hvalid, if_true, Char.ofNat_toNat]

private theorem readBasic_spellsChar {c : Char} {w : List Char} (h : SpellsChar c w)
    (rest : List Char) :
    readBasic (w ++ rest) = (readBasic rest).map fun (t, r) => (c :: t, r) := by
  cases h with
  | plain hplain hquote hback =>
    rw [List.singleton_append, readBasic.eq_4 _ _ (by simpa using hquote) (by simpa using hback),
      if_pos hplain]
  | @letter d h =>
    have hescape : readEscape (d :: rest) = some (c, rest) := by
      simp only [shortEscapes, List.mem_cons, Prod.mk.injEq, List.not_mem_nil, or_false] at h
      rcases h with ⟨rfl, rfl⟩ | ⟨rfl, rfl⟩ | ⟨rfl, rfl⟩ | ⟨rfl, rfl⟩ | ⟨rfl, rfl⟩ | ⟨rfl, rfl⟩ |
        ⟨rfl, rfl⟩ <;> rfl
    rw [List.cons_append, readBasic_backslash, List.singleton_append, hescape]
    rfl
  | code h =>
    rw [List.cons_append, readBasic_backslash, List.cons_append, readEscape.eq_8,
      readCodePoint_isHex h]
    rfl
  | longCode h =>
    rw [List.cons_append, readBasic_backslash, List.cons_append, readEscape.eq_9,
      readCodePoint_isHex h]
    rfl

end Characters

section Texts

def Quotes (s : String) (w : List Char) : Prop :=
  ∃ ws, List.Forall₂ SpellsChar s.toList ws ∧ w = '"' :: (ws.flatten ++ ['"'])

private theorem exists_forall₂ {α β : Type} {R : α → β → Prop} (h : ∀ a, ∃ b, R a b) (as : List α) :
    ∃ bs, List.Forall₂ R as bs := by
  choose f hf using h
  exact ⟨as.map f, List.forall₂_map_right_iff.mpr (List.forall₂_same.mpr fun a _ => hf a)⟩

theorem exists_quotes (s : String) : ∃ w, Quotes s w := by
  obtain ⟨ws, hws⟩ := exists_forall₂ exists_spellsChar s.toList
  exact ⟨_, ws, hws, rfl⟩

private theorem readBasic_spells {s : List Char} {ws : List (List Char)}
    (h : List.Forall₂ SpellsChar s ws) (rest : List Char) :
    readBasic (ws.flatten ++ '"' :: rest) = some (s, rest) := by
  induction h with
  | nil => simp [readBasic]
  | cons hc hs ih =>
    rw [List.flatten_cons, List.append_assoc, readBasic_spellsChar hc, ih]
    rfl

/-- No character is spelled with a quote in front. -/
private theorem SpellsChar.front {c : Char} {w : List Char} (h : SpellsChar c w) :
    ∃ d u, w = d :: u ∧ d ≠ '"' := by
  cases h with
  | plain hplain hquote hback => exact ⟨c, [], rfl, hquote⟩
  | letter h => exact ⟨_, _, rfl, by decide⟩
  | code h => exact ⟨_, _, rfl, by decide⟩
  | longCode h => exact ⟨_, _, rfl, by decide⟩

private theorem Quotes.front {s : String} {w : List Char} (h : Quotes s w) : ∃ u, w = '"' :: u := by
  obtain ⟨ws, -, rfl⟩ := h
  exact ⟨_, rfl⟩

private theorem readLineText_quotes {s : String} {w : List Char} (h : Quotes s w)
    (rest : List Char) :
    readLineText (w ++ rest) = some (s, rest) := by
  obtain ⟨ws, hws, rfl⟩ := h
  have hread := readBasic_spells hws rest
  simp only [List.cons_append, List.append_assoc, readLineText, List.nil_append, hread,
    Option.map_some, String.ofList_toList]

/-- A quote behind the string of no characters would make it a long string. -/
private theorem readText_quotes {s : String} {w rest : List Char} (h : Quotes s w)
    (hrest : ∀ u, rest = '"' :: u → False) : readText (w ++ rest) = some (s, rest) := by
  rw [← readLineText_quotes h rest]
  obtain ⟨ws, hws, rfl⟩ := h
  refine readText.eq_3 _ ?_ (by simp)
  intro u hu
  generalize s.toList = cs at hws
  -- Only the string of no characters has its two quotes side by side.
  cases hws with
  | nil => exact hrest u (by simpa using hu)
  | cons hc hs =>
    obtain ⟨d, v, rfl, hd⟩ := hc.front
    simp [hd] at hu

theorem readValue_quotes {s : String} {w rest : List Char} (h : Quotes s w) (depth : Nat)
    (hrest : ∀ u, rest = '"' :: u → False) :
    readValue depth (w ++ rest) = some (.text s, rest) := by
  have hread := readText_quotes h hrest
  obtain ⟨u, rfl⟩ := h.front
  rw [List.cons_append] at hread ⊢
  rw [readValue.eq_5, hread]
  rfl

end Texts

section Spaces

def Padded (P : List Char → Prop) (s : List Char) : Prop :=
  ∃ a w b, P w ∧ a.all isSpace = true ∧ b.all isSpace = true ∧ s = a ++ (w ++ b)

theorem Padded.of {P : List Char → Prop} {w : List Char} (h : P w) : Padded P w :=
  ⟨[], w, [], h, rfl, rfl, by simp⟩

private theorem skipSpaces_append {a : List Char} (ha : a.all isSpace = true) (s : List Char) :
    skipSpaces (a ++ s) = skipSpaces s :=
  List.dropWhile_append_of_pos (by simpa using ha)

private theorem skipSpaces_of_not {c : Char} (hc : isSpace c = false) (s : List Char) :
    skipSpaces (c :: s) = c :: s :=
  List.dropWhile_cons_of_neg (by simp [hc])

/-- What is written so begins with something that is no space. -/
def Unspaced (P : List Char → Prop) : Prop := ∀ w, P w → ∃ c u, w = c :: u ∧ isSpace c = false

private theorem unspaced_quotes (s : String) : Unspaced (Quotes s) := by
  intro w hw
  obtain ⟨u, rfl⟩ := hw.front
  exact ⟨'"', u, rfl, rfl⟩

/-- What is written is found behind the spaces. -/
private theorem skipSpaces_padded {P : List Char → Prop} {p : List Char} (h : Padded P p)
    (hP : Unspaced P) (rest : List Char) :
    ∃ w b, P w ∧ b.all isSpace = true ∧ skipSpaces (p ++ rest) = w ++ (b ++ rest) := by
  obtain ⟨a, w, b, hw, ha, hb, rfl⟩ := h
  refine ⟨w, b, hw, hb, ?_⟩
  obtain ⟨c, u, rfl, hc⟩ := hP w hw
  rw [List.append_assoc, List.append_assoc, skipSpaces_append ha]
  exact skipSpaces_of_not hc _

private theorem ne_quote_of_spaces {b rest : List Char} (hb : b.all isSpace = true)
    (hrest : ∀ u, rest = '"' :: u → False) : ∀ u, b ++ rest = '"' :: u → False := by
  intro u hu
  cases b with
  | nil => exact hrest u hu
  | cons c b =>
    obtain ⟨rfl, -⟩ := List.cons.inj hu
    simp [isSpace] at hb

/-- A text with spaces around it, in front of anything but a quote or a space. -/
private theorem readValue_padded {s : String} {p rest : List Char} (h : Padded (Quotes s) p)
    (depth : Nat) (hrest : ∀ u, rest = '"' :: u → False) :
    ∃ r, readValue depth (skipSpaces (p ++ rest)) = some (.text s, r) ∧
      skipSpaces r = skipSpaces rest := by
  obtain ⟨w, b, hw, hb, hp⟩ := skipSpaces_padded h (unspaced_quotes s) rest
  exact ⟨b ++ rest, by rw [hp, readValue_quotes hw depth (ne_quote_of_spaces hb hrest)],
    skipSpaces_append hb rest⟩

end Spaces

section Keys

variable {limit : Nat}

/-- A key of one part with spaces around it, in front of an equals sign. -/
private theorem readKey_padded {P : List Char → Prop} {k u : List Char} {key : String}
    (h : Padded P k) (hP : Unspaced P)
    (hread : ∀ w a, P w → a.all isSpace = true →
      readKeyPart (w ++ (a ++ '=' :: u)) = some (key, a ++ '=' :: u)) :
    readKey (limit + 1) (k ++ '=' :: u) = some (⟨[], key⟩, '=' :: u) := by
  obtain ⟨w, a, hw, ha, hk⟩ := skipSpaces_padded h hP ('=' :: u)
  have hequals : skipSpaces (a ++ '=' :: u) = '=' :: u := by
    rw [skipSpaces_append ha, skipSpaces_of_not rfl]
  simp only [readKey, hk, hread w a hw ha, hequals]
  rfl

private theorem readKey_quotes {key : String} {k : List Char} (h : Padded (Quotes key) k)
    (u : List Char) : readKey (limit + 1) (k ++ '=' :: u) = some (⟨[], key⟩, '=' :: u) := by
  refine readKey_padded h (unspaced_quotes key) fun w a hw _ => ?_
  rw [readKeyPart, readLineText_quotes hw]

def IsBareKey (key : String) : Prop := key.toList ≠ [] ∧ key.toList.all isBareKeyChar = true

instance (key : String) : Decidable (IsBareKey key) := inferInstanceAs (Decidable (_ ∧ _))

private theorem isBareKeyChar_of_isSpace {c : Char} (h : isSpace c = true) :
    isBareKeyChar c = false := by
  simp only [isSpace, Bool.or_eq_true, beq_iff_eq] at h
  rcases h with rfl | rfl <;> rfl

private theorem IsBareKey.front {key : String} (h : IsBareKey key) :
    ∃ c u, key.toList = c :: u ∧ isBareKeyChar c = true := by
  obtain ⟨c, u, hu⟩ := List.exists_cons_of_ne_nil h.1
  exact ⟨c, u, hu, List.all_eq_true.mp h.2 c (by simp [hu])⟩

private theorem IsBareKey.unspaced {key : String} (h : IsBareKey key) :
    Unspaced (· = key.toList) := by
  rintro w rfl
  obtain ⟨c, u, hu, hc⟩ := h.front
  refine ⟨c, u, hu, ?_⟩
  by_contra hspace
  simp [isBareKeyChar_of_isSpace (by simpa using hspace)] at hc

private theorem readKeyPart_bare {key : String} (h : IsBareKey key) {rest : List Char}
    (hrest : rest.takeWhile isBareKeyChar = []) :
    readKeyPart (key.toList ++ rest) = some (key, rest) := by
  obtain ⟨c, u, hu, hc⟩ := h.front
  have hquoted : readLineText (key.toList ++ rest) = none := by
    rw [hu]
    refine readLineText.eq_3 _ ?_ ?_ <;> rintro w hw <;> obtain ⟨rfl, -⟩ := List.cons.inj hw <;>
      simp [isBareKeyChar] at hc
  have hall : ∀ d ∈ key.toList, isBareKeyChar d = true := List.all_eq_true.mp h.2
  have hname : (key.toList ++ rest).takeWhile isBareKeyChar = c :: u := by
    rw [List.takeWhile_append_of_pos hall, hrest, List.append_nil, hu]
  have hdrop : (key.toList ++ rest).dropWhile isBareKeyChar = rest := by
    rw [List.dropWhile_append_of_pos hall]
    simpa [hrest] using List.takeWhile_append_dropWhile (p := isBareKeyChar) (l := rest)
  have hwhole : String.ofList (c :: u) = key := by rw [← hu, String.ofList_toList]
  simp only [readKeyPart, hquoted, hname, hdrop, hwhole]

private theorem readKey_bare {key : String} {k : List Char} (h : Padded (· = key.toList) k)
    (hkey : IsBareKey key) (u : List Char) :
    readKey (limit + 1) (k ++ '=' :: u) = some (⟨[], key⟩, '=' :: u) := by
  refine readKey_padded h hkey.unspaced ?_
  rintro _ a rfl ha
  refine readKeyPart_bare hkey ?_
  cases a with
  | nil => rfl
  | cons c a =>
    simp only [List.all_cons, Bool.and_eq_true] at ha
    simp [isBareKeyChar_of_isSpace ha.1]

end Keys

section Collections

variable {depth : Nat}

def QuotesArray (ss : List String) (w : List Char) : Prop :=
  ∃ items, List.Forall₂ (fun s => Padded (Quotes s)) ss items ∧
    w = '[' :: ([','].intercalate items ++ [']'])

theorem exists_quotesArray (ss : List String) : ∃ w, QuotesArray ss w := by
  have hitem (s : String) : ∃ p, Padded (Quotes s) p := (exists_quotes s).imp fun _ h => .of h
  obtain ⟨items, hitems⟩ := exists_forall₂ hitem ss
  exact ⟨_, items, hitems, rfl⟩

private theorem readItem_quotes {s : String} {p rest : List Char} {c : Char}
    (h : Padded (Quotes s) p) (hc : c = ',' ∨ c = ']') :
    ∃ r, readValue depth (skipFiller (p ++ c :: rest)) = some (.text s, r) ∧
      skipFiller r = c :: rest ∧ ∀ u, skipFiller (p ++ c :: rest) = ']' :: u → False := by
  obtain ⟨w, b, hw, hb, hp⟩ := skipSpaces_padded h (unspaced_quotes s) (c :: rest)
  obtain ⟨u, rfl⟩ := hw.front
  have hfiller := skipFiller_front hp rfl
  have hopen : ∀ u, skipFiller (p ++ c :: rest) = ']' :: u → False := by simp [hfiller]
  have hquote : ∀ u, c :: rest = '"' :: u → False := by rcases hc with rfl | rfl <;> simp
  obtain ⟨r, hr, hrest⟩ := readValue_padded h depth hquote
  refine ⟨r, ?_, ?_, hopen⟩
  · rw [hfiller, ← hr, hp]
    rfl
  · rcases hc with rfl | rfl
    · exact skipFiller_front (hrest.trans (skipSpaces_of_not rfl rest)) rfl
    · exact skipFiller_front (hrest.trans (skipSpaces_of_not rfl rest)) rfl

private theorem readItems_quotes {ss : List String} {items : List (List Char)}
    (h : List.Forall₂ (fun s => Padded (Quotes s)) ss items) (rest : List Char) :
    readItems (readValue depth) ([','].intercalate items ++ ']' :: rest) =
      some (ss.map .text, rest) := by
  induction h with
  | nil => exact readItems_close rfl
  | @cons s p ss items hp hps ih =>
    cases hps with
    | nil =>
      obtain ⟨r, hread, hr, hopen⟩ := readItem_quotes hp (.inr rfl)
      rw [List.intercalate_singleton]
      exact readItems_last hopen hread hr
    | @cons s' p' ss items hp' hps =>
      obtain ⟨r, hread, hr, hopen⟩ := readItem_quotes hp (.inl rfl)
      rw [List.intercalate_cons_cons, List.append_assoc, List.append_assoc, List.singleton_append,
        readItems_comma hopen hread hr (by simp; omega), ih]
      rfl

theorem readValue_array {ss : List String} {w : List Char} (h : QuotesArray ss w)
    (rest : List Char) :
    readValue (depth + 1) (w ++ rest) = some (.array (ss.map .text), rest) := by
  obtain ⟨items, hitems, rfl⟩ := h
  rw [List.cons_append, readValue.eq_2, List.append_assoc, List.singleton_append,
    readItems_quotes hitems]
  rfl

def QuotesPair (e : String × String) (w : List Char) : Prop :=
  ∃ k v, Padded (Quotes e.1) k ∧ Padded (Quotes e.2) v ∧ w = k ++ '=' :: v

def QuotesTable (es : List (String × String)) (w : List Char) : Prop :=
  ∃ pairs, List.Forall₂ QuotesPair es pairs ∧
    w = '\x7b' :: ([','].intercalate pairs ++ ['\x7d'])

theorem exists_quotesTable (es : List (String × String)) : ∃ w, QuotesTable es w := by
  have hpair (e : String × String) : ∃ p, QuotesPair e p := by
    obtain ⟨k, hk⟩ := exists_quotes e.1
    obtain ⟨v, hv⟩ := exists_quotes e.2
    exact ⟨_, k, v, .of hk, .of hv, rfl⟩
  obtain ⟨pairs, hpairs⟩ := exists_forall₂ hpair es
  exact ⟨_, pairs, hpairs, rfl⟩

private theorem readPair_quotes {e : String × String} {p rest : List Char} {c : Char}
    (h : QuotesPair e p) (hc : c = ',' ∨ c = '\x7d') :
    readPair (readValue depth) (p ++ c :: rest) = some ((⟨[], e.1⟩, .text e.2), c :: rest) := by
  obtain ⟨k, v, hk, hv, rfl⟩ := h
  have hquote : ∀ u, c :: rest = '"' :: u → False := by rcases hc with rfl | rfl <;> simp
  have hspace : isSpace c = false := by rcases hc with rfl | rfl <;> rfl
  obtain ⟨r, hr, hrest⟩ := readValue_padded hv depth hquote
  rw [List.append_assoc, List.cons_append]
  exact readPair_eq_some.mpr ⟨v ++ c :: rest, r, readKey_quotes hk _, hr,
    hrest.trans (skipSpaces_of_not hspace rest)⟩

private theorem readPairs_quotes {e : String × String} {es : List (String × String)}
    {pairs : List (List Char)} (h : List.Forall₂ QuotesPair (e :: es) pairs) (rest : List Char) :
    readPairs (readValue depth) ([','].intercalate pairs ++ '\x7d' :: rest) =
      some (((e :: es).map fun e => simplePair (e.1, .text e.2)), rest) := by
  induction es generalizing e pairs with
  | nil =>
    obtain _ | ⟨hp, _ | _⟩ := h
    rw [List.intercalate_singleton]
    exact readPairs_last (readPair_quotes hp (.inr rfl))
  | cons e' es ih =>
    obtain _ | ⟨hp, hps⟩ := h
    have hread := ih hps
    obtain _ | ⟨hp', hps⟩ := hps
    rw [List.intercalate_cons_cons, List.append_assoc, List.append_assoc, List.singleton_append,
      readPairs_comma (readPair_quotes hp (.inl rfl)) (by simp; omega), hread]
    rfl

private theorem readPairs_open {item : Reader Value} {s : List Char}
    {found : List (Key × Value) × List Char} (h : readPairs item s = some found) :
    ∀ u, skipSpaces s = '\x7d' :: u → False := by
  intro u hu
  have hkey : readKey depthLimit s = none := by
    by_contra hne
    obtain ⟨key, hkey⟩ := Option.ne_none_iff_exists'.mp hne
    obtain ⟨c, v, hs, hc⟩ := readKey_front hkey
    obtain ⟨rfl, -⟩ := List.cons.inj (hu.symm.trans hs)
    simp [isKeyFront, isBareKeyChar] at hc
  rw [readPairs] at h
  simp [readPair, hkey] at h

theorem readValue_table {es : List (String × String)} {w : List Char} (h : QuotesTable es w)
    (hkeys : (es.map Prod.fst).Nodup) (rest : List Char) :
    readValue (depth + 1) (w ++ rest) =
      some (.table .braces (es.map fun e => (e.1, .text e.2)), rest) := by
  obtain ⟨pairs, hpairs, rfl⟩ := h
  rw [List.cons_append, readValue.eq_4, List.append_assoc, List.singleton_append]
  cases es with
  | nil =>
    obtain _ | _ := hpairs
    exact readBraces_close rfl
  | cons e es =>
    have hread : readPairs (readValue depth) _ = _ := readPairs_quotes hpairs rest
    have hnodup : (((e :: es).map fun e => (e.1, Value.text e.2)).map Prod.fst).Nodup := by
      simpa [List.map_map, Function.comp_def] using hkeys
    have htable := Table.ofPairs?_simple hnodup
    rw [List.map_map] at htable
    rw [readBraces_pairs (readPairs_open hread) hread]
    exact congrArg (Option.map _) htable

end Collections

section Fields

def FieldLine (key : String) (P : List Char → Prop) (line : List Char) : Prop :=
  ∃ k u, Padded (· = key.toList) k ∧ Padded P u ∧ line = k ++ '=' :: u

/-- A value that is read up to the spaces behind it makes a pair with its key. -/
theorem isPairLine_field {key : String} {P : List Char → Prop} {v : Value} {line : List Char}
    (hkey : IsBareKey key) (hP : Unspaced P)
    (hread : ∀ w b, P w → b.all isSpace = true → readValue depthLimit (w ++ b) = some (v, b))
    (h : FieldLine key P line) : IsPairLine line (key, v) := by
  obtain ⟨k, u, hk, hu, rfl⟩ := h
  obtain ⟨w, b, hw, hb, hu⟩ := skipSpaces_padded hu hP []
  rw [List.append_nil, List.append_nil] at hu
  have hend : skipSpaces b = [] := by
    have hb' := skipSpaces_append hb []
    rwa [List.append_nil] at hb'
  have hpair : readPair (readValue depthLimit) (k ++ '=' :: u) = some ((⟨[], key⟩, v), []) :=
    readPair_eq_some.mpr ⟨u, b, readKey_bare hk hkey u, by rw [hu, hread w b hw hb], hend⟩
  exact readStatement_eq_pair.mpr ⟨[], hpair, rfl⟩

theorem FieldLine.isPairLine_quotes {key s : String} {line : List Char}
    (h : FieldLine key (Quotes s) line) (hkey : IsBareKey key) :
    IsPairLine line (key, .text s) := by
  refine isPairLine_field hkey (unspaced_quotes s) ?_ h
  intro w b hw hb
  have hend : ∀ u, [] = '"' :: u → False := by simp
  refine readValue_quotes hw depthLimit ?_
  simpa using ne_quote_of_spaces hb hend

theorem FieldLine.isPairLine_array {key : String} {ss : List String} {line : List Char}
    (h : FieldLine key (QuotesArray ss) line) (hkey : IsBareKey key) :
    IsPairLine line (key, .array (ss.map .text)) := by
  refine isPairLine_field hkey ?_ (fun w b hw _ => readValue_array hw b) h
  rintro w ⟨items, -, rfl⟩
  exact ⟨'[', _, rfl, rfl⟩

theorem FieldLine.isPairLine_table {key : String} {es : List (String × String)}
    {line : List Char} (h : FieldLine key (QuotesTable es) line) (hkey : IsBareKey key)
    (hkeys : (es.map Prod.fst).Nodup) :
    IsPairLine line (key, .table .braces (es.map fun e => (e.1, .text e.2))) := by
  refine isPairLine_field hkey ?_ (fun w b hw _ => readValue_table hw hkeys b) h
  rintro w ⟨pairs, -, rfl⟩
  exact ⟨'\x7b', _, rfl, rfl⟩

end Fields

end BranchVersion.Toml
