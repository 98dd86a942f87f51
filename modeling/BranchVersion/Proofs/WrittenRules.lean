import BranchVersion.Proofs.Toml.Spelling
import BranchVersion.Rules.Loading
import Mathlib.Data.List.Perm.Basic

/-!
Rules that are written to a file and loaded again. A text may have the keys of the rules in any
order, leave some of them out and have pairs with other keys among them. What it has of the rules
comes back as it was, and the rest is built in.
-/
namespace BranchVersion

section Lookup

private theorem lookup_eq_some_iff_mem {α : Type} {es : List (String × α)}
    (h : (es.map Prod.fst).Nodup) {key : String} {v : α} :
    es.lookup key = some v ↔ (key, v) ∈ es := by
  induction es with
  | nil => simp
  | cons e es ih =>
    obtain ⟨k, w⟩ := e
    rw [List.map_cons, List.nodup_cons] at h
    by_cases hk : key = k
    · subst hk
      have hmem : (key, v) ∉ es := fun hv => h.1 (List.mem_map.mpr ⟨_, hv, rfl⟩)
      simp [hmem, eq_comm]
    · have hb : (key == k) = false := beq_false_of_ne hk
      simp [List.lookup_cons, hb, hk, ih h.2]

theorem NameTable.keys_nodup (t : NameTable) : (t.entries.map Prod.fst).Nodup := by
  rw [List.Nodup, List.pairwise_map]
  refine t.ascending.imp fun {x y} hlt heq => ?_
  rw [heq] at hlt
  exact String.lt_irrefl _ hlt

private theorem NameTable.get?_foldl_insert {es : List (String × String)}
    (h : (es.map Prod.fst).Nodup) (t : NameTable) {key long : String} :
    (es.foldl (fun t e => t.insert e.1 e.2) t).get? key = some long ↔
      (key, long) ∈ es ∨ key ∉ es.map Prod.fst ∧ t.get? key = some long := by
  induction es generalizing t with
  | nil => simp
  | cons e es ih =>
    obtain ⟨k, w⟩ := e
    rw [List.map_cons, List.nodup_cons] at h
    rw [List.foldl_cons, ih h.2, NameTable.get?_insert]
    by_cases hk : key = k
    · subst hk
      have hmem : (key, long) ∉ es := fun hv => h.1 (List.mem_map.mpr ⟨_, hv, rfl⟩)
      have hfirst := h.1
      simp [hmem, hfirst, eq_comm]
    · simp [hk]

/-- The entries of a table may be given in any order. -/
theorem NameTable.ofList_perm {es : List (String × String)} {t : NameTable}
    (h : es.Perm t.entries) : ofList es = t := by
  have hkeys : (es.map Prod.fst).Nodup := (h.map Prod.fst).nodup_iff.mpr t.keys_nodup
  refine ext_get? fun key => Option.ext fun long => ?_
  calc (ofList es).get? key = some long ↔ (key, long) ∈ es := by
        rw [ofList, get?_foldl_insert hkeys]
        simp [EmptyCollection.emptyCollection, get?, empty]
    _ ↔ (key, long) ∈ t.entries := h.mem_iff
    _ ↔ t.get? key = some long := (lookup_eq_some_iff_mem t.keys_nodup).symm

end Lookup

/-- Reading every item, where `g` gives the one item that is read as a given result. -/
private theorem mapM_eq_some_iff {α β : Type} {f : α → Option β} {g : β → α}
    (h : ∀ a b, f a = some b ↔ a = g b) {xs : List α} {ys : List β} :
    xs.mapM f = some ys ↔ xs = ys.map g := by
  induction xs generalizing ys with
  | nil => simp [eq_comm]
  | cons x xs ih =>
    simp only [List.mapM_cons, Option.bind_eq_bind, Option.bind_eq_some_iff, h, ih]
    cases ys <;> simp

namespace Toml

theorem Value.toText?_eq_some {v : Value} {s : String} : v.toText? = some s ↔ v = .text s := by
  cases v <;> simp [toText?]

theorem Value.toTexts?_eq_some {v : Value} {ss : List String} :
    v.toTexts? = some ss ↔ v = .array (ss.map .text) := by
  cases v <;> simp [toTexts?, mapM_eq_some_iff fun _ _ => toText?_eq_some]

theorem Value.toNames?_eq_some {v : Value} {names : NameTable} :
    v.toNames? = some names ↔
      (∃ origin es, v = .table origin (es.map fun e => (e.1, .text e.2)) ∧ .ofList es = names) ∨
        ∃ shown, v = .moment shown ∧ .ofList [(momentKey, shown)] = names := by
  have hentry (e : String × Value) (named : String × String) :
      e.2.toText?.map (e.1, ·) = some named ↔ e = (named.1, .text named.2) := by
    simp only [Option.map_eq_some_iff, toText?_eq_some, Prod.ext_iff]
    constructor
    · intro h
      obtain ⟨long, hv, hkey, hlong⟩ := h
      exact ⟨hkey, hlong ▸ hv⟩
    · intro h
      exact ⟨named.2, h.2, h.1, rfl⟩
  cases v <;> simp [toNames?, mapM_eq_some_iff hentry]

private theorem Value.toTexts?_texts (ss : List String) :
    toTexts? (.array (ss.map .text)) = some ss :=
  toTexts?_eq_some.mpr rfl

private theorem Value.toNames?_texts {origin : Origin} {es : List (String × String)} {t : NameTable}
    (h : es.Perm t.entries) :
    toNames? (.table origin (es.map fun e => (e.1, .text e.2))) = some t :=
  toNames?_eq_some.mpr (.inl ⟨origin, es, rfl, NameTable.ofList_perm h⟩)

/-- If every value at the key reads as `a`, then so does the field, and `a` gives way only where
the key is absent. -/
private theorem Table.field?_eq {α : Type} {t : Table} {key : String} {fallback a : α}
    {read : Value → Option α} (h : ∀ v, (key, v) ∈ t → read v = some a) :
    t.field? key fallback read = some (if key ∈ t.map Prod.fst then a else fallback) := by
  unfold field?
  cases hv : t.lookup key with
  | none =>
    have habsent : key ∉ t.map Prod.fst := by
      intro hmem
      obtain ⟨e, he, rfl⟩ := List.mem_map.mp hmem
      simpa using List.lookup_eq_none_iff.mp hv e he
    rw [if_neg habsent]
  | some v =>
    obtain ⟨front, back, ht, -⟩ := List.lookup_eq_some_iff.mp hv
    have hmem : (key, v) ∈ t := by simp [ht]
    rw [if_pos (List.mem_map.mpr ⟨_, hmem, rfl⟩)]
    exact h v hmem

end Toml

namespace Rules

def fieldKeys : List String := ["prefixes", "prerelease_names", "output_key"]

/-- The rules with the built-in values for all fields but those of the given keys. -/
def keeping (rules : Rules) (keys : List String) : Rules where
  prefixes := if "prefixes" ∈ keys then rules.prefixes else standard.prefixes
  names := if "prerelease_names" ∈ keys then rules.names else standard.names
  outputKey := if "output_key" ∈ keys then rules.outputKey else standard.outputKey

/-- A line that writes a field of the rules, or that has a pair with a key of its own. -/
inductive WritesLine (rules : Rules) : String → String → Prop
  | prefixes {line : String}
    (h : Toml.FieldLine "prefixes" (Toml.QuotesArray rules.prefixes) line.toList) :
    WritesLine rules "prefixes" line
  | names {es : List (String × String)} {line : String} (hperm : es.Perm rules.names.entries)
    (h : Toml.FieldLine "prerelease_names" (Toml.QuotesTable es) line.toList) :
    WritesLine rules "prerelease_names" line
  | outputKey {line : String}
    (h : Toml.FieldLine "output_key" (Toml.Quotes rules.outputKey) line.toList) :
    WritesLine rules "output_key" line
  | other {key line : String} {v : Toml.Value} (hkey : key ∉ fieldKeys)
    (h : Toml.IsPairLine line.toList (key, v)) : WritesLine rules key line

/-- A value that stands for the field of a key, if the rules have one. -/
structure Carries (rules : Rules) (key : String) (v : Toml.Value) : Prop where
  prefixes : key = "prefixes" → v.toTexts? = some rules.prefixes
  names : key = "prerelease_names" → v.toNames? = some rules.names
  outputKey : key = "output_key" → v.toText? = some rules.outputKey

variable {rules : Rules}

private theorem WritesLine.carries {key line : String} (h : rules.WritesLine key line) :
    ∃ v, Toml.IsPairLine line.toList (key, v) ∧ rules.Carries key v := by
  cases h with
  | prefixes h =>
    refine ⟨.array (rules.prefixes.map .text), h.isPairLine_array (by decide), ?_, ?_, ?_⟩
    · exact fun _ => Toml.Value.toTexts?_texts _
    · exact fun h => absurd h (by decide)
    · exact fun h => absurd h (by decide)
  | @names es _ hperm h =>
    have hkeys : (es.map Prod.fst).Nodup :=
      (hperm.map Prod.fst).nodup_iff.mpr rules.names.keys_nodup
    refine ⟨.table .braces (es.map fun e => (e.1, .text e.2)),
      h.isPairLine_table (by decide) hkeys, ?_, ?_, ?_⟩
    · exact fun h => absurd h (by decide)
    · exact fun _ => Toml.Value.toNames?_texts hperm
    · exact fun h => absurd h (by decide)
  | outputKey h =>
    refine ⟨.text rules.outputKey, h.isPairLine_quotes (by decide), ?_, ?_, ?_⟩
    · exact fun h => absurd h (by decide)
    · exact fun h => absurd h (by decide)
    · exact fun _ => rfl
  | @other _ _ v hkey h =>
    simp only [fieldKeys, List.mem_cons, List.not_mem_nil, or_false, not_or] at hkey
    exact ⟨v, h, fun h => absurd h hkey.1, fun h => absurd h hkey.2.1, fun h => absurd h hkey.2.2⟩

private theorem exists_table {written : List (String × String)}
    (h : ∀ e ∈ written, rules.WritesLine e.1 e.2) :
    ∃ t : Toml.Table, List.Forall₂ (fun line => Toml.IsPairLine line.toList)
      (written.map Prod.snd) t ∧ t.map Prod.fst = written.map Prod.fst ∧
      ∀ e ∈ t, rules.Carries e.1 e.2 := by
  induction written with
  | nil => exact ⟨[], .nil, rfl, by simp⟩
  | cons e written ih =>
    obtain ⟨t, hlines, hkeys, hcarries⟩ := ih fun e he => h e (List.mem_cons_of_mem _ he)
    obtain ⟨v, hline, hv⟩ := (h e List.mem_cons_self).carries
    refine ⟨(e.1, v) :: t, .cons hline hlines, by simp [hkeys], ?_⟩
    simpa using ⟨hv, fun key w => hcarries (key, w)⟩

private theorem ofTable?_carries {t : Toml.Table} (h : ∀ e ∈ t, rules.Carries e.1 e.2) :
    ofTable? t = some (rules.keeping (t.map Prod.fst)) := by
  have hprefixes : t.field? "prefixes" standard.prefixes Toml.Value.toTexts? =
      some (rules.keeping (t.map Prod.fst)).prefixes :=
    Toml.Table.field?_eq fun v hv => (h _ hv).prefixes rfl
  have hnames : t.field? "prerelease_names" standard.names Toml.Value.toNames? =
      some (rules.keeping (t.map Prod.fst)).names :=
    Toml.Table.field?_eq fun v hv => (h _ hv).names rfl
  have houtputKey : t.field? "output_key" standard.outputKey Toml.Value.toText? =
      some (rules.keeping (t.map Prod.fst)).outputKey :=
    Toml.Table.field?_eq fun v hv => (h _ hv).outputKey rfl
  simp only [ofTable?, hprefixes, hnames, houtputKey]
  rfl

/-- The file of some lines, the last of which may be closed by a line feed. -/
def fileOf (lines : List String) (closing : String) : FileContent :=
  .ofString ("\n".intercalate lines ++ closing)

theorem load_ofString (text : String) (order : KeyOrder) :
    load (some (.ofString text)) order = (ofString text order).mapError .rules := by
  have htext : (FileContent.ofString text).text = .ok text := FileContent.text_eq_ok.mpr rfl
  simp only [load, htext]

theorem load_fileOf {lines : List String} {t : Toml.Table} {closing : String} (order : KeyOrder)
    (h : List.Forall₂ (fun line => Toml.IsPairLine line.toList) lines t)
    (hkeys : (t.map Prod.fst).Nodup) (hclosing : closing = "" ∨ closing = "\n")
    (hcarries : ∀ e ∈ t, rules.Carries e.1 e.2) :
    load (some (fileOf lines closing)) order =
      (((rules.keeping (t.map Prod.fst)).validate order).map fun _ =>
        rules.keeping (t.map Prod.fst)).mapError .rules := by
  have hrules : ofToml? ("\n".intercalate lines ++ closing) =
      some (rules.keeping (t.map Prod.fst)) := by
    rw [ofToml?, Toml.Table.ofString?_lines h hkeys hclosing, Option.bind_some,
      ofTable?_carries hcarries]
  rw [fileOf, load_ofString, ofString, hrules]

private theorem exists_fieldLine {P : List Char → Prop} {w : List Char} (h : P w) (key : String) :
    ∃ line : String, Toml.FieldLine key P line.toList :=
  ⟨String.ofList (key.toList ++ '=' :: w), key.toList, w, .of rfl, .of h, by simp⟩

private theorem exists_writesLine (rules : Rules) {key : String} (h : key ∈ fieldKeys) :
    ∃ line, rules.WritesLine key line := by
  simp only [fieldKeys, List.mem_cons, List.not_mem_nil, or_false] at h
  rcases h with rfl | rfl | rfl
  · obtain ⟨w, hw⟩ := Toml.exists_quotesArray rules.prefixes
    exact (exists_fieldLine hw _).imp fun _ => .prefixes
  · obtain ⟨w, hw⟩ := Toml.exists_quotesTable rules.names.entries
    exact (exists_fieldLine hw _).imp fun _ => .names (.refl _)
  · obtain ⟨w, hw⟩ := Toml.exists_quotes rules.outputKey
    exact (exists_fieldLine hw _).imp fun _ => .outputKey

/-- Every field of the rules can be written as a line, and from a file of such lines, in any order
and with other pairs among them, comes back what was written. Absent fields have their built-in
values, and the whole is loaded only if it is valid. -/
theorem load_written (rules : Rules) (written : List (String × String)) (closing : String)
    (order : KeyOrder) (hlines : ∀ e ∈ written, rules.WritesLine e.1 e.2)
    (hkeys : (written.map Prod.fst).Nodup) (hclosing : closing = "" ∨ closing = "\n") :
    (∀ key ∈ fieldKeys, ∃ line, rules.WritesLine key line) ∧
    ((rules.keeping (written.map Prod.fst)).validate order = .ok () →
      load (some (fileOf (written.map Prod.snd) closing)) order =
        .ok (rules.keeping (written.map Prod.fst))) ∧
    ∀ fault, (rules.keeping (written.map Prod.fst)).validate order = .error fault →
      load (some (fileOf (written.map Prod.snd) closing)) order = .error (.rules fault) := by
  obtain ⟨t, ht, htkeys, hcarries⟩ := exists_table hlines
  have hload := load_fileOf order ht (htkeys ▸ hkeys) hclosing hcarries
  rw [htkeys] at hload
  refine ⟨fun _ => exists_writesLine rules, fun hvalid => ?_, fun fault hfault => ?_⟩
  · rw [hload, hvalid]
    rfl
  · rw [hload, hfault]
    rfl

/-- Escapes, a doubled prefix, a comment, and a table of names with a single entry. The output key
is not written, so it is not kept. -/
theorem load_written_escapes :
    let rules : Rules := ⟨["v", "\"\n", "v"], .ofList [("b", "é")], "k"⟩
    let written := [("prerelease_names", "prerelease_names = \x7b\"b\"=\"\\u00e9\"\x7d"),
      ("day", "day = 1979-05-27 # other"), ("prefixes", "prefixes=[\"v\",\"\\\"\\n\" ,\"v\"]")]
    (∀ e ∈ written, rules.WritesLine e.1 e.2) ∧
      load (some (fileOf (written.map Prod.snd) "\n")) .ascending =
        .ok { rules with outputKey := "version" } := by
  intro rules written
  have hv : Toml.Quotes "v" ['"', 'v', '"'] :=
    ⟨[['v']], .cons (.plain rfl (by decide) (by decide)) .nil, rfl⟩
  have hb : Toml.Quotes "b" ['"', 'b', '"'] :=
    ⟨[['b']], .cons (.plain rfl (by decide) (by decide)) .nil, rfl⟩
  have hescapes : Toml.Quotes "\"\n" ['"', '\\', '"', '\\', 'n', '"'] :=
    ⟨[['\\', '"'], ['\\', 'n']],
      .cons (.letter (by decide)) (.cons (.letter (by decide)) .nil), rfl⟩
  have hcode : Toml.Quotes "é" ['"', '\\', 'u', '0', '0', 'e', '9', '"'] :=
    ⟨[['\\', 'u', '0', '0', 'e', '9']],
      .cons (.code ⟨rfl, [0, 0, 14, 9], rfl, rfl⟩) .nil, rfl⟩
  have hpair : Toml.QuotesPair ("b", "é") "\"b\"=\"\\u00e9\"".toList :=
    ⟨_, _, .of hb, .of hcode, rfl⟩
  have hspaced : Toml.Padded (Toml.Quotes "\"\n") "\"\\\"\\n\" ".toList :=
    ⟨[], _, [' '], hescapes, rfl, rfl, rfl⟩
  have hnames : rules.WritesLine "prerelease_names"
      "prerelease_names = \x7b\"b\"=\"\\u00e9\"\x7d" :=
    .names (.refl _) ⟨_, _, ⟨[], _, [' '], rfl, rfl, rfl, rfl⟩,
      ⟨[' '], _, [], ⟨_, .cons hpair .nil, rfl⟩, rfl, rfl, rfl⟩, rfl⟩
  have hother : Toml.IsPairLine "day = 1979-05-27 # other".toList
      ("day", .moment "1979-05-27") := rfl
  have hprefixes : rules.WritesLine "prefixes" "prefixes=[\"v\",\"\\\"\\n\" ,\"v\"]" :=
    .prefixes ⟨_, _, .of rfl,
      .of ⟨_, .cons (.of hv) (.cons hspaced (.cons (.of hv) .nil)), rfl⟩, rfl⟩
  have hlines : ∀ e ∈ written, rules.WritesLine e.1 e.2 := by
    simpa [written] using ⟨hnames, .other (by decide) hother, hprefixes⟩
  have hvalid : (rules.keeping (written.map Prod.fst)).validate .ascending = .ok () := by decide
  obtain ⟨-, hload, -⟩ := load_written rules written "\n" .ascending hlines (by decide) (.inr rfl)
  exact ⟨hlines, hload hvalid⟩

end Rules

end BranchVersion
