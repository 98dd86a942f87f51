import BranchVersion.Proofs.RunOrder
import BranchVersion.Proofs.WrittenRules

/-!
Which rules are accepted, and what loading comes to. Of several faults in the rules the first one is
reported, looking at prefixes, output key and names in this order, and of several unknown markers
any can be. Loading fails while the file is read, while its text is read as TOML, or because of the
rules in it, and rules that are loaded are accepted.
-/
namespace BranchVersion

namespace Toml

/-- The key is absent and `absent` holds, or it has a value of which `present` holds. -/
def Table.HasField (t : Table) (key : String) (absent : Prop) (present : Value → Prop) : Prop :=
  match t.lookup key with
  | none => absent
  | some v => present v

theorem Table.field?_eq_some {α : Type} {t : Table} {key : String} {fallback a : α}
    {read : Value → Option α} {present : Value → Prop} (h : ∀ v, read v = some a ↔ present v) :
    t.field? key fallback read = some a ↔ t.HasField key (fallback = a) present := by
  unfold field? HasField
  cases t.lookup key with
  | none => exact Option.some_inj
  | some v => exact h v

end Toml

namespace Rules

variable {rules : Rules} {content : Option FileContent} {order : KeyOrder} {fault : RulesFault}
  {text : String}

/-- The fields of the rules as a document has them. The prefixes are an array of texts, the names a
table of texts, and the output key is a text. A field without a key has its built-in value, and a
date or a time passes for a table with one entry. -/
structure InTable (rules : Rules) (t : Toml.Table) : Prop where
  prefixes : t.HasField "prefixes" (standard.prefixes = rules.prefixes) fun v =>
    v = .array (rules.prefixes.map .text)
  names : t.HasField "prerelease_names" (standard.names = rules.names) fun v =>
    (∃ origin es, v = .table origin (es.map fun e => (e.1, .text e.2)) ∧ .ofList es = rules.names) ∨
      ∃ shown, v = .moment shown ∧ .ofList [(Toml.momentKey, shown)] = rules.names
  outputKey : t.HasField "output_key" (standard.outputKey = rules.outputKey) fun v =>
    v = .text rules.outputKey

theorem ofTable?_eq_some {t : Toml.Table} : ofTable? t = some rules ↔ rules.InTable t := by
  simp only [ofTable?, Option.bind_eq_bind, Option.bind_eq_some_iff, Option.some.injEq]
  constructor
  · rintro ⟨_, hprefixes, _, hnames, _, houtputKey, rfl⟩
    exact ⟨(Toml.Table.field?_eq_some fun _ => Toml.Value.toTexts?_eq_some).mp hprefixes,
      (Toml.Table.field?_eq_some fun _ => Toml.Value.toNames?_eq_some).mp hnames,
      (Toml.Table.field?_eq_some fun _ => Toml.Value.toText?_eq_some).mp houtputKey⟩
  · intro h
    exact ⟨_, (Toml.Table.field?_eq_some fun _ => Toml.Value.toTexts?_eq_some).mpr h.prefixes,
      _, (Toml.Table.field?_eq_some fun _ => Toml.Value.toNames?_eq_some).mpr h.names,
      _, (Toml.Table.field?_eq_some fun _ => Toml.Value.toText?_eq_some).mpr h.outputKey, rfl⟩

/-- The text is a TOML document that has these rules. -/
def WrittenIn (rules : Rules) (text : String) : Prop :=
  ∃ t, Toml.Table.ofString? text = some t ∧ rules.InTable t

theorem ofToml?_eq_some : ofToml? text = some rules ↔ rules.WrittenIn text := by
  simp only [ofToml?, Option.bind_eq_some_iff, ofTable?_eq_some, WrittenIn]

structure Acceptable (rules : Rules) : Prop where
  prefixes : "" ∉ rules.prefixes
  outputKey : ∃ c ∈ rules.outputKey.toList, Text.isBlank c = false
  names : ∀ key ∈ rules.names.keys, key ∈ ["a", "b", "rc"]

/-- The fault is in the rules, and nothing that is looked at earlier has one. -/
inductive HasFault (rules : Rules) : RulesFault → Prop
  | emptyPrefix : "" ∈ rules.prefixes → HasFault rules .emptyPrefix
  | blankOutputKey : "" ∉ rules.prefixes → Text.AllBlank rules.outputKey →
      HasFault rules .blankOutputKey
  | unknownMarker {key : String} : "" ∉ rules.prefixes → ¬Text.AllBlank rules.outputKey →
      key ∈ rules.names.keys → key ∉ ["a", "b", "rc"] → HasFault rules (.unknownMarker key)

theorem HasFault.not_acceptable (h : rules.HasFault fault) : ¬rules.Acceptable := by
  intro hrules
  cases h with
  | emptyPrefix hempty => exact hrules.prefixes hempty
  | blankOutputKey _ hblank =>
    obtain ⟨c, hc, hvisible⟩ := hrules.outputKey
    rw [hblank c hc] at hvisible
    contradiction
  | unknownMarker _ _ hkey hmarker => exact hmarker (hrules.names _ hkey)

/-- A fault is reported unless it is about a marker and the order has another unknown one first. -/
private theorem HasFault.validate_eq (h : rules.HasFault fault)
    (hstray : ∀ key, fault = .unknownMarker key → rules.strayMarker? order = some key) :
    rules.validate order = .error fault := by
  cases h with
  | emptyPrefix hempty => rw [validate, if_pos hempty]
  | blankOutputKey hprefixes hblank =>
    rw [validate, if_neg hprefixes, if_pos (Text.trim_eq_empty.mpr hblank)]
  | unknownMarker hprefixes hblank _ _ =>
    rw [validate, if_neg hprefixes, if_neg (Text.trim_eq_empty.not.mpr hblank), hstray _ rfl]

/-- Validation passes acceptable rules and reports a fault of all others. -/
theorem validate_cases (rules : Rules) (order : KeyOrder) :
    (rules.Acceptable ∧ rules.validate order = .ok ()) ∨
      ∃ fault, rules.HasFault fault ∧ rules.validate order = .error fault := by
  by_cases hprefixes : "" ∈ rules.prefixes
  · have hfault : rules.HasFault .emptyPrefix := .emptyPrefix hprefixes
    exact .inr ⟨_, hfault, hfault.validate_eq (by simp)⟩
  by_cases hblank : Text.AllBlank rules.outputKey
  · have hfault : rules.HasFault .blankOutputKey := .blankOutputKey hprefixes hblank
    exact .inr ⟨_, hfault, hfault.validate_eq (by simp)⟩
  cases hstray : rules.strayMarker? order with
  | some key =>
    obtain ⟨hkey, hmarker⟩ := mem_of_strayMarker? hstray
    have hfault : rules.HasFault (.unknownMarker key) :=
      .unknownMarker hprefixes hblank hkey hmarker
    exact .inr ⟨_, hfault, hfault.validate_eq (by simp [hstray])⟩
  | none =>
    have htrim : Text.trim rules.outputKey ≠ "" := Text.trim_eq_empty.not.mpr hblank
    have hkeys := strayMarker?_eq_none.mp hstray
    refine .inl ⟨⟨hprefixes, ?_, hkeys⟩, by rw [validate, if_neg hprefixes, if_neg htrim, hstray]⟩
    simpa [Text.AllBlank] using hblank

theorem validate_eq_ok : rules.validate order = .ok () ↔ rules.Acceptable := by
  rcases rules.validate_cases order with ⟨hrules, hvalidate⟩ | ⟨fault, hfault, hvalidate⟩
  · simp [hrules, hvalidate]
  · simp [hfault.not_acceptable, hvalidate]

theorem HasFault.of_validate (h : rules.validate order = .error fault) : rules.HasFault fault := by
  rcases rules.validate_cases order with ⟨_, hvalidate⟩ | ⟨fault', hfault, hvalidate⟩
  · rw [h] at hvalidate
    contradiction
  · obtain rfl : fault = fault' := Except.error.inj (h.symm.trans hvalidate)
    exact hfault

private theorem strayMarker?_startingWith {key : String} (hkey : key ∈ rules.names.keys)
    (hmarker : key ∉ ["a", "b", "rc"]) : rules.strayMarker? (.startingWith key) = some key := by
  have hfirst : (KeyOrder.startingWith key).arrange rules.names.keys =
      key :: rules.names.keys.erase key := if_pos hkey
  rw [strayMarker?, hfirst, List.find?_cons_of_pos]
  rw [Option.isNone_iff_eq_none, Stage.ofMarker?_eq_none]
  exact hmarker

/-- The order of the keys decides between the unknown markers only, and each of them can be
named. -/
theorem HasFault.exists_order (h : rules.HasFault fault) :
    ∃ order, rules.validate order = .error fault := by
  cases fault with
  | unknownMarker key =>
    refine ⟨.startingWith key, h.validate_eq ?_⟩
    rintro _ ⟨⟩
    cases h with
    | unknownMarker _ _ hkey hmarker => exact strayMarker?_startingWith hkey hmarker
  | _ => exact ⟨.ascending, h.validate_eq (by simp)⟩

theorem ofString_eq_error : ofString text order = .error fault ↔
    (ofToml? text = none ∧ fault = .malformed) ∨
      ∃ rules, ofToml? text = some rules ∧ rules.validate order = .error fault := by
  unfold ofString
  cases ofToml? text with
  | none => simp [eq_comm]
  | some rules => cases hvalidate : rules.validate order <;> simp [hvalidate, Except.map]

/-- What loading a file, or none, comes to. -/
inductive LoadsTo (order : KeyOrder) : Option FileContent → Except Fault Rules → Prop
  | builtIn : LoadsTo order none (.ok standard)
  | unreadable {f : FileFault} : LoadsTo order (some (.error f)) (.error (.file f))
  | notUtf8 {bytes : ByteArray} : (∀ s : String, s.toUTF8 ≠ bytes) →
      LoadsTo order (some (.ok bytes)) (.error (.file .notUtf8))
  | malformed {text : String} : (∀ rules : Rules, ¬rules.WrittenIn text) →
      LoadsTo order (some (.ofString text)) (.error (.rules .malformed))
  | refused {text : String} {rules : Rules} {fault : RulesFault} : rules.WrittenIn text →
      rules.validate order = .error fault →
        LoadsTo order (some (.ofString text)) (.error (.rules fault))
  | loaded {text : String} {rules : Rules} : rules.WrittenIn text → rules.Acceptable →
      LoadsTo order (some (.ofString text)) (.ok rules)

theorem loadsTo_load (content : Option FileContent) (order : KeyOrder) :
    LoadsTo order content (load content order) := by
  cases h : load content order with
  | ok rules =>
    rcases load_eq_ok.mp h with ⟨rfl, rfl⟩ | ⟨file, text, rfl, htext, hrules⟩
    · exact .builtIn
    · obtain rfl := FileContent.text_eq_ok.mp htext
      obtain ⟨hwritten, hvalid⟩ := ofString_eq_ok.mp hrules
      exact .loaded (ofToml?_eq_some.mp hwritten) (validate_eq_ok.mp hvalid)
  | error fault =>
    obtain ⟨file, rfl, ⟨f, hf, rfl⟩ | ⟨text, f, htext, hf, rfl⟩⟩ := load_eq_error.mp h
    · rcases FileContent.text_eq_error.mp hf with rfl | ⟨bytes, rfl, hbytes, rfl⟩
      · exact .unreadable
      · exact .notUtf8 hbytes
    · obtain rfl := FileContent.text_eq_ok.mp htext
      rcases ofString_eq_error.mp hf with ⟨hnone, rfl⟩ | ⟨rules, hrules, hfault⟩
      · refine .malformed fun rules hwritten => ?_
        rw [ofToml?_eq_some.mpr hwritten] at hnone
        contradiction
      · exact .refused (ofToml?_eq_some.mp hrules) hfault

theorem LoadsTo.eq_load {result : Except Fault Rules} (h : LoadsTo order content result) :
    load content order = result := by
  cases h with
  | builtIn => rfl
  | unreadable => rfl
  | notUtf8 hbytes =>
    have htext := FileContent.text_eq_error.mpr (.inr ⟨_, rfl, hbytes, rfl⟩)
    exact load_eq_error.mpr ⟨_, rfl, .inl ⟨_, htext, rfl⟩⟩
  | @malformed text hnone =>
    have htoml : ofToml? text = none :=
      Option.eq_none_iff_forall_ne_some.mpr fun rules h => hnone rules (ofToml?_eq_some.mp h)
    rw [load_ofString, ofString_eq_error.mpr (.inl ⟨htoml, rfl⟩)]
    rfl
  | @refused text rules fault hwritten hfault =>
    have hstring := ofString_eq_error.mpr (.inr ⟨rules, ofToml?_eq_some.mpr hwritten, hfault⟩)
    rw [load_ofString, hstring]
    rfl
  | @loaded text rules hwritten hrules =>
    have hstring : ofString text order = .ok rules :=
      ofString_eq_ok.mpr ⟨ofToml?_eq_some.mpr hwritten, validate_eq_ok.mpr hrules⟩
    rw [load_ofString, hstring]
    rfl

theorem load_eq_iff {result : Except Fault Rules} :
    load content order = result ↔ LoadsTo order content result := by
  constructor
  · rintro rfl
    exact loadsTo_load content order
  · exact LoadsTo.eq_load

example : load (some (.ofString "prerelease_names = 1979-05-27")) .ascending =
    .error (.rules (.unknownMarker Toml.momentKey)) := by decide +kernel

/-- Validation passes exactly the acceptable rules, and of others it reports the first fault, in
which a marker is one of the table, and under some order of the keys any of them. Loading gives the
built-in rules without a file, and else the rules that the text of the file has, if they pass. It
fails if there is no text, if the text is no document with fields of the right types, or with the
fault that validation reports, and never with another kind of fault. -/
theorem load_acceptable (rules : Rules) (content : Option FileContent) (order : KeyOrder) :
    (rules.validate order = .ok () ↔ rules.Acceptable) ∧
    (∀ fault, rules.validate order = .error fault → rules.HasFault fault) ∧
    (∀ fault, rules.HasFault fault → ∃ order', rules.validate order' = .error fault) ∧
    (∀ key, (Fault.rules (.unknownMarker key)).message = "Configuration error: " ++
      ("unknown pre-release marker '" ++ key ++
        "' in prerelease_names (expected a, b or rc)")) ∧
    (∀ result, load content order = result ↔ LoadsTo order content result) ∧
    (∀ fault, load content order = .error fault →
      (∃ f, fault = .file f) ∨ ∃ f, fault = .rules f) ∧
    ∀ loaded, load content order = .ok loaded → loaded.validate order = .ok () := by
  refine ⟨validate_eq_ok, fun _ => .of_validate, fun _ => HasFault.exists_order, fun _ => rfl,
    fun _ => load_eq_iff, ?_, fun _ => validate_of_load⟩
  intro fault h
  cases load_eq_iff.mp h with
  | unreadable => exact .inl ⟨_, rfl⟩
  | notUtf8 _ => exact .inl ⟨_, rfl⟩
  | malformed _ => exact .inr ⟨_, rfl⟩
  | refused _ _ => exact .inr ⟨_, rfl⟩

/-- Rules with three faults, a file with two, a field of the wrong type, and a file that is loaded
though it leaves no prefix. -/
theorem load_acceptable_several :
    let rules : Rules := ⟨["v", ""], .ofList [("dev", "x")], "\u3000"⟩
    let faulty := FileContent.ofString "output_key = '\u3000'\n[prerelease_names]\ndev = 'x'"
    let loaded : Rules := { standard with prefixes := [] }
    rules.validate .ascending = .error .emptyPrefix ∧ rules.HasFault .emptyPrefix ∧
      LoadsTo .ascending (some faulty) (.error (.rules .blankOutputKey)) ∧
      LoadsTo .ascending (some (.ofString "output_key = 1")) (.error (.rules .malformed)) ∧
      load (some (.ofString "prefixes = []")) .ascending = .ok loaded ∧
      loaded.validate .ascending = .ok () := by
  intro rules faulty loaded
  have hrules : rules.validate .ascending = .error .emptyPrefix := by decide
  have hfaulty : load (some faulty) .ascending = .error (.rules .blankOutputKey) := by
    decide +kernel
  have htype : load (some (.ofString "output_key = 1")) .ascending =
      .error (.rules .malformed) := by decide +kernel
  have hloaded : load (some (.ofString "prefixes = []")) .ascending = .ok loaded := by
    decide +kernel
  obtain ⟨-, hfault, -, -, hiff, -, -⟩ := load_acceptable rules (some faulty) .ascending
  obtain ⟨-, -, -, -, hwrong, -, -⟩ :=
    load_acceptable rules (some (.ofString "output_key = 1")) .ascending
  obtain ⟨-, -, -, -, -, -, hvalid⟩ :=
    load_acceptable rules (some (.ofString "prefixes = []")) .ascending
  exact ⟨hrules, hfault _ hrules, (hiff _).mp hfaulty, (hwrong _).mp htype, hloaded,
    hvalid loaded hloaded⟩

end Rules
end BranchVersion
