import BranchVersion.Proofs.Collisions
import BranchVersion.Proofs.Decimals
import BranchVersion.Proofs.SemVerPaths

/-!
The versions that the built-in rules can write. They are three decimals with dots between them, or
these with one of three long names and a fourth decimal behind them, and each belongs to one short
form, which is read with either built-in prefix. The decimals have any length.
-/
namespace BranchVersion

/-- The text `short` is the short form, with every number written, of the written-out text
`version`. -/
inductive Abbreviates : String → String → Prop
  | final {major minor micro : String} : Text.IsDecimal major → Text.IsDecimal minor →
      Text.IsDecimal micro →
      Abbreviates (major ++ "." ++ minor ++ "." ++ micro) (major ++ "." ++ minor ++ "." ++ micro)
  | pre {major minor micro marker long value : String} : Text.IsDecimal major →
      Text.IsDecimal minor → Text.IsDecimal micro →
      (marker, long) ∈ [("a", "alpha"), ("b", "beta"), ("rc", "rc")] → Text.IsDecimal value →
      Abbreviates (major ++ "." ++ minor ++ "." ++ micro ++ marker ++ value)
        (major ++ "." ++ minor ++ "." ++ micro ++ "-" ++ long ++ "." ++ value)

private theorem Stage.exists_names {marker long : String} :
    (∃ stage : Stage, stage.marker = marker ∧ stage.longName = long) ↔
      (marker, long) ∈ [("a", "alpha"), ("b", "beta"), ("rc", "rc")] := by
  constructor
  · intro h
    obtain ⟨stage, rfl, rfl⟩ := h
    cases stage <;> decide
  · intro h
    simp only [List.mem_cons, Prod.mk.injEq, List.not_mem_nil, or_false] at h
    rcases h with ⟨rfl, rfl⟩ | ⟨rfl, rfl⟩ | ⟨rfl, rfl⟩
    · exact ⟨.alpha, rfl, rfl⟩
    · exact ⟨.beta, rfl, rfl⟩
    · exact ⟨.candidate, rfl, rfl⟩

theorem Stage.longName_injective : Function.Injective longName := by
  intro s t h
  cases s <;> cases t <;> first | rfl | exact absurd h (by decide)

namespace Version

theorem text_injective : Function.Injective text := by
  intro v w h
  have hnames : Function.Injective fun stage : Stage => stage.longNameIn .standard := by
    simp only [Stage.longNameIn_standard]
    exact Stage.longName_injective
  rw [text_eq_render, text_eq_render] at h
  exact render_injective hnames h

private theorem shortForm_final (major minor micro : Numeral) :
    shortForm ⟨major, minor, micro, none⟩ =
    (major.text ++ "." ++ minor.text ++ "." ++ micro.text).toList := by
  simp [shortForm, Numeral.text]

private theorem shortForm_prerelease (major minor micro : Numeral) (p : Prerelease) :
    shortForm ⟨major, minor, micro, some p⟩ =
      (major.text ++ "." ++ minor.text ++ "." ++ micro.text ++
      p.stage.marker ++ p.value.text).toList := by
  simp [shortForm, Numeral.text, Prerelease.suffix]

/-- Each version is written out from its short form. -/
theorem abbreviates (v : Version) : Abbreviates (String.ofList v.shortForm) v.text := by
  obtain ⟨major, minor, micro, prerelease⟩ := v
  cases prerelease with
  | none =>
    rw [shortForm_final, String.ofList_toList]
    exact .final major.isDecimal_text minor.isDecimal_text micro.isDecimal_text
  | some p =>
    rw [shortForm_prerelease, String.ofList_toList]
    exact .pre major.isDecimal_text minor.isDecimal_text micro.isDecimal_text
      (Stage.exists_names.mp ⟨p.stage, rfl, rfl⟩) p.value.isDecimal_text

end Version

theorem Abbreviates.exists_version {short version : String} (h : Abbreviates short version) :
    ∃ v : Version, short.toList = v.shortForm ∧ version = v.text := by
  cases h with
  | final hmajor hminor hmicro =>
    obtain ⟨major, rfl⟩ := hmajor.exists_text
    obtain ⟨minor, rfl⟩ := hminor.exists_text
    obtain ⟨micro, rfl⟩ := hmicro.exists_text
    exact ⟨_, (Version.shortForm_final major minor micro).symm, rfl⟩
  | pre hmajor hminor hmicro hnames hvalue =>
    obtain ⟨major, rfl⟩ := hmajor.exists_text
    obtain ⟨minor, rfl⟩ := hminor.exists_text
    obtain ⟨micro, rfl⟩ := hmicro.exists_text
    obtain ⟨value, rfl⟩ := hvalue.exists_text
    obtain ⟨stage, rfl, rfl⟩ := Stage.exists_names.mpr hnames
    exact ⟨_, (Version.shortForm_prerelease major minor micro ⟨stage, value⟩).symm, rfl⟩

theorem Abbreviates.unique {short short' version : String} (h : Abbreviates short version)
    (h' : Abbreviates short' version) : short = short' := by
  obtain ⟨v, hshort, hversion⟩ := h.exists_version
  obtain ⟨w, hshort', hversion'⟩ := h'.exists_version
  obtain rfl := Version.text_injective (hversion.symm.trans hversion')
  exact String.toList_inj.mp (hshort.trans hshort'.symm)

namespace Rules

variable {start rest : String}

private theorem mem_prefixes_standard :
    start ∈ standard.prefixes ↔ start = "v" ∨ start = "release/" := by
  simp [standard]

/-- Neither built-in prefix is in the way of the other. -/
theorem firstMatch_standard (hstart : start ∈ standard.prefixes) (rest : String) :
    FirstMatch standard.prefixes (start ++ rest) start rest := by
  rcases mem_prefixes_standard.mp hstart with rfl | rfl
  · exact ⟨rfl, [], ["release/"], rfl, by simp⟩
  · refine ⟨rfl, ["v"], [], rfl, ?_⟩
    intro p hp
    obtain rfl : p = "v" := by simpa using hp
    intro h
    obtain ⟨rest', h⟩ := h
    have hhead := congrArg (·.toList.head?) h
    simp at hhead

private theorem not_isBlank_standard (hstart : start ∈ standard.prefixes) :
    ∀ c ∈ start.toList, Text.isBlank c = false := by
  have hall : start.toList.all (fun c => !Text.isBlank c) = true := by
    rcases mem_prefixes_standard.mp hstart with rfl | rfl
    · rfl
    · rfl
  simpa [List.all_eq_true] using hall

theorem remainder?_standard (hstart : start ∈ standard.prefixes)
    (hrest : ∀ c ∈ rest.toList, Text.isBlank c = false) :
    standard.remainder? (start ++ rest) = some rest := by
  have htight : Text.Tight (start ++ rest).toList := by
    apply Text.tight_of_not_blank
    rw [String.toList_append]
    exact List.forall_mem_append.mpr ⟨not_isBlank_standard hstart, hrest⟩
  have hne : start ++ rest ≠ "" := by
    rcases mem_prefixes_standard.mp hstart with rfl | rfl <;> simp
  rw [remainder?_eq_some, Text.trim_eq_self_iff.mpr htight]
  exact ⟨hne, start, firstMatch_standard hstart rest⟩

theorem resolve_standard_of_spells (hstart : start ∈ standard.prefixes) {v : Version}
    (h : v.Spells rest) : standard.resolve (start ++ rest) = .ok (.normalized v v.text) :=
  resolve_eq_normalized.mpr
    ⟨rest, remainder?_standard hstart h.not_isBlank, h, v.text_eq_render⟩

private theorem eq_text_of_standard {raw version : String} {v : Version}
    (h : standard.resolve raw = .ok (.normalized v version)) : version = v.text := by
  obtain ⟨_, _, _, hversion⟩ := resolve_eq_normalized.mp h
  exact hversion.trans v.text_eq_render.symm

/-- A text is a version that the built-in rules write out exactly when it is three decimals with
dots between them, or these with a long name and a fourth decimal behind. There is one short form of
it, and with either built-in prefix in front that is a branch whose version it is. -/
theorem standard_language (version : String) :
    ((∃ raw v, standard.resolve raw = .ok (.normalized v version)) ↔
      ∃ short, Abbreviates short version) ∧
    ∀ short, Abbreviates short version →
      (∀ short', Abbreviates short' version → short' = short) ∧
      ∀ start ∈ ["v", "release/"], ∃ v,
        standard.resolve (start ++ short) = .ok (.normalized v version) := by
  have hread : ∀ short, Abbreviates short version → ∀ start ∈ standard.prefixes, ∃ v,
      standard.resolve (start ++ short) = .ok (.normalized v version) := by
    intro short h start hstart
    obtain ⟨v, hshort, rfl⟩ := h.exists_version
    exact ⟨v, resolve_standard_of_spells hstart (.inl hshort)⟩
  refine ⟨⟨?_, ?_⟩, ?_⟩
  · intro h
    obtain ⟨raw, v, h⟩ := h
    rw [eq_text_of_standard h]
    exact ⟨String.ofList v.shortForm, v.abbreviates⟩
  · intro h
    obtain ⟨short, h⟩ := h
    obtain ⟨v, hv⟩ := hread short h "v" (mem_prefixes_standard.mpr (.inl rfl))
    exact ⟨"v" ++ short, v, hv⟩
  · intro short h
    exact ⟨fun short' h' => h'.unique h, hread short h⟩

/-- The first number and the number of the alpha have more digits than any machine word. -/
theorem standard_language_large :
    Abbreviates "18446744073709551616.0.7a340282366920938463463374607431768211456"
      "18446744073709551616.0.7-alpha.340282366920938463463374607431768211456" ∧
    ∃ v, standard.resolve
        "release/18446744073709551616.0.7a340282366920938463463374607431768211456" =
      .ok (.normalized v
        "18446744073709551616.0.7-alpha.340282366920938463463374607431768211456") := by
  have habbreviates : Abbreviates "18446744073709551616.0.7a340282366920938463463374607431768211456"
      "18446744073709551616.0.7-alpha.340282366920938463463374607431768211456" :=
    .pre (by decide : Text.IsDecimal "18446744073709551616") (by decide : Text.IsDecimal "0")
      (by decide : Text.IsDecimal "7") (by decide : ("a", "alpha") ∈ _)
      (by decide : Text.IsDecimal "340282366920938463463374607431768211456")
  exact ⟨habbreviates, ((standard_language _).2 _ habbreviates).2 "release/" (by simp)⟩

end Rules

end BranchVersion
