import BranchVersion.Invocation
import BranchVersion.Proofs.Outcome

/-!
When the output line of a run is a single line. Nothing is escaped on the way to it, so a line break
in the output key, in a text that passes through or in a long name is one in the output, and there
are no others.
-/
namespace BranchVersion

def Text.OneLine (s : String) : Prop := '\n' ∉ s.toList ∧ '\r' ∉ s.toList

instance (s : String) : Decidable (Text.OneLine s) := inferInstanceAs (Decidable (_ ∧ _))

namespace Text

theorem oneLine_append {s t : String} : OneLine (s ++ t) ↔ OneLine s ∧ OneLine t := by
  simp only [OneLine, String.toList_append, List.mem_append, not_or]
  tauto

private theorem oneLine_of_not_blank {s : String} (h : ∀ c ∈ s.toList, isBlank c = false) :
    OneLine s := by
  constructor <;> intro hc <;> exact absurd (h _ hc) (by decide)

end Text

theorem Numeral.oneLine_text (n : Numeral) : Text.OneLine n.text := by
  refine Text.oneLine_of_not_blank fun c hc => ?_
  rw [text, String.toList_ofList] at hc
  exact Text.isBlank_of_isDigit (n.isDigit_of_mem_digits c hc)

/-- Digits, dots and the hyphen break no line. -/
theorem Version.oneLine_render (v : Version) (names : NameTable) :
    Text.OneLine (v.render names) ↔
      ∀ p, v.prerelease = some p → Text.OneLine (p.stage.longNameIn names) := by
  have hdot : Text.OneLine "." := by simp [Text.OneLine]
  have hhyphen : Text.OneLine "-" := by simp [Text.OneLine]
  unfold render writeOut
  cases hp : v.prerelease with
  | none => simp [Text.oneLine_append, Numeral.oneLine_text, hdot]
  | some p => simp [Text.oneLine_append, Numeral.oneLine_text, hdot, hhyphen]

theorem oneLine_setOutput {key value : String} :
    Text.OneLine (setOutput key value) ↔ Text.OneLine key ∧ Text.OneLine value := by
  have hcommand : Text.OneLine "::set-output name=" := by simp [Text.OneLine]
  have hcolons : Text.OneLine "::" := by simp [Text.OneLine]
  unfold setOutput
  rw [Text.oneLine_append, Text.oneLine_append, Text.oneLine_append]
  constructor
  · rintro ⟨⟨⟨-, hkey⟩, -⟩, hvalue⟩
    exact ⟨hkey, hvalue⟩
  · rintro ⟨hkey, hvalue⟩
    exact ⟨⟨⟨hcommand, hkey⟩, hcolons⟩, hvalue⟩

namespace Rules

variable {rules : Rules} {name : String} {r : Resolution}

/-- The parts of a resolution that come from outside: the text that passes through, or the long
name. -/
def LetsPass (rules : Rules) : Resolution → String → Prop
  | .unprefixed name, s => s = name
  | .unmatched rest, s => s = rest
  | .normalized v _, s => ∃ p, v.prerelease = some p ∧ s = p.stage.longNameIn rules.names

theorem Resolves.oneLine_version (h : rules.Resolves name r) :
    Text.OneLine r.version ↔ ∀ s, rules.LetsPass r s → Text.OneLine s := by
  cases h with
  | unprefixed _ => simp [Resolution.version, LetsPass]
  | unmatched _ _ => simp [Resolution.version, LetsPass]
  | @normalized _ _ v _ _ =>
    rw [Resolution.version, v.oneLine_render]
    simp only [LetsPass]
    constructor
    · rintro h _ ⟨p, hp, rfl⟩
      exact h p hp
    · exact fun h p hp => h _ ⟨p, hp, rfl⟩

/-- What passes through is a part of the name, so a name on one line lets no break through. -/
theorem Resolves.oneLine_of_name (h : rules.Resolves name r) (hname : Text.OneLine name)
    (hnames : ∀ stage : Stage, Text.OneLine (stage.longNameIn rules.names)) :
    Text.OneLine r.version := by
  rw [h.oneLine_version]
  cases h with
  | unprefixed _ =>
    rintro _ rfl
    exact hname
  | unmatched hfirst _ =>
    rintro _ rfl
    rw [hfirst.1] at hname
    exact (Text.oneLine_append.mp hname).2
  | normalized _ _ =>
    rintro _ ⟨p, -, rfl⟩
    exact hnames p.stage

/-- Where the prefixes are on one line, a name that is not lets its break through. -/
theorem Resolves.oneLine_name (h : rules.Resolves name r) (hr : Text.OneLine r.version)
    (hprefixes : ∀ p ∈ rules.prefixes, Text.OneLine p) : Text.OneLine name := by
  cases h with
  | unprefixed _ => exact hr
  | unmatched hfirst _ =>
    rw [hfirst.1]
    exact Text.oneLine_append.mpr ⟨hprefixes _ hfirst.mem, hr⟩
  | normalized hfirst hv =>
    rw [hfirst.1]
    exact Text.oneLine_append.mpr ⟨hprefixes _ hfirst.mem, Text.oneLine_of_not_blank hv.not_isBlank⟩

end Rules

namespace Invocation

variable {i : Invocation} {order : KeyOrder} {o : Outcome}

theorem run_eq_ok : (i.run order).result = .ok o ↔
    ∃ raw rules r, i.branches = [raw] ∧
      Rules.load (i.rulesFile.map RulesFile.content) order = .ok rules ∧ rules.resolve raw = .ok r ∧
      o = ⟨r, rules.outputLine r⟩ := by
  obtain ⟨branches, file⟩ := i
  constructor
  · intro h
    obtain _ | ⟨raw, _ | ⟨other, more⟩⟩ := branches
    · simp [run] at h
    · rw [run_result] at h
      cases hload : Rules.load (file.map RulesFile.content) order with
      | error fault => simp [hload, Except.bind] at h
      | ok rules =>
        cases hr : rules.resolve raw with
        | error fault => simp [hload, hr, Except.bind, Except.map] at h
        | ok r =>
          have ho : o = ⟨r, rules.outputLine r⟩ := by
            simpa [hload, hr, Except.bind, Except.map] using h.symm
          exact ⟨raw, rules, r, rfl, rfl, hr, ho⟩
    · simp [run] at h
  · rintro ⟨raw, rules, r, rfl, hload, hr, rfl⟩
    rw [run_result, hload]
    exact congrArg (Except.map fun r => (⟨r, rules.outputLine r⟩ : Outcome)) hr

/-- The line of a run is a single line just if the output key and what the resolution lets pass are.
That is so whenever the branch name, the key and the long names are on one line, and under the
built-in rules only then. -/
theorem run_oneLine (h : (i.run order).result = .ok o) :
    ∃ raw rules, i.branches = [raw] ∧
      Rules.load (i.rulesFile.map RulesFile.content) order = .ok rules ∧
      (Text.OneLine o.line ↔ Text.OneLine rules.outputKey ∧
        ∀ s, rules.LetsPass o.resolution s → Text.OneLine s) ∧
      (Text.OneLine (Text.trim raw) → Text.OneLine rules.outputKey →
        (∀ stage : Stage, Text.OneLine (stage.longNameIn rules.names)) → Text.OneLine o.line) ∧
      (i.rulesFile = none → (Text.OneLine o.line ↔ Text.OneLine (Text.trim raw))) := by
  obtain ⟨raw, rules, r, hone, hload, hr, rfl⟩ := run_eq_ok.mp h
  obtain ⟨hblank, hr⟩ := Rules.resolve_eq_ok.mp hr
  refine ⟨raw, rules, hone, hload, ?_, ?_, ?_⟩
  · exact oneLine_setOutput.trans (and_congr_right fun _ => hr.oneLine_version)
  · intro hname hkey hnames
    exact oneLine_setOutput.mpr ⟨hkey, hr.oneLine_of_name hname hnames⟩
  · intro hfile
    obtain rfl : Rules.standard = rules := by simpa [hfile, Rules.load] using hload
    have hprefixes : ∀ p ∈ Rules.standard.prefixes, Text.OneLine p := by
      simp [Rules.standard, Text.OneLine]
    have hkey : Text.OneLine Rules.standard.outputKey := by simp [Rules.standard, Text.OneLine]
    have hnames (stage : Stage) : Text.OneLine (stage.longNameIn Rules.standard.names) := by
      cases stage <;> decide
    rw [Rules.outputLine, oneLine_setOutput]
    exact ⟨fun hline => hr.oneLine_name hline.2 hprefixes,
      fun hname => ⟨hkey, hr.oneLine_of_name hname hnames⟩⟩

/-- A line feed behind a prefix passes through, in spite of the version in front of it. -/
theorem run_oneLine_remainder :
    ∃ o, (run ⟨["v1.2\n 3"], none⟩ .ascending).result = .ok o ∧ ¬Text.OneLine o.line := by
  have hrun : (run ⟨["v1.2\n 3"], none⟩ .ascending).result =
      .ok ⟨.unmatched "1.2\n 3", setOutput "version" "1.2\n 3"⟩ := rfl
  obtain ⟨raw, rules, hraw, -, -, -, hbuiltin⟩ := run_oneLine hrun
  obtain rfl : "v1.2\n 3" = raw := by simpa using hraw
  exact ⟨_, hrun, fun hline => absurd ((hbuiltin rfl).mp hline) (by decide)⟩

/-- A branch name with a line feed inside makes two commands of one. -/
theorem run_two_commands :
    ∃ o, (run ⟨["main\n::set-output name=version::9.9.9"], none⟩ .ascending).result = .ok o ∧
      ¬Text.OneLine o.line ∧
      o.line = setOutput "version" "main" ++ "\n" ++ setOutput "version" "9.9.9" := by
  refine ⟨⟨.unprefixed "main\n::set-output name=version::9.9.9", _⟩, rfl, by decide, rfl⟩

end Invocation

end BranchVersion
