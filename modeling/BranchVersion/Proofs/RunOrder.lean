import BranchVersion.Proofs.OutputLine

/-!
The order in which a run looks at things. The count of branch names comes first, then the rules
file, and then the name itself, so that of several faults the earliest is reported. A name is
resolved with rules that have been validated, and no fault of a run is about a version.
-/
namespace BranchVersion

namespace Rules

variable {content : Option FileContent} {order : KeyOrder} {rules : Rules} {fault : Fault}

theorem ofString_eq_ok {text : String} : ofString text order = .ok rules ↔
    ofToml? text = some rules ∧ rules.validate order = .ok () := by
  unfold ofString
  cases ofToml? text with
  | none => simp
  | some written =>
    simp only [Option.some.injEq]
    constructor
    · intro h
      cases hv : written.validate order with
      | error fault => simp [hv, Except.map] at h
      | ok _ =>
        obtain rfl : written = rules := by simpa [hv, Except.map] using h
        exact ⟨rfl, hv⟩
    · intro h
      obtain ⟨rfl, hv⟩ := h
      rw [hv]
      rfl

theorem load_eq_ok : load content order = .ok rules ↔
    (content = none ∧ rules = standard) ∨
      ∃ file text, content = some file ∧ file.text = .ok text ∧
        ofString text order = .ok rules := by
  unfold load
  cases content with
  | none => simp [eq_comm]
  | some file =>
    cases htext : file.text with
    | error fault => simp [htext]
    | ok text => cases hrules : ofString text order <;> simp [htext, hrules, Except.mapError]

/-- Loading fails while the file is read or because of the rules in it. -/
theorem load_eq_error : load content order = .error fault ↔
    ∃ file, content = some file ∧
      ((∃ f, file.text = .error f ∧ fault = .file f) ∨
        ∃ text f, file.text = .ok text ∧ ofString text order = .error f ∧ fault = .rules f) := by
  unfold load
  cases content with
  | none => simp
  | some file =>
    cases htext : file.text with
    | error f => simp [htext, eq_comm]
    | ok text =>
      cases hrules : ofString text order <;> simp [htext, hrules, Except.mapError, eq_comm]

theorem exists_resolve (rules : Rules) {raw : String} (h : ¬Text.AllBlank raw) :
    ∃ r, rules.resolve raw = .ok r := by
  rw [← Text.trim_eq_empty] at h
  obtain ⟨r, hr⟩ := rules.exists_resolves h (Text.trim_trim raw)
  exact ⟨r, resolve_eq_ok.mpr ⟨h, hr⟩⟩

theorem validate_of_load (h : load content order = .ok rules) : rules.validate order = .ok () := by
  rcases load_eq_ok.mp h with ⟨-, rfl⟩ | ⟨_, _, -, -, hrules⟩
  · exact validate_standard order
  · exact (ofString_eq_ok.mp hrules).2

end Rules

namespace Invocation

variable {i : Invocation} {order : KeyOrder} {raw : String} {file : Option RulesFile}
  {rules : Rules} {fault : Fault}

def loadEvents (path : Option String) : List Event := (path.map Event.rulesLoaded).toList

private theorem loadTraced_of_error
    (h : Rules.load (file.map RulesFile.content) order = .error fault) :
    loadTraced order file = ⟨[], .error fault⟩ := by
  cases file with
  | none => simp [Rules.load] at h
  | some file =>
    rw [Option.map_some] at h
    simp only [loadTraced, h]

private theorem loadTraced_of_ok (h : Rules.load (file.map RulesFile.content) order = .ok rules) :
    loadTraced order file = ⟨loadEvents (file.map RulesFile.path), .ok rules⟩ := by
  cases file with
  | none =>
    rw [Option.map_none] at h
    simp only [loadTraced, h]
    rfl
  | some file =>
    rw [Option.map_some] at h
    simp only [loadTraced, h]
    rfl

theorem run_eq_of_count (h : i.branches.length ≠ 1) :
    i.run order = ⟨[.branchCount i.branches.length], .error .notOneBranch⟩ := by
  obtain ⟨branches, file⟩ := i
  rcases branches with _ | ⟨raw, _ | ⟨other, more⟩⟩
  · rfl
  · contradiction
  · rfl

theorem run_eq_of_load_error (h : Rules.load (file.map RulesFile.content) order = .error fault) :
    run ⟨[raw], file⟩ order = ⟨[], .error fault⟩ := by
  simp only [run, loadTraced_of_error h, Traced.bind]

/-- With rules at hand the events of the resolution follow that of loading. -/
theorem run_eq_of_load (h : Rules.load (file.map RulesFile.content) order = .ok rules) :
    run ⟨[raw], file⟩ order =
      ⟨loadEvents (file.map RulesFile.path) ++ (resolveTraced rules raw).events,
        (resolveTraced rules raw).result.map fun r => ⟨r, rules.outputLine r⟩⟩ := by
  simp only [run, loadTraced_of_ok h, Traced.bind, Traced.map]

theorem run_eq_of_blank (h : Rules.load (file.map RulesFile.content) order = .ok rules)
    (hblank : Text.AllBlank raw) :
    run ⟨[raw], file⟩ order =
      ⟨loadEvents (file.map RulesFile.path), .error .notOneBranch⟩ := by
  have hbranch : Branch.ofString? raw = none :=
    Branch.ofString?_eq_none.mpr (Text.trim_eq_empty.mpr hblank)
  have hresolve : resolveTraced rules raw = ⟨[], .error .notOneBranch⟩ := by
    simp only [resolveTraced, hbranch]
  rw [run_eq_of_load h, hresolve, List.append_nil]
  rfl

theorem run_eq_of_resolve {r : Resolution}
    (h : Rules.load (file.map RulesFile.content) order = .ok rules)
    (hr : rules.resolve raw = .ok r) : ∃ branch : Branch, branch.name = Text.trim raw ∧
      run ⟨[raw], file⟩ order = ⟨loadEvents (file.map RulesFile.path) ++ [r.event branch],
        .ok ⟨r, rules.outputLine r⟩⟩ := by
  obtain ⟨hne, hresolves⟩ := Rules.resolve_eq_ok.mp hr
  obtain ⟨branch, hname⟩ : ∃ branch : Branch, branch.name = Text.trim raw :=
    ⟨⟨Text.trim raw, Text.trim_trim raw, hne⟩, rfl⟩
  have hbranch : Branch.ofString? raw = some branch := Branch.ofString?_eq_some.mpr ⟨hne, hname⟩
  rw [← hname] at hresolves
  have hresolve : resolveTraced rules raw = ⟨[r.event branch], .ok r⟩ := by
    simp only [resolveTraced, hbranch, hresolves.eq_resolveBranch]
  refine ⟨branch, hname, ?_⟩
  rw [run_eq_of_load h, hresolve]
  rfl

/-- Without a usable result the count is wrong, or else loading fails, or else the name is blank. -/
theorem run_eq_error : (i.run order).result = .error fault ↔
    (i.branches.length ≠ 1 ∧ fault = .notOneBranch) ∨
      ∃ raw, i.branches = [raw] ∧
        (Rules.load (i.rulesFile.map RulesFile.content) order = .error fault ∨
          ∃ rules, Rules.load (i.rulesFile.map RulesFile.content) order = .ok rules ∧
            Text.AllBlank raw ∧ fault = .notOneBranch) := by
  by_cases hcount : i.branches.length = 1
  · obtain ⟨branches, file⟩ := i
    obtain ⟨raw, rfl⟩ := List.length_eq_one_iff.mp hcount
    cases hload : Rules.load (file.map RulesFile.content) order with
    | error f => simp [run_eq_of_load_error hload]
    | ok rules =>
      by_cases hblank : Text.AllBlank raw
      · simp [run_eq_of_blank hload hblank, hblank, eq_comm]
      · obtain ⟨r, hr⟩ := Rules.exists_resolve rules hblank
        obtain ⟨branch, -, hrun⟩ := run_eq_of_resolve hload hr
        simp [hrun, hblank]
  · have hnames : ∀ raw, i.branches ≠ [raw] := by
      intro raw h
      simp [h] at hcount
    simp [run_eq_of_count hcount, hcount, hnames, eq_comm]

/-- Without exactly one branch name a run ends there, whatever is wrong with the rules file. With
one it passes on the fault of loading, even if the name is blank. A blank name is refused under any
rules that are loaded, which are valid, and any other name is resolved with them and handed on under
their key. -/
theorem run_decision_order (i : Invocation) (order : KeyOrder) :
    (i.branches.length ≠ 1 → (i.run order).result = .error .notOneBranch) ∧
    (∀ raw, i.branches = [raw] →
      (∀ fault, Rules.load (i.rulesFile.map RulesFile.content) order = .error fault →
        (i.run order).result = .error fault) ∧
      ∀ rules, Rules.load (i.rulesFile.map RulesFile.content) order = .ok rules →
        rules.validate order = .ok () ∧
        (Text.AllBlank raw → (i.run order).result = .error .notOneBranch) ∧
        (¬Text.AllBlank raw → ∃ r, rules.resolve raw = .ok r ∧
          (i.run order).result =
            .ok ⟨r, "::set-output name=" ++ rules.outputKey ++ "::" ++ r.version⟩ ∧
          (i.rulesFile = none → versionOf raw = .ok r.version))) ∧
    ∀ fault, (i.run order).result ≠ .error (.version fault) := by
  refine ⟨?_, ?_, ?_⟩
  · intro hcount
    rw [run_eq_of_count hcount]
  · intro raw hraw
    obtain ⟨branches, file⟩ := i
    obtain rfl : branches = [raw] := hraw
    refine ⟨?_, ?_⟩
    · intro fault hload
      rw [run_eq_of_load_error hload]
    · intro rules hload
      refine ⟨Rules.validate_of_load hload, ?_, ?_⟩
      · intro hblank
        rw [run_eq_of_blank hload hblank]
      · intro hblank
        obtain ⟨r, hr⟩ := rules.exists_resolve hblank
        obtain ⟨branch, -, hrun⟩ := run_eq_of_resolve hload hr
        refine ⟨r, hr, ?_, ?_⟩
        · rw [hrun]
          rfl
        · intro hfile
          obtain rfl : file = none := hfile
          obtain rfl : Rules.standard = rules := Except.ok.inj hload
          rw [versionOf, hr]
          rfl
  · intro fault h
    rcases run_eq_error.mp h with ⟨-, hfault⟩ | ⟨raw, -, hload | ⟨_, -, -, hfault⟩⟩
    · simp at hfault
    · obtain ⟨_, -, ⟨_, -, hfault⟩ | ⟨_, _, -, -, hfault⟩⟩ := Rules.load_eq_error.mp hload
      · simp at hfault
      · simp at hfault
    · simp at hfault

/-- A blank name with a file that is no text, with an empty prefix in the rules and with valid
rules, and a name that is not blank with no file. -/
theorem run_decision_order_blank :
    let blank := "\u00a0\n"
    let binary : RulesFile := ⟨"r.toml", .ok ⟨#[255]⟩⟩
    let invalid : RulesFile := ⟨"r.toml", .ofString "prefixes = ['']"⟩
    let keyed : RulesFile := ⟨"r.toml", .ofString "output_key = 'tag'"⟩
    Text.AllBlank blank ∧
      (run ⟨[blank, blank], some binary⟩ .ascending).result = .error .notOneBranch ∧
      (run ⟨[blank], some binary⟩ .ascending).result = .error (.file .notUtf8) ∧
      (run ⟨[blank], some invalid⟩ .ascending).result = .error (.rules .emptyPrefix) ∧
      (run ⟨[blank], some keyed⟩ .ascending).result = .error .notOneBranch ∧
      ∃ r, versionOf "v1.2" = .ok r.version ∧ (run ⟨["v1.2"], none⟩ .ascending).result =
        .ok ⟨r, "::set-output name=" ++ Rules.standard.outputKey ++ "::" ++ r.version⟩ := by
  intro blank binary invalid keyed
  have hblank : Text.AllBlank blank := by decide
  have hbinary : Rules.load (some binary.content) .ascending = .error (.file .notUtf8) := by decide
  have hinvalid : Rules.load (some invalid.content) .ascending = .error (.rules .emptyPrefix) := by
    decide +kernel
  have hkeyed : Rules.load (some keyed.content) .ascending =
      .ok { Rules.standard with outputKey := "tag" } := by decide +kernel
  have hname : ¬Text.AllBlank "v1.2" := by decide
  refine ⟨hblank, ?_, ?_, ?_, ?_, ?_⟩
  · exact (run_decision_order ⟨[blank, blank], some binary⟩ .ascending).1 (by decide)
  · exact ((run_decision_order ⟨[blank], some binary⟩ .ascending).2.1 blank rfl).1 _ hbinary
  · exact ((run_decision_order ⟨[blank], some invalid⟩ .ascending).2.1 blank rfl).1 _ hinvalid
  · obtain ⟨-, hone, -⟩ := run_decision_order ⟨[blank], some keyed⟩ .ascending
    exact ((hone blank rfl).2 _ hkeyed).2.1 hblank
  · obtain ⟨r, -, hrun, hversion⟩ :=
      (((run_decision_order ⟨["v1.2"], none⟩ .ascending).2.1 "v1.2" rfl).2 _ rfl).2.2 hname
    exact ⟨r, hversion rfl, hrun⟩

end Invocation

end BranchVersion
