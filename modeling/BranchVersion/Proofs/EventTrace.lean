import BranchVersion.Proofs.RunOrder
import BranchVersion.Proofs.Surroundings

/-!
The events of a run and what they tell. A wrong count of branch names is the only event where it
occurs. With one name, an event for the file of rules comes first if one is named and loaded, and
then one for the resolution if there is one, so that a run ends well exactly when its last event is
about a resolution.
-/
namespace BranchVersion

/-- The event tells what the name resolves to: the name itself, and the remainder or the version
that has come of it. -/
inductive Event.Tells (name : String) : Resolution → Event → Prop
  | unprefixed : Tells name (.unprefixed name) (.unprefixed name)
  | unmatched {rest : String} : Tells name (.unmatched rest) (.unmatched name rest)
  | normalized {v : Version} {version : String} :
      Tells name (.normalized v version) (.normalized name version)

def Event.IsResolution (e : Event) : Prop := ∃ name r, Tells name r e

theorem Rules.Resolves.tells {rules : Rules} {branch : Branch} {r : Resolution}
    (h : rules.Resolves branch.name r) : Event.Tells branch.name r (r.event branch) := by
  cases h with
  | unprefixed _ => exact .unprefixed
  | unmatched _ _ => exact .unmatched
  | normalized _ _ => exact .normalized

namespace Invocation

/-- What a resolution is told by comes from the branch name of the run. -/
theorem run_tells {raw : String} {file : Option RulesFile} {order : KeyOrder} {rules : Rules}
    {r : Resolution} (h : Rules.load (file.map RulesFile.content) order = .ok rules)
    (hr : rules.resolve raw = .ok r) : ∃ e, Event.Tells (Text.trim raw) r e ∧
      run ⟨[raw], file⟩ order =
        ⟨loadEvents (file.map RulesFile.path) ++ [e], .ok ⟨r, rules.outputLine r⟩⟩ := by
  obtain ⟨branch, hname, hrun⟩ := run_eq_of_resolve h hr
  obtain ⟨-, hresolves⟩ := Rules.resolve_eq_ok.mp hr
  rw [← hname] at hresolves ⊢
  exact ⟨r.event branch, hresolves.tells, hrun⟩

private theorem not_isResolution_branchCount (n : Nat) : ¬(Event.branchCount n).IsResolution := by
  rintro ⟨_, _, h⟩
  cases h

private theorem not_isResolution_loadEvents {path : Option String} :
    ∀ e ∈ (loadEvents path).getLast?, ¬e.IsResolution := by
  cases path with
  | none => simp [loadEvents]
  | some path =>
    rintro _ ⟨⟩ ⟨_, _, h⟩
    cases h

/-- An event about a resolution can only be the last one, and is there just if all goes well. -/
theorem exists_run_ok {i : Invocation} {order : KeyOrder} :
    (∃ o, (i.run order).result = .ok o) ↔
      ∃ e ∈ (i.run order).events.getLast?, e.IsResolution := by
  -- A run ends at the count, at loading, at a blank name or with a resolution.
  by_cases hcount : i.branches.length = 1
  · obtain ⟨branches, file⟩ := i
    obtain ⟨raw, rfl⟩ := List.length_eq_one_iff.mp hcount
    cases hload : Rules.load (file.map RulesFile.content) order with
    | error fault => simp [run_eq_of_load_error hload]
    | ok rules =>
      by_cases hblank : Text.AllBlank raw
      · rw [run_eq_of_blank hload hblank]
        simpa using not_isResolution_loadEvents
      · obtain ⟨r, hr⟩ := rules.exists_resolve hblank
        obtain ⟨e, he, hrun⟩ := run_tells hload hr
        rw [hrun]
        simpa using ⟨_, _, he⟩
  · rw [run_eq_of_count hcount]
    simpa using not_isResolution_branchCount _

end Invocation

namespace Program

variable {env : Environment} {args branches : List String} {config : Option String}
  {order : KeyOrder}

def shownEvents (env : Environment) (args : List String) (order : KeyOrder) : List Event :=
  shown env.log (course env.file args order).events

private theorem shownEvents_of_all (hall : ∀ e, (LogFilter.ofSetting env.log).shows e = true) :
    shownEvents env args order = (course env.file args order).events :=
  List.filter_eq_self.mpr fun e _ => hall e

private theorem course_of_read {file : String → FileContent}
    (h : Request.read args = .ok (.resolve config branches)) :
    course file args order =
      ((Invocation.ofRequest file config branches).run order).map fun o => o.line ++ "\n" := by
  rw [course, h]

/-- A log that shows all events, in a run that is neither refused nor asks for help, shows the count
of branch names alone if it is not one. Else it shows that the file of rules is loaded, if one is
named and is, and then, unless loading fails or the name is blank, one event that tells the
resolution. The exit code is 0 exactly when the last event is about a resolution. -/
theorem run_trace (order : KeyOrder) (hread : Request.read args = .ok (.resolve config branches))
    (hall : ∀ e, (LogFilter.ofSetting env.log).shows e = true) :
    (run env args order).err =
      eventText (shownEvents env args order) ++ (run ⟨env.file, none⟩ args order).err ∧
    (branches.length ≠ 1 → shownEvents env args order = [.branchCount branches.length]) ∧
    (∀ raw, branches = [raw] →
      (∀ fault, Rules.load (config.map env.file) order = .error fault →
        shownEvents env args order = []) ∧
      ∀ rules, Rules.load (config.map env.file) order = .ok rules →
        (Text.AllBlank raw → shownEvents env args order = Invocation.loadEvents config) ∧
        (¬Text.AllBlank raw → ∃ r e, rules.resolve raw = .ok r ∧ Event.Tells (Text.trim raw) r e ∧
          shownEvents env args order = Invocation.loadEvents config ++ [e])) ∧
    ((run env args order).code = 0 ↔
      ∃ e ∈ (shownEvents env args order).getLast?, e.IsResolution) := by
  have hcourse : course env.file args order =
      ((Invocation.ofRequest env.file config branches).run order).map fun o => o.line ++ "\n" :=
    course_of_read hread
  have hshown : shownEvents env args order =
      ((Invocation.ofRequest env.file config branches).run order).events := by
    rw [shownEvents_of_all hall, hcourse]
    rfl
  have hpath := Invocation.path_ofRequest env.file config branches
  have hcontent := Invocation.content_ofRequest env.file config branches
  refine ⟨?_, ?_, ?_, ?_⟩
  · exact (run_of_log env.file env.log args order).2.2
  · intro hcount
    rw [hshown, Invocation.run_eq_of_count hcount]
    rfl
  · rintro raw rfl
    rw [Invocation.ofRequest] at hpath hcontent
    rw [hshown, Invocation.ofRequest, ← hcontent]
    refine ⟨?_, ?_⟩
    · intro fault hload
      rw [Invocation.run_eq_of_load_error hload]
    · intro rules hload
      refine ⟨?_, ?_⟩
      · intro hblank
        rw [Invocation.run_eq_of_blank hload hblank, hpath]
      · intro hblank
        obtain ⟨r, hr⟩ := rules.exists_resolve hblank
        obtain ⟨e, he, hrun⟩ := Invocation.run_tells hload hr
        exact ⟨r, e, hr, he, by rw [hrun, hpath]⟩
  · rw [run_code_eq_zero, hshown, ← Invocation.exists_run_ok, hcourse]
    cases h : ((Invocation.ofRequest env.file config branches).run order).result <;>
      simp [Traced.map, h, Except.map]

/-- Two branch names, and a name with a known prefix under rules from a file, with the level in
capitals. -/
theorem run_trace_remainder :
    let env : Environment := ⟨fun _ => .ofString "output_key = 'tag'", some "TRACE"⟩
    let args := ["-c", "r.toml", " v01"]
    (∀ e, (LogFilter.ofSetting env.log).shows e = true) ∧
      Request.read ["v1", "v2"] = .ok (.resolve none ["v1", "v2"]) ∧
      shownEvents env ["v1", "v2"] .ascending = [.branchCount 2] ∧
      Request.read args = .ok (.resolve (some "r.toml") [" v01"]) ∧
      shownEvents env args .ascending = [.rulesLoaded "r.toml", .unmatched "v01" "01"] ∧
      (run env args .ascending).err = "DEBUG loaded resolver configuration path=r.toml\n" ++
        "DEBUG not a short-form version, passing through branch=v01 stripped=\"01\"\n" ∧
      (run env args .ascending).code = 0 := by
  intro env args
  have hall : ∀ e, (LogFilter.ofSetting env.log).shows e = true := by
    intro e
    exact LogFilter.shows_level (l := .trace) (by decide) (by decide) e
  have htwo : Request.read ["v1", "v2"] = .ok (.resolve none ["v1", "v2"]) := by decide
  have hread : Request.read args = .ok (.resolve (some "r.toml") [" v01"]) := by decide
  have hload : Rules.load ((some "r.toml").map env.file) .ascending =
      .ok { Rules.standard with outputKey := "tag" } := by decide +kernel
  have hname : ¬Text.AllBlank " v01" := by decide
  obtain ⟨hlines, -, hone, hexit⟩ := run_trace .ascending hread hall
  obtain ⟨r, e, hr, he, hshown⟩ := ((hone " v01" rfl).2 _ hload).2 hname
  have hevent : e = .unmatched "v01" "01" := by
    have hresolve : Rules.resolve { Rules.standard with outputKey := "tag" } " v01" =
        .ok (.unmatched "01") := by decide
    obtain rfl : Resolution.unmatched "01" = r := Except.ok.inj (hresolve.symm.trans hr)
    cases he
    rfl
  have hevents : shownEvents env args .ascending =
      [.rulesLoaded "r.toml", .unmatched "v01" "01"] := by
    rw [hshown, hevent]
    rfl
  refine ⟨hall, htwo, (run_trace .ascending htwo hall).2.1 (by decide), hread, hevents, ?_, ?_⟩
  · rw [hlines, hevents]
    decide +kernel
  · rw [hexit, hevents]
    exact ⟨_, rfl, _, _, .unmatched⟩

end Program

end BranchVersion
