import BranchVersion.Proofs.CommandLine
import BranchVersion.Proofs.OutputLine

/-!
How a run of the program ends. What it comes to is settled without the log filter: a text for the
output stream, or a fault. The exit code says which of them it is, and a fault leaves the output
stream empty.
-/
namespace BranchVersion

def Exit.ofTraced (log : Option String) (t : Traced String) : Exit :=
  match t.result with
  | .error fault => ⟨1, "", Program.logText log t.events ++ fault.message ++ "\n"⟩
  | .ok text => ⟨0, text, Program.logText log t.events⟩

def Invocation.ofRequest (file : String → FileContent) (config : Option String)
    (branches : List String) : Invocation :=
  ⟨branches, config.map fun path => ⟨path, file path⟩⟩

theorem Invocation.path_ofRequest (file : String → FileContent) (config : Option String)
    (branches : List String) :
    (ofRequest file config branches).rulesFile.map RulesFile.path = config := by
  cases config <;> rfl

theorem Invocation.content_ofRequest (file : String → FileContent) (config : Option String)
    (branches : List String) :
    (ofRequest file config branches).rulesFile.map RulesFile.content = config.map file := by
  cases config <;> rfl

/-- The exit of an invocation. Its output line gets a line end. -/
def Invocation.exit (i : Invocation) (log : Option String) (order : KeyOrder) : Exit :=
  Exit.ofTraced log ((i.run order).map fun o => o.line ++ "\n")

namespace Program

/-- What a run comes to under any log filter. -/
def course (file : String → FileContent) (args : List String) (order : KeyOrder) :
    Traced String :=
  match Request.read args with
  | .error refusal => ⟨[.refused refusal.message], .error .notOneBranch⟩
  | .ok .help => ⟨[], .ok Request.helpText⟩
  | .ok (.resolve config branches) =>
    ((Invocation.ofRequest file config branches).run order).map fun o => o.line ++ "\n"

theorem run_eq_ofTraced (env : Environment) (args : List String) (order : KeyOrder) :
    run env args order = Exit.ofTraced env.log (course env.file args order) := by
  unfold run course
  cases Request.read args with
  | error refusal => rfl
  | ok request =>
    cases request with
    | help => rfl
    | resolve config branches =>
      simp only [Exit.ofTraced, Traced.map, Invocation.ofRequest]
      cases (Invocation.run
          ⟨branches, config.map fun path => ⟨path, env.file path⟩⟩ order).result <;>
        rfl

theorem logText_unset (events : List Event) : logText none events = "" := by
  have hnone : shown none events = [] :=
    List.filter_eq_nil_iff.mpr fun e _ => by simp [LogFilter.shows_unset]
  rw [logText, hnone]
  rfl

variable {env : Environment} {config : Option String} {opts rest args : List String}
variable {order : KeyOrder}

/-- With the option `config` or without it, and then a separator, a name without a hyphen in front,
or nothing, all further arguments are branch names. -/
theorem run_append (hopts : Options.Gives config opts)
    (hrest : ∀ first ∈ rest.head?, first = "--" ∨ ¬Text.StartsWith first "-") :
    run env (opts ++ rest) order =
      (Invocation.ofRequest env.file config (Request.branchesOf rest)).exit env.log order := by
  have hread : Request.read (opts ++ rest) = .ok (.resolve config (Request.branchesOf rest)) :=
    Request.read_eq_ok.mpr ⟨config, opts, rest, rfl, hopts, Request.asks_branchesOf hrest⟩
  rw [run_eq_ofTraced, course, hread]
  rfl

/-- A run with the option `config` in a usual spelling, or without it, is the invocation with this
file and the branch names behind it. The spelling does not matter. Behind the first branch name
nothing is an option, and behind a separator not even the first one is. -/
theorem run_of_options (env : Environment) (order : KeyOrder)
    (hopts : opts ∈ Options.spellings config)
    (hfile : ∀ file ∈ config, file ≠ "" ∧ ¬Text.StartsWith file "-")
    (hrest : ∀ first ∈ rest.head?, first = "--" ∨ ¬Text.StartsWith first "-") :
    let i := Invocation.ofRequest env.file config (Request.branchesOf rest)
    run env (opts ++ rest) order = i.exit env.log order ∧
    (∀ o, (i.run order).result = .ok o →
      i.exit env.log order = ⟨0, o.line ++ "\n", logText env.log (i.run order).events⟩) ∧
    (∀ fault, (i.run order).result = .error fault →
      i.exit env.log order =
        ⟨1, "", logText env.log (i.run order).events ++ fault.message ++ "\n"⟩) ∧
    (env.log = none → logText env.log (i.run order).events = "") ∧
    (∀ opts' ∈ Options.spellings config,
      run env (opts' ++ rest) order = run env (opts ++ rest) order) ∧
    (∀ first more, ¬Text.StartsWith first "-" → run env (opts ++ first :: more) order =
      (Invocation.ofRequest env.file config (first :: more)).exit env.log order) ∧
    ∀ name, run env (opts ++ ["--", name]) order =
      (Invocation.ofRequest env.file config [name]).exit env.log order := by
  intro i
  have hgives {opts : List String} (h : opts ∈ Options.spellings config) :
      Options.Gives config opts := Options.gives_of_mem_spellings h hfile
  refine ⟨run_append (hgives hopts) hrest, ?_, ?_, ?_, ?_, ?_, ?_⟩
  · intro o ho
    simp [Invocation.exit, Exit.ofTraced, Traced.map, ho, Except.map]
  · intro fault hfault
    simp [Invocation.exit, Exit.ofTraced, Traced.map, hfault, Except.map]
  · intro hlog
    rw [hlog, logText_unset]
  · intro opts' hopts'
    rw [run_append (hgives hopts') hrest, run_append (hgives hopts) hrest]
  · intro first more hfirst
    have hnames : Request.branchesOf (first :: more) = first :: more := by
      have hne : first ≠ "--" := by
        rintro rfl
        exact hfirst ⟨"-", rfl⟩
      simp [Request.branchesOf, hne]
    rw [run_append (hgives hopts) (by simp [hfirst]), hnames]
  · intro name
    exact run_append (hgives hopts) (by simp)

/-- Behind the separator the letter for help is a branch name, and the file is read. -/
theorem run_of_options_letter :
    let env : Environment := ⟨fun _ => .ofString "output_key = 'tag'", some "debug"⟩
    ["--config=r.toml"] ∈ Options.spellings (some "r.toml") ∧ "r.toml" ≠ "" ∧
      ¬Text.StartsWith "r.toml" "-" ∧
      run env (["--config=r.toml"] ++ ["--", "-h"]) .ascending =
        ⟨0, "::set-output name=tag::-h\n", "DEBUG loaded resolver configuration path=r.toml\n" ++
          "DEBUG no recognized prefix, passing through branch=-h\n"⟩ ∧
      run env (["-c", "r.toml"] ++ ["--", "-h"]) .ascending =
        run env (["--config=r.toml"] ++ ["--", "-h"]) .ascending := by
  intro env
  have hopts : ["--config=r.toml"] ∈ Options.spellings (some "r.toml") := by decide
  have hhyphen : ¬Text.StartsWith "r.toml" "-" := by
    rw [← Text.stripStart?_eq_none]
    rfl
  have hfile : ∀ file ∈ some "r.toml", file ≠ "" ∧ ¬Text.StartsWith file "-" := by
    intro file hfile
    obtain rfl : "r.toml" = file := Option.some.inj hfile
    exact ⟨by decide, hhyphen⟩
  have hrest : ∀ first ∈ ["--", "-h"].head?, first = "--" ∨ ¬Text.StartsWith first "-" := by simp
  obtain ⟨hrun, -, -, -, hspelling, -, -⟩ := run_of_options env .ascending hopts hfile hrest
  have hexit : (Invocation.ofRequest env.file (some "r.toml") ["-h"]).exit env.log .ascending =
      ⟨0, "::set-output name=tag::-h\n", "DEBUG loaded resolver configuration path=r.toml\n" ++
        "DEBUG no recognized prefix, passing through branch=-h\n"⟩ := by decide +kernel
  exact ⟨hopts, by decide, hhyphen, hrun.trans hexit, hspelling ["-c", "r.toml"] (by decide)⟩

theorem run_of_error (env : Environment) {fault : Fault}
    (h : (course env.file args order).result = .error fault) :
    run env args order =
      ⟨1, "", logText env.log (course env.file args order).events ++ fault.message ++ "\n"⟩ := by
  rw [run_eq_ofTraced, Exit.ofTraced, h]

theorem run_of_ok (env : Environment) {text : String}
    (h : (course env.file args order).result = .ok text) :
    run env args order = ⟨0, text, logText env.log (course env.file args order).events⟩ := by
  rw [run_eq_ofTraced, Exit.ofTraced, h]

theorem run_code_eq_zero : (run env args order).code = 0 ↔
    ∃ text, (course env.file args order).result = .ok text := by
  rw [run_eq_ofTraced, Exit.ofTraced]
  cases (course env.file args order).result <;> simp

end Program

end BranchVersion
