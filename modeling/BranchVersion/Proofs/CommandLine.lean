import BranchVersion.Program
import BranchVersion.Proofs.LogSettings
import BranchVersion.Proofs.Outcome

/-!
What command lines ask for. The option `config` comes at most once and in front of everything else.
Behind it stand the branch names, with a separator in front of them or without one, or a request for
help. From the first branch name on nothing is an option any more.
-/
namespace BranchVersion

private theorem Text.append_ne {s t : String} (h : ¬s.toList <+: t.toList) (rest : String) :
    s ++ rest ≠ t := by
  rintro rfl
  simp at h

namespace Argument

def IsLetters (s : String) : Prop := ∀ c ∈ s.toList, c = 'c' ∨ c = 'h'

/-- How everything is written that is not a branch name. -/
inductive Spells : Argument → String → Prop
  | separator : Spells .separator "--"
  | help : Spells .help "--help"
  | helpLetters {letters : String} : IsLetters letters → Spells .help ("-h" ++ letters)
  | helpWith (value : String) : Spells (.helpWith value) ("--help=" ++ value)
  | config : Spells .config "--config"
  | configLetter : Spells .config "-c"
  | configWith (value : String) : Spells (.configWith value) ("--config=" ++ value)
  | configLetters {value : String} : value ≠ "" → IsLetters value →
      Spells (.configWith value) ("-c" ++ value)

variable {arg : String} {kind : Argument}

/-- A group of letters has one hyphen in front of it, and everything else has two. -/
private theorem ofString_letters {c : Char} {letters : List Char} (hc : c ≠ '-')
    (h : arg.toList = '-' :: c :: letters) : ofString arg = ofLetters (c :: letters) := by
  have hlong {long : String} {rest : List Char} (hl : long.toList = '-' :: '-' :: rest) :
      arg ≠ long ∧ Text.stripStart? long arg = none := by
    constructor
    · rintro rfl
      rw [hl] at h
      exact hc (List.cons.inj (List.cons.inj h).2).1.symm
    · simp [Text.stripStart?, Text.after?, h, hl, hc.symm]
  unfold ofString
  rw [if_neg (hlong rfl).1, if_neg (hlong rfl).1, if_neg (hlong rfl).1, (hlong rfl).2,
    (hlong rfl).2]
  simp only [h]

private theorem spells_of_ofLetters {letters : List Char} (h : ofLetters letters ≠ .branch) :
    Spells (ofLetters letters) (String.ofList ('-' :: letters)) := by
  have hcons (c : Char) (rest : List Char) : String.ofList ('-' :: c :: rest) =
      String.ofList ['-', c] ++ String.ofList rest := by simp [← String.toList_inj]
  unfold ofLetters at h ⊢
  split at h
  · next hall =>
    have hletters : ∀ c ∈ letters, c = 'c' ∨ c = 'h' := by simpa [or_iff_not_imp_left] using hall
    rw [if_pos hall]
    split
    · next rest =>
      rw [hcons]
      apply Spells.helpLetters
      simpa [IsLetters] using hletters
    · exact .configLetter
    · next value hvalue =>
      rw [hcons]
      apply Spells.configLetters
      · simpa using hvalue
      · simpa [IsLetters] using hletters
    · simp_all
  · contradiction

private theorem spells_ofString (h : ofString arg ≠ .branch) : Spells (ofString arg) arg := by
  unfold ofString at h ⊢
  split
  · next harg => exact harg ▸ .separator
  split
  · next harg => exact harg ▸ .help
  split
  · next harg => exact harg ▸ .config
  split
  · next harg => exact Text.stripStart?_eq_some.mp harg ▸ .helpWith _
  · next harg => exact Text.stripStart?_eq_some.mp harg ▸ .configWith _
  split
  · next letters hlist =>
    have harg : arg = String.ofList ('-' :: letters) := by simp [← hlist]
    rw [harg]
    apply spells_of_ofLetters
    simp_all
  · simp_all

private theorem Spells.ofString_eq (h : Spells kind arg) : ofString arg = kind := by
  cases h with
  | separator => rfl
  | help => rfl
  | @helpLetters letters h =>
    have hlist : ("-h" ++ letters).toList = '-' :: 'h' :: letters.toList := by simp
    rw [ofString_letters (by decide) hlist]
    simpa [ofLetters, IsLetters, or_iff_not_imp_left] using h
  | helpWith value =>
    have hne {long : String} (hl : ¬"--help=".toList <+: long.toList) : "--help=" ++ value ≠ long :=
      Text.append_ne hl value
    have hstrip : Text.stripStart? "--help=" ("--help=" ++ value) = some value :=
      Text.stripStart?_eq_some.mpr rfl
    rw [ofString, if_neg (hne (by decide)), if_neg (hne (by decide)), if_neg (hne (by decide)),
      hstrip]
  | config => rfl
  | configLetter => rfl
  | configWith value =>
    have hne {long : String} (hl : ¬"--config=".toList <+: long.toList) :
        "--config=" ++ value ≠ long := Text.append_ne hl value
    have hhelp : Text.stripStart? "--help=" ("--config=" ++ value) = none := by
      simp [Text.stripStart?, Text.after?]
    have hstrip : Text.stripStart? "--config=" ("--config=" ++ value) = some value :=
      Text.stripStart?_eq_some.mpr rfl
    rw [ofString, if_neg (hne (by decide)), if_neg (hne (by decide)), if_neg (hne (by decide)),
      hhelp, hstrip]
  | @configLetters value hne h =>
    have hlist : ("-c" ++ value).toList = '-' :: 'c' :: value.toList := by simp
    rw [ofString_letters (by decide) hlist]
    simpa [ofLetters, hne, IsLetters, or_iff_not_imp_left] using h

/-- Everything that is not a branch name is recognised by how it is written. -/
theorem ofString_eq_iff (hkind : kind ≠ .branch) : ofString arg = kind ↔ Spells kind arg := by
  constructor
  · rintro rfl
    exact spells_ofString hkind
  · exact Spells.ofString_eq

private theorem Spells.startsWith (h : Spells kind arg) : Text.StartsWith arg "-" := by
  have hhead : ∃ rest, arg.toList = '-' :: rest := by cases h <;> simp
  obtain ⟨rest, hrest⟩ := hhead
  exact ⟨String.ofList rest, by simp [← String.toList_inj, hrest]⟩

private theorem ofString_of_not_hyphen (h : ¬Text.StartsWith arg "-") : ofString arg = .branch := by
  by_contra hkind
  exact h (spells_ofString hkind).startsWith

end Argument

/-- The option `config` with its value. A value in an argument of its own has to look like a branch
name. -/
inductive Options.Gives : Option String → List String → Prop
  | nothing : Gives none []
  | apart {option value : String} : Argument.Spells .config option →
      Argument.ofString value = .branch → value ≠ "" → Gives (some value) [option, value]
  | joined {arg value : String} : Argument.Spells (.configWith value) arg → value ≠ "" →
      Gives (some value) [arg]

/-- The usual ways to write the option `config`, or to leave it out. -/
def Options.spellings : Option String → List (List String)
  | none => [[]]
  | some file => [["-c", file], ["--config", file], ["--config=" ++ file]]

theorem Options.gives_of_mem_spellings {config : Option String} {opts : List String}
    (h : opts ∈ spellings config)
    (hfile : ∀ file ∈ config, file ≠ "" ∧ ¬Text.StartsWith file "-") : Gives config opts := by
  cases config with
  | none =>
    obtain rfl : opts = [] := by simpa [spellings] using h
    exact .nothing
  | some file =>
    obtain ⟨hne, hhyphen⟩ := hfile file rfl
    have hvalue := Argument.ofString_of_not_hyphen hhyphen
    simp only [spellings, List.mem_cons, List.not_mem_nil, or_false] at h
    rcases h with rfl | rfl | rfl
    · exact .apart .configLetter hvalue hne
    · exact .apart .config hvalue hne
    · exact .joined (.configWith file) hne

namespace Request

inductive Asks (config : Option String) : List String → Request → Prop
  | nothing : Asks config [] (.resolve config [])
  | separator (branches : List String) : Asks config ("--" :: branches) (.resolve config branches)
  | branch {first : String} (more : List String) : Argument.ofString first = .branch →
      Asks config (first :: more) (.resolve config (first :: more))
  | help {arg : String} (more : List String) : Argument.Spells .help arg →
      Asks config (arg :: more) .help

variable {config : Option String} {args front rest : List String} {request : Request} {o : Options}

private theorem readFrom_of_asks (hsettle : o.settle = .ok ⟨config, .nothing⟩)
    (hasks : Asks config rest request) : readFrom o rest = .ok request := by
  cases hasks with
  | nothing => simp [readFrom, hsettle, Except.map]
  | separator branches =>
    have harg : Argument.ofString "--" = .separator := rfl
    simp [readFrom, harg, hsettle, Except.map]
  | branch more harg =>
    have hpending : o.pending ≠ .option := by
      intro hpending
      simp [Options.settle, hpending] at hsettle
    simp [readFrom, harg, hpending, hsettle, Except.map]
  | help more harg =>
    simp [readFrom, harg.ofString_eq, hsettle, Except.map]

private theorem readFrom_of_gives (h : Options.Gives config front) :
    ∃ o : Options, o.settle = .ok ⟨config, .nothing⟩ ∧
      ∀ rest, readFrom .empty (front ++ rest) = readFrom o rest := by
  cases h with
  | nothing => exact ⟨.empty, rfl, fun _ => rfl⟩
  | @apart option value hoption hvalue hne =>
    refine ⟨⟨none, .value value⟩, by simp [Options.settle, Options.setConfig, hne], ?_⟩
    intro rest
    simp [readFrom, hoption.ofString_eq, hvalue, Options.settle, Options.empty, Except.bind]
  | @joined arg value harg hne =>
    refine ⟨⟨some value, .nothing⟩, rfl, ?_⟩
    intro rest
    simp [readFrom, harg.ofString_eq, hne, Options.settle, Options.setConfig, Options.empty,
      Except.bind]

/-- A value that cannot be settled spoils everything behind it. -/
private theorem readFrom_ne_ok {refusal : Refusal} (hsettle : o.settle = .error refusal)
    (hpending : o.pending ≠ .option) : readFrom o args ≠ .ok request := by
  cases args with
  | nil => simp [readFrom, hsettle, Except.map]
  | cons arg rest =>
    cases harg : Argument.ofString arg <;>
      simp [readFrom, harg, hpending, hsettle, Except.map, Except.bind]

/-- Behind the option alone comes its value. -/
private theorem readFrom_option (h : readFrom ⟨config, .option⟩ args = .ok request) :
    ∃ value rest, args = value :: rest ∧ Argument.ofString value = .branch ∧
      readFrom ⟨config, .value value⟩ rest = .ok request := by
  cases args with
  | nil => simp [readFrom, Options.settle, Except.map] at h
  | cons arg rest =>
    refine ⟨arg, rest, rfl, ?_⟩
    cases harg : Argument.ofString arg <;>
      simp_all [readFrom, Options.settle, Except.map, Except.bind]

/-- Where nothing is pending, the next argument settles what is asked for, or it is the option. -/
private theorem readFrom_cases (hsettle : o.settle = .ok ⟨config, .nothing⟩)
    (h : readFrom o args = .ok request) :
    Asks config args request ∨ ∃ arg rest, args = arg :: rest ∧
      ((Argument.Spells .config arg ∧ readFrom ⟨config, .option⟩ rest = .ok request) ∨
        ∃ value, Argument.Spells (.configWith value) arg ∧
          ((⟨config, .nothing⟩ : Options).setConfig value).bind (readFrom · rest) =
            .ok request) := by
  cases args with
  | nil =>
    obtain rfl : Request.resolve config [] = request := by
      simpa [readFrom, hsettle, Except.map] using h
    exact .inl .nothing
  | cons arg rest =>
    have hspells {kind : Argument} (harg : Argument.ofString arg = kind) (hkind : kind ≠ .branch) :
        Argument.Spells kind arg := (Argument.ofString_eq_iff hkind).mp harg
    cases harg : Argument.ofString arg with
    | separator =>
      obtain rfl : Request.resolve config rest = request := by
        simpa [readFrom, harg, hsettle, Except.map] using h
      cases hspells harg (by simp)
      exact .inl (.separator rest)
    | help =>
      obtain rfl : Request.help = request := by
        simpa [readFrom, harg, hsettle, Except.map] using h
      exact .inl (.help rest (hspells harg (by simp)))
    | helpWith value => simp [readFrom, harg] at h
    | config =>
      have hoption : readFrom ⟨config, .option⟩ rest = .ok request := by
        simpa [readFrom, harg, hsettle, Except.bind] using h
      exact .inr ⟨arg, rest, rfl, .inl ⟨hspells harg (by simp), hoption⟩⟩
    | configWith value =>
      have hvalue : ((⟨config, .nothing⟩ : Options).setConfig value).bind (readFrom · rest) =
          .ok request := by
        simpa [readFrom, harg, hsettle, Except.bind] using h
      exact .inr ⟨arg, rest, rfl, .inr ⟨value, hspells harg (by simp), hvalue⟩⟩
    | branch =>
      have hpending : o.pending ≠ .option := by
        intro hpending
        simp [Options.settle, hpending] at hsettle
      obtain rfl : Request.resolve config (arg :: rest) = request := by
        simpa [readFrom, harg, hpending, hsettle, Except.map] using h
      exact .inl (.branch rest harg)

/-- The option does not come twice. -/
private theorem asks_of_readFrom {file : String} (hsettle : o.settle = .ok ⟨some file, .nothing⟩)
    (h : readFrom o args = .ok request) : Asks (some file) args request := by
  rcases readFrom_cases hsettle h with hasks | ⟨arg, rest, rfl, ⟨-, hoption⟩ | ⟨value, -, hvalue⟩⟩
  · exact hasks
  · obtain ⟨value, more, -, -, hvalue⟩ := readFrom_option hoption
    have hrepeated : (⟨some file, .value value⟩ : Options).settle = .error .repeatedConfig := rfl
    exact absurd hvalue (readFrom_ne_ok hrepeated (by simp))
  · simp [Options.setConfig, Except.bind] at hvalue

/-- A command line that is not refused has the option `config` or nothing in front, and behind it
branch names or a request for help. -/
theorem read_eq_ok : read args = .ok request ↔
    ∃ config front rest, args = front ++ rest ∧ Options.Gives config front ∧
      Asks config rest request := by
  constructor
  · intro h
    rcases readFrom_cases rfl h with
      hasks | ⟨arg, rest, rfl, ⟨harg, hoption⟩ | ⟨value, harg, hvalue⟩⟩
    · exact ⟨none, [], args, rfl, .nothing, hasks⟩
    · obtain ⟨value, more, rfl, hbranch, hvalue⟩ := readFrom_option hoption
      have hne : value ≠ "" := by
        rintro rfl
        exact readFrom_ne_ok (rfl : (⟨none, .value ""⟩ : Options).settle = .error .missingValue)
          (by simp) hvalue
      have hsettle : (⟨none, .value value⟩ : Options).settle = .ok ⟨some value, .nothing⟩ := by
        simp [Options.settle, Options.setConfig, hne]
      exact ⟨some value, [arg, value], more, rfl, .apart harg hbranch hne,
        asks_of_readFrom hsettle hvalue⟩
    · have hne : value ≠ "" := by
        rintro rfl
        simp [Options.setConfig, Except.bind] at hvalue
      have hrest : readFrom ⟨some value, .nothing⟩ rest = .ok request := by
        simpa [Options.setConfig, hne, Except.bind] using hvalue
      exact ⟨some value, [arg], rest, rfl, .joined harg hne, asks_of_readFrom rfl hrest⟩
  · rintro ⟨config, front, rest, rfl, hgives, hasks⟩
    obtain ⟨o, hsettle, hread⟩ := readFrom_of_gives hgives
    exact (hread rest).trans (readFrom_of_asks hsettle hasks)

/-- The branch names behind the options, without the separator in front of them. -/
def branchesOf (rest : List String) : List String :=
  if rest.head? = some "--" then rest.tail else rest

theorem asks_branchesOf (h : ∀ first ∈ rest.head?, first = "--" ∨ ¬Text.StartsWith first "-") :
    Asks config rest (.resolve config (branchesOf rest)) := by
  cases rest with
  | nil => exact .nothing
  | cons first more =>
    by_cases hfirst : first = "--"
    · subst hfirst
      exact .separator more
    · have hhyphen := (h first rfl).resolve_left hfirst
      simpa [branchesOf, hfirst] using Asks.branch more (Argument.ofString_of_not_hyphen hhyphen)

end Request

end BranchVersion
