import BranchVersion.Proofs.WrittenForm
import BranchVersion.Resolution

/-!
The outcome of a resolution, read off the texts. The relation `Rules.Resolves` says what a trimmed
name resolves to without running anything, and resolving a branch is that relation.
-/
namespace BranchVersion

def Text.StartsWith (s start : String) : Prop := ∃ rest, s = start ++ rest

theorem Text.stripStart?_eq_none {start s : String} :
    stripStart? start s = none ↔ ¬StartsWith s start := by
  simp only [Option.eq_none_iff_forall_ne_some, ne_eq, stripStart?_eq_some, StartsWith, not_exists]

/-- In the order of the list, `start` is the first prefix of the name, and `rest` is left of it. -/
def FirstMatch (prefixes : List String) (name start rest : String) : Prop :=
  name = start ++ rest ∧ ∃ earlier later, prefixes = earlier ++ start :: later ∧
    ∀ p ∈ earlier, ¬Text.StartsWith name p

theorem FirstMatch.mem {prefixes : List String} {name start rest : String}
    (h : FirstMatch prefixes name start rest) : start ∈ prefixes := by
  obtain ⟨-, earlier, later, rfl, -⟩ := h
  simp

theorem FirstMatch.suffix {prefixes : List String} {name start rest : String}
    (h : FirstMatch prefixes name start rest) : rest.toList <:+ name.toList :=
  ⟨start.toList, by rw [h.1, String.toList_append]⟩

theorem FirstMatch.length_lt {prefixes : List String} {name start rest : String}
    (h : FirstMatch prefixes name start rest) (hne : "" ∉ prefixes) :
    rest.toList.length < name.toList.length := by
  have hstart : start.toList ≠ [] := fun hnil => hne (String.toList_eq_nil_iff.mp hnil ▸ h.mem)
  have hpos := List.length_pos_iff.mpr hstart
  rw [h.1, String.toList_append, List.length_append]
  omega

theorem findSome?_stripStart?_eq_some {prefixes : List String} {name rest : String} :
    prefixes.findSome? (Text.stripStart? · name) = some rest ↔
      ∃ start, FirstMatch prefixes name start rest := by
  simp only [List.findSome?_eq_some_iff, Text.stripStart?_eq_some, Text.stripStart?_eq_none,
    FirstMatch]
  constructor
  · rintro ⟨earlier, start, later, hp, hname, hearlier⟩
    exact ⟨start, hname, earlier, later, hp, hearlier⟩
  · rintro ⟨start, hname, earlier, later, hp, hearlier⟩
    exact ⟨earlier, start, later, hp, hname, hearlier⟩

theorem findSome?_stripStart?_eq_none {prefixes : List String} {name : String} :
    prefixes.findSome? (Text.stripStart? · name) = none ↔
      ∀ p ∈ prefixes, ¬Text.StartsWith name p := by
  simp only [List.findSome?_eq_none_iff, Text.stripStart?_eq_none]

theorem exists_firstMatch {prefixes : List String} {name : String} :
    (∃ start rest, FirstMatch prefixes name start rest) ↔
      ∃ p ∈ prefixes, Text.StartsWith name p := by
  constructor
  · rintro ⟨start, rest, h⟩
    exact ⟨start, h.mem, rest, h.1⟩
  · rintro ⟨p, hp, hstart⟩
    cases h : prefixes.findSome? (Text.stripStart? · name) with
    | none => exact absurd hstart (findSome?_stripStart?_eq_none.mp h p hp)
    | some rest =>
      obtain ⟨start, hfirst⟩ := findSome?_stripStart?_eq_some.mp h
      exact ⟨start, rest, hfirst⟩

namespace Branch

theorem strip?_eq_none {b : Branch} {prefixes : List String} :
    b.strip? prefixes = none ↔ ∀ p ∈ prefixes, ¬Text.StartsWith b.name p :=
  findSome?_stripStart?_eq_none

theorem strip?_eq_some {b : Branch} {prefixes : List String} {rest : String} :
    b.strip? prefixes = some rest ↔ ∃ start, FirstMatch prefixes b.name start rest :=
  findSome?_stripStart?_eq_some

theorem ofString?_eq_some {raw : String} {b : Branch} :
    ofString? raw = some b ↔ Text.trim raw ≠ "" ∧ b.name = Text.trim raw := by
  unfold ofString?
  split
  · next h => simp [h]
  · next h =>
    rw [Option.some.injEq]
    constructor
    · rintro rfl
      exact ⟨h, rfl⟩
    · rintro ⟨-, hb⟩
      cases b
      simpa using hb.symm

end Branch

namespace Rules

/-- What a name that is trimmed and not empty resolves to. -/
inductive Resolves (rules : Rules) (name : String) : Resolution → Prop
  | unprefixed : (∀ p ∈ rules.prefixes, ¬Text.StartsWith name p) →
      Resolves rules name (.unprefixed name)
  | unmatched {start rest : String} : FirstMatch rules.prefixes name start rest →
      (∀ v : Version, ¬v.Spells rest) → Resolves rules name (.unmatched rest)
  | normalized {start rest : String} {v : Version} : FirstMatch rules.prefixes name start rest →
      v.Spells rest → Resolves rules name (.normalized v (v.render rules.names))

theorem resolves_resolveBranch (rules : Rules) (b : Branch) :
    rules.Resolves b.name (rules.resolveBranch b) := by
  unfold resolveBranch
  split
  · next h => exact .unprefixed (Branch.strip?_eq_none.mp h)
  · next rest h =>
    obtain ⟨start, hfirst⟩ := Branch.strip?_eq_some.mp h
    split
    · next hv => exact .unmatched hfirst (Version.ofString?_eq_none.mp hv)
    · next v hv => exact .normalized hfirst (Version.ofString?_eq_some.mp hv)

theorem Resolves.eq_resolveBranch {rules : Rules} {b : Branch} {r : Resolution}
    (h : rules.Resolves b.name r) : rules.resolveBranch b = r := by
  unfold resolveBranch
  cases h with
  | unprefixed h => rw [Branch.strip?_eq_none.mpr h]
  | unmatched hfirst hv =>
    simp only [Branch.strip?_eq_some.mpr ⟨_, hfirst⟩, Version.ofString?_eq_none.mpr hv]
  | normalized hfirst hv =>
    simp only [Branch.strip?_eq_some.mpr ⟨_, hfirst⟩, Version.ofString?_eq_some.mpr hv]

theorem exists_resolves (rules : Rules) {name : String} (hne : name ≠ "")
    (htrim : Text.trim name = name) : ∃ r, rules.Resolves name r :=
  ⟨_, rules.resolves_resolveBranch ⟨name, htrim, hne⟩⟩

theorem resolve_eq_error {rules : Rules} {raw : String} {fault : Fault} :
    rules.resolve raw = .error fault ↔ Text.trim raw = "" ∧ fault = .notOneBranch := by
  unfold resolve
  cases h : Branch.ofString? raw with
  | none => simpa [Branch.ofString?_eq_none.mp h] using eq_comm
  | some b => simp [(Branch.ofString?_eq_some.mp h).1]

theorem resolve_eq_ok {rules : Rules} {raw : String} {r : Resolution} :
    rules.resolve raw = .ok r ↔ Text.trim raw ≠ "" ∧ rules.Resolves (Text.trim raw) r := by
  unfold resolve
  cases h : Branch.ofString? raw with
  | none => simp [Branch.ofString?_eq_none.mp h]
  | some b =>
    obtain ⟨hne, hname⟩ := Branch.ofString?_eq_some.mp h
    simp only [Except.ok.injEq]
    constructor
    · rintro rfl
      exact ⟨hne, hname ▸ rules.resolves_resolveBranch b⟩
    · rintro ⟨-, hr⟩
      exact (hname ▸ hr).eq_resolveBranch

/-- What the first matching prefix leaves of a text without the blanks around it. -/
def remainder? (rules : Rules) (raw : String) : Option String :=
  (Branch.ofString? raw).bind (·.strip? rules.prefixes)

theorem remainder?_eq_some {rules : Rules} {raw rest : String} :
    rules.remainder? raw = some rest ↔
      Text.trim raw ≠ "" ∧ ∃ start, FirstMatch rules.prefixes (Text.trim raw) start rest := by
  simp only [remainder?, Option.bind_eq_some_iff, Branch.ofString?_eq_some, Branch.strip?_eq_some]
  constructor
  · rintro ⟨b, ⟨hne, hname⟩, hfirst⟩
    exact ⟨hne, hname ▸ hfirst⟩
  · rintro ⟨hne, hfirst⟩
    exact ⟨⟨Text.trim raw, Text.trim_trim raw, hne⟩, ⟨hne, rfl⟩, hfirst⟩

theorem resolve_eq_unmatched {rules : Rules} {raw rest : String} :
    rules.resolve raw = .ok (.unmatched rest) ↔
      rules.remainder? raw = some rest ∧ ∀ v : Version, ¬v.Spells rest := by
  rw [resolve_eq_ok, remainder?_eq_some]
  constructor
  · rintro ⟨hne, hr⟩
    cases hr with
    | unmatched hfirst hrest => exact ⟨⟨hne, _, hfirst⟩, hrest⟩
  · rintro ⟨⟨hne, _, hfirst⟩, hrest⟩
    exact ⟨hne, .unmatched hfirst hrest⟩

theorem resolve_eq_normalized {rules : Rules} {raw version : String} {v : Version} :
    rules.resolve raw = .ok (.normalized v version) ↔
      ∃ rest, rules.remainder? raw = some rest ∧ v.Spells rest ∧
        version = v.render rules.names := by
  simp only [resolve_eq_ok, remainder?_eq_some]
  constructor
  · rintro ⟨hne, hr⟩
    cases hr with
    | normalized hfirst hv => exact ⟨_, ⟨hne, _, hfirst⟩, hv, rfl⟩
  · rintro ⟨rest, ⟨hne, _, hfirst⟩, hv, rfl⟩
    exact ⟨hne, .normalized hfirst hv⟩

/-- The three steps of a resolution. Only a blank text is refused. A trimmed name without a known
prefix passes through, a remainder that is no short form passes through without the first prefix,
and a short form is written out with its digits as they are and the long name that the table has. -/
theorem resolve_contract (rules : Rules) (raw : String) :
    (∀ name, Text.Trims raw name ↔ name = Text.trim raw) ∧
    (rules.resolve raw = .error .notOneBranch ↔ Text.trim raw = "") ∧
    (∀ fault, rules.resolve raw = .error fault → fault = .notOneBranch) ∧
    (Text.trim raw ≠ "" →
      (rules.resolve raw = .ok (.unprefixed (Text.trim raw)) ↔
        ∀ p ∈ rules.prefixes, ¬Text.StartsWith (Text.trim raw) p) ∧
      ((∃ p ∈ rules.prefixes, Text.StartsWith (Text.trim raw) p) →
        ∃ start rest, FirstMatch rules.prefixes (Text.trim raw) start rest ∧
          (rules.resolve raw = .ok (.unmatched rest) ↔ ∀ v : Version, ¬v.Spells rest) ∧
          ∀ v : Version, v.Spells rest → ∃ version,
            rules.resolve raw = .ok (.normalized v version) ∧
            (v.prerelease = none →
              version = v.major.text ++ "." ++ v.minor.text ++ "." ++ v.micro.text) ∧
            ∀ p, v.prerelease = some p →
              version = v.major.text ++ "." ++ v.minor.text ++ "." ++ v.micro.text ++ "-" ++
                (rules.names.get? p.stage.marker).getD "dev" ++ "." ++ p.value.text)) ∧
    (∀ r, rules.resolve raw = .ok r → rules = .standard → versionOf raw = .ok r.version) := by
  refine ⟨fun _ => Text.trims_iff, by simp [resolve_eq_error], ?_, ?_, ?_⟩
  · intro fault h
    exact (resolve_eq_error.mp h).2
  · intro hname
    refine ⟨?_, ?_⟩
    · constructor
      · intro h
        cases (resolve_eq_ok.mp h).2 with
        | unprefixed hnone => exact hnone
      · intro hnone
        exact resolve_eq_ok.mpr ⟨hname, .unprefixed hnone⟩
    · intro hsome
      obtain ⟨start, rest, hfirst⟩ := exists_firstMatch.mpr hsome
      refine ⟨start, rest, hfirst, ?_, ?_⟩
      · constructor
        · intro h
          cases (resolve_eq_ok.mp h).2 with
          | unmatched _ hrest => exact hrest
        · intro hrest
          exact resolve_eq_ok.mpr ⟨hname, .unmatched hfirst hrest⟩
      · intro v hv
        refine ⟨_, resolve_eq_ok.mpr ⟨hname, .normalized hfirst hv⟩, ?_, ?_⟩
        · intro hfinal
          simp [Version.render, Version.writeOut, hfinal]
        · intro p hp
          simp [Version.render, Version.writeOut, hp, Stage.longNameIn, Stage.fallbackName]
  · rintro r h rfl
    simp [versionOf, h, Except.map]

end Rules

end BranchVersion
