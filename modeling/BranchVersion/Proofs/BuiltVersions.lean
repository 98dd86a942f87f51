import BranchVersion.Proofs.Decimals

/-!
Versions that are put together from machine words. Of the pre-releases that a version is given one
after another only the last stays, and its numbers are never touched. A version that is put together
is what its short form is read as, and a version can be put together exactly when all its numbers
are words.
-/
namespace BranchVersion

def Prerelease.ofWord (step : Stage × UInt64) : Prerelease := ⟨step.1, .ofNat step.2.toNat⟩

namespace Version

def withPrereleases (v : Version) (steps : List (Stage × UInt64)) : Version :=
  steps.foldl (fun v step => v.withPrerelease step.1 step.2) v

/-- Puts a version together: the numbers first, and then the pre-releases. -/
def build (major minor micro : UInt64) (steps : List (Stage × UInt64)) : Version :=
  (ofNumbers major minor micro).withPrereleases steps

/-- The short form of three words, with the marker and value of a pre-release behind them if there
is one. -/
def spelling (major minor micro : UInt64) (last : Option (Stage × UInt64)) : String :=
  major.toNat.repr ++ "." ++ minor.toNat.repr ++ "." ++ micro.toNat.repr ++
    match last with
    | none => ""
    | some (stage, value) => stage.marker ++ value.toNat.repr

def numerals (v : Version) : List Numeral :=
  v.major :: v.minor :: v.micro :: (v.prerelease.map Prerelease.value).toList

/-- The words have the numbers of the version, and there is a step exactly for its pre-release. -/
structure HasWords (v : Version) (major minor micro : UInt64) (steps : List (Stage × UInt64)) :
    Prop where
  major : v.major.toUInt64? = some major
  minor : v.minor.toUInt64? = some minor
  micro : v.micro.toUInt64? = some micro
  steps : steps.map (fun step => (step.1, some step.2)) =
    v.prerelease.toList.map fun p => (p.stage, p.value.toUInt64?)

variable {v : Version} {major minor micro : UInt64} {steps : List (Stage × UInt64)}

theorem withPrereleases_eq (v : Version) (steps : List (Stage × UInt64)) :
    v.withPrereleases steps =
      { v with prerelease := (steps.getLast?.map Prerelease.ofWord).or v.prerelease } := by
  -- A step only replaces the pre-release, so the statement is about every version to start from.
  induction steps generalizing v with
  | nil => rfl
  | cons step steps ih =>
    have hstep : v.withPrereleases (step :: steps) =
        (v.withPrerelease step.1 step.2).withPrereleases steps := rfl
    rw [hstep, ih, List.getLast?_cons]
    cases steps.getLast? <;> rfl

theorem build_eq (major minor micro : UInt64) (steps : List (Stage × UInt64)) :
    build major minor micro steps = ⟨.ofNat major.toNat, .ofNat minor.toNat, .ofNat micro.toNat,
      steps.getLast?.map Prerelease.ofWord⟩ := by
  rw [build, withPrereleases_eq, ofNumbers, Option.or_none]

theorem toList_spelling (major minor micro : UInt64) (steps : List (Stage × UInt64)) :
    (spelling major minor micro steps.getLast?).toList =
      (build major minor micro steps).shortForm := by
  rw [build_eq, shortForm]
  cases steps.getLast? with
  | none => simp [spelling, Numeral.ofNat]
  | some step => simp [spelling, Numeral.ofNat, Prerelease.suffix, Prerelease.ofWord]

theorem HasWords.eq_build (h : v.HasWords major minor micro steps) :
    v = build major minor micro steps := by
  obtain ⟨vMajor, vMinor, vMicro, prerelease⟩ := v
  obtain ⟨hmajor, hminor, hmicro, hsteps⟩ := h
  obtain rfl := Numeral.toUInt64?_eq_some.mp hmajor
  obtain rfl := Numeral.toUInt64?_eq_some.mp hminor
  obtain rfl := Numeral.toUInt64?_eq_some.mp hmicro
  rw [build_eq]
  cases prerelease with
  | none =>
    obtain rfl : steps = [] := by simpa using hsteps
    rfl
  | some p =>
    obtain ⟨step, rfl, hstage, hvalue⟩ : ∃ step, steps = [step] ∧ step.1 = p.stage ∧
        some step.2 = p.value.toUInt64? := by
      simpa [List.map_eq_singleton_iff] using hsteps
    have hp : p = Prerelease.ofWord step := by
      rw [Prerelease.ofWord, hstage, ← Numeral.toUInt64?_eq_some.mp hvalue.symm]
    rw [hp]
    rfl

theorem exists_hasWords (h : ∀ n ∈ v.numerals, n.toNat < UInt64.size) :
    ∃ major minor micro steps, v.HasWords major minor micro steps := by
  obtain ⟨vMajor, vMinor, vMicro, prerelease⟩ := v
  have hword : ∀ n ∈ numerals ⟨vMajor, vMinor, vMicro, prerelease⟩, ∃ w, n.toUInt64? = some w :=
    fun n hn => Numeral.exists_toUInt64?.mpr (h n hn)
  obtain ⟨major, hmajor⟩ := hword vMajor (by simp [numerals])
  obtain ⟨minor, hminor⟩ := hword vMinor (by simp [numerals])
  obtain ⟨micro, hmicro⟩ := hword vMicro (by simp [numerals])
  cases prerelease with
  | none => exact ⟨major, minor, micro, [], hmajor, hminor, hmicro, rfl⟩
  | some p =>
    obtain ⟨value, hvalue⟩ := hword p.value (by simp [numerals])
    exact ⟨major, minor, micro, [(p.stage, value)], hmajor, hminor, hmicro, by simp [hvalue]⟩

private theorem toNat_lt_of_mem_build {n : Numeral}
    (h : n ∈ (build major minor micro steps).numerals) :
    n.toNat < UInt64.size := by
  have hwords : ∃ w : UInt64, n = .ofNat w.toNat := by
    rw [build_eq] at h
    simp only [numerals, List.mem_cons, Option.mem_toList, Option.map_map,
      Option.map_eq_some_iff] at h
    rcases h with rfl | rfl | rfl | ⟨step, -, rfl⟩
    · exact ⟨major, rfl⟩
    · exact ⟨minor, rfl⟩
    · exact ⟨micro, rfl⟩
    · exact ⟨step.2, rfl⟩
  obtain ⟨w, rfl⟩ := hwords
  rw [Numeral.toNat_ofNat]
  exact w.toNat_lt_size

/-- A version that is put together from words is what its short form is read as, with the marker and
the value of the last pre-release only. A version that is read can be put together from the words of
its numbers exactly when all of them are below `2 ^ 64`. -/
theorem build_agrees :
    (∀ major minor micro steps,
      ofString? (spelling major minor micro steps.getLast?) =
        some (build major minor micro steps)) ∧
    ∀ s v, ofString? s = some v →
      ((∀ n ∈ v.numerals, n.toNat < UInt64.size) ↔
        ∃ major minor micro steps, v.HasWords major minor micro steps ∧
          v = build major minor micro steps) := by
  refine ⟨?_, ?_⟩
  · intro major minor micro steps
    exact ofString?_eq_some.mpr (.inl (toList_spelling major minor micro steps))
  · intro _ v _
    constructor
    · intro h
      obtain ⟨major, minor, micro, steps, hwords⟩ := exists_hasWords h
      exact ⟨major, minor, micro, steps, hwords, hwords.eq_build⟩
    · intro h n hn
      obtain ⟨major, minor, micro, steps, -, rfl⟩ := h
      exact toNat_lt_of_mem_build hn

/-- A pre-release that is replaced, the largest word as the number of a beta, and the number after
it. -/
theorem build_agrees_largest :
    let v : Version := ⟨.ofNat 2, .zero, .zero, some ⟨.beta, .ofNat 18446744073709551615⟩⟩
    let w : Version := ⟨.ofNat 2, .zero, .zero, some ⟨.beta, .ofNat 18446744073709551616⟩⟩
    ofString? "1.0.7rc3" = some (build 1 0 7 [(.alpha, 5), (.candidate, 3)]) ∧
    (ofString? "2.0b18446744073709551615" = some v ∧
      ∃ major minor micro steps, v.HasWords major minor micro steps ∧
        v = build major minor micro steps) ∧
    (ofString? "2.0b18446744073709551616" = some w ∧
      ¬∃ major minor micro steps, w.HasWords major minor micro steps ∧
        w = build major minor micro steps) := by
  intro v w
  obtain ⟨hbuild, hread⟩ := build_agrees
  have hv : ofString? "2.0b18446744073709551615" = some v := by decide
  have hw : ofString? "2.0b18446744073709551616" = some w := by decide
  have hfits : ∀ n ∈ v.numerals, n.toNat < UInt64.size := by decide
  have hlarge : ¬∀ n ∈ w.numerals, n.toNat < UInt64.size := by decide
  refine ⟨?_, ⟨hv, (hread _ v hv).mp hfits⟩, hw, ?_⟩
  · exact hbuild 1 0 7 [(.alpha, 5), (.candidate, 3)]
  · rwa [← hread _ w hw]

end Version

end BranchVersion
