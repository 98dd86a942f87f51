import BranchVersion.Proofs.Outcome

/-!
Versions that are resolved again as branch names. A prefix taken off makes a text shorter, but
writing out a short form can make it longer, so the argument that reruns settle has three parts: up
to the first short form texts get shorter, after it only final versions are written out, and from
one final version to the next a weight of the three numbers goes down until they are all zero.
-/
namespace BranchVersion

/-- The number of digits, with none for zero. -/
def Numeral.weight (n : Numeral) : Nat := if n = .zero then 0 else n.digits.length

namespace Numeral

private theorem length_digits_pos (n : Numeral) : 0 < n.digits.length :=
  List.length_pos_iff.mpr n.digits_ne_nil

private theorem weight_le_length (n : Numeral) : n.weight ≤ n.digits.length := by
  unfold weight
  split <;> omega

private theorem weight_eq_zero {n : Numeral} : n.weight = 0 ↔ n = .zero := by
  have h := n.length_digits_pos
  unfold weight
  split
  · next hn => simp [hn]
  · next hn =>
    simp only [hn, iff_false]
    omega

private theorem weight_le_of_suffix {m n : Numeral} (h : m.digits <:+ n.digits) :
    m.weight ≤ n.weight := by
  by_cases hn : n = .zero
  · have hlen : m.digits.length = n.digits.length := by
      have hle := h.length_le
      have hpos := m.length_digits_pos
      have hone : n.digits.length = 1 := by rw [hn]; rfl
      omega
    rw [digits_inj.mp (h.eq_of_length hlen)]
  · calc m.weight ≤ m.digits.length := m.weight_le_length
      _ ≤ n.digits.length := h.length_le
      _ = n.weight := by simp [weight, hn]

private theorem weight_lt_of_length {m n : Numeral} (h : m.digits.length < n.digits.length) :
    m.weight < n.weight := by
  have hn : n ≠ .zero := by
    rintro rfl
    have hpos := m.length_digits_pos
    have hone : Numeral.zero.digits.length = 1 := rfl
    omega
  calc m.weight ≤ m.digits.length := m.weight_le_length
    _ < n.digits.length := h
    _ = n.weight := by simp [weight, hn]

end Numeral

namespace Version

/-- Shifting the numbers by one place to the left makes this smaller, as does leaving out leading
digits of the major number. -/
def weight (v : Version) : Nat := v.major.weight + 2 * v.minor.weight + 3 * v.micro.weight

def zero : Version := ⟨.zero, .zero, .zero, none⟩

private theorem render_zero (names : NameTable) : zero.render names = "0.0.0" := rfl

private theorem zero_spells {s : String} : zero.Spells s ↔ s = "0.0.0" ∨ s = "0.0" := by
  have hfull : zero.shortForm = "0.0.0".toList := rfl
  have hbrief : zero.briefForm = "0.0".toList := rfl
  simp only [Spells, hfull, hbrief, String.toList_inj, true_and, show zero.micro = .zero from rfl]

private theorem eq_zero_of_weight {v : Version} (hv : v.prerelease = none) (h : v.weight = 0) :
    v = zero := by
  obtain ⟨major, minor, micro, prerelease⟩ := v
  simp only [weight] at hv h
  have hmajor := Numeral.weight_eq_zero.mp (by omega : major.weight = 0)
  have hminor := Numeral.weight_eq_zero.mp (by omega : minor.weight = 0)
  have hmicro := Numeral.weight_eq_zero.mp (by omega : micro.weight = 0)
  rw [hv, hmajor, hminor, hmicro]
  rfl

private theorem Spells.weight_lt {v w : Version} {s : String} (hv : v.prerelease = none)
    (hw : w.Spells s) (hfinal : w.prerelease = none) (hs : s.toList <:+ v.shortForm)
    (hlt : s.toList.length < v.shortForm.length) (hpos : v.weight ≠ 0) : w.weight < v.weight := by
  unfold weight at hpos ⊢
  rcases hw.suffix_cases hv hfinal hs with ⟨-, hminor, hmicro, hform⟩ | ⟨hmajor, hminor, hmicro⟩
  · rw [hform, shortForm_eq, shortForm_eq, ending, ending, hv, hfinal, hminor, hmicro] at hlt
    have hlen : w.major.digits.length < v.major.digits.length := by
      simpa using hlt
    have h := Numeral.weight_lt_of_length hlen
    rw [hminor, hmicro]
    omega
  · have h := Numeral.weight_le_of_suffix hmajor
    have hzero : w.micro.weight = 0 := Numeral.weight_eq_zero.mpr hmicro
    rw [hminor, hzero]
    omega

end Version

namespace Rules

def versionFor (rules : Rules) (raw : String) : Except Fault String :=
  (rules.resolve raw).map Resolution.version

/-- The text after a number of runs, each on the version that the run before gave. -/
def rerun (rules : Rules) : Nat → String → Except Fault String
  | 0, raw => .ok raw
  | n + 1, raw => (rules.versionFor raw).bind (rules.rerun n)

/-- Runs have ended in the fault for blank names, in a text that resolves to itself, or in the
version zero. -/
def Settled (rules : Rules) (outcome : Except Fault String) : Prop :=
  outcome = .error .notOneBranch ∨
    ∃ x, outcome = .ok x ∧ (rules.versionFor x = .ok x ∨ x = "0.0.0")

def Settles (rules : Rules) (raw : String) : Prop := ∃ n, rules.Settled (rules.rerun n raw)

variable {rules : Rules}

theorem versionFor_eq_ok {raw version : String} : rules.versionFor raw = .ok version ↔
    ∃ r, rules.resolve raw = .ok r ∧ r.version = version := by
  unfold versionFor
  cases rules.resolve raw <;> simp [Except.map]

theorem versionFor_eq_error {raw : String} {fault : Fault} :
    rules.versionFor raw = .error fault ↔ Text.trim raw = "" ∧ fault = .notOneBranch := by
  rw [← resolve_eq_error, versionFor]
  cases rules.resolve raw <;> simp [Except.map]

private theorem settles_of_blank {raw : String} (h : Text.trim raw = "") : rules.Settles raw := by
  refine ⟨1, .inl ?_⟩
  rw [rerun, versionFor_eq_error.mpr ⟨h, rfl⟩]
  rfl

private theorem Settles.of_versionFor {raw version : String}
    (h : rules.versionFor raw = .ok version) (hs : rules.Settles version) : rules.Settles raw := by
  obtain ⟨n, hn⟩ := hs
  refine ⟨n + 1, ?_⟩
  rw [rerun, h]
  exact hn

private theorem versionFor_of_unprefixed {x : String} (hx : x ≠ "") (htrim : Text.trim x = x)
    (hnone : ∀ p ∈ rules.prefixes, ¬Text.StartsWith x p) : rules.versionFor x = .ok x := by
  have hresolve : rules.resolve x = .ok (.unprefixed x) := by
    rw [resolve_eq_ok, htrim]
    exact ⟨hx, .unprefixed hnone⟩
  exact versionFor_eq_ok.mpr ⟨_, hresolve, rfl⟩

/-- Only taking off a prefix and trimming happen before the next short form, so it stands at the end
of the text that the runs started from. If what it is written out as settles, so does that text. -/
theorem settles_of_suffix (hne : "" ∉ rules.prefixes) {x : String}
    (hx : ∀ c ∈ x.toList.getLast?, Text.isBlank c = false)
    (hwritten : ∀ (rest : String) (v : Version), rest.toList <:+ x.toList →
      rest.toList.length < x.toList.length → v.Spells rest →
      rules.Settles (v.render rules.names)) (s : String) (hs : s.toList <:+ x.toList) :
    rules.Settles s := by
  induction hlen : s.toList.length using Nat.strongRecOn generalizing s with
  | ind n ih =>
    have htrim := Text.trim_suffix fun c hc => hx c (Text.last_of_suffix hs hc)
    by_cases hblank : Text.trim s = ""
    · exact settles_of_blank hblank
    obtain ⟨r, hr⟩ := rules.exists_resolves hblank (Text.trim_trim s)
    apply Settles.of_versionFor (versionFor_eq_ok.mpr ⟨r, resolve_eq_ok.mpr ⟨hblank, hr⟩, rfl⟩)
    cases hr with
    | unprefixed hnone =>
      exact ⟨0, .inr ⟨_, rfl, .inl (versionFor_of_unprefixed hblank (Text.trim_trim s) hnone)⟩⟩
    | @unmatched _ rest hfirst _ =>
      have hlt := hfirst.length_lt hne
      have hle := htrim.length_le
      exact ih rest.toList.length (by omega) rest (hfirst.suffix.trans (htrim.trans hs)) rfl
    | normalized hfirst hv =>
      have hlt := hfirst.length_lt hne
      have hle := (htrim.trans hs).length_le
      exact hwritten _ _ (hfirst.suffix.trans (htrim.trans hs)) (by omega) hv

theorem settles_render_final (hne : "" ∉ rules.prefixes) (v : Version)
    (hv : v.prerelease = none) : rules.Settles (v.render rules.names) := by
  induction hweight : v.weight using Nat.strongRecOn generalizing v with
  | ind n ih =>
    by_cases hzero : v.weight = 0
    · rw [Version.eq_zero_of_weight hv hzero]
      exact ⟨0, .inr ⟨_, rfl, .inr (Version.render_zero rules.names)⟩⟩
    apply settles_of_suffix hne (v.render_tight rules.names).2 _ _ List.suffix_rfl
    intro rest w hsuffix hlt hw
    have hfinal := hw.final_of_suffix hsuffix
    rw [Version.toList_render_final hv] at hsuffix hlt
    exact ih _ (hweight ▸ hw.weight_lt hv hfinal hsuffix hlt hzero) w hfinal rfl

theorem settles_render (hne : "" ∉ rules.prefixes) (v : Version) :
    rules.Settles (v.render rules.names) := by
  apply settles_of_suffix hne (v.render_tight rules.names).2 _ _ List.suffix_rfl
  intro rest w hsuffix _ hw
  exact settles_render_final hne w (hw.final_of_suffix hsuffix)

theorem versionFor_last {raw version : String} (h : rules.versionFor raw = .ok version) :
    ∀ c ∈ version.toList.getLast?, Text.isBlank c = false := by
  obtain ⟨r, hr, rfl⟩ := versionFor_eq_ok.mp h
  have htight := Text.trim_eq_self_iff.mp (Text.trim_trim raw)
  cases (resolve_eq_ok.mp hr).2 with
  | unprefixed _ => exact htight.2
  | unmatched hfirst _ => exact fun c hc => htight.2 c (Text.last_of_suffix hfirst.suffix hc)
  | normalized _ _ => exact (Version.render_tight _ _).2

/-- Written out again as the text that it was the end of, a short form is the version zero without
its first number. -/
private theorem eq_zero_of_render_eq {v : Version} {start rest : String} (hv : v.Spells rest)
    (hstart : start ≠ "") (h : v.render rules.names = start ++ rest) :
    v = Version.zero ∧ start = "0." := by
  have hlist := congrArg String.toList h
  rw [String.toList_append] at hlist
  have hsuffix : rest.toList <:+ (v.render rules.names).toList := ⟨start.toList, hlist.symm⟩
  have hfinal := hv.final_of_suffix hsuffix
  rw [Version.toList_render_final hfinal] at hsuffix hlist
  have hlong : rest.toList ≠ v.shortForm := by
    intro hrest
    rw [← hrest, List.self_eq_append_left, String.toList_eq_nil_iff] at hlist
    exact hstart hlist
  rcases hv.suffix_cases hfinal hfinal hsuffix with ⟨-, -, -, hrest⟩ | ⟨hmajor, hminor, hmicro⟩
  · exact absurd hrest hlong
  · have hle := Numeral.weight_le_of_suffix hmajor
    have hweight : v.weight = 0 := by
      have hzero := Numeral.weight_eq_zero.mpr hmicro
      rw [hminor, hzero] at hle
      simp only [Version.weight, hminor, hzero]
      omega
    obtain rfl := Version.eq_zero_of_weight hfinal hweight
    refine ⟨rfl, ?_⟩
    rcases Version.zero_spells.mp hv with rfl | rfl
    · exact absurd rfl hlong
    · have hcut : start.toList ++ "0.0".toList = "0.".toList ++ "0.0".toList := hlist.symm
      exact String.toList_inj.mp (List.append_cancel_right hcut)

/-- A text resolves to itself when no prefix is known for it, and otherwise only the version zero
does, where `0.` is taken off and the micro number is written again. -/
theorem versionFor_eq_self (hne : "" ∉ rules.prefixes) {x : String} :
    rules.versionFor x = .ok x ↔
      (x ≠ "" ∧ Text.Tight x.toList ∧ ∀ p ∈ rules.prefixes, ¬Text.StartsWith x p) ∨
      (x = "0.0.0" ∧ ∃ rest, FirstMatch rules.prefixes x "0." rest) := by
  constructor
  · intro h
    have hle := (Text.trim_suffix (versionFor_last h)).length_le
    obtain ⟨r, hr, hversion⟩ := versionFor_eq_ok.mp h
    obtain ⟨hblank, hr⟩ := resolve_eq_ok.mp hr
    cases hr with
    | unprefixed hnone =>
      have htrim : Text.trim x = x := hversion
      rw [htrim] at hblank hnone
      exact .inl ⟨hblank, Text.trim_eq_self_iff.mp htrim, hnone⟩
    | @unmatched _ rest hfirst _ =>
      have hrest : rest = x := hversion
      have hlt := hfirst.length_lt hne
      rw [hrest] at hlt
      omega
    | @normalized start rest v hfirst hv =>
      have hrender : v.render rules.names = x := hversion
      have htrim : Text.trim x = x :=
        Text.trim_eq_self_iff.mpr (hrender ▸ v.render_tight rules.names)
      rw [htrim] at hfirst
      have hstart : start ≠ "" := fun hempty => hne (hempty ▸ hfirst.mem)
      obtain ⟨rfl, rfl⟩ := eq_zero_of_render_eq hv hstart (hrender.trans hfirst.1)
      exact .inr ⟨hrender.symm.trans (Version.render_zero rules.names), rest, hfirst⟩
  · intro h
    rcases h with ⟨hx, htight, hnone⟩ | ⟨rfl, rest, hfirst⟩
    · exact versionFor_of_unprefixed hx (Text.trim_eq_self_iff.mpr htight) hnone
    · have hname := congrArg String.toList hfirst.1
      rw [String.toList_append] at hname
      have hrest : "0.".toList ++ "0.0".toList = "0.".toList ++ rest.toList := hname
      obtain rfl := String.toList_inj.mp (List.append_cancel_left hrest)
      have hzero := Version.zero_spells.mpr (.inr rfl : "0.0" = "0.0.0" ∨ "0.0" = "0.0")
      exact versionFor_eq_ok.mpr ⟨_, resolve_eq_ok.mpr ⟨by decide, .normalized hfirst hzero⟩,
        Version.render_zero rules.names⟩

/-- With no empty prefix every text settles when it is resolved again and again, and the texts that
resolve to themselves are known. -/
theorem rerun_settles (rules : Rules) (hne : "" ∉ rules.prefixes) :
    (∀ raw, ∃ n, rules.Settled (rules.rerun (n + 1) raw)) ∧
    ∀ x, rules.versionFor x = .ok x ↔
      (x ≠ "" ∧ Text.Tight x.toList ∧ ∀ p ∈ rules.prefixes, ¬Text.StartsWith x p) ∨
      (x = "0.0.0" ∧ ∃ rest, FirstMatch rules.prefixes x "0." rest) := by
  refine ⟨?_, fun x => versionFor_eq_self hne⟩
  intro raw
  cases h : rules.versionFor raw with
  | error fault =>
    refine ⟨0, .inl ?_⟩
    rw [rerun, h, (versionFor_eq_error.mp h).2]
    rfl
  | ok version =>
    obtain ⟨n, hn⟩ := settles_of_suffix hne (versionFor_last h)
      (fun _ v _ _ _ => settles_render hne v) version List.suffix_rfl
    refine ⟨n, ?_⟩
    rw [rerun, h]
    exact hn

/-- A prefix of digits makes the version zero resolve to itself and shifts the numbers of others. -/
theorem rerun_settles_leading_zero :
    let rules : Rules := ⟨["0.", "v"], .standard, "version"⟩
    "" ∉ rules.prefixes ∧ (∃ n, rules.Settled (rules.rerun (n + 1) "v0.10.2b3")) ∧
      rules.versionFor "0.0.0" = .ok "0.0.0" := by
  have hne : "" ∉ ["0.", "v"] := by decide
  have h := rerun_settles ⟨["0.", "v"], .standard, "version"⟩ hne
  refine ⟨hne, h.1 "v0.10.2b3", (h.2 "0.0.0").mpr (.inr ⟨rfl, "0.0", rfl, [], ["v"], rfl, ?_⟩)⟩
  simp

end Rules

end BranchVersion
