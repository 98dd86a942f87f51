import BranchVersion.Proofs.Outcome
import BranchVersion.Proofs.SemVerGrammar
import Mathlib.Data.List.Basic

/-!
The semantic version that a written-out version reads as, under any table of names. A long name may
hold anything, so it decides whether there is one, and a plus sign in it moves the number behind it
into the build part.
-/
namespace BranchVersion

def Version.Fits (v : Version) : Prop :=
  v.major.toNat < UInt64.size ∧ v.minor.toNat < UInt64.size ∧ v.micro.toNat < UInt64.size

namespace SemVer

/-- A semantic version with the numbers of `v`, given parts behind them and the text `s`. -/
structure Views (sv : SemVer) (v : Version) (pre build s : String) : Prop where
  major : sv.major.toNat = v.major.toNat
  minor : sv.minor.toNat = v.minor.toNat
  patch : sv.patch.toNat = v.micro.toNat
  pre : sv.pre = pre
  build : sv.build = build
  text : sv.text = s

theorem parts_eq_nil {pre build : String} :
    ([] = signed '-' pre ++ signed '+' build ∧ (pre = "" ∨ PreText pre) ∧
      (build = "" ∨ BuildText build)) ↔ True ∧ pre = "" ∧ build = "" := by
  constructor
  · rintro ⟨h, -⟩
    unfold signed at h
    split at h <;> split at h <;> simp_all
  · rintro ⟨-, rfl, rfl⟩
    exact ⟨rfl, .inl rfl, .inl rfl⟩

/-- Behind a hyphen there is a pre-release part. -/
private theorem parts_eq_cons {s : List Char} {pre build : String} :
    '-' :: s = signed '-' pre ++ signed '+' build ↔
      pre ≠ "" ∧ s = pre.toList ++ signed '+' build := by
  by_cases hpre : pre = ""
  · rw [hpre, signed_empty, List.nil_append, signed]
    split <;> simp
  · simp [signed_of_ne hpre, hpre]

/-- Without a plus sign all of it is the pre-release part. -/
theorem parts_eq_pre {s pre build : String} (hs : '+' ∉ s.toList) :
    ('-' :: s.toList = signed '-' pre ++ signed '+' build ∧ (pre = "" ∨ PreText pre) ∧
      (build = "" ∨ BuildText build)) ↔ PreText s ∧ pre = s ∧ build = "" := by
  rw [parts_eq_cons]
  constructor
  · rintro ⟨⟨hne, h⟩, hpre, -⟩
    have hbuild : build = "" := by
      by_contra hb
      rw [signed_of_ne hb] at h
      exact hs (by simp [h])
    rw [hbuild, signed_empty, List.append_nil, String.toList_inj] at h
    exact ⟨h ▸ hpre.resolve_left hne, h.symm, hbuild⟩
  · rintro ⟨htext, rfl, rfl⟩
    exact ⟨⟨htext.ne_empty, by rw [signed_empty, List.append_nil]⟩, .inr htext, .inl rfl⟩

/-- The first plus sign divides it into the two parts. -/
private theorem parts_eq_build {s t pre build : String} (hs : '+' ∉ s.toList) :
    ('-' :: (s.toList ++ '+' :: t.toList) = signed '-' pre ++ signed '+' build ∧
      (pre = "" ∨ PreText pre) ∧ (build = "" ∨ BuildText build)) ↔
      (PreText s ∧ BuildText t) ∧ pre = s ∧ build = t := by
  rw [parts_eq_cons]
  constructor
  · rintro ⟨⟨hne, h⟩, hpre, hbuild⟩
    have htext := hpre.resolve_left hne
    have hb : build ≠ "" := by
      rintro rfl
      rw [signed_empty, List.append_nil] at h
      exact htext.notMem_plus (by simp [← h])
    have hbtext := hbuild.resolve_left hb
    rw [signed_of_ne hb, eq_comm,
      List.append_cons_inj_of_notMem htext.notMem_plus hbtext.notMem_plus] at h
    obtain ⟨hpres, -, hbuildt⟩ := h
    rw [String.toList_inj] at hpres hbuildt
    exact ⟨⟨hpres ▸ htext, hbuildt ▸ hbtext⟩, hpres, hbuildt⟩
  · rintro ⟨⟨htext, hbtext⟩, rfl, rfl⟩
    exact ⟨⟨htext.ne_empty, by rw [signed_of_ne hbtext.ne_empty]⟩, .inr htext, .inr hbtext⟩

variable {s : String} {v : Version} {tail : List Char}

theorem ofString?_eq_some_of_tail
    (hs : s.toList = v.major.digits ++ '.' :: (v.minor.digits ++ '.' :: (v.micro.digits ++ tail)))
    (hstop : Numeral.StopsAt tail) {sv : SemVer} : ofString? s = some sv ↔
      (sv.major.toNat = v.major.toNat ∧ sv.minor.toNat = v.minor.toNat ∧
        sv.patch.toNat = v.micro.toNat) ∧
      tail = signed '-' sv.pre ++ signed '+' sv.build ∧ (sv.pre = "" ∨ PreText sv.pre) ∧
        (sv.build = "" ∨ BuildText sv.build) := by
  have hnum (n : Numeral) (w : UInt64) : w.toNat = n.toNat ↔ n = .ofNat w.toNat := by
    rw [← Numeral.toNat_inj, Numeral.toNat_ofNat, eq_comm]
  rw [ofString?_eq_some, ← String.toList_inj, hs, toList_text, hnum, hnum, hnum]
  constructor
  · intro ⟨h, hwf⟩
    obtain ⟨hmajor, h⟩ := Numeral.append_inj (Numeral.stopsAt_dot _) (Numeral.stopsAt_dot _) h
    obtain ⟨hminor, h⟩ := Numeral.append_inj (Numeral.stopsAt_dot _) (Numeral.stopsAt_dot _)
      (List.cons.inj h).2
    obtain ⟨hmicro, h⟩ := Numeral.append_inj hstop (stopsAt_parts _ _) (List.cons.inj h).2
    exact ⟨⟨hmajor, hminor, hmicro⟩, h, hwf.pre, hwf.build⟩
  · intro ⟨⟨hmajor, hminor, hmicro⟩, h, hpre, hbuild⟩
    rw [hmajor, hminor, hmicro, h]
    exact ⟨rfl, hpre, hbuild⟩

/-- A text of three numbers and `tail` reads as a semantic version when the numbers fit and `tail`
is made of parts that are in their grammars. -/
theorem view_of_tail {pre build : String} {ok : Prop}
    (hs : s.toList = v.major.digits ++ '.' :: (v.minor.digits ++ '.' :: (v.micro.digits ++ tail)))
    (hstop : Numeral.StopsAt tail)
    (htail : ∀ p b, (tail = signed '-' p ++ signed '+' b ∧ (p = "" ∨ PreText p) ∧
      (b = "" ∨ BuildText b)) ↔ ok ∧ p = pre ∧ b = build) :
    ((ofString? s).isSome = true ↔ v.Fits ∧ ok) ∧
      ∀ sv, ofString? s = some sv → sv.Views v pre build s := by
  simp only [Option.isSome_iff_exists, ofString?_eq_some_of_tail hs hstop, htail]
  constructor
  · constructor
    · intro ⟨sv, ⟨hmajor, hminor, hpatch⟩, hok, _⟩
      exact ⟨⟨hmajor ▸ sv.major.toNat_lt_size, hminor ▸ sv.minor.toNat_lt_size,
        hpatch ▸ sv.patch.toNat_lt_size⟩, hok⟩
    · intro ⟨⟨hmajor, hminor, hmicro⟩, hok⟩
      refine ⟨⟨.ofNat v.major.toNat, .ofNat v.minor.toNat, .ofNat v.micro.toNat, pre, build⟩,
        ⟨?_, ?_, ?_⟩, hok, rfl, rfl⟩
      · exact UInt64.toNat_ofNat_of_lt' hmajor
      · exact UInt64.toNat_ofNat_of_lt' hminor
      · exact UInt64.toNat_ofNat_of_lt' hmicro
  · intro sv ⟨⟨hmajor, hminor, hpatch⟩, hok, hpre, hbuild⟩
    have hread := (ofString?_eq_some_of_tail hs hstop).mpr
      ⟨⟨hmajor, hminor, hpatch⟩, (htail _ _).mpr ⟨hok, hpre, hbuild⟩⟩
    exact ⟨hmajor, hminor, hpatch, hpre, hbuild, (ofString?_eq_some.mp hread).1.symm⟩

end SemVer

namespace Resolution
open SemVer

/-- The semantic version behind a written-out version. Without a pre-release it is there when the
three numbers fit. Otherwise the long name and the value behind it have to be identifiers of a
pre-release, up to the first plus sign of the name if it has any, and identifiers of a build part
from there. -/
theorem semVer_of_normalized {rules : Rules} {raw version : String} {r : Resolution} {v : Version}
    (h : rules.resolve raw = .ok r) (hr : r = .normalized v version) :
    (v.prerelease = none → (r.semVer?.isSome = true ↔ v.Fits) ∧
      ∀ sv, r.semVer? = some sv → sv.Views v "" "" version) ∧
    ∀ p name, v.prerelease = some p → name = (rules.names.get? p.stage.marker).getD "dev" →
      ('+' ∉ name.toList →
        (r.semVer?.isSome = true ↔ v.Fits ∧ PreText (name ++ "." ++ p.value.text)) ∧
        ∀ sv, r.semVer? = some sv → sv.Views v (name ++ "." ++ p.value.text) "" version) ∧
      ∀ before after, name = before ++ "+" ++ after → '+' ∉ before.toList →
        (r.semVer?.isSome = true ↔
          v.Fits ∧ PreText before ∧ BuildText (after ++ "." ++ p.value.text)) ∧
        ∀ sv, r.semVer? = some sv → sv.Views v before (after ++ "." ++ p.value.text) version := by
  subst hr
  have hversion : version = v.render rules.names := by
    cases (Rules.resolve_eq_ok.mp h).2 with
    | normalized _ _ => rfl
  have hlist := hversion ▸ v.toList_render rules.names
  refine ⟨?_, ?_⟩
  · intro hfinal
    have hlabel : v.label rules.names = [] := by simp [Version.label, hfinal]
    rw [hlabel] at hlist
    have hview := view_of_tail hlist Numeral.stopsAt_nil fun _ _ => parts_eq_nil
    rwa [and_true] at hview
  · intro p name hp hname
    have hlabel : v.label rules.names = '-' :: (name.toList ++ '.' :: p.value.digits) := by
      simp [Version.label, hp, hname, Stage.longNameIn, Stage.fallbackName]
    have hstop : Numeral.StopsAt ('-' :: (name.toList ++ '.' :: p.value.digits)) := by simp
    rw [hlabel] at hlist
    have hvalue : '+' ∉ p.value.digits := p.value.notMem_digits rfl
    constructor
    · intro hplus
      have htail : (name ++ "." ++ p.value.text).toList = name.toList ++ '.' :: p.value.digits := by
        simp [Numeral.text]
      rw [← htail] at hlist hstop
      exact view_of_tail hlist hstop fun _ _ => parts_eq_pre (by simp [htail, hplus, hvalue])
    · intro before after hcut hbefore
      have htail : name.toList ++ '.' :: p.value.digits =
          before.toList ++ '+' :: (after ++ "." ++ p.value.text).toList := by
        simp [hcut, Numeral.text]
      rw [htail] at hlist hstop
      exact view_of_tail hlist hstop fun _ _ => parts_eq_build hbefore

/-- A name with a plus sign hands the value over to the build part, where leading zeros are
allowed. -/
theorem semVer_of_normalized_plus :
    let rules : Rules := ⟨["v"], .ofList [("a", "x+00")], "version"⟩
    let v : Version := ⟨.ofNat 1, .ofNat 2, .zero, some ⟨.alpha, .ofNat 3⟩⟩
    let r := normalized v "1.2.0-x+00.3"
    rules.resolve "v1.2a3" = .ok r ∧
      (r.semVer?.isSome = true ↔ v.Fits ∧ PreText "x" ∧ BuildText "00.3") ∧
      ∀ sv, r.semVer? = some sv → sv.Views v "x" "00.3" "1.2.0-x+00.3" := by
  intro rules v r
  have hresolve : rules.resolve "v1.2a3" = .ok r := by decide
  exact ⟨hresolve, ((semVer_of_normalized hresolve rfl).2 ⟨.alpha, .ofNat 3⟩ "x+00" rfl rfl).2
    "x" "00" rfl (by decide)⟩

end Resolution

end BranchVersion
