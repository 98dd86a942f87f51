import BranchVersion.Proofs.Outcome
import Mathlib.Data.List.Infix
import Mathlib.Data.List.Perm.Basic

/-!
Which prefixes of a list are ever taken off. An entry with a prefix of its own in front of it never
is the first match, and among the others the first match is the longest one. The list counts only
through these live entries, so other entries may be added, and entries that have no prefix among
them may change places.
-/
namespace BranchVersion

namespace Text

variable {s t u : String}

theorem startsWith_iff : StartsWith s t ↔ t.toList <+: s.toList := by
  constructor
  · intro h
    obtain ⟨rest, rfl⟩ := h
    exact ⟨rest.toList, by simp⟩
  · intro h
    obtain ⟨rest, hrest⟩ := h
    exact ⟨String.ofList rest, by simp [← String.toList_inj, hrest]⟩

instance : Decidable (StartsWith s t) := decidable_of_iff _ startsWith_iff.symm

private theorem StartsWith.trans (h : StartsWith s t) (h' : StartsWith t u) : StartsWith s u := by
  rw [startsWith_iff] at h h' ⊢
  exact h'.trans h

/-- Of two texts that a text starts with, the longer one starts with the other. -/
private theorem StartsWith.of_length_le (ht : StartsWith s t) (hu : StartsWith s u)
    (hle : t.length ≤ u.length) : StartsWith u t := by
  rw [startsWith_iff] at ht hu ⊢
  exact List.prefix_of_prefix_length_le ht hu (by rwa [String.length_toList, String.length_toList])

private theorem StartsWith.eq_of_length_le (h : StartsWith s t) (hle : s.length ≤ t.length) :
    t = s := by
  rw [startsWith_iff] at h
  exact String.toList_inj.mp
    (h.eq_of_length_le (by rwa [String.length_toList, String.length_toList]))

end Text

/-- An entry of a list with no prefix of it further in front. -/
def IsLive (prefixes : List String) (p : String) : Prop :=
  ∃ earlier later, prefixes = earlier ++ p :: later ∧ ∀ q ∈ earlier, ¬Text.StartsWith p q

/-- Of the live entries that a name starts with, `start` is the longest. -/
structure LongestLive (prefixes : List String) (name start : String) : Prop where
  live : IsLive prefixes start
  starts : Text.StartsWith name start
  longest : ∀ p, IsLive prefixes p → Text.StartsWith name p → p.length ≤ start.length

section Live

variable {prefixes front back block block' : List String} {name start rest p q : String}

theorem IsLive.mem (h : IsLive prefixes p) : p ∈ prefixes := by
  obtain ⟨earlier, later, rfl, -⟩ := h
  simp

private theorem not_isLive_nil : ¬IsLive [] p := by
  intro h
  exact absurd h.mem List.not_mem_nil

/-- To cut a list at `p` is to cut it in front of everything or to cut its tail. -/
private theorem exists_cut_cons {P : String → Prop} :
    (∃ earlier later, q :: prefixes = earlier ++ p :: later ∧ ∀ r ∈ earlier, P r) ↔
      p = q ∨ P q ∧ ∃ earlier later, prefixes = earlier ++ p :: later ∧ ∀ r ∈ earlier, P r := by
  constructor
  · intro h
    obtain ⟨earlier, later, hp, hearlier⟩ := h
    cases earlier with
    | nil => exact .inl (List.cons.inj hp).1.symm
    | cons r earlier =>
      obtain ⟨rfl, htail⟩ := List.cons.inj hp
      rw [List.forall_mem_cons] at hearlier
      exact .inr ⟨hearlier.1, earlier, later, htail, hearlier.2⟩
  · intro h
    rcases h with rfl | ⟨hq, earlier, later, rfl, hearlier⟩
    · exact ⟨[], prefixes, rfl, by simp⟩
    · exact ⟨q :: earlier, later, rfl, List.forall_mem_cons.mpr ⟨hq, hearlier⟩⟩

private theorem isLive_cons : IsLive (q :: prefixes) p ↔
    p = q ∨ IsLive prefixes p ∧ ¬Text.StartsWith p q := by
  unfold IsLive
  rw [exists_cut_cons, and_comm]

instance decidableIsLive : (prefixes : List String) → (p : String) → Decidable (IsLive prefixes p)
  | [], _ => .isFalse not_isLive_nil
  | _ :: prefixes, p =>
    have := decidableIsLive prefixes p
    decidable_of_iff _ isLive_cons.symm

example :
    IsLive ["r", "release/", "v", "r"] "v" ∧ ¬IsLive ["r", "release/", "v", "r"] "release/" := by
  decide

theorem isLive_append : IsLive (front ++ back) p ↔
    IsLive front p ∨ IsLive back p ∧ ∀ q ∈ front, ¬Text.StartsWith p q := by
  induction front with
  | nil => simp [not_isLive_nil]
  | cons q front ih =>
    rw [List.cons_append, isLive_cons, isLive_cons, ih, List.forall_mem_cons]
    tauto

private theorem firstMatch_cons : FirstMatch (q :: prefixes) name start rest ↔
    (start = q ∧ name = start ++ rest) ∨
      (¬Text.StartsWith name q ∧ FirstMatch prefixes name start rest) := by
  unfold FirstMatch
  rw [exists_cut_cons]
  tauto

private theorem FirstMatch.isLive (h : FirstMatch prefixes name start rest) :
    IsLive prefixes start := by
  obtain ⟨hname, earlier, later, hp, hearlier⟩ := h
  refine ⟨earlier, later, hp, ?_⟩
  intro q hq hstart
  exact hearlier q hq (.trans ⟨rest, hname⟩ hstart)

/-- A live entry that is longer than the first match and also fits would start with it. -/
private theorem FirstMatch.longest (h : FirstMatch prefixes name start rest)
    (hp : IsLive prefixes p) (hname : Text.StartsWith name p) : p.length ≤ start.length := by
  induction prefixes with
  | nil => exact absurd hp not_isLive_nil
  | cons q prefixes ih =>
    rcases firstMatch_cons.mp h with ⟨rfl, hstart⟩ | ⟨hq, hfirst⟩
    · rcases isLive_cons.mp hp with rfl | ⟨-, hpq⟩
      · exact le_rfl
      · by_contra hlt
        exact hpq (.of_length_le ⟨rest, hstart⟩ hname (by omega))
    · rcases isLive_cons.mp hp with rfl | ⟨hlive, -⟩
      · exact absurd hname hq
      · exact ih hfirst hlive

theorem FirstMatch.longestLive (h : FirstMatch prefixes name start rest) :
    LongestLive prefixes name start where
  live := h.isLive
  starts := ⟨rest, h.1⟩
  longest := by
    intro p hp hname
    exact h.longest hp hname

theorem LongestLive.unique (hp : LongestLive prefixes name p) (hq : LongestLive prefixes name q) :
    p = q := by
  have hle : p.length ≤ q.length := hq.longest p hp.live hp.starts
  have hge : q.length ≤ p.length := hp.longest q hq.live hq.starts
  exact (hp.starts.of_length_le hq.starts hle).eq_of_length_le hge

/-- The first match of a list is its longest live match. -/
theorem firstMatch_iff : FirstMatch prefixes name start rest ↔
    LongestLive prefixes name start ∧ name = start ++ rest := by
  constructor
  · intro h
    exact ⟨h.longestLive, h.1⟩
  · intro h
    obtain ⟨hlongest, hname⟩ := h
    obtain ⟨start', rest', hfirst⟩ :=
      exists_firstMatch.mpr ⟨start, hlongest.live.mem, hlongest.starts⟩
    obtain rfl := hlongest.unique hfirst.longestLive
    have hrest : start ++ rest = start ++ rest' := hname.symm.trans hfirst.1
    rw [String.append_right_inj] at hrest
    rwa [hrest]

private theorem exists_isLive : (∃ p, IsLive prefixes p ∧ Text.StartsWith name p) ↔
    ∃ p ∈ prefixes, Text.StartsWith name p := by
  constructor
  · intro h
    obtain ⟨p, hp, hname⟩ := h
    exact ⟨p, hp.mem, hname⟩
  · intro h
    obtain ⟨start, rest, hfirst⟩ := exists_firstMatch.mpr h
    exact ⟨start, hfirst.isLive, rest, hfirst.1⟩

/-- An entry that goes on after one further in front is not live, and it shadows nothing else. -/
theorem isLive_insert (h : ∃ q ∈ front, Text.StartsWith p q) {x : String} :
    IsLive (front ++ p :: back) x ↔ IsLive (front ++ back) x := by
  obtain ⟨q, hq, hpq⟩ := h
  have hshadow : (∀ r ∈ front, ¬Text.StartsWith x r) → ¬Text.StartsWith x p :=
    fun hx hxp => hx q hq (hxp.trans hpq)
  rw [isLive_append, isLive_append, isLive_cons]
  constructor
  · intro h
    rcases h with hx | ⟨rfl | ⟨hx, -⟩, hfront⟩
    · exact .inl hx
    · exact absurd hpq (hfront q hq)
    · exact .inr ⟨hx, hfront⟩
  · intro h
    rcases h with hx | ⟨hx, hfront⟩
    · exact .inl hx
    · exact .inr ⟨.inr ⟨hx, hshadow hfront⟩, hfront⟩

/-- Where no entry is a prefix of another, all of them are live. -/
theorem isLive_block (h : ∀ p ∈ block, ∀ q ∈ block, Text.StartsWith p q → p = q) :
    IsLive block p ↔ p ∈ block := by
  induction block with
  | nil => simp [not_isLive_nil]
  | cons q block ih =>
    have hblock : IsLive block p ↔ p ∈ block :=
      ih fun p hp q hq => h p (List.mem_cons_of_mem _ hp) q (List.mem_cons_of_mem _ hq)
    rw [isLive_cons, List.mem_cons, hblock]
    constructor
    · intro hp
      rcases hp with rfl | ⟨hp, -⟩
      · exact .inl rfl
      · exact .inr hp
    · intro hp
      rcases hp with rfl | hp
      · exact .inl rfl
      · by_cases hpq : p = q
        · exact .inl hpq
        · exact .inr ⟨hp, fun hstart =>
            hpq (h p (List.mem_cons_of_mem _ hp) q List.mem_cons_self hstart)⟩

theorem isLive_perm (hperm : block'.Perm block)
    (h : ∀ p ∈ block, ∀ q ∈ block, Text.StartsWith p q → p = q) :
    IsLive (front ++ (block' ++ back)) p ↔ IsLive (front ++ (block ++ back)) p := by
  have h' : ∀ p ∈ block', ∀ q ∈ block', Text.StartsWith p q → p = q :=
    fun p hp q hq => h p (hperm.mem_iff.mp hp) q (hperm.mem_iff.mp hq)
  simp only [isLive_append, isLive_block h, isLive_block h', hperm.mem_iff]

end Live

namespace Branch

variable {b : Branch} {prefixes prefixes' : List String}

theorem strip?_eq_none_iff_live :
    b.strip? prefixes = none ↔ ∀ p, IsLive prefixes p → ¬Text.StartsWith b.name p := by
  have h : (∃ p, IsLive prefixes p ∧ Text.StartsWith b.name p) ↔
      ∃ p ∈ prefixes, Text.StartsWith b.name p := exists_isLive
  rw [strip?_eq_none]
  simpa using h.not.symm

theorem strip?_eq_some_iff_longest {rest : String} : b.strip? prefixes = some rest ↔
    ∃ start, LongestLive prefixes b.name start ∧ b.name = start ++ rest := by
  simp only [strip?_eq_some, firstMatch_iff]

theorem strip?_congr (h : ∀ p, IsLive prefixes' p ↔ IsLive prefixes p) :
    b.strip? prefixes' = b.strip? prefixes := by
  have hlongest {start : String} :
      LongestLive prefixes' b.name start ↔ LongestLive prefixes b.name start := by
    constructor
    · intro hl
      exact ⟨(h _).mp hl.live, hl.starts, fun p hp => hl.longest p ((h p).mpr hp)⟩
    · intro hl
      exact ⟨(h _).mpr hl.live, hl.starts, fun p hp => hl.longest p ((h p).mp hp)⟩
  ext rest
  simp only [strip?_eq_some_iff_longest, hlongest]

end Branch

namespace Rules

variable {rules : Rules}

theorem resolve_congr_live {prefixes : List String}
    (h : ∀ p, IsLive prefixes p ↔ IsLive rules.prefixes p) (raw : String) :
    { rules with prefixes }.resolve raw = rules.resolve raw := by
  unfold resolve
  cases Branch.ofString? raw with
  | none => rfl
  | some b => simp only [resolveBranch, Branch.strip?_congr h]

/-- Stripping takes off the longest live prefix of the name, and nothing where no live prefix fits.
So a resolution depends on the list of prefixes only through the live ones: an entry that repeats
one further in front or goes on after it may be added at any place, and neighbours that have no
prefix among themselves may change places. -/
theorem longest_live_prefix (rules : Rules) :
    (∀ b : Branch,
      (b.strip? rules.prefixes = none ↔
        ∀ p, IsLive rules.prefixes p → ¬Text.StartsWith b.name p) ∧
      ∀ rest, b.strip? rules.prefixes = some rest ↔
        ∃ start, LongestLive rules.prefixes b.name start ∧ b.name = start ++ rest) ∧
    (∀ prefixes, (∀ p, IsLive prefixes p ↔ IsLive rules.prefixes p) → ∀ raw,
      { rules with prefixes }.resolve raw = rules.resolve raw) ∧
    (∀ front back p, rules.prefixes = front ++ back → (∃ q ∈ front, Text.StartsWith p q) →
      ∀ raw, { rules with prefixes := front ++ p :: back }.resolve raw = rules.resolve raw) ∧
    ∀ front block back block', rules.prefixes = front ++ (block ++ back) → block'.Perm block →
      (∀ p ∈ block, ∀ q ∈ block, Text.StartsWith p q → p = q) →
      ∀ raw,
        { rules with prefixes := front ++ (block' ++ back) }.resolve raw = rules.resolve raw := by
  refine ⟨?_, ?_, ?_, ?_⟩
  · intro b
    exact ⟨Branch.strip?_eq_none_iff_live, fun _ => Branch.strip?_eq_some_iff_longest⟩
  · intro prefixes h raw
    exact resolve_congr_live h raw
  · intro front back p hp hshadow raw
    apply resolve_congr_live
    intro x
    rw [hp, isLive_insert hshadow]
  · intro front block back block' hp hperm hapart raw
    apply resolve_congr_live
    intro x
    rw [hp, isLive_perm hperm hapart]

/-- The last entry goes on after the second, and the last two of the three have no prefix between
them. -/
theorem longest_live_prefix_nested :
    let rules : Rules := ⟨["release/", "r", "v"], .standard, "version"⟩
    rules.resolve "rel1.2" = .ok (.unmatched "el1.2") ∧
      { rules with prefixes := ["release/", "r", "v", "rel"] }.resolve "rel1.2" =
        .ok (.unmatched "el1.2") ∧
      { rules with prefixes := ["release/", "v", "r"] }.resolve "rel1.2" =
        .ok (.unmatched "el1.2") := by
  intro rules
  obtain ⟨-, -, hinsert, hswap⟩ := longest_live_prefix rules
  have hr : rules.resolve "rel1.2" = .ok (.unmatched "el1.2") := rfl
  have hshadow : ∃ q ∈ rules.prefixes, Text.StartsWith "rel" q := by decide
  have hapart : ∀ p ∈ ["r", "v"], ∀ q ∈ ["r", "v"], Text.StartsWith p q → p = q := by decide
  refine ⟨hr, ?_, ?_⟩
  · exact (hinsert rules.prefixes [] "rel" (List.append_nil _).symm hshadow "rel1.2").trans hr
  · exact (hswap ["release/"] ["r", "v"] [] ["v", "r"] rfl (.swap _ _ _) hapart "rel1.2").trans hr

end Rules

end BranchVersion
