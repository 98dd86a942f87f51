import BranchVersion.Prerelease

/-!
Tables from markers to long names. The entries stand in ascending order of their keys, so two tables
are equal exactly when every key has the same entry in both. A search of the keys goes by an order
of its own.
-/
namespace BranchVersion

structure NameTable where
  entries : List (String × String)
  ascending : entries.Pairwise (fun x y => x.1 < y.1)
  deriving DecidableEq

namespace NameTable

def insertEntry (key long : String) : List (String × String) → List (String × String)
  | [] => [(key, long)]
  | x :: rest =>
    if key < x.1 then (key, long) :: x :: rest
    else if key = x.1 then (key, long) :: rest
    else x :: insertEntry key long rest

private theorem mem_insertEntry {key long : String} {es : List (String × String)}
    {y : String × String} (h : y ∈ insertEntry key long es) : y = (key, long) ∨ y ∈ es := by
  induction es with
  | nil => simpa [insertEntry] using h
  | cons x rest ih =>
    unfold insertEntry at h
    split at h
    · simpa using h
    · split at h
      · rcases List.mem_cons.1 h with h | h <;> simp [h]
      · rcases List.mem_cons.1 h with h | h
        · simp [h]
        · rcases ih h with h | h <;> simp [h]

private theorem ascending_insertEntry (key long : String) {es : List (String × String)}
    (h : es.Pairwise (fun x y => x.1 < y.1)) :
    (insertEntry key long es).Pairwise (fun x y => x.1 < y.1) := by
  induction es with
  | nil => simp [insertEntry]
  | cons x rest ih =>
    have hx := List.pairwise_cons.1 h
    unfold insertEntry
    split
    · rename_i hlt
      refine List.pairwise_cons.2 ⟨fun y hy => ?_, h⟩
      rcases List.mem_cons.1 hy with rfl | hy
      · exact hlt
      · exact String.lt_trans hlt (hx.1 y hy)
    · split
      · rename_i heq
        exact List.pairwise_cons.2 ⟨fun y hy => heq ▸ hx.1 y hy, hx.2⟩
      · rename_i hnlt hne
        refine List.pairwise_cons.2 ⟨fun y hy => ?_, ih hx.2⟩
        rcases mem_insertEntry hy with rfl | hy
        · exact Classical.byContradiction fun hlt =>
            hne (String.le_antisymm (String.not_lt.1 hlt) (String.not_lt.1 hnlt))
        · exact hx.1 y hy

def empty : NameTable := ⟨[], .nil⟩

instance : EmptyCollection NameTable := ⟨empty⟩

def insert (t : NameTable) (key long : String) : NameTable :=
  ⟨insertEntry key long t.entries, ascending_insertEntry key long t.ascending⟩

def erase (t : NameTable) (key : String) : NameTable :=
  ⟨t.entries.filter (·.1 != key), t.ascending.filter _⟩

/-- Of two entries with one key the later stays. -/
def ofList (es : List (String × String)) : NameTable :=
  es.foldl (fun t e => t.insert e.1 e.2) ∅

def get? (t : NameTable) (key : String) : Option String := t.entries.lookup key

/-- The keys in ascending order. -/
def keys (t : NameTable) : List String := t.entries.map (·.1)

def standard : NameTable := ofList (Stage.all.map fun s => (s.marker, s.longName))

private theorem lookup_cons_eq (k : String) (x : String × String) (es : List (String × String)) :
    (x :: es).lookup k = if k = x.1 then some x.2 else es.lookup k := by
  obtain ⟨key, long⟩ := x
  by_cases h : k = key
  · subst h
    simp
  · have hb : (k == key) = false := beq_false_of_ne h
    rw [List.lookup_cons, hb, if_neg h]

theorem get?_insert (t : NameTable) (key long k : String) :
    (t.insert key long).get? k = if k = key then some long else t.get? k := by
  have h (es : List (String × String)) :
      (insertEntry key long es).lookup k = if k = key then some long else es.lookup k := by
    induction es with
    | nil => simp only [insertEntry, lookup_cons_eq]
    | cons x rest ih =>
      unfold insertEntry
      split
      · rw [lookup_cons_eq]
      · split
        · rename_i hx
          subst hx
          by_cases hk : k = x.1 <;> simp [lookup_cons_eq, hk]
        · rename_i hx
          by_cases hk : k = x.1
          · subst hk
            simp [lookup_cons_eq, Ne.symm hx]
          · simp [lookup_cons_eq, hk, ih]
  exact h t.entries

theorem get?_erase (t : NameTable) (key k : String) :
    (t.erase key).get? k = if k = key then none else t.get? k := by
  have h (es : List (String × String)) :
      (es.filter (·.1 != key)).lookup k = if k = key then none else es.lookup k := by
    induction es with
    | nil => simp
    | cons x rest ih =>
      by_cases hx : x.1 = key
      · subst hx
        rw [List.filter_cons_of_neg (by simp), ih, lookup_cons_eq]
        by_cases hk : k = x.1 <;> simp [hk]
      · by_cases hk : k = x.1
        · subst hk
          simp [lookup_cons_eq, hx]
        · simp [lookup_cons_eq, hx, hk, ih]
  exact h t.entries

private theorem lookup_eq_none_of_lt {k : String} {es : List (String × String)}
    (h : ∀ x ∈ es, k < x.1) : es.lookup k = none := by
  induction es with
  | nil => rfl
  | cons x rest ih =>
    have hx : k ≠ x.1 := fun he => String.lt_irrefl _ (he ▸ h x (by simp))
    rw [lookup_cons_eq, ih fun y hy => h y (by simp [hy])]
    simp [hx]

private theorem entries_eq_of_lookup {es fs : List (String × String)}
    (hes : es.Pairwise (fun x y => x.1 < y.1)) (hfs : fs.Pairwise (fun x y => x.1 < y.1))
    (h : ∀ k, es.lookup k = fs.lookup k) : es = fs := by
  induction es generalizing fs with
  | nil =>
    cases fs with
    | nil => rfl
    | cons y fs => simpa [lookup_cons_eq] using h y.1
  | cons x es ih =>
    cases fs with
    | nil => simpa [lookup_cons_eq] using h x.1
    | cons y fs =>
      obtain ⟨hx, hes⟩ := List.pairwise_cons.1 hes
      obtain ⟨hy, hfs⟩ := List.pairwise_cons.1 hfs
      have hxy : ¬x.1 < y.1 := fun hlt => by
        have hn := @lookup_eq_none_of_lt x.1 (y :: fs) fun z hz => by
          rcases List.mem_cons.1 hz with rfl | hz
          · exact hlt
          · exact String.lt_trans hlt (hy z hz)
        simpa [lookup_cons_eq x.1 x es, hn] using h x.1
      have hyx : ¬y.1 < x.1 := fun hlt => by
        have hn := @lookup_eq_none_of_lt y.1 (x :: es) fun z hz => by
          rcases List.mem_cons.1 hz with rfl | hz
          · exact hlt
          · exact String.lt_trans hlt (hx z hz)
        simpa [lookup_cons_eq y.1 y fs, hn] using h y.1
      have hkey : x.1 = y.1 := String.le_antisymm (String.not_lt.1 hyx) (String.not_lt.1 hxy)
      have hlong : x.2 = y.2 := by simpa [lookup_cons_eq, hkey] using h x.1
      have htail : es = fs := ih hes hfs fun k => by
        by_cases hk : k = x.1
        · subst hk
          rw [lookup_eq_none_of_lt hx, lookup_eq_none_of_lt (hkey ▸ hy)]
        · simpa [lookup_cons_eq, hk, hkey ▸ hk] using h k
      rw [htail, Prod.ext hkey hlong]

theorem ext_get? {t u : NameTable} (h : ∀ k, t.get? k = u.get? k) : t = u := by
  obtain ⟨es, hes⟩ := t
  obtain ⟨fs, hfs⟩ := u
  obtain rfl := entries_eq_of_lookup hes hfs h
  rfl

end NameTable

/-- An order in which the keys of a table are gone through. Hash tables have one that is not known
and may be another one in every run, but no key is left out or comes twice. -/
structure KeyOrder where
  arrange : List String → List String
  perm (keys : List String) : (arrange keys).Perm keys

namespace KeyOrder

/-- The order of a run for which no other one is given. -/
def ascending : KeyOrder := ⟨id, fun _ => .refl _⟩

def startingWith (key : String) : KeyOrder where
  arrange keys := if key ∈ keys then key :: keys.erase key else keys
  perm keys := by
    split
    · exact (List.perm_cons_erase ‹_›).symm
    · exact .refl _

end KeyOrder

/-- What a stage is called when a table has no entry for its marker. -/
def Stage.fallbackName : String := "dev"

def Stage.longNameIn (s : Stage) (names : NameTable) : String :=
  (names.get? s.marker).getD fallbackName

namespace Stage

variable {s : Stage} {names : NameTable} {key : String}

theorem longNameIn_insert (h : key ≠ s.marker) (long : String) :
    s.longNameIn (names.insert key long) = s.longNameIn names := by
  rw [longNameIn, longNameIn, NameTable.get?_insert, if_neg h.symm]

theorem longNameIn_erase (h : key ≠ s.marker) :
    s.longNameIn (names.erase key) = s.longNameIn names := by
  rw [longNameIn, longNameIn, NameTable.get?_erase, if_neg h.symm]

end Stage

end BranchVersion
