/-! The pieces of a text between the places where a separator stands. Joining them gives the text
back. -/
namespace BranchVersion.Text

def pieces (sep : Char) : List Char → List (List Char)
  | [] => [[]]
  | c :: s =>
    if c = sep then [] :: pieces sep s
    else match pieces sep s with
      | [] => [[c]]
      | p :: ps => (c :: p) :: ps

theorem pieces_ne_nil (sep : Char) (s : List Char) : pieces sep s ≠ [] := by
  cases s with
  | nil => simp [pieces]
  | cons c s =>
    simp only [pieces]
    split
    · simp
    · split <;> simp

theorem intercalate_pieces (sep : Char) (s : List Char) :
    [sep].intercalate (pieces sep s) = s := by
  induction s with
  | nil => rfl
  | cons c s ih =>
    cases hp : pieces sep s with
    | nil => exact absurd hp (pieces_ne_nil sep s)
    | cons p ps =>
      rw [hp] at ih
      by_cases h : c = sep
      · simp only [pieces, h, ↓reduceIte, hp]
        rw [← ih]
        simp [List.intercalate, List.intersperse]
      · simp only [pieces, h, ↓reduceIte, hp]
        rw [← ih]
        cases ps <;> simp [List.intercalate, List.intersperse]

theorem pieces_of_notMem {sep : Char} {s : List Char} (h : sep ∉ s) : pieces sep s = [s] := by
  induction s with
  | nil => rfl
  | cons c s ih =>
    simp only [List.mem_cons, not_or] at h
    simp [pieces, Ne.symm h.1, ih h.2]

theorem pieces_append {sep : Char} {s : List Char} (h : sep ∉ s) (t : List Char) :
    pieces sep (s ++ sep :: t) = s :: pieces sep t := by
  induction s with
  | nil => simp [pieces]
  | cons c s ih =>
    simp only [List.mem_cons, not_or] at h
    simp [pieces, Ne.symm h.1, ih h.2]

theorem notMem_of_mem_pieces {sep : Char} {s p : List Char} (h : p ∈ pieces sep s) : sep ∉ p := by
  induction s generalizing p with
  | nil => simp_all [pieces]
  | cons c s ih =>
    unfold pieces at h
    split at h
    · rcases List.mem_cons.1 h with rfl | h
      · simp
      · exact ih h
    · rename_i hc
      split at h
      · rename_i hp
        exact absurd hp (pieces_ne_nil sep s)
      · rename_i q qs hp
        rcases List.mem_cons.1 h with rfl | h
        · simpa [Ne.symm hc] using ih (hp ▸ List.mem_cons_self)
        · exact ih (hp ▸ List.mem_cons_of_mem q h)

theorem exists_mem_pieces {sep c : Char} {s : List Char} (h : c ∈ s) (hc : c ≠ sep) :
    ∃ p ∈ pieces sep s, c ∈ p := by
  induction s with
  | nil => simp at h
  | cons d s ih =>
    unfold pieces
    split
    · rename_i hd
      have hs : c ∈ s := by simpa [hd, hc] using h
      obtain ⟨p, hp, hcp⟩ := ih hs
      exact ⟨p, List.mem_cons_of_mem _ hp, hcp⟩
    · split
      · rename_i hp
        exact absurd hp (pieces_ne_nil sep s)
      · rename_i q qs hp
        rcases List.mem_cons.1 h with rfl | hs
        · exact ⟨c :: q, by simp, by simp⟩
        · obtain ⟨p, hps, hcp⟩ := ih hs
          rw [hp] at hps
          rcases List.mem_cons.1 hps with rfl | hps
          · exact ⟨d :: p, by simp, by simp [hcp]⟩
          · exact ⟨p, by simp [hps], hcp⟩

/-- A text has only one cut into pieces without the separator. -/
theorem pieces_eq_iff {sep : Char} {s : List Char} {ps : List (List Char)} :
    pieces sep s = ps ↔ ps ≠ [] ∧ s = [sep].intercalate ps ∧ ∀ p ∈ ps, sep ∉ p := by
  constructor
  · rintro rfl
    exact ⟨pieces_ne_nil sep s, (intercalate_pieces sep s).symm, fun _ => notMem_of_mem_pieces⟩
  · rintro ⟨hne, rfl, hps⟩
    induction ps with
    | nil => exact absurd rfl hne
    | cons p rest ih =>
      have hp := hps p (by simp)
      have hrest : ∀ q ∈ rest, sep ∉ q := fun q hq => hps q (by simp [hq])
      rcases rest with _ | ⟨q, more⟩
      · simpa using pieces_of_notMem hp
      · have hjoin :
            [sep].intercalate (p :: q :: more) = p ++ sep :: [sep].intercalate (q :: more) := by
          simp
        rw [hjoin, pieces_append hp, ih (by simp) hrest]

end BranchVersion.Text
