import Montage.Proofs.Folder

/-!
# Folders of one shape

Two folders have one shape if they differ at most in what their files hold. Where a path leads, what
exists, and which texts can be appended are questions of the shape, and appending the same text to
both keeps it up.
-/

namespace Montage

def Entry.isFolder : Entry → Bool
  | folder => true
  | file _ => false

namespace Folder

/-- The same entries stand in two folders, but for what the files hold. -/
structure SameShape (f g : Folder) : Prop where
  working_eq : g.working = f.working
  kind_eq : ∀ parts, (g.find? parts).map Entry.isFolder = (f.find? parts).map Entry.isFolder

variable {f g : Folder} {parts : List String} {bytes : ByteArray}

/-- In each place both have nothing, both have a folder, or both have a file. -/
lemma SameShape.find?_cases (h : f.SameShape g) (parts : List String) :
    (f.find? parts = none ∧ g.find? parts = none) ∨
    (f.find? parts = some .folder ∧ g.find? parts = some .folder) ∨
    ∃ bytes bytes', f.find? parts = some (.file bytes) ∧ g.find? parts = some (.file bytes') := by
  have hkind := h.kind_eq parts
  rcases hf : f.find? parts with _ | _ | bytes <;> rcases hg : g.find? parts with _ | _ | bytes' <;>
    simp only [hf, hg, Option.map_none, Option.map_some, Entry.isFolder, reduceCtorEq,
      Option.some.injEq, Bool.false_eq_true] at hkind
  · exact .inl ⟨rfl, rfl⟩
  · exact .inr (.inl ⟨rfl, rfl⟩)
  · exact .inr (.inr ⟨bytes, bytes', rfl, rfl⟩)

/-! ### Paths -/

lemma SameShape.walk_eq (h : f.SameShape g) (parts : List String) (here : Option (List String)) :
    g.walk parts here = f.walk parts here := by
  induction parts generalizing here with
  | nil => cases here <;> rfl
  | cons part rest ih =>
    cases here with
    | none => rw [walk, walk, ih]
    | some here =>
      rw [walk, walk]
      by_cases htop : isTop here
      · rw [if_pos htop, if_pos htop]
        exact ih _
      · rw [if_neg htop, if_neg htop]
        obtain ⟨hf, hg⟩ | ⟨hf, hg⟩ | ⟨bytes, bytes', hf, hg⟩ := h.find?_cases here.reverse <;>
          rw [hf, hg]
        exact ih _

/-- Paths lead to the same places. -/
lemma SameShape.resolve_eq (h : f.SameShape g) (path : String) :
    g.resolve path = f.resolve path := by
  rw [resolve, resolve, h.walk_eq, start, start, h.working_eq]

/-- The same paths exist. -/
lemma SameShape.pathExists_eq (h : f.SameShape g) (path : String) :
    g.pathExists path = f.pathExists path := by
  rw [pathExists, pathExists, h.resolve_eq]
  cases f.resolve path with
  | inside parts =>
    obtain ⟨hf, hg⟩ | ⟨hf, hg⟩ | ⟨bytes, bytes', hf, hg⟩ := h.find?_cases parts <;>
      simp only [hf, hg]
  | _ => rfl

/-! ### Writing -/

lemma working_set (f : Folder) (parts : List String) (e : Entry) :
    (f.set parts e).working = f.working := by
  unfold set
  split_ifs <;> rfl

/-- Writing the same file in both keeps the shape. -/
lemma SameShape.set (h : f.SameShape g) (parts : List String) (bytes bytes' : ByteArray) :
    (f.set parts (.file bytes)).SameShape (g.set parts (.file bytes')) := by
  refine ⟨by rw [working_set, working_set, h.working_eq], fun q => ?_⟩
  rw [find?_set, find?_set]
  split_ifs
  · rfl
  · exact h.kind_eq q

/-- Replacing what a file holds keeps the shape. -/
lemma sameShape_set (h : f.find? parts = some (.file bytes)) (bytes' : ByteArray) :
    f.SameShape (f.set parts (.file bytes')) := by
  refine ⟨working_set f parts _, fun q => ?_⟩
  rw [find?_set]
  split_ifs with hq
  · rw [hq, h]
    rfl
  · rfl

/-- Whether a text can be appended, and what is wrong otherwise, depends on the shape only. -/
lemma SameShape.append (h : f.SameShape g) (path text : String) :
    (∃ fault, f.append path text = .error fault ∧ g.append path text = .error fault) ∨
    ∃ f' g', f.append path text = .ok f' ∧ g.append path text = .ok g' ∧ f'.SameShape g' := by
  unfold Folder.append
  rw [h.resolve_eq]
  by_cases hnul : path.toList.contains '\x00' = true
  · rw [if_pos hnul, if_pos hnul]
    exact .inl ⟨_, rfl, rfl⟩
  rw [if_neg hnul, if_neg hnul]
  cases f.resolve path with
  | outside | nowhere | beyondFile => exact .inl ⟨_, rfl, rfl⟩
  | inside parts =>
    obtain ⟨hf, hg⟩ | ⟨hf, hg⟩ | ⟨bytes, bytes', hf, hg⟩ := h.find?_cases parts <;>
      simp only [hf, hg]
    · split_ifs
      · exact .inl ⟨_, rfl, rfl⟩
      · exact .inr ⟨_, _, rfl, rfl, h.set parts _ _⟩
    · exact .inl ⟨_, rfl, rfl⟩
    · exact .inr ⟨_, _, rfl, rfl, h.set parts _ _⟩

end Folder

end Montage
