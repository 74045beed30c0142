import Montage.Proofs.Compilation
import Montage.Proofs.Filter.Wiring
import Std.Data.String.ToInt

/-!
# Decoding filter fragments

The filters of a command stand in one fragment, with commas between them and without any quoting.
They can be told apart nevertheless, since no filter holds a comma, and a filter tells what its
operation asked for. So operations that ask for different filters have different fragments.
-/

namespace Montage

variable {curve : Curve} {op op' : Operation} {ops ops' : List Operation} {s : String}

/-- An operation adds a filter: it merges files, or scales to numbers that can be written. -/
inductive Operation.AddsFilter : Operation → Prop
  | resize {width height : Int} (hw : width.natAbs < powerOfTen digitLimit)
      (hh : height.natAbs < powerOfTen digitLimit) : AddsFilter (.resize width height)
  | merge (paths : List String) : AddsFilter (.merge paths)

/-- A filter tells what an operation asks for: width and height by two numerals behind the mark of
scaling, and without this mark the number of merged files. -/
inductive Tells : Operation → String → Prop
  | resize {width height : Int} {s rest : String} (htext : s = "scale=" ++ rest)
      (hnumbers : fieldsOf ':' rest = [width.repr, height.repr]) : Tells (.resize width height) s
  | merge {paths : List String} {s : String} (hmark : ¬ "scale=".toList <+: s.toList)
      (hcount : declaredCount s = paths.length) : Tells (.merge paths) s

/-- Two operations ask for the same filter: one of the same kind, with the same width and height or
the same number of merged files. -/
inductive AsksAlike : Operation → Operation → Prop
  | resize {width height : Int} : AsksAlike (.resize width height) (.resize width height)
  | merge {paths paths' : List String} (h : paths.length = paths'.length) :
    AsksAlike (.merge paths) (.merge paths')

/-- What a filter tells is unique. -/
lemma Tells.asksAlike (h : Tells op s) (h' : Tells op' s) : AsksAlike op op' := by
  cases h with
  | resize htext hnumbers =>
    subst htext
    cases h' with
    | resize htext' hnumbers' =>
      obtain rfl := String.append_right_inj _ |>.1 htext'
      rw [hnumbers] at hnumbers'
      obtain ⟨rfl, rfl⟩ : _ ∧ _ := by simpa using hnumbers'
      exact .resize
    | merge hmark => exact absurd (by simp) hmark
  | merge hmark hcount =>
    cases h' with
    | resize htext => exact absurd (by simp [htext]) hmark
    | merge _ hcount' => exact .merge (hcount.symm.trans hcount')

/-! ### The filters of operations -/

/-- A merge graph does not look like scaling, in which there is an `s`. -/
lemma not_prefix_mergeGraph (count : Nat) : ¬ "scale=".toList <+: (mergeGraph count).toList := by
  have hlacks : Lacks 's' (mergeGraph count) := lacks_mergeGraph rfl (by decide) count
  intro hmark
  exact hlacks (hmark.subset (by decide))

/-- The graph of a merge declares the number of its inputs. -/
lemma declaredCount_mergeGraph (count : Nat) : declaredCount (mergeGraph count) = count := by
  apply declaredCount_append
  have hparts := lacks_inputParts (c := '=') rfl (by decide)
  have hsep : Lacks '=' ";" := by decide
  simp only [lacks_append, lacks_join, lacks_intercalate hsep, List.forall_mem_map]
  exact ⟨⟨fun i _ => (hparts i).1, hsep⟩, fun i _ => (hparts i).2⟩

/-- A size is two numbers with a colon between them. -/
lemma fieldsOf_size (width height : Int) :
    fieldsOf ':' (width.repr ++ ":" ++ height.repr) = [width.repr, height.repr] := by
  have hlacks : ∀ n : Int, Lacks ':' n.repr := lacks_intRepr rfl (by decide)
  rw [fieldsOf_append rfl, fieldsOf_eq_singleton (hlacks width),
    fieldsOf_eq_singleton (hlacks height)]
  rfl

/-- Filters are joined with commas, so no filter may hold one. -/
lemma lacks_of_filter? (h : op.filter? = some s) : Lacks ',' s := by
  cases op with
  | resize width height =>
    obtain rfl := Option.some.inj h
    have hnumber : ∀ n : Int, Lacks ',' n.repr := lacks_intRepr rfl (by decide)
    simp only [lacks_append]
    exact ⟨⟨⟨by decide, hnumber width⟩, by decide⟩, hnumber height⟩
  | merge paths =>
    obtain rfl := Option.some.inj h
    exact lacks_mergeGraph rfl (by decide) paths.length
  | _ => cases h

/-- The filter of an operation tells what is asked for. -/
lemma tells_of_filter? (h : op.filter? = some s) : Tells op s := by
  cases op with
  | resize width height =>
    obtain rfl := Option.some.inj h
    have htext : "scale=" ++ width.repr ++ ":" ++ height.repr
        = "scale=" ++ (width.repr ++ ":" ++ height.repr) := by
      simp only [String.append_assoc]
    exact .resize htext (fieldsOf_size width height)
  | merge paths =>
    obtain rfl := Option.some.inj h
    exact .merge (not_prefix_mergeGraph paths.length) (declaredCount_mergeGraph paths.length)
  | _ => cases h

namespace Operation.AddsFilter

/-- Resizings and merges have filters. -/
lemma exists_filter? (h : op.AddsFilter) : ∃ s, op.filter? = some s := by
  cases h <;> exact ⟨_, rfl⟩

lemma fault?_eq_none (h : op.AddsFilter) : op.fault? curve = none := by
  cases h with
  | resize hw hh => rw [Operation.fault?, if_pos ⟨hw, hh⟩]
  | merge => rfl

/-- Resizings and merges ask for nothing but their filters. -/
lemma others_eq_none (h : op.AddsFilter) :
    op.score? = none ∧ op.mode? = none ∧ op.path? = none := by
  cases h <;> exact ⟨rfl, rfl, rfl⟩

end Operation.AddsFilter

/-! ### The filters of all operations -/

lemma forall₂_tells_filters (h : ∀ op ∈ ops, op.AddsFilter) :
    List.Forall₂ Tells ops (ops.filterMap Operation.filter?) := by
  induction ops with
  | nil => exact .nil
  | cons op ops ih =>
    rw [List.forall_mem_cons] at h
    obtain ⟨s, hs⟩ := h.1.exists_filter?
    rw [List.filterMap_cons_some hs]
    exact .cons (tells_of_filter? hs) (ih h.2)

lemma filters_ne_nil (hne : ops ≠ []) (h : ∀ op ∈ ops, op.AddsFilter) :
    ops.filterMap Operation.filter? ≠ [] := by
  rw [← List.length_pos_iff, ← (forall₂_tells_filters h).length_eq]
  exact List.length_pos_iff.2 hne

/-- The fields of the joined filters are these filters. -/
lemma forall₂_tells_fieldsOf (hne : ops ≠ []) (h : ∀ op ∈ ops, op.AddsFilter) :
    List.Forall₂ Tells ops
      (fieldsOf ',' (",".intercalate (ops.filterMap Operation.filter?))) := by
  rw [fieldsOf_intercalate rfl (filters_ne_nil hne h)]
  · exact forall₂_tells_filters h
  · intro s hs
    obtain ⟨op, -, hop⟩ := List.mem_filterMap.1 hs
    exact lacks_of_filter? hop

/-- The same filters tell of operations that ask for the same. -/
lemma forall₂_asksAlike {ss : List String} (h : List.Forall₂ Tells ops ss)
    (h' : List.Forall₂ Tells ops' ss) : List.Forall₂ AsksAlike ops ops' := by
  induction h generalizing ops' with
  | nil =>
    cases h'
    exact .nil
  | cons htells _ ih =>
    cases h' with
    | cons htells' hrest => exact .cons (htells.asksAlike htells') (ih hrest)

/-! ### Filter fragments -/

/-- The command for operations that add filters starts with the fragment of these filters, behind
which there is the stream map of a merge. -/
lemma args_of_addsFilter (curve : Curve) (programs : Programs) (hne : ops ≠ [])
    (h : ∀ op ∈ ops, op.AddsFilter) :
    ∃ c, compileOperations curve programs ops = .ok c ∧
      c.args = ("-vf " ++ ",".intercalate (ops.filterMap Operation.filter?))
        :: if ops.any Operation.isMerge then [mergeMap] else [] := by
  have hscores := List.filterMap_eq_nil_iff.2 fun op hop => (h op hop).others_eq_none.1
  have hmodes := List.filterMap_eq_nil_iff.2 fun op hop => (h op hop).others_eq_none.2.1
  have hpaths := List.filterMap_eq_nil_iff.2 fun op hop => (h op hop).others_eq_none.2.2
  have hfilters := filters_ne_nil hne h
  obtain ⟨rate, hrate, hcommand⟩ :=
    exists_rate_compileOperations programs fun op hop => (h op hop).fault?_eq_none
  have hrate : rate = none := by
    rw [lastScore?, hscores] at hrate
    exact (Except.ok.inj hrate).symm
  refine ⟨_, hcommand, ?_⟩
  simp [commandOf, previews, hmodes, hpaths, hfilters, hrate]

/-- Splitting a filter fragment at its commas gives one filter for each operation, in their order,
and each tells what its operation asked for. So operations have the same fragment only if they ask
for the same, one by one. -/
theorem exists_tells_compileOperations (curve : Curve) (programs : Programs) (hne : ops ≠ [])
    (h : ∀ op ∈ ops, op.AddsFilter) :
    ∃ c filters, compileOperations curve programs ops = .ok c ∧
      c.args = ("-vf " ++ filters) :: (if ops.any Operation.isMerge then [mergeMap] else []) ∧
      List.Forall₂ Tells ops (fieldsOf ',' filters) ∧
      ∀ programs' ops' c', (∀ op ∈ ops', op.AddsFilter) →
        compileOperations curve programs' ops' = .ok c' → c'.args.head? = c.args.head? →
        List.Forall₂ AsksAlike ops ops' := by
  obtain ⟨c, hc, hargs⟩ := args_of_addsFilter curve programs hne h
  refine ⟨c, _, hc, hargs, forall₂_tells_fieldsOf hne h, ?_⟩
  intro programs' ops' c' h' hc' hhead
  have hne' : ops' ≠ [] := by
    rintro rfl
    obtain rfl := Except.ok.inj hc'
    simp [hargs, Draft.command, Draft.empty] at hhead
  obtain ⟨c'', hc'', hargs'⟩ := args_of_addsFilter curve programs' hne' h'
  obtain rfl := Except.ok.inj (hc'.symm.trans hc'')
  rw [hargs, hargs', List.head?_cons, List.head?_cons, Option.some_inj,
    String.append_right_inj] at hhead
  have htells' := forall₂_tells_fieldsOf hne' h'
  rw [hhead] at htells'
  exact forall₂_asksAlike (forall₂_tells_fieldsOf hne h) htells'

theorem exists_tells_resize_merge : ∃ c filters,
    compileOperations some .standard [.resize (-2) 720, .merge ["a.mp4", "b.mp4"]] = .ok c ∧
    c.args = ["-vf " ++ filters, mergeMap] ∧
    fieldsOf ',' filters = ["scale=-2:720",
      "[0][v0];[1][v1];[v0][0:a:0][v1][1:a:0]concat=n=2:v=1:a=1[outv][outa]"] ∧
    List.Forall₂ Tells [.resize (-2) 720, .merge ["a.mp4", "b.mp4"]] (fieldsOf ',' filters) ∧
    ∀ programs' ops' c', (∀ op ∈ ops', op.AddsFilter) →
      compileOperations some programs' ops' = .ok c' → c'.args.head? = c.args.head? →
      List.Forall₂ AsksAlike [.resize (-2) 720, .merge ["a.mp4", "b.mp4"]] ops' := by
  have hnumber : ∀ n : Int, n.natAbs < 10000000000 → n.natAbs < powerOfTen digitLimit :=
    fun n hn => Nat.lt_of_lt_of_le hn le_powerOfTen_digitLimit
  have hops : ∀ op ∈ [Operation.resize (-2) 720, .merge ["a.mp4", "b.mp4"]], op.AddsFilter := by
    rw [List.forall_mem_cons, List.forall_mem_singleton]
    exact ⟨.resize (hnumber _ (by decide)) (hnumber _ (by decide)), .merge _⟩
  obtain ⟨c, filters, hc, hargs, htells, hunique⟩ :=
    exists_tells_compileOperations some .standard (List.cons_ne_nil _ _) hops
  have hcommand : compileOperations some .standard [.resize (-2) 720, .merge ["a.mp4", "b.mp4"]]
      = .ok ⟨"ffmpeg", ["-vf " ++ "scale=-2:720,"
        ++ "[0][v0];[1][v1];[v0][0:a:0][v1][1:a:0]concat=n=2:v=1:a=1[outv][outa]", mergeMap]⟩ := by
    decide +kernel
  refine ⟨c, filters, hc, hargs, ?_, htells, hunique⟩
  obtain rfl := Except.ok.inj (hc.symm.trans hcommand)
  have hfilters := (List.cons.inj hargs).1
  rw [String.append_assoc, String.append_right_inj] at hfilters
  rw [← hfilters]
  decide +kernel

end Montage
