import Mathlib.Data.List.Nodup
import Montage.Draft
import Montage.Proofs.Number.Numeral
import Montage.Proofs.Text.Fields
import Std.Data.String.ToNat

/-!
# The wiring of merge graphs

A merge graph consists of steps. Each input has a step that gives a label to its pictures; the last
step reads these labels and the sound of the inputs, in their order, and puts out what the stream
map takes.
-/

namespace Montage

variable {front label rest s : String} {count i j : Nat} {c : Char}

/-! ### What a step says -/

/-- The labels in square brackets, in their order. -/
def labelsOf (s : String) : List String :=
  (fieldsOf ']' s).dropLast.map fun field => (fieldsOf '[' field).getLast fieldsOf_ne_nil

/-- How many inputs a step says that it plays: the number behind its second equals sign. -/
def declaredCount (s : String) : Nat :=
  digitsValue (((fieldsOf '=' s)[2]?.getD "").toList.takeWhile Char.isDigit)

/-- Labels are found one after the other, behind whatever has none. -/
lemma labelsOf_append (hfront : Lacks ']' front) (hopen : Lacks '[' label)
    (hclose : Lacks ']' label) :
    labelsOf (front ++ "[" ++ label ++ "]" ++ rest) = label :: labelsOf rest := by
  have hbracket : "[".toList = ['['] := rfl
  have hfield : Lacks ']' (front ++ "[" ++ label) := by
    rw [lacks_append, lacks_append]
    exact ⟨⟨hfront, by decide⟩, hclose⟩
  have hlabel : (fieldsOf '[' (front ++ "[" ++ label)).getLast fieldsOf_ne_nil = label := by
    simp [fieldsOf_append hbracket, fieldsOf_eq_singleton hopen]
  rw [labelsOf, fieldsOf_append rfl, fieldsOf_eq_singleton hfield, List.singleton_append,
    List.dropLast_cons_of_ne_nil fieldsOf_ne_nil, List.map_cons, hlabel, labelsOf]

lemma labelsOf_bracketed (hopen : Lacks '[' label) (hclose : Lacks ']' label) (rest : String) :
    labelsOf ("[" ++ label ++ "]" ++ rest) = label :: labelsOf rest := by
  have hfront : Lacks ']' "" := by decide
  have happend : labelsOf ("" ++ "[" ++ label ++ "]" ++ rest) = label :: labelsOf rest :=
    labelsOf_append hfront hopen hclose
  rwa [String.empty_append] at happend

/-- The declared number of inputs is read from behind the first equals sign. -/
lemma declaredCount_append (hfront : Lacks '=' front) (count : Nat) :
    declaredCount (front ++ "concat=n=" ++ count.repr ++ ":v=1:a=1[outv][outa]") = count := by
  have htext : front ++ "concat=n=" ++ count.repr ++ ":v=1:a=1[outv][outa]"
      = front ++ "concat" ++ "="
        ++ ("n" ++ "=" ++ (count.repr ++ ":v" ++ "=" ++ "1:a=1[outv][outa]")) := by
    simp [← String.toList_inj]
  have hequals : "=".toList = ['='] := rfl
  have hfirst : Lacks '=' (front ++ "concat") := lacks_append.2 ⟨hfront, by decide⟩
  have hsecond : Lacks '=' "n" := by decide
  have hthird : Lacks '=' (count.repr ++ ":v") := lacks_append.2 ⟨lacks_repr rfl count, by decide⟩
  have hdigits : (Nat.toDigits 10 count ++ [':', 'v']).takeWhile Char.isDigit
      = Nat.toDigits 10 count := by
    rw [List.takeWhile_append_of_pos]
    · simp
    · exact fun c => Nat.isDigit_of_mem_toDigits (by decide) (by decide)
  rw [declaredCount, htext, fieldsOf_append hequals, fieldsOf_append hequals,
    fieldsOf_append hequals, fieldsOf_eq_singleton hfirst, fieldsOf_eq_singleton hsecond,
    fieldsOf_eq_singleton hthird]
  simp [hdigits, digitsValue]

/-! ### The steps of a merge graph -/

def pictureLabel (i : Nat) : String := "v" ++ i.repr

def soundStream (i : Nat) : String := i.repr ++ ":a:0"

/-- The step that puts inputs together. -/
def concatStep (count : Nat) : String :=
  String.join ((List.range count).map inputPair) ++ "concat=n=" ++ count.repr
    ++ ":v=1:a=1[outv][outa]"

/-- The graph of a merge is its inputs and then their joining. -/
lemma mergeGraph_eq_append (count : Nat) : mergeGraph count
    = ";".intercalate ((List.range count).map inputLabel) ++ ";" ++ concatStep count := by
  simp only [mergeGraph, concatStep, String.append_assoc]

/-- With inputs, the graph is its pieces with semicolons between them. -/
lemma mergeGraph_eq_intercalate (h : 0 < count) : mergeGraph count
    = ";".intercalate ((List.range count).map inputLabel ++ [concatStep count]) := by
  have hne : (List.range count).map inputLabel ≠ [] := by simp [Nat.ne_of_gt h]
  rw [mergeGraph_eq_append, String.intercalate_append_of_ne_nil hne (List.cons_ne_nil _ _),
    String.intercalate_singleton]

/-- The parts of a merge graph have digits and a few marks only. -/
lemma lacks_inputParts (hdigit : c.isDigit = false) (hmarks : Lacks c "[]v:a0") (i : Nat) :
    Lacks c (inputLabel i) ∧ Lacks c (inputPair i) := by
  have hi := lacks_repr hdigit i
  have hpart : ∀ s : String, s.toList ⊆ "[]v:a0".toList → Lacks c s :=
    fun s hs hmem => hmarks (hs hmem)
  simp only [inputLabel, inputPair, lacks_append]
  exact ⟨⟨⟨⟨⟨hpart "[" (by simp), hi⟩, hpart "][v" (by simp)⟩, hi⟩, hpart "]" (by simp)⟩,
    ⟨⟨⟨hpart "[v" (by simp), hi⟩, hpart "][" (by simp)⟩, hi⟩, hpart ":a:0]" (by simp)⟩

lemma lacks_concatStep (hdigit : c.isDigit = false)
    (hmarks : ∀ s ∈ ["[]v:a0", "concat=n=", ":v=1:a=1[outv][outa]"], Lacks c s) (count : Nat) :
    Lacks c (concatStep count) := by
  simp only [List.forall_mem_cons] at hmarks
  obtain ⟨hparts, hname, houtputs, -⟩ := hmarks
  simp only [concatStep, lacks_append, lacks_join, List.forall_mem_map]
  exact ⟨⟨⟨fun i _ => (lacks_inputParts hdigit hparts i).2, hname⟩, lacks_repr hdigit count⟩,
    houtputs⟩

/-- A character that is no digit is in the graph only if it is one of its marks. -/
lemma lacks_mergeGraph (hdigit : c.isDigit = false)
    (hmarks : ∀ s ∈ [";", "[]v:a0", "concat=n=", ":v=1:a=1[outv][outa]"], Lacks c s)
    (count : Nat) : Lacks c (mergeGraph count) := by
  obtain ⟨hsep, hmarks⟩ := List.forall_mem_cons.1 hmarks
  have hparts := (List.forall_mem_cons.1 hmarks).1
  rw [mergeGraph_eq_append, lacks_append, lacks_append, lacks_intercalate hsep,
    List.forall_mem_map]
  exact ⟨⟨fun i _ => (lacks_inputParts hdigit hparts i).1, hsep⟩,
    lacks_concatStep hdigit hmarks count⟩

/-- At its semicolons, the graph falls into the pieces that it was made of. -/
lemma fieldsOf_mergeGraph (h : 0 < count) : fieldsOf ';' (mergeGraph count)
    = (List.range count).map inputLabel ++ [concatStep count] := by
  rw [mergeGraph_eq_intercalate h]
  refine fieldsOf_intercalate rfl (by simp) ?_
  rw [List.forall_mem_append, List.forall_mem_map, List.forall_mem_singleton]
  exact ⟨fun i _ => (lacks_inputParts rfl (by decide) i).1,
    lacks_concatStep rfl (by decide) count⟩

/-! ### The labels of the steps -/

lemma lacks_brackets_pictureLabel (i : Nat) :
    Lacks '[' (pictureLabel i) ∧ Lacks ']' (pictureLabel i) := by
  simp only [pictureLabel, lacks_append]
  exact ⟨⟨by decide, lacks_repr rfl i⟩, by decide, lacks_repr rfl i⟩

lemma lacks_brackets_soundStream (i : Nat) :
    Lacks '[' (soundStream i) ∧ Lacks ']' (soundStream i) := by
  simp only [soundStream, lacks_append]
  exact ⟨⟨lacks_repr rfl i, by decide⟩, lacks_repr rfl i, by decide⟩

/-- An input has its number and the label of its picture. -/
lemma labelsOf_inputLabel (i : Nat) : labelsOf (inputLabel i) = [i.repr, pictureLabel i] := by
  have htext : inputLabel i = "[" ++ i.repr ++ "]" ++ ("[" ++ pictureLabel i ++ "]" ++ "") := by
    simp [inputLabel, pictureLabel, ← String.toList_inj]
  obtain ⟨hopen, hclose⟩ := lacks_brackets_pictureLabel i
  rw [htext, labelsOf_bracketed (lacks_repr rfl i) (lacks_repr rfl i),
    labelsOf_bracketed hopen hclose]
  rfl

lemma labelsOf_inputPair_append (i : Nat) (rest : String) :
    labelsOf (inputPair i ++ rest) = pictureLabel i :: soundStream i :: labelsOf rest := by
  have htext : inputPair i ++ rest
      = "[" ++ pictureLabel i ++ "]" ++ ("[" ++ soundStream i ++ "]" ++ rest) := by
    simp [inputPair, pictureLabel, soundStream, ← String.toList_inj]
  obtain ⟨hopen, hclose⟩ := lacks_brackets_pictureLabel i
  obtain ⟨hopen', hclose'⟩ := lacks_brackets_soundStream i
  rw [htext, labelsOf_bracketed hopen hclose, labelsOf_bracketed hopen' hclose']

lemma labelsOf_join_append (inputs : List Nat) (rest : String) :
    labelsOf (String.join (inputs.map inputPair) ++ rest)
      = inputs.flatMap (fun i => [pictureLabel i, soundStream i]) ++ labelsOf rest := by
  induction inputs with
  | nil => simp
  | cons i inputs ih =>
    rw [List.map_cons, String.join_cons, String.append_assoc, labelsOf_inputPair_append, ih]
    rfl

/-- The joining takes picture and sound of each input in order, and has two outputs. -/
lemma labelsOf_concatStep (count : Nat) : labelsOf (concatStep count)
    = (List.range count).flatMap (fun i => [pictureLabel i, soundStream i])
      ++ ["outv", "outa"] := by
  have htext : concatStep count = String.join ((List.range count).map inputPair)
      ++ ("concat=n=" ++ count.repr ++ ":v=1:a=1" ++ "[" ++ "outv" ++ "]" ++ "[outa]") := by
    simp [concatStep, ← String.toList_inj]
  have hfront : Lacks ']' ("concat=n=" ++ count.repr ++ ":v=1:a=1") := by
    simp only [lacks_append]
    exact ⟨⟨by decide, lacks_repr rfl count⟩, by decide⟩
  have hlast : labelsOf "[outa]" = ["outa"] := by decide
  rw [htext, labelsOf_join_append, labelsOf_append hfront (by decide) (by decide), hlast]

/-! ### Where labels stand -/

/-- Different inputs have different labels. -/
lemma pictureLabel_inj : pictureLabel i = pictureLabel j ↔ i = j := by
  rw [pictureLabel, pictureLabel, String.append_right_inj, Nat.repr_inj]

/-- What starts with a digit is not the label of an input. -/
lemma repr_append_ne_pictureLabel (i j : Nat) (s : String) : i.repr ++ s ≠ pictureLabel j := by
  have hdigits : ∀ c ∈ Nat.toDigits 10 i, c.isDigit := fun c =>
    Nat.isDigit_of_mem_toDigits (by decide) (by decide)
  obtain ⟨c, digits, hcs⟩ := List.exists_cons_of_ne_nil (Nat.toDigits_ne_nil (b := 10) (n := i))
  rw [hcs, List.forall_mem_cons] at hdigits
  intro heq
  have hhead : c = 'v' := by
    simpa [pictureLabel, hcs] using congrArg (List.head? ∘ String.toList) heq
  simp [hhead] at hdigits

/-- Labels of inputs and outputs are all different. -/
lemma nodup_labels (count : Nat) :
    ((List.range count).map pictureLabel ++ ["outv", "outa"]).Nodup := by
  have hne : ∀ i, ∀ s ∈ ["outv", "outa"], pictureLabel i ≠ s := by
    rintro i s hs rfl
    simp [pictureLabel, ← String.toList_inj] at hs
  rw [List.nodup_append, List.forall_mem_map]
  exact ⟨List.nodup_range.map fun i j => pictureLabel_inj.1, by decide, fun i _ => hne i⟩

/-- The label of an input is made by its own piece only. -/
lemma count_inputLabel (i j : Nat) :
    (labelsOf (inputLabel j)).count (pictureLabel i) = if j = i then 1 else 0 := by
  have hj : j.repr ≠ pictureLabel i := by
    simpa using repr_append_ne_pictureLabel j i ""
  simp [labelsOf_inputLabel, List.count_cons, hj, pictureLabel_inj]

lemma count_flatMap_pictureLabel (i : Nat) (inputs : List Nat) :
    (inputs.flatMap fun j => [pictureLabel j, soundStream j]).count (pictureLabel i)
      = (inputs.map pictureLabel).count (pictureLabel i) := by
  induction inputs with
  | nil => rfl
  | cons j inputs ih =>
    have hj : soundStream j ≠ pictureLabel i := repr_append_ne_pictureLabel j i ":a:0"
    simp [List.count_cons, ih, hj]

/-- The joining takes the label of each input once. -/
lemma count_concatStep (h : i < count) :
    (labelsOf (concatStep count)).count (pictureLabel i) = 1 := by
  have hmem : pictureLabel i ∈ (List.range count).map pictureLabel ++ ["outv", "outa"] := by
    simp [pictureLabel_inj, h]
  calc (labelsOf (concatStep count)).count (pictureLabel i)
      = ((List.range count).map pictureLabel ++ ["outv", "outa"]).count (pictureLabel i) := by
        rw [labelsOf_concatStep, List.count_append, List.count_append, count_flatMap_pictureLabel]
    _ = 1 := List.count_eq_one_of_mem (nodup_labels count) hmem

/-! ### Wiring -/

/-- Steps are wired for `count` inputs: each of the first ones gives a label to the pictures of an
input, and the last one reads these labels and puts out what a stream map takes. -/
structure IsWired (count : Nat) (naming : List String) (last map : String) : Prop where
  /-- There is a step for each input, which takes it and gives a label to its pictures. -/
  names : naming.map labelsOf = (List.range count).map fun i => [i.repr, pictureLabel i]
  /-- The last step reads pictures and sound of each input, in order, and puts out two streams. -/
  reads : labelsOf last
    = (List.range count).flatMap (fun i => [pictureLabel i, soundStream i]) ++ labelsOf map
  outputs : labelsOf map = ["outv", "outa"]
  /-- The label of an input stands once in its own step, once in the last one, and nowhere else. -/
  once : ∀ i < count, (naming ++ [last]).map (fun step => (labelsOf step).count (pictureLabel i))
    = (List.range (count + 1)).map fun j => if j = i ∨ j = count then 1 else 0
  distinct : ((List.range count).map pictureLabel ++ labelsOf map).Nodup
  /-- The last step declares as many inputs as it reads pairs. -/
  declares : declaredCount last = count ∧
    (labelsOf last).length = 2 * declaredCount last + (labelsOf map).length

lemma labelsOf_mergeMap : labelsOf mergeMap = ["outv", "outa"] := by decide

lemma declaredCount_concatStep (count : Nat) : declaredCount (concatStep count) = count := by
  apply declaredCount_append
  rw [lacks_join, List.forall_mem_map]
  exact fun i _ => (lacks_inputParts rfl (by decide) i).2

/-- The graph of a merge is wired. -/
lemma isWired_mergeGraph (count : Nat) :
    IsWired count ((List.range count).map inputLabel) (concatStep count) mergeMap where
  names := by simp [labelsOf_inputLabel]
  reads := by rw [labelsOf_concatStep, labelsOf_mergeMap]
  outputs := labelsOf_mergeMap
  once := fun i hi => by
    rw [List.range_succ, List.map_append, List.map_append, List.map_map]
    refine congrArg₂ (· ++ ·) ?_ ?_
    · refine List.map_congr_left fun j hj => ?_
      have hj : j ≠ count := Nat.ne_of_lt (List.mem_range.1 hj)
      simp [count_inputLabel, hj]
    · simp [count_concatStep hi]
  distinct := by
    rw [labelsOf_mergeMap]
    exact nodup_labels count
  declares := by
    rw [declaredCount_concatStep, labelsOf_concatStep, labelsOf_mergeMap]
    simp [Nat.mul_comm]

/-- The graph and the stream map that a merge adds: the graph has a step for each input and one
more, and they are wired. -/
theorem exists_wired_addOperation (curve : Curve) (d : Draft) {paths : List String}
    (h : paths ≠ []) : ∃ graph map naming last,
      d.addOperation curve (.merge paths)
        = .ok { d with filters := d.filters ++ [graph], mapFlags := some map } ∧
      fieldsOf ';' graph = naming ++ [last] ∧
      naming = (List.range paths.length).map (fun i => "[" ++ i.repr ++ "][v" ++ i.repr ++ "]") ∧
      last = String.join
          ((List.range paths.length).map fun i => "[v" ++ i.repr ++ "][" ++ i.repr ++ ":a:0]")
        ++ "concat=n=" ++ paths.length.repr ++ ":v=1:a=1[outv][outa]" ∧
      IsWired paths.length naming last map :=
  ⟨_, _, _, _, rfl, fieldsOf_mergeGraph (List.length_pos_iff.2 h), rfl, rfl,
    isWired_mergeGraph paths.length⟩

theorem exists_wired_addOperation_two : ∃ graph last,
    (Draft.empty .standard).addOperation platformCurve (.merge ["a.mp4", "b.mp4"])
      = .ok { Draft.empty .standard with filters := [graph], mapFlags := some mergeMap } ∧
    fieldsOf ';' graph = ["[0][v0]", "[1][v1]", last] ∧
    last = "[v0][0:a:0][v1][1:a:0]concat=n=2:v=1:a=1[outv][outa]" ∧
    IsWired 2 ["[0][v0]", "[1][v1]"] last mergeMap := by
  obtain ⟨graph, map, naming, last, hadd, hfields, hnaming, hlast, hwired⟩ :=
    exists_wired_addOperation platformCurve (Draft.empty .standard)
      (List.cons_ne_nil "a.mp4" ["b.mp4"])
  obtain rfl : naming = ["[0][v0]", "[1][v1]"] := hnaming.trans (by decide +kernel)
  obtain ⟨-, rfl⟩ : _ ∧ mergeMap = map := by simpa [Draft.addOperation] using hadd
  exact ⟨graph, last, hadd, hfields, hlast.trans (by decide +kernel), hwired⟩

end Montage
