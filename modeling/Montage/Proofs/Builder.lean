import Montage.Builder
import Montage.Proofs.Compilation

/-!
# Calls of a builder

However a builder is called, it keeps what a draft of the requests holds that were added: a call
that fails changes nothing, since whatever may fail in it comes before the first thing it writes.
So building gives the command of the requests that were added, as if no other call had been made.
-/

namespace Montage

variable {α β : Type} {curve : Curve} {programs : Programs} {b b' : Builder} {d d' : Draft}
  {r : Request} {requests : List Request} {e : Failure}

namespace Builder

/-! ### Single steps -/

lemma ask_modify (b : Builder) (f : Builder → Builder) : b.ask (modify f) = (.ok (), f b) := rfl

/-- A call goes on with the builder that its first part leaves. -/
lemma ask_bind_ok {x : Building α} {a : α} (f : α → Building β) (h : b.ask x = (.ok a, b')) :
    b.ask (x >>= f) = b'.ask (f a) := by
  change (ExceptT.bindCont f (b.ask x).1).run (b.ask x).2 = _
  rw [h]
  rfl

/-- A call stops where its first part fails, and keeps what was written by then. -/
lemma ask_bind_error {x : Building α} (f : α → Building β) (h : b.ask x = (.error e, b')) :
    b.ask (x >>= f) = (.error e, b') := by
  change (ExceptT.bindCont f (b.ask x).1).run (b.ask x).2 = _
  rw [h]
  rfl

lemma ask_number_bind (b : Builder) (a : α) (f : α → Building β) :
    b.ask (Building.ofNumber (.ok a) >>= f) = b.ask (f a) := ask_bind_ok f rfl

lemma ask_fault_bind (b : Builder) (fault : NumberFault) (f : α → Building β) :
    b.ask (Building.ofNumber (.error fault) >>= f) = (.error (.number fault), b) :=
  ask_bind_error f rfl

end Builder

/-! ### Drafts as builders -/

/-- What a builder keeps that was asked for a draft. -/
def Draft.builder (d : Draft) : Builder where
  programs := d.programs
  invocation := d.invocation
  preview := d.preview
  filters := d.filters
  rateFlags := d.rateFlags.getD ""
  mapFlags := d.mapFlags.getD ""
  outputs := d.outputs

/-- The flags of a draft are not empty, which would mean for a builder that there are none. -/
structure Draft.HasFlags (d : Draft) : Prop where
  rateFlags : d.rateFlags ≠ some ""
  mapFlags : d.mapFlags ≠ some ""

/-- Rate control flags are never empty, so that an empty text can stand for none. -/
lemma RateControl.flags_ne_empty {rate : RateControl} {flags : String}
    (h : rate.flags = .ok flags) : flags ≠ "" := by
  simp only [RateControl.flags, bind_eq_ok_iff, pure_eq_ok_iff] at h
  obtain ⟨crf, -, maxRate, -, bufSize, -, rfl⟩ := h
  intro hempty
  have hlength := congrArg String.length hempty
  simp [String.length_append] at hlength

/-- No operation makes the flags of a draft empty. -/
lemma Draft.HasFlags.addOperation {op : Operation} (h : d.HasFlags)
    (hadd : d.addOperation curve op = .ok d') : d'.HasFlags := by
  cases op with
  | resize width height =>
    simp only [Draft.addOperation, bind_eq_ok_iff, pure_eq_ok_iff] at hadd
    obtain ⟨filter, -, rfl⟩ := hadd
    exact ⟨h.rateFlags, h.mapFlags⟩
  | quality score =>
    simp only [Draft.addOperation, bind_eq_ok_iff, pure_eq_ok_iff] at hadd
    obtain ⟨rate, -, flags, hflags, rfl⟩ := hadd
    exact ⟨fun heq => RateControl.flags_ne_empty hflags (Option.some.inj heq), h.mapFlags⟩
  | merge paths =>
    obtain rfl := Except.ok.inj hadd
    exact ⟨h.rateFlags, by simp [mergeMap]⟩
  | execution mode =>
    obtain rfl := Except.ok.inj hadd
    exact ⟨h.rateFlags, h.mapFlags⟩
  | output path =>
    obtain rfl := Except.ok.inj hadd
    exact ⟨h.rateFlags, h.mapFlags⟩

lemma Draft.HasFlags.add (h : d.HasFlags) (hadd : d.add curve r = .ok d') : d'.HasFlags := by
  cases r with
  | operation op => exact h.addOperation (orNumberFailure_eq_ok_iff.1 hadd)
  | foreign v =>
    obtain ⟨shown, -, herror⟩ := bind_eq_ok_iff.1 hadd
    cases herror

/-! ### Calls -/

/-- Adding to a builder does what adding to a draft does. -/
lemma Draft.ask_addOperation (curve : Curve) (d : Draft) (op : Operation) :
    d.builder.ask (Building.addOperation curve op) =
      match d.addOperation curve op with
      | .ok d' => (.ok (), d'.builder)
      | .error f => (.error (.number f), d.builder) := by
  cases op with
  | resize width height =>
    rw [Building.addOperation, Draft.addOperation]
    cases scaleFilter width height with
    | error f => rfl
    | ok filter => rfl
  | quality score =>
    rw [Building.addOperation]
    cases hrate : RateControl.ofQuality curve score with
    | error f =>
      have hadd : d.addOperation curve (.quality score) = .error f :=
        bind_eq_error_iff.2 (.inl hrate)
      rw [hadd, Builder.ask_fault_bind]
    | ok rate =>
      rw [Builder.ask_number_bind]
      cases hflags : rate.flags with
      | error f =>
        have hadd : d.addOperation curve (.quality score) = .error f :=
          bind_eq_error_iff.2 (.inr ⟨rate, hrate, bind_eq_error_iff.2 (.inl hflags)⟩)
        rw [hadd, Builder.ask_fault_bind]
      | ok flags =>
        have hadd : d.addOperation curve (.quality score)
            = .ok { d with rateFlags := some flags } :=
          bind_eq_ok_iff.2 ⟨rate, hrate, bind_eq_ok_iff.2 ⟨flags, hflags, rfl⟩⟩
        rw [hadd, Builder.ask_number_bind, Builder.ask_modify]
        rfl
  | merge paths => rfl
  | execution mode => rfl
  | output path => rfl

/-- A builder takes a request as the draft does that it keeps, and a refused one leaves it alone. -/
lemma Draft.ask_add (curve : Curve) (d : Draft) (r : Request) :
    d.builder.ask (Building.add curve r) =
      match d.add curve r with
      | .ok d' => (.ok (), d'.builder)
      | .error e => (.error e, d.builder) := by
  cases r with
  | operation op =>
    rw [Building.add, Draft.add, d.ask_addOperation]
    cases d.addOperation curve op <;> rfl
  | foreign v =>
    rw [Building.add, Draft.add]
    cases v.display <;> rfl

/-- Building gives the command as drafted, and changes nothing. -/
lemma Draft.ask_build (h : d.HasFlags) :
    d.builder.ask Building.build = (.ok d.command, d.builder) := by
  have hflags : ∀ flags : Option String, flags ≠ some "" →
      (if flags.getD "" != "" && !d.preview then [flags.getD ""] else [])
        = if d.preview then [] else flags.toList := by
    rintro (_ | flags) hflags
    · cases d.preview <;> rfl
    · have hne : flags ≠ "" := fun heq => hflags (congrArg some heq)
      cases d.preview <;> simp [hne]
  have hbuild : d.builder.ask Building.build = (.ok ⟨d.invocation,
      (if d.filters.isEmpty then [] else [filterFlag d.filters])
        ++ (if d.rateFlags.getD "" != "" && !d.preview then [d.rateFlags.getD ""] else [])
        ++ (if d.mapFlags.getD "" != "" && !d.preview then [d.mapFlags.getD ""] else [])
        ++ d.outputs⟩, d.builder) := rfl
  rw [hbuild, hflags _ h.rateFlags, hflags _ h.mapFlags, Draft.command]
  cases d.preview <;> simp

namespace Builder

variable {before after : List Entry} {entry : Entry} {call : Call} {calls : List Call}

/-! ### Histories -/

/-- The request that a call has added, if any. -/
def Entry.added? (entry : Entry) : Option Request :=
  match entry.call, entry.answer with
  | .add r, .ok _ => some r
  | _, _ => none

/-- The requests that calls have added. -/
def added (entries : List Entry) : List Request := entries.filterMap Entry.added?

lemma added_cons (entry : Entry) (entries : List Entry) :
    added (entry :: entries) = entry.added?.toList ++ added entries := by
  cases h : entry.added? <;> simp [added, h]

def last (b : Builder) (entries : List Entry) : Builder :=
  (entries.getLast?.map Entry.builder).getD b

lemma last_cons (b : Builder) (entry : Entry) (entries : List Entry) :
    b.last (entry :: entries) = entry.builder.last entries := by
  cases entries with
  | nil => rfl
  | cons next entries => rw [last, last, List.getLast?_cons_cons]; rfl

/-- A builder keeps what a draft of the requests holds. -/
def Drafts (curve : Curve) (programs : Programs) (requests : List Request) (b : Builder) : Prop :=
  ∃ d, requests.foldlM (Draft.add curve) (Draft.empty programs) = .ok d ∧ d.HasFlags ∧
    b = d.builder

/-- A new builder keeps the empty draft. -/
lemma drafts_new : (new programs).Drafts curve programs [] :=
  ⟨_, rfl, ⟨nofun, nofun⟩, rfl⟩

/-- Building gives the command of the requests so far, and leaves the builder alone. -/
lemma Drafts.enter_build (h : b.Drafts curve programs requests) :
    ∃ c, compileRequests curve programs requests = .ok c ∧
      b.enter curve .build = ⟨.build, .ok (some c), b⟩ := by
  obtain ⟨d, hd, hflags, rfl⟩ := h
  refine ⟨d.command, bind_eq_ok_iff.2 ⟨d, hd, rfl⟩, ?_⟩
  rw [enter, Call.run, ask_bind_ok _ (Draft.ask_build hflags)]
  rfl

/-- A request that cannot be compiled is refused, and leaves the builder alone. -/
lemma Drafts.enter_add_error (h : b.Drafts curve programs requests)
    (hr : r.failure? curve = some e) : b.enter curve (.add r) = ⟨.add r, .error e, b⟩ := by
  obtain ⟨d, hd, hflags, rfl⟩ := h
  have hask := d.ask_add curve r
  rw [d.add_eq_error hr] at hask
  rw [enter, Call.run, ask_bind_error _ hask]

/-- Any other request joins those that the builder keeps. -/
lemma Drafts.enter_add (h : b.Drafts curve programs requests) (hr : r.failure? curve = none) :
    ∃ b', b.enter curve (.add r) = ⟨.add r, .ok none, b'⟩ ∧
      b'.Drafts curve programs (requests ++ [r]) := by
  obtain ⟨d, hd, hflags, rfl⟩ := h
  obtain ⟨d', hadd⟩ := d.exists_add hr
  have hask := d.ask_add curve r
  rw [hadd] at hask
  refine ⟨d'.builder, ?_, d', ?_, hflags.add hadd, rfl⟩
  · rw [enter, Call.run, ask_bind_ok _ hask]
    rfl
  · rw [List.foldlM_append, hd]
    exact bind_eq_ok_iff.2 ⟨d, rfl, bind_eq_ok_iff.2 ⟨d', hadd, rfl⟩⟩

/-- Each call keeps the builder in step with the requests that were added. -/
lemma Drafts.enter (h : b.Drafts curve programs requests) (call : Call) :
    (b.enter curve call).builder.Drafts curve programs
      (requests ++ (b.enter curve call).added?.toList) := by
  cases call with
  | build =>
    obtain ⟨c, -, hentry⟩ := h.enter_build
    rw [hentry]
    simpa [Entry.added?] using h
  | add r =>
    cases hr : r.failure? curve with
    | some e =>
      rw [h.enter_add_error hr]
      simpa [Entry.added?] using h
    | none =>
      obtain ⟨b', hentry, hb'⟩ := h.enter_add hr
      rw [hentry]
      exact hb'

lemma map_call_history (curve : Curve) (b : Builder) (calls : List Call) :
    (b.history curve calls).map Entry.call = calls := by
  induction calls generalizing b with
  | nil => rfl
  | cons call calls ih => rw [history, List.map_cons, ih]; rfl

/-- So do all calls together: each of them is made on a builder that keeps what a draft of the
requests holds that were added before it. -/
lemma Drafts.history (h : b.Drafts curve programs requests)
    (hsplit : b.history curve calls = before ++ entry :: after) :
    (b.last before).Drafts curve programs (requests ++ added before) ∧
      entry = (b.last before).enter curve entry.call := by
  induction calls generalizing b requests before with
  | nil => simp [Builder.history] at hsplit
  | cons call calls ih =>
    rw [Builder.history] at hsplit
    cases before with
    | nil =>
      obtain ⟨rfl, -⟩ := List.cons.inj hsplit
      rw [added, List.filterMap_nil, List.append_nil]
      exact ⟨h, rfl⟩
    | cons first before =>
      obtain ⟨rfl, hrest⟩ := List.cons.inj hsplit
      obtain ⟨hdrafts, hentry⟩ := ih (h.enter call) hrest
      rw [last_cons]
      rw [List.append_assoc, ← added_cons] at hdrafts
      exact ⟨hdrafts, hentry⟩

/-- Calls that fail are as good as not made. However a builder is called, a call that fails leaves
it as it was, and so does building; adding fails just where the request cannot be compiled; and
building gives the command that the requests compile to which were added before. -/
theorem history_eq (curve : Curve) (programs : Programs) (calls : List Call)
    (h : (new programs).history curve calls = before ++ entry :: after) :
    calls = before.map Entry.call ++ entry.call :: after.map Entry.call ∧
    (∀ e, entry.answer = .error e → entry.builder = (new programs).last before) ∧
    (∀ r, entry.call = .add r → entry.answer = (r.failure? curve).elim (.ok none) .error) ∧
    (entry.call = .build → entry.builder = (new programs).last before ∧
      ∃ c, entry.answer = .ok (some c) ∧
        compileRequests curve programs (added before) = .ok c) := by
  have hcalls := map_call_history curve (new programs) calls
  rw [h, List.map_append, List.map_cons] at hcalls
  obtain ⟨hdrafts, hentry⟩ := drafts_new.history h
  rw [List.nil_append] at hdrafts
  refine ⟨hcalls.symm, ?_⟩
  cases hcall : entry.call with
  | build =>
    obtain ⟨c, hcompile, hbuild⟩ := hdrafts.enter_build
    rw [hentry, hcall, hbuild]
    exact ⟨nofun, nofun, fun _ => ⟨rfl, c, rfl, hcompile⟩⟩
  | add r =>
    cases hr : r.failure? curve with
    | some e =>
      rw [hentry, hcall, hdrafts.enter_add_error hr]
      refine ⟨fun _ _ => rfl, fun r' hr' => ?_, nofun⟩
      rw [← Call.add.inj hr', hr]
      rfl
    | none =>
      obtain ⟨b', hadd, -⟩ := hdrafts.enter_add hr
      rw [hentry, hcall, hadd]
      refine ⟨nofun, fun r' hr' => ?_, nofun⟩
      rw [← Call.add.inj hr', hr]
      rfl

deriving instance DecidableEq for Foreign, Request, Call, Entry

/-- A quality below zero and a value that is no operation are refused, and leave no trace. -/
theorem history_negative_quality :
    let calls : List Call :=
      [.add (.operation (.quality 1)), .add (.operation (.quality (-1))),
        .add (.foreign ⟨.ok "None"⟩), .build]
    let b := { new .standard with rateFlags := "-crf 50 -maxrate 1M -bufsize 2M" }
    let c : Command := ⟨"ffmpeg", ["-crf 50 -maxrate 1M -bufsize 2M"]⟩
    (new .standard).history some calls =
      [⟨calls[0], .ok none, b⟩, ⟨calls[1], .error (.number .notReal), b⟩,
        ⟨calls[2], .error (.unrecognized "None"), b⟩, ⟨calls[3], .ok (some c), b⟩] ∧
      compileRequests some .standard [.operation (.quality 1)] = .ok c := by
  intro calls b c
  have hhistory : (new .standard).history some calls =
      [⟨calls[0], .ok none, b⟩, ⟨calls[1], .error (.number .notReal), b⟩,
        ⟨calls[2], .error (.unrecognized "None"), b⟩] ++ ⟨calls[3], .ok (some c), b⟩ :: [] := by
    decide +kernel
  obtain ⟨-, -, -, hbuild⟩ := history_eq some .standard calls hhistory
  obtain ⟨-, c', hc, hcompile⟩ := hbuild rfl
  obtain rfl := Option.some.inj (Except.ok.inj hc)
  exact ⟨hhistory, hcompile⟩

end Builder

end Montage
