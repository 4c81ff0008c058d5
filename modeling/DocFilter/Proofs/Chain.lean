import DocFilter.Filter
import DocFilter.Proofs.World

/-!
# Chains of filters

What becomes of a document in a chain, and what is logged on the way. Filters may keep a state that
they share, and may do to the world whatever they like. A chain whose filters are guarded gives a
document, if the guards can report every failure; any other ends with the first failure. How a chain
is divided into chains makes no difference to filters that overlook what is logged below errors,
since a chain inside a chain only adds a record of that kind.
-/

namespace DocFilter

def World.errors (w : World) : List Log.Record := w.records.filter (·.level = .error)

theorem World.errors_log (w : World) (r : Log.Record) :
    (w.log r).errors = w.errors ++ if r.level = .error then [r] else [] := by
  unfold World.errors
  rw [World.records_log, List.filter_append, List.filter_cons, List.filter_nil]
  simp only [decide_eq_true_eq]

namespace Filter

variable {σ : Type}

/-- A document or a failure, with the state and the world after it. -/
abbrev Ending (σ : Type) := Except Failure Json × (σ × World)

/-- How a filter ends on a document, from a state and a world. -/
def ends (f : Filter (Act σ)) (doc : Json) (t : σ × World) : Ending σ :=
  (merged (f.apply doc)).run t

def logged (r : Log.Record) (t : σ × World) : σ × World := (t.1, t.2.log r)

/-- A filter that only keeps a state. -/
def ofStep (name : String) (step : Json → σ → Except Failure Json × σ) : Filter (Act σ) :=
  Filter.ofFunction name fun doc s w => (step doc s, w)

/-! ### One filter after another -/

theorem ends_guard (f : Filter (Act σ)) (doc : Json) (t : σ × World) :
    f.guard.ends doc t = match f.ends doc t with
      | (.ok result, t) => (.ok result, t)
      | (.error failure, t) => match failure.held with
        | .ok text => (.ok doc, logged (failed f.name text) t)
        | .error out => (.error out, t) := by
  have hrun := run_merged_tryCatch (f.apply doc) (fun failure => do
    let text ← MonadExcept.ofExcept failure.held
    Run.record (failed f.name text)
    return doc) t
  change f.guard.ends doc t = _ at hrun
  rw [hrun, ends]
  rcases (merged (f.apply doc)).run t with ⟨failure | result, t⟩
  · dsimp only
    cases failure.held <;> rfl
  · rfl

/-- A guard lets out what fails where a failure is reported, and nothing else. -/
theorem ends_guard_eq_error {f : Filter (Act σ)} {doc : Json} {t u : σ × World}
    {failure : Failure} :
    f.guard.ends doc t = (.error failure, u) ↔
      ∃ cause, f.ends doc t = (.error cause, u) ∧ cause.held = .error failure := by
  rw [ends_guard]
  rcases f.ends doc t with ⟨cause | result, t'⟩
  · dsimp only
    constructor
    · intro hout
      cases hheld : cause.held with
      | ok text =>
        rw [hheld] at hout
        cases hout
      | error out =>
        rw [hheld] at hout
        cases hout
        exact ⟨cause, rfl, hheld⟩
    · rintro ⟨_, ⟨⟩, hheld⟩
      rw [hheld]
  · simp

theorem ends_compose_nil (doc : Json) (t : σ × World) :
    (compose ([] : List (Filter (Act σ)))).ends doc t = (.ok doc, t) := rfl

theorem ends_compose_cons (f : Filter (Act σ)) (fs : List (Filter (Act σ))) (doc : Json)
    (t : σ × World) :
    (compose (f :: fs)).ends doc t = match f.ends doc (logged (applying f.name) t) with
      | (.ok result, t) => (compose fs).ends result t
      | (.error failure, t) => (.error failure, t) := by
  have hrecord : (merged (liftM (Run.record (applying f.name)) : Act σ Unit)).run t =
      (.ok (), logged (applying f.name) t) := rfl
  change (merged (applyAll (f :: fs) doc)).run t = _
  rw [applyAll, merged_bind, run_bind_of_ok hrecord, merged_bind, ends]
  rcases hrun : (merged (f.apply doc)).run (logged (applying f.name) t) with ⟨failure | result, t⟩
  · exact run_bind_of_error hrun
  · exact run_bind_of_ok hrun

theorem ends_compose_append (fs gs : List (Filter (Act σ))) (doc : Json) (t : σ × World) :
    (compose (fs ++ gs)).ends doc t = match (compose fs).ends doc t with
      | (.ok result, t) => (compose gs).ends result t
      | (.error failure, t) => (.error failure, t) := by
  induction fs generalizing doc t with
  | nil => rw [List.nil_append, ends_compose_nil]
  | cons f fs ih =>
    rw [List.cons_append, ends_compose_cons, ends_compose_cons]
    rcases f.ends doc (logged (applying f.name) t) with ⟨failure | result, t⟩
    · rfl
    · exact ih result t

/-! ### Guarded filters -/

/-- Whatever a filter fails with, a failure boundary may hold it, and there are words for it. -/
def FailsHeld (f : Filter (Act σ)) : Prop :=
  ∀ doc t failure, (f.ends doc t).1 = .error failure →
    failure.isContained = true ∧ ∃ words, failure.text = .ok words

/-- A record that reports the failure of a filter: an error that gives the name of the filter and
the words of the failure, and carries these words. -/
structure Reports (name words : String) (r : Log.Record) : Prop where
  level : r.level = .error
  origin : r.origin = "docweave.filters.base"
  message : r.message = "Filter '" ++ name ++ "' failed, leaving document unchanged: " ++ words
  failure : r.failure = some words

theorem failed_reports (name words : String) : Reports name words (failed name words) :=
  ⟨rfl, rfl, rfl, rfl⟩

section Reporting
variable (report : String → String → Log.Record)

/-- What a filter of a guarded chain does: the document becomes what the filter makes of it. If the
filter fails, the document stays what it is, and the failure is reported. -/
def guardedStage (x : Json × (σ × World)) (f : Filter (Act σ)) : Json × (σ × World) :=
  match f.ends x.1 (logged (applying f.name) x.2) with
  | (.ok result, t) => (result, t)
  | (.error failure, t) => (x.1, logged (report f.name failure.message) t)

/-- What the guards of a chain report, one record for each filter that fails. -/
def failures : List (Filter (Act σ)) → Json × (σ × World) → List Log.Record
  | [], _ => []
  | f :: fs, x =>
    (match (f.ends x.1 (logged (applying f.name) x.2)).1 with
      | .ok _ => []
      | .error failure => [report f.name failure.message]) ++ failures fs (guardedStage report x f)

end Reporting

theorem ends_guard_applied {f : Filter (Act σ)} (h : f.FailsHeld) (x : Json × (σ × World)) :
    f.guard.ends x.1 (logged (applying f.name) x.2) =
      (.ok (guardedStage failed x f).1, (guardedStage failed x f).2) := by
  have hf := h x.1 (logged (applying f.name) x.2)
  rw [ends_guard, guardedStage]
  generalize f.ends x.1 (logged (applying f.name) x.2) = ending at hf ⊢
  obtain ⟨failure | result, t⟩ := ending
  · dsimp only
    rw [Failure.held_eq_message (Failure.isHeld_iff.mpr (hf failure rfl))]
  · rfl

theorem ends_compose_guarded {fs : List (Filter (Act σ))} (h : ∀ f ∈ fs, f.FailsHeld)
    (x : Json × (σ × World)) :
    (compose (fs.map guard)).ends x.1 x.2 =
      (.ok (fs.foldl (guardedStage failed) x).1, (fs.foldl (guardedStage failed) x).2) := by
  induction fs generalizing x with
  | nil => exact ends_compose_nil x.1 x.2
  | cons f fs ih =>
    have hname : f.guard.name = f.name := rfl
    rw [List.map_cons, ends_compose_cons, hname, ends_guard_applied (h f List.mem_cons_self)]
    exact ih (fun g hg => h g (List.mem_cons_of_mem f hg)) (guardedStage failed x f)

def LogsNoErrors (f : Filter (Act σ)) : Prop := ∀ doc t, (f.ends doc t).2.2.errors = t.2.errors

theorem errors_applying (name : String) (w : World) :
    (w.log (applying name)).errors = w.errors := by
  rw [World.errors_log, if_neg (by simp [applying]), List.append_nil]

theorem errors_reported {name words : String} {r : Log.Record} (h : Reports name words r)
    (w : World) : (w.log r).errors = w.errors ++ [r] := by
  rw [World.errors_log, if_pos h.level]

theorem errors_foldl_guardedStage {report : String → String → Log.Record}
    (hreport : ∀ name words, Reports name words (report name words))
    {fs : List (Filter (Act σ))} (h : ∀ f ∈ fs, f.LogsNoErrors) (x : Json × (σ × World)) :
    (fs.foldl (guardedStage report) x).2.2.errors = x.2.2.errors ++ failures report fs x := by
  induction fs generalizing x with
  | nil => exact (List.append_nil _).symm
  | cons f fs ih =>
    have hf := h f List.mem_cons_self x.1 (logged (applying f.name) x.2)
    have hstart : (logged (applying f.name) x.2).2.errors = x.2.2.errors :=
      errors_applying f.name x.2.2
    rw [List.foldl_cons, ih fun g hg => h g (List.mem_cons_of_mem f hg), failures,
      ← List.append_assoc, guardedStage]
    rw [hstart] at hf
    generalize f.ends x.1 (logged (applying f.name) x.2) = ending at hf ⊢
    obtain ⟨failure | result, t⟩ := ending
    · dsimp only [logged] at hf ⊢
      rw [errors_reported (hreport f.name failure.message), hf]
    · dsimp only at hf ⊢
      rw [hf, List.append_nil]

/-! ### The first failure -/

/-- A chain fails as the first of its filters that fails, which is the last one applied. -/
theorem ends_compose_eq_error (fs : List (Filter (Act σ))) (doc : Json) (t u : σ × World)
    (failure : Failure) :
    (compose fs).ends doc t = (.error failure, u) ↔
      ∃ before f after result v, fs = before ++ f :: after ∧
        (compose before).ends doc t = (.ok result, v) ∧
        f.ends result (logged (applying f.name) v) = (.error failure, u) := by
  constructor
  · intro h
    induction fs generalizing doc t with
    | nil =>
      rw [ends_compose_nil] at h
      cases h
    | cons f fs ih =>
      rw [ends_compose_cons] at h
      rcases hf : f.ends doc (logged (applying f.name) t) with ⟨failure' | result, v⟩
      · rw [hf] at h
        cases h
        exact ⟨[], f, fs, doc, t, rfl, rfl, hf⟩
      · rw [hf] at h
        obtain ⟨before, g, after, result', v', rfl, hbefore, hg⟩ := ih result v h
        refine ⟨f :: before, g, after, result', v', rfl, ?_, hg⟩
        rw [ends_compose_cons, hf]
        exact hbefore
  · rintro ⟨before, f, after, result, v, rfl, hbefore, hf⟩
    rw [ends_compose_append, hbefore]
    dsimp only
    rw [ends_compose_cons, hf]

theorem failsHeld_compose {fs : List (Filter (Act σ))} (h : ∀ f ∈ fs, f.FailsHeld) :
    (compose fs).FailsHeld := by
  intro doc t failure hfail
  have hends : (compose fs).ends doc t = (.error failure, ((compose fs).ends doc t).2) := by
    rw [← hfail]
  obtain ⟨before, f, after, result, v, rfl, -, hf⟩ :=
    (ends_compose_eq_error fs doc t _ failure).mp hends
  exact h f (by simp) result (logged (applying f.name) v) failure (by rw [hf])

/-- A guarded chain gives what the chain gives, or the document that it was given. -/
theorem ends_guard_compose {fs : List (Filter (Act σ))} (h : ∀ f ∈ fs, f.FailsHeld)
    (doc : Json) (t : σ × World) :
    (compose fs).guard.ends doc t = match (compose fs).ends doc t with
      | (.ok result, t) => (.ok result, t)
      | (.error failure, t) =>
        (.ok doc, logged (failed (compose fs).name failure.message) t) := by
  have hheld := failsHeld_compose h doc t
  rw [ends_guard]
  generalize (compose fs).ends doc t = ending at hheld ⊢
  obtain ⟨failure | result, u⟩ := ending
  · dsimp only
    rw [Failure.held_eq_message (Failure.isHeld_iff.mpr (hheld failure rfl))]
  · rfl

/-! ### Chains inside chains -/

/-- What a filter may know of the world if it overlooks what is logged below errors: `same` relates
the worlds between which it sees no difference. -/
structure Overlooks (same : World → World → Prop) : Prop where
  debug : ∀ {w w' r}, same w w' → r.level = .debug → same w (w'.log r)
  log : ∀ {w w' r}, same w w' → same (w.log r) (w'.log r)
  errors : ∀ {w w'}, same w w' → w.errors = w'.errors

/-- Two ways to end between which no difference is seen. -/
structure Alike (same : World → World → Prop) (x y : Ending σ) : Prop where
  outcome : x.1 = y.1
  state : x.2.1 = y.2.1
  world : same x.2.2 y.2.2

theorem Alike.eq_or_eq {same : World → World → Prop} {x y : Ending σ} (h : Alike same x y) :
    ∃ s w w', same w w' ∧
      ((∃ result, x = (.ok result, (s, w)) ∧ y = (.ok result, (s, w'))) ∨
        ∃ failure, x = (.error failure, (s, w)) ∧ y = (.error failure, (s, w'))) := by
  obtain ⟨outcome, s, w⟩ := x
  obtain ⟨outcome', s', w'⟩ := y
  obtain ⟨rfl, rfl, hw⟩ := h
  refine ⟨s, w, w', hw, ?_⟩
  cases outcome with
  | ok result => exact .inl ⟨result, rfl, rfl⟩
  | error failure => exact .inr ⟨failure, rfl, rfl⟩

/-- A filter that ends alike in worlds between which it sees no difference. -/
def Respects (same : World → World → Prop) (f : Filter (Act σ)) : Prop :=
  ∀ doc s w w', same w w' → Alike same (f.ends doc (s, w)) (f.ends doc (s, w'))

/-- A filter that only keeps a state sees nothing of the world. -/
theorem respects_ofStep (same : World → World → Prop) (name : String)
    (step : Json → σ → Except Failure Json × σ) : (ofStep name step).Respects same :=
  fun _ _ _ _ h => ⟨rfl, rfl, h⟩

/-- The filters that are made of some filters by guarding and chaining. -/
inductive Assembled (P : Filter (Act σ) → Prop) : Filter (Act σ) → Prop where
  | single {f : Filter (Act σ)} : P f → Assembled P f
  | guard {f : Filter (Act σ)} : Assembled P f → Assembled P f.guard
  | compose {fs : List (Filter (Act σ))} : (∀ f ∈ fs, Assembled P f) → Assembled P (compose fs)

section Grouping
variable {same : World → World → Prop}

theorem Respects.guard {f : Filter (Act σ)} (hsame : Overlooks same) (h : f.Respects same) :
    f.guard.Respects same := by
  intro doc s w w' hw
  obtain ⟨s', v, v', hv, ⟨result, hx, hy⟩ | ⟨failure, hx, hy⟩⟩ := (h doc s w w' hw).eq_or_eq
  · rw [ends_guard, ends_guard, hx, hy]
    exact ⟨rfl, rfl, hv⟩
  · rw [ends_guard, ends_guard, hx, hy]
    dsimp only
    cases failure.held with
    | ok text => exact ⟨rfl, rfl, hsame.log hv⟩
    | error out => exact ⟨rfl, rfl, hv⟩

theorem Respects.compose {fs : List (Filter (Act σ))} (hsame : Overlooks same)
    (h : ∀ f ∈ fs, f.Respects same) : (compose fs).Respects same := by
  induction fs with
  | nil => exact fun _ _ _ _ hw => ⟨rfl, rfl, hw⟩
  | cons f fs ih =>
    intro doc s w w' hw
    have hfs := ih fun g hg => h g (List.mem_cons_of_mem f hg)
    have hf := h f List.mem_cons_self doc s _ _ (hsame.log (r := applying f.name) hw)
    rw [ends_compose_cons, ends_compose_cons]
    dsimp only [logged]
    obtain ⟨s', v, v', hv, ⟨result, hx, hy⟩ | ⟨failure, hx, hy⟩⟩ := hf.eq_or_eq
    · rw [hx, hy]
      exact hfs result s' v v' hv
    · rw [hx, hy]
      exact ⟨rfl, rfl, hv⟩

theorem Assembled.respects {f : Filter (Act σ)} (hsame : Overlooks same)
    (h : Assembled (Respects same) f) : f.Respects same := by
  induction h with
  | single h => exact h
  | guard _ ih => exact ih.guard hsame
  | compose _ ih => exact .compose hsame ih

/-- A part of a chain may as well be a chain of its own. -/
theorem ends_compose_regrouped (hsame : Overlooks same) {before part after : List (Filter (Act σ))}
    (h : ∀ f ∈ before ++ part ++ after, f.Respects same) (doc : Json) {t : σ × World}
    (ht : same t.2 t.2) :
    Alike same ((compose (before ++ part ++ after)).ends doc t)
      ((compose (before ++ compose part :: after)).ends doc t) := by
  have hbefore : (compose before).Respects same := .compose hsame fun f hf => h f (by simp [hf])
  have hpart : (compose part).Respects same := .compose hsame fun f hf => h f (by simp [hf])
  have hafter : (compose after).Respects same := .compose hsame fun f hf => h f (by simp [hf])
  rw [List.append_assoc, ends_compose_append before, ends_compose_append before]
  obtain ⟨s, v, _, hv, ⟨result, hx, hy⟩ | ⟨failure, hx, hy⟩⟩ :=
    (hbefore doc t.1 t.2 t.2 ht).eq_or_eq
  · cases hx.symm.trans hy
    rw [hx]
    dsimp only
    rw [ends_compose_append, ends_compose_cons]
    -- the record of the chain in the middle is the only difference
    have hrecord : same v (v.log (applying (compose part).name)) := hsame.debug hv rfl
    dsimp only [logged]
    obtain ⟨s', u, u', hu, ⟨result', hx', hy'⟩ | ⟨failure, hx', hy'⟩⟩ :=
      (hpart result s v _ hrecord).eq_or_eq
    · rw [hx', hy']
      exact hafter result' s' u u' hu
    · rw [hx', hy']
      exact ⟨rfl, rfl, hu⟩
  · cases hx.symm.trans hy
    rw [hx]
    exact ⟨rfl, rfl, hv⟩

end Grouping

/-- The least that a filter can see: no more than the errors that were logged. -/
theorem overlooks_errors : Overlooks fun w w' => w.errors = w'.errors where
  debug h hr := by rw [World.errors_log, h, hr, if_neg (by decide), List.append_nil]
  log h := by rw [World.errors_log, World.errors_log, h]
  errors h := h

/-! ### Chains with failures -/

/-- What a chain does whose filters fail, if at all, so that a failure boundary holds it. If each of
them is guarded, the chain gives a document, put together stage by stage, and logs one error for
each filter that fails, in order, which reports the failure under the name of the filter. As they
are, the chain fails as the first of them that fails, and applies none after it. A part of a chain
may as well be a chain of its own: filters that overlook records below errors make no difference of
it, and filters that only keep a state overlook all there is. The chain guarded as a whole gives
what the chain gives, or the document that it was given. Of what a filter fails with, a guard lets
out only what no boundary holds. -/
theorem chain_with_failures (fs : List (Filter (Act σ))) (h : ∀ f ∈ fs, f.FailsHeld)
    (doc : Json) (t : σ × World) :
    ∃ report : String → String → Log.Record,
      (∀ name words, Reports name words (report name words)) ∧
      (compose (fs.map guard)).ends doc t =
        (.ok (fs.foldl (guardedStage report) (doc, t)).1,
          (fs.foldl (guardedStage report) (doc, t)).2) ∧
      ((∀ f ∈ fs, f.LogsNoErrors) →
        ((compose (fs.map guard)).ends doc t).2.2.errors =
          t.2.errors ++ failures report fs (doc, t)) ∧
      (∀ failure u, (compose fs).ends doc t = (.error failure, u) ↔
        ∃ before f after result v, fs = before ++ f :: after ∧
          (compose before).ends doc t = (.ok result, v) ∧
          f.ends result (logged (applying f.name) v) = (.error failure, u)) ∧
      (∀ same, Overlooks same → same t.2 t.2 →
        ∀ before part after, (∀ f ∈ before ++ part ++ after, Assembled (Respects same) f) →
          let whole := (compose (before ++ part ++ after)).ends doc t
          let grouped := (compose (before ++ compose part :: after)).ends doc t
          whole.1 = grouped.1 ∧ whole.2.1 = grouped.2.1 ∧ whole.2.2.errors = grouped.2.2.errors) ∧
      ((compose fs).guard.ends doc t = match (compose fs).ends doc t with
        | (.ok result, t) => (.ok result, t)
        | (.error failure, t) =>
          (.ok doc, logged (report (compose fs).name failure.message) t)) ∧
      ∀ (f : Filter (Act σ)) failure u, f.guard.ends doc t = (.error failure, u) ↔
        ∃ cause, f.ends doc t = (.error cause, u) ∧
          (cause.isContained = false ∧ cause = failure ∨
            cause.isContained = true ∧ cause.text = .error failure) := by
  have hguarded := ends_compose_guarded h (doc, t)
  refine ⟨failed, failed_reports, hguarded, ?_,
    fun failure u => ends_compose_eq_error fs doc t u failure, ?_, ends_guard_compose h doc t, ?_⟩
  · intro hquiet
    rw [hguarded]
    exact errors_foldl_guardedStage failed_reports hquiet (doc, t)
  · intro same hsame ht before part after hparts
    obtain ⟨houtcome, hstate, hworld⟩ :=
      ends_compose_regrouped hsame (fun f hf => (hparts f hf).respects hsame) doc ht
    exact ⟨houtcome, hstate, hsame.errors hworld⟩
  · intro f failure u
    simp only [ends_guard_eq_error, Failure.held_eq_error]

/-- A filter that counts the documents it has seen, and puts the count beside each. -/
def tallying : Filter (Act Nat) :=
  ofStep "tallying" fun doc n => (.ok (.arr [doc, .int n]), n + 1)

/-- A filter that counts the documents it has seen, and refuses each. -/
def refusing : Filter (Act Nat) :=
  ofStep "refusing" fun _ n => (.error (.runtime "refused"), n + 1)

/-- Of three filters with one count the second fails: the third goes on from the document of the
first, with the count of the second. -/
theorem chain_with_failures_tallied :
    (∀ f ∈ [tallying, refusing, tallying], f.FailsHeld) ∧
      ∃ r w, Reports "refusing" "refused" r ∧ w.errors = [r] ∧
        (compose ([tallying, refusing, tallying].map guard)).ends .null (0, .initial ⟨[]⟩ "/") =
          (.ok (.arr [.arr [.null, .int 0], .int 2]), (3, w)) ∧
        ((compose [tallying, compose [refusing, tallying]]).ends .null (0, .initial ⟨[]⟩ "/")).1 =
          .error (.runtime "refused") ∧
        ((compose [tallying, refusing, tallying]).guard.ends .null (0, .initial ⟨[]⟩ "/")).1 =
          .ok .null := by
  have hheld : ∀ f ∈ [tallying, refusing, tallying], f.FailsHeld := by
    simp only [List.mem_cons, List.not_mem_nil, or_false]
    rintro f (rfl | rfl | rfl) doc t failure hf
    · cases hf
    · cases hf
      exact ⟨rfl, "refused", rfl⟩
    · cases hf
  have hquiet : ∀ f ∈ [tallying, refusing, tallying], f.LogsNoErrors := by
    simp only [List.mem_cons, List.not_mem_nil, or_false]
    rintro f (rfl | rfl | rfl) doc t <;> rfl
  obtain ⟨report, hreport, hguarded, herrors, hfirst, hgroups, hwhole, -⟩ :=
    chain_with_failures _ hheld .null (0, .initial ⟨[]⟩ "/")
  have hrespects : ∀ f ∈ [tallying] ++ [refusing, tallying] ++ [],
      Assembled (Respects fun w w' => w.errors = w'.errors) f := by
    simp only [List.mem_append, List.mem_cons, List.not_mem_nil, or_false]
    rintro f (rfl | rfl | rfl) <;> exact .single (respects_ofStep _ _ _)
  refine ⟨hheld, _, _, hreport "refusing" "refused",
    (congrArg (·.2.2.errors) hguarded.symm).trans (herrors hquiet), hguarded, ?_, ?_⟩
  · exact (hgroups _ overlooks_errors rfl [tallying] [refusing, tallying] [] hrespects).1.symm
  · rw [hwhole]
    rfl

end Filter

end DocFilter
