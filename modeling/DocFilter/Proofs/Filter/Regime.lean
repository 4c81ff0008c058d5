import DocFilter.Filter
import DocFilter.Proofs.Regime
import DocFilter.Proofs.Walk.Rules

/-!
# Filters in a regime

A filter stays in a regime if each of its runs does. Guarding and chaining filters preserve this,
and a guarded filter only fails with what no boundary holds.
-/

namespace DocFilter

variable {inv : World → Prop} {may : Failure → Prop}

/-! ### Guards and chains -/

namespace Filter

def Stays (f : Filter) (inv : World → Prop) (may : Failure → Prop) : Prop :=
  ∀ doc, (during inv may).Holds (f.apply doc) fun _ => True

theorem Stays.mono {f : Filter} {may' : Failure → Prop} (h : f.Stays inv may)
    (hmay : ∀ failure, may failure → may' failure) : f.Stays inv may' :=
  fun doc => During.mono (h doc) hmay fun _ => id

/-- What gets out of a filter that may fail in some ways, if it is guarded or if it is not. -/
def lettingOut (may : Failure → Prop) : Bool → Failure → Prop
  | false => may
  | true => fun failure => ∃ cause, may cause ∧ cause.held = .error failure

theorem Stays.guard {f : Filter} (hregime : Regime inv may) (h : f.Stays inv may) :
    f.guard.Stays inv (lettingOut may true) := by
  intro doc
  refine During.tryCatch (h doc) fun failure hmay => ?_
  refine (during inv _).bind (During.ofExcept (fun _ _ => trivial) fun out hout => ?_) fun _ _ =>
    (during inv _).bind (hregime.record _) fun _ _ => (during inv _).pure trivial
  exact ⟨failure, hmay, hout⟩

theorem stays_compose {may' : Failure → Prop} {fs : List Filter} (hregime : Regime inv may)
    (h : ∀ f ∈ fs, f.Stays inv may') : (compose fs).Stays inv may' := by
  intro doc
  change (during inv may').Holds (applyAll fs doc) _
  induction fs generalizing doc with
  | nil => exact (during inv may').pure trivial
  | cons f fs ih =>
    have hrest (result : Json) := ih (fun g hg => h g (List.mem_cons_of_mem f hg)) result
    refine (during inv may').bind (hregime.record _) fun _ _ => ?_
    exact (during inv may').bind (h f List.mem_cons_self doc) fun result _ => hrest result

end Filter

/-- What holds of rewriting any block holds of a sweep. -/
theorem BlockFilter.during_sweep {σ : Type} {kept : σ → Prop} {f : BlockFilter σ}
    (h : ∀ b, (during (Beside kept inv) may).Holds (merged (f.rewrite b)) fun _ => True)
    (doc : Json) :
    (during (Beside kept inv) may).Holds (merged (f.sweep doc)) fun _ => True := by
  have hwalk : merged (f.sweep doc) = walk (fun n => merged (f.visit n)) doc :=
    merging.walk (fun _ => rfl) doc
  rw [hwalk]
  refine (during (Beside kept inv) may).walk Rebuilding.trivial (fun fs gs _ _ => ?_) doc
  unfold visit transform
  split
  · split
    · exact h _
    · exact Beside.pure trivial
  · exact Beside.pure trivial

end DocFilter
