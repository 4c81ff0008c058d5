import DocFilter.Proofs.Filter.Regime
import DocFilter.Proofs.Registry.Pipeline

/-!
# Making chains in a regime

Looking up names and making the filters of a chain stays in a regime if the factories do, and the
chain stays in it if the filters do that the factories make.
-/

namespace DocFilter

theorem World.OnlyLogged.keeps {inv : World → Prop} {may : Failure → Prop} {w u : World}
    (h : w.OnlyLogged u) (hregime : Regime inv may) (hw : inv w) : inv u := by
  obtain ⟨rs, rfl⟩ := h
  induction rs generalizing w with
  | nil => exact hw
  | cons r rs ih => exact ih (hregime.log r hw)

variable {φ : Type} {inv : World → Prop} {may : Failure → Prop} {kept : Host φ → Prop}

theorem Host.Turns.during {α : Type} {x : Act (Host φ) α} {post : α → Prop}
    (hregime : Regime inv may)
    (h : ∀ host, kept host → ∃ a r, host.Turns x a r ∧ post a ∧ kept { host with registry := r }) :
    (during (Beside kept inv) may).Holds (merged x) post := by
  rintro ⟨host, w⟩ ⟨hhost, hw⟩
  obtain ⟨a, r, hturns, ha, hr⟩ := h host hhost
  obtain ⟨u, hrun, hlogs⟩ := hturns w
  exact .inl ⟨a, _, hrun, ⟨hr, hlogs.keeps hregime hw⟩, ha⟩

namespace Pipeline
variable {make : φ → Fields → Act (Host φ) Filter}

/-- Whether what is found under a name, by a host that is as it was, makes filters that stay in a
regime. -/
def MakesStaying (make : φ → Fields → Act (Host φ) Filter) (kept : Host φ → Prop)
    (inv : World → Prop) (may : Failure → Prop) (name : String) : Prop :=
  ∀ h m, kept h → h.readied.find? name = some m → ∀ given,
    (during (Beside kept inv) fun _ => True).Holds (merged (make m.factory given)) fun f =>
      f.Stays inv may

theorem during_create {m : Metadata φ} {given : Fields} (hregime : Regime inv may)
    (hmake : (during (Beside kept inv) fun _ => True).Holds
      (merged (make m.factory (m.understood given))) fun f => f.Stays inv may) :
    (during (Beside kept inv) fun _ => True).Holds (merged (m.create make given)) fun f =>
      f.Stays inv may := by
  unfold Metadata.create
  dsimp only
  split
  · refine Beside.bind (Beside.lift (hregime.record _)) fun _ _ => ?_
    refine Beside.bind (Beside.attempt hmake) fun r hr => ?_
    split
    · exact Beside.pure (hr.1 _ rfl)
    · split <;> exact Beside.throw trivial
  · refine Beside.bind (Beside.attempt hmake) fun r hr => ?_
    split
    · exact Beside.pure (hr.1 _ rfl)
    · split <;> exact Beside.throw trivial

section Chain
variable (hregime : Regime inv may)
variable (hready : ∀ h, kept h → kept { h with registry := h.readied })
include hregime hready

theorem during_ready : (during (Beside kept inv) fun _ => True).Holds (merged Host.ready) fun r =>
    ∃ h, kept h ∧ r = h.readied :=
  Host.Turns.during hregime.any fun h hh => ⟨h.readied, h.readied, h.ready_turns, ⟨h, hh, rfl⟩,
    hready h hh⟩

theorem during_hostCreate {name : String} (hmake : MakesStaying make kept inv may name)
    (given : Fields) :
    (during (Beside kept inv) fun _ => True).Holds (merged (Host.create make name given)) fun f =>
      f.Stays inv may := by
  have hmetadata : (during (Beside kept inv) fun _ => True).Holds (merged (Host.metadata name))
      fun m => ∃ h, kept h ∧ h.readied.find? name = some m := by
    refine Beside.bind (during_ready hregime hready) fun r hr => ?_
    obtain ⟨h, hh, rfl⟩ := hr
    split
    · next m hfind => exact Beside.pure ⟨h, hh, hfind⟩
    · exact Beside.throw trivial
  refine Beside.bind ?_ fun _ (_ : True) => ?_
  · exact Beside.ofExcept (fun _ _ => trivial) fun _ _ => trivial
  refine Beside.bind hmetadata fun m hm => ?_
  obtain ⟨h, hh, hfind⟩ := hm
  exact during_create hregime (hmake h m hh hfind _)

theorem during_chain {names : List String}
    (hmake : ∀ name ∈ names, MakesStaying make kept inv may name) (options : Fields)
    (isSafe : Bool) :
    (during (Beside kept inv) fun _ => True).Holds (merged (chain make options isSafe names))
      fun fs => ∀ f ∈ fs, ∃ g : Filter, g.Stays inv may ∧ f = taken isSafe g := by
  induction names with
  | nil => exact Beside.pure (by simp)
  | cons name names ih =>
    have hresolve : (during (Beside kept inv) fun _ => True).Holds (merged (Host.resolve name))
        fun _ => True :=
      Beside.bind (during_ready hregime hready) fun r _ => Beside.pure trivial
    have hcreate := during_hostCreate hregime hready (hmake name List.mem_cons_self)
    have hrest := ih fun name' hname' => hmake name' (List.mem_cons_of_mem name hname')
    refine Beside.bind hresolve fun canonical _ => ?_
    refine Beside.bind (Beside.ofExcept (fun _ _ => trivial) fun _ _ => trivial)
      fun given (_ : True) => ?_
    refine Beside.bind (hcreate given) fun g hg => ?_
    refine Beside.bind hrest fun fs hfs => Beside.pure ?_
    intro f hf
    rcases List.mem_cons.mp hf with rfl | hf
    · exact ⟨g, hg, rfl⟩
    · exact hfs f hf

/-- The chain of filters that stay in a regime stays in it, and a safe chain only fails with what no
boundary holds. -/
theorem during_build {names : List String}
    (hmake : ∀ name ∈ names, MakesStaying make kept inv may name) (options : Fields)
    (isSafe : Bool) :
    (during (Beside kept inv) fun _ => True).Holds (merged (build make names options isSafe))
      fun f => f.Stays inv (Filter.lettingOut may isSafe) := by
  refine Beside.bind (during_chain hregime hready hmake options isSafe) fun fs hfs => ?_
  refine Beside.bind (Beside.lift (hregime.record _)) fun _ _ => Beside.pure ?_
  refine Filter.stays_compose hregime fun f hf => ?_
  obtain ⟨g, hg, rfl⟩ := hfs f hf
  cases isSafe with
  | true => exact hg.guard hregime
  | false => exact hg

end Chain

end Pipeline

end DocFilter
