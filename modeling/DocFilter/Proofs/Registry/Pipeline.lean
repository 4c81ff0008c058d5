import DocFilter.Proofs.Registry.Host
import DocFilter.Registry.Pipeline

/-!
# Chains made by name

If each name that is asked for leads to metadata whose factory makes a filter of the options given,
then the chain of these filters is made, and else records are logged.
-/

namespace DocFilter

namespace Pipeline
variable {φ : Type} {make : φ → Fields → Act (Host φ) Filter}

/-- What it takes that a name gives a filter with some property: metadata are found under the name,
the options given for it are a table without the names of arguments, and the factory makes a filter
of those that it understands. -/
structure Gives (make : φ → Fields → Act (Host φ) Filter) (r : Registry φ) (options : Fields)
    (P : Filter → Prop) (name : String) (m : Metadata φ) (given : Fields) (f : Filter) : Prop where
  found : r.find? name = some m
  options : optionsFor options (r.canonical name) name = .ok given
  free : Host.checkNames "FilterRegistry.get_filter()" ["self", "name"] given = .ok ()
  makes : ∀ h : Host φ, h.Turns (make m.factory (m.understood given)) f h.registry
  made : P f

theorem create_turns {m : Metadata φ} {given : Fields} {f : Filter}
    (hmake : ∀ h : Host φ, h.Turns (make m.factory (m.understood given)) f h.registry)
    (h : Host φ) : h.Turns (m.create make given) f h.registry := by
  unfold Metadata.create
  dsimp only
  split
  · exact .bind (.record _ h) (.bind (.attempt (hmake h)) (.pure f h))
  · exact .bind (.attempt (hmake h)) (.pure f h)

/-- The filter of a chain that a filter takes part as. -/
def taken (isSafe : Bool) (f : Filter) : Filter := if isSafe then f.guard else f

theorem chain_turns {options : Fields} {P : Filter → Prop} (isSafe : Bool) (names : List String)
    (h : Host φ)
    (hgives : ∀ name ∈ names, ∃ m given f, Gives make h.readied options P name m given f) :
    ∃ fs r, h.Turns (chain make options isSafe names) fs r ∧
      ∀ f ∈ fs, ∃ g, P g ∧ f = taken isSafe g := by
  induction names generalizing h with
  | nil => exact ⟨[], h.registry, .pure [] h, by simp⟩
  | cons name names ih =>
    obtain ⟨m, given, f, hname⟩ := hgives name List.mem_cons_self
    let ready : Host φ := { h with registry := h.readied }
    have hready : ready.readied = h.readied := h.readied_readied
    have hmetadata : ready.Turns (Host.metadata name) m ready.readied :=
      ready.metadata_turns (by rw [hready]; exact hname.found)
    rw [hready] at hmetadata
    have hcreate : ready.Turns (Host.create make name given) f ready.registry :=
      .bind (.ofExcept hname.free ready) (.bind hmetadata (create_turns hname.makes ready))
    obtain ⟨fs, r, hrest, hfs⟩ := ih ready fun name' hname' => by
      rw [hready]
      exact hgives name' (List.mem_cons_of_mem name hname')
    refine ⟨taken isSafe f :: fs, r, ?_, ?_⟩
    · exact .bind (h.resolve_turns name) (.bind (.ofExcept hname.options ready)
        (.bind hcreate (.bind hrest (.pure _ _))))
    · intro g hg
      rcases List.mem_cons.mp hg with rfl | hg
      · exact ⟨f, hname.made, rfl⟩
      · exact hfs g hg

/-- The chain that is asked for is built, and else records are logged. -/
theorem build_turns {options : Fields} {P : Filter → Prop} (isSafe : Bool) (names : List String)
    (h : Host φ)
    (hgives : ∀ name ∈ names, ∃ m given f, Gives make h.readied options P name m given f) :
    ∃ fs r, h.Turns (build make names options isSafe) (Filter.compose fs) r ∧
      ∀ f ∈ fs, ∃ g, P g ∧ f = taken isSafe g := by
  obtain ⟨fs, r, hchain, hfs⟩ := chain_turns isSafe names h hgives
  exact ⟨fs, r, .bind hchain (.bind (.record _ _) (.pure _ _)), hfs⟩

end Pipeline

end DocFilter
