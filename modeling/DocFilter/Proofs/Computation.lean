/-!
# Computations with a state and a failure

How such a computation runs step by step, and two kinds of statement about computations in any
monad: what a computation returns, and that two computations go the same way. Beside their state,
computations may note what happens; what is noted has no influence on them.
-/

namespace DocFilter

theorem bind_eq_ok {ε α β : Type} {x : Except ε α} {f : α → Except ε β} {b : β}
    (h : x >>= f = .ok b) : ∃ a, x = .ok a ∧ f a = .ok b := by
  cases x with
  | error e => cases h
  | ok a => exact ⟨a, rfl, h⟩

theorem bind_eq_error {ε α β : Type} {x : Except ε α} {f : α → Except ε β} {e : ε}
    (h : x >>= f = .error e) : x = .error e ∨ ∃ a, x = .ok a ∧ f a = .error e := by
  cases x with
  | error e' =>
    cases h
    exact .inl rfl
  | ok a => exact .inr ⟨a, rfl, h⟩

theorem eq_ok_of_toOption {ε α : Type} {x : Except ε α} {a : α} (h : x.toOption = some a) :
    x = .ok a := by
  cases x with
  | error e => cases h
  | ok b =>
    cases h
    rfl

theorem map_eq_of_mapM_eq_ok {ε α β : Type} {f : α → Except ε β} {as : List α} {bs : List β}
    (h : as.mapM f = .ok bs) : as.map f = bs.map .ok := by
  induction as generalizing bs with
  | nil =>
    rw [List.mapM_nil] at h
    cases h
    rfl
  | cons a as ih =>
    rw [List.mapM_cons] at h
    obtain ⟨b, hb, h⟩ := bind_eq_ok h
    obtain ⟨rest, hrest, h⟩ := bind_eq_ok h
    cases h
    rw [List.map_cons, List.map_cons, hb, ih hrest]

theorem exists_of_mem_mapM {ε α β : Type} {f : α → Except ε β} {as : List α} {bs : List β}
    (h : as.mapM f = .ok bs) {b : β} (hb : b ∈ bs) : ∃ a ∈ as, f a = .ok b := by
  have hmem : Except.ok b ∈ as.map f := by
    rw [map_eq_of_mapM_eq_ok h]
    exact List.mem_map_of_mem hb
  exact List.mem_map.mp hmem

theorem length_of_mapM_eq_ok {ε α β : Type} {f : α → Except ε β} {as : List α} {bs : List β}
    (h : as.mapM f = .ok bs) : bs.length = as.length := by
  have hlength := congrArg List.length (map_eq_of_mapM_eq_ok h)
  rw [List.length_map, List.length_map] at hlength
  exact hlength.symm

section Run
variable {ε τ α β : Type}

/-- The second part of a computation runs from where the first one ends, unless that failed. -/
theorem run_bind (x : ExceptT ε (StateM τ) α) (f : α → ExceptT ε (StateM τ) β) (t : τ) :
    (x >>= f).run t = match (x.run t).1 with
      | .ok a => (f a).run (x.run t).2
      | .error e => (.error e, (x.run t).2) := by
  rw [ExceptT.run_bind]
  change (match (x.run t).1 with
    | .ok a => (f a).run
    | .error e => pure (.error e)) (x.run t).2 = _
  cases (x.run t).1 <;> rfl

theorem run_bind_of_ok {x : ExceptT ε (StateM τ) α} {f : α → ExceptT ε (StateM τ) β} {t u : τ}
    {a : α} (h : x.run t = (.ok a, u)) : (x >>= f).run t = (f a).run u := by
  rw [run_bind, h]

theorem run_bind_of_error {x : ExceptT ε (StateM τ) α} {f : α → ExceptT ε (StateM τ) β} {t u : τ}
    {e : ε} (h : x.run t = (.error e, u)) : (x >>= f).run t = (.error e, u) := by
  rw [run_bind, h]

theorem run_tryCatch (x : ExceptT ε (StateM τ) α) (handle : ε → ExceptT ε (StateM τ) α) (t : τ) :
    (tryCatch x handle).run t = match (x.run t).1 with
      | .ok a => (.ok a, (x.run t).2)
      | .error e => (handle e).run (x.run t).2 := by
  change (match (x.run t).1 with
    | .ok a => pure (Except.ok a)
    | .error e => (handle e).run) (x.run t).2 = _
  cases (x.run t).1 <;> rfl

@[simp] theorem run_pure (a : α) (t : τ) :
    (pure a : ExceptT ε (StateM τ) α).run t = (.ok a, t) := rfl

@[simp] theorem run_ofExcept (x : Except ε α) (t : τ) :
    (MonadExcept.ofExcept x : ExceptT ε (StateM τ) α).run t = (x, t) := by
  cases x <;> rfl

end Run

/-! ### A state of its own beside another -/

section Merged
variable {ε σ τ α β : Type}

/-- A computation with a state of its own as one with the pair of both states. -/
def merged (x : ExceptT ε (StateT σ (StateM τ)) α) : ExceptT ε (StateM (σ × τ)) α := fun t =>
  ((x.run t.1 t.2).1.1, ((x.run t.1 t.2).1.2, (x.run t.1 t.2).2))

@[simp] theorem merged_pure (a : α) :
    merged (pure a : ExceptT ε (StateT σ (StateM τ)) α) = pure a := rfl

theorem merged_bind (x : ExceptT ε (StateT σ (StateM τ)) α)
    (f : α → ExceptT ε (StateT σ (StateM τ)) β) :
    merged (x >>= f) = merged x >>= fun a => merged (f a) := by
  funext t
  change (merged (x >>= f)).run t = (merged x >>= fun a => merged (f a)).run t
  rw [run_bind]
  unfold merged ExceptT.run
  simp only [bind, ExceptT.bind, ExceptT.mk, StateT.bind, ExceptT.bindCont]
  cases x t.1 t.2 with
  | mk first t' =>
    cases first with
    | mk result s => cases result <;> rfl

theorem run_merged_tryCatch (x : ExceptT ε (StateT σ (StateM τ)) α)
    (handle : ε → ExceptT ε (StateT σ (StateM τ)) α) (t : σ × τ) :
    (merged (tryCatch x handle)).run t = match ((merged x).run t).1 with
      | .ok a => (.ok a, ((merged x).run t).2)
      | .error e => (merged (handle e)).run ((merged x).run t).2 := by
  unfold merged ExceptT.run
  simp only [tryCatch, tryCatchThe, MonadExceptOf.tryCatch, ExceptT.tryCatch, bind, ExceptT.mk,
    StateT.bind]
  cases x t.1 t.2 with
  | mk first t' =>
    cases first with
    | mk result s => cases result <;> rfl

end Merged

/-! ### Statements about computations -/

/-- Statements about what a computation returns. -/
structure Logic (m : Type → Type) [Monad m] where
  Holds : {α : Type} → m α → (α → Prop) → Prop
  pure : ∀ {α : Type} {a : α} {post : α → Prop}, post a → Holds (Pure.pure a) post
  bind : ∀ {α β : Type} {x : m α} {f : α → m β} {mid : α → Prop} {post : β → Prop},
    Holds x mid → (∀ a, mid a → Holds (f a) post) → Holds (x >>= f) post

/-- Statements that two computations go the same way and return the same. -/
structure Simulation (m n : Type → Type) [Monad m] [Monad n] where
  Rel : {α : Type} → m α → n α → Prop
  pure : ∀ {α : Type} (a : α), Rel (Pure.pure a) (Pure.pure a)
  bind : ∀ {α β : Type} {x : m α} {y : n α} {f : α → m β} {g : α → n β},
    Rel x y → (∀ a, Rel (f a) (g a)) → Rel (x >>= f) (y >>= g)

/-- A computation with a state of its own goes the same way as the one with the pair of states. -/
def merging {ε σ τ : Type} :
    Simulation (ExceptT ε (StateT σ (StateM τ))) (ExceptT ε (StateM (σ × τ))) where
  Rel x y := merged x = y
  pure _ := rfl
  bind := by
    rintro _ _ x _ f g rfl hf
    rw [merged_bind, funext hf]

/-- Computations without effects, by what they return. -/
def effectless (m : Type → Type) [Monad m] [LawfulMonad m] : Logic m where
  Holds x post := ∃ a, x = pure a ∧ post a
  pure h := ⟨_, rfl, h⟩
  bind := by
    rintro _ _ _ f _ _ ⟨a, rfl, ha⟩ hf
    obtain ⟨b, hb, hpost⟩ := hf a ha
    exact ⟨b, by rw [pure_bind, hb], hpost⟩

/-- Started in a state with `inv`, a computation ends in one, and returns, if at all, what the
statement says. -/
def keeping {ε τ : Type} (inv : τ → Prop) : Logic (ExceptT ε (StateM τ)) where
  Holds x post := ∀ t, inv t → inv (x.run t).2 ∧ ∀ a, (x.run t).1 = .ok a → post a
  pure := by
    intro α a post ha t ht
    refine ⟨ht, ?_⟩
    intro b hb
    cases hb
    exact ha
  bind := by
    intro α β x f mid post hx hf t ht
    obtain ⟨hinv, hmid⟩ := hx t ht
    rw [run_bind]
    cases hout : (x.run t).1 with
    | error e => exact ⟨hinv, by simp⟩
    | ok a => exact hf a (hmid a hout) _ hinv

/-- From a state, a computation ends in one with `inv` and returns a value with `post`, or it fails
in a way that `bad` allows. -/
def Ends {ε τ α : Type} (inv : τ → Prop) (bad : ε → τ → Prop) (x : ExceptT ε (StateM τ) α) (t : τ)
    (post : α → Prop) : Prop :=
  (∃ a u, x.run t = (.ok a, u) ∧ inv u ∧ post a) ∨ ∃ e u, x.run t = (.error e, u) ∧ bad e u

namespace Ends
variable {ε τ α β : Type} {inv : τ → Prop} {bad : ε → τ → Prop} {x : ExceptT ε (StateM τ) α}
variable {f : α → ExceptT ε (StateM τ) β} {t u : τ} {a : α} {e : ε}

theorem mono {post post' : α → Prop} (h : Ends inv bad x t post) (hpost : ∀ a, post a → post' a) :
    Ends inv bad x t post' := by
  rcases h with ⟨a, u, hrun, hu, ha⟩ | hfails
  · exact .inl ⟨a, u, hrun, hu, hpost a ha⟩
  · exact .inr hfails

theorem bind_of_ok {post : β → Prop} (hrun : x.run t = (.ok a, u))
    (h : Ends inv bad (f a) u post) : Ends inv bad (x >>= f) t post := by
  unfold Ends
  rwa [run_bind_of_ok hrun]

theorem bind_of_error {post : β → Prop} (hrun : x.run t = (.error e, u)) (h : bad e u) :
    Ends inv bad (x >>= f) t post :=
  .inr ⟨e, u, run_bind_of_error hrun, h⟩

end Ends

/-- Started in a state with `inv`, a computation ends in one and returns what the statement says, or
it fails in a way that `bad` allows. -/
def ending {ε τ : Type} (inv : τ → Prop) (bad : ε → τ → Prop) : Logic (ExceptT ε (StateM τ)) where
  Holds x post := ∀ t, inv t → Ends inv bad x t post
  pure ha t ht := .inl ⟨_, t, rfl, ht, ha⟩
  bind := by
    intro α β x f mid post hx hf t ht
    rcases hx t ht with ⟨a, u, hrun, hu, ha⟩ | ⟨e, u, hrun, he⟩
    · exact .bind_of_ok hrun (hf a ha u hu)
    · exact .bind_of_error hrun he

theorem keeping_ofExcept {ε τ α : Type} {inv : τ → Prop} {x : Except ε α} {post : α → Prop}
    (h : ∀ a, x = .ok a → post a) :
    (keeping inv).Holds (MonadExcept.ofExcept x : ExceptT ε (StateM τ) α) post := by
  intro t ht
  rw [run_ofExcept]
  exact ⟨ht, h⟩

/-- Started in a state with `inv`, a computation ends in one, and returns what the statement says or
fails in a way that `may` allows. -/
def during {ε τ : Type} (inv : τ → Prop) (may : ε → Prop) : Logic (ExceptT ε (StateM τ)) :=
  ending inv fun e t => inv t ∧ may e

namespace During
variable {ε τ α β : Type} {inv : τ → Prop} {may may' : ε → Prop}
variable {x : ExceptT ε (StateM τ) α} {post post' : α → Prop} {t : τ}

theorem cases (h : (during inv may).Holds x post) (ht : inv t) :
    inv (x.run t).2 ∧ (∀ a, (x.run t).1 = .ok a → post a) ∧
      ∀ e, (x.run t).1 = .error e → may e := by
  rcases h t ht with ⟨a, u, hrun, hu, ha⟩ | ⟨e, u, hrun, hu, he⟩
  · rw [hrun]
    refine ⟨hu, ?_, by simp⟩
    rintro _ ⟨⟩
    exact ha
  · rw [hrun]
    refine ⟨hu, by simp, ?_⟩
    rintro _ ⟨⟩
    exact he

theorem of_cases (h : ∀ t, inv t → inv (x.run t).2 ∧ (∀ a, (x.run t).1 = .ok a → post a) ∧
      ∀ e, (x.run t).1 = .error e → may e) : (during inv may).Holds x post := by
  intro t ht
  obtain ⟨hu, hok, herror⟩ := h t ht
  cases hout : (x.run t).1 with
  | ok a => exact .inl ⟨a, _, Prod.ext hout rfl, hu, hok a hout⟩
  | error e => exact .inr ⟨e, _, Prod.ext hout rfl, hu, herror e hout⟩

theorem mono (h : (during inv may).Holds x post) (hmay : ∀ e, may e → may' e)
    (hpost : ∀ a, post a → post' a) : (during inv may').Holds x post' := by
  refine of_cases fun t ht => ?_
  obtain ⟨hu, hok, herror⟩ := cases h ht
  exact ⟨hu, fun a ha => hpost a (hok a ha), fun e he => hmay e (herror e he)⟩

theorem weaken (h : (during inv may).Holds x post) :
    (during inv may).Holds x fun _ => True :=
  mono h (fun _ => id) fun _ _ => trivial

theorem throw {e : ε} (h : may e) :
    (during inv may).Holds (MonadExcept.throw e : ExceptT ε (StateM τ) α) post :=
  fun t ht => .inr ⟨e, t, rfl, ht, h⟩

theorem ofExcept {y : Except ε α} (hok : ∀ a, y = .ok a → post a)
    (herror : ∀ e, y = .error e → may e) :
    (during inv may).Holds (MonadExcept.ofExcept y : ExceptT ε (StateM τ) α) post := by
  refine of_cases fun t ht => ?_
  rw [run_ofExcept]
  exact ⟨ht, hok, herror⟩

theorem tryCatch {handle : ε → ExceptT ε (StateM τ) α} (hx : (during inv may).Holds x post)
    (hhandle : ∀ e, may e → (during inv may').Holds (handle e) post) :
    (during inv may').Holds (tryCatch x handle) post := by
  refine of_cases fun t ht => ?_
  obtain ⟨hu, hok, herror⟩ := cases hx ht
  rw [run_tryCatch]
  cases hout : (x.run t).1 with
  | ok a => exact ⟨hu, fun b hb => by cases hb; exact hok a hout, by simp⟩
  | error e => exact cases (hhandle e (herror e hout)) hu

/-- What runs a computation and returns how it ended does not fail. -/
theorem attempt {y : ExceptT ε (StateM τ) (Except ε α)}
    (hy : ∀ t, y.run t = (.ok (x.run t).1, (x.run t).2)) (h : (during inv may).Holds x post) :
    (during inv may').Holds y fun r =>
      (∀ a, r = .ok a → post a) ∧ ∀ e, r = .error e → may e := by
  refine of_cases fun t ht => ?_
  rw [hy]
  refine ⟨(cases h ht).1, ?_, by simp⟩
  rintro _ ⟨⟩
  exact (cases h ht).2

end During

/-- From states that look the same, a computation ends the same way in states that look the same. It
returns, if at all, what the statement says. -/
def respecting {ε τ : Type} (same : τ → τ → Prop) : Logic (ExceptT ε (StateM τ)) where
  Holds x post := ∀ s t, same s t → (x.run s).1 = (x.run t).1 ∧ same (x.run s).2 (x.run t).2 ∧
    ∀ a, (x.run s).1 = .ok a → post a
  pure := by
    intro α a post ha s t hst
    refine ⟨rfl, hst, ?_⟩
    intro b hb
    cases hb
    exact ha
  bind := by
    intro α β x f mid post hx hf s t hst
    obtain ⟨hout, hst', hmid⟩ := hx s t hst
    rw [run_bind, run_bind, ← hout]
    cases hrun : (x.run s).1 with
    | error e => exact ⟨rfl, hst', by simp⟩
    | ok a => exact hf a (hmid a hrun) _ _ hst'

namespace Respecting
variable {ε τ α β : Type} {same : τ → τ → Prop} {x : ExceptT ε (StateM τ) α}

theorem of_run (h : ∀ s t, same s t → (x.run s).1 = (x.run t).1 ∧ same (x.run s).2 (x.run t).2) :
    (respecting same).Holds x fun _ => True :=
  fun s t hst => ⟨(h s t hst).1, (h s t hst).2, fun _ _ => trivial⟩

theorem mono {post post' : α → Prop} (h : (respecting same).Holds x post)
    (hpost : ∀ a, post a → post' a) : (respecting same).Holds x post' :=
  fun s t hst => ⟨(h s t hst).1, (h s t hst).2.1, fun a ha => hpost a ((h s t hst).2.2 a ha)⟩

theorem throw {e : ε} {post : α → Prop} :
    (respecting same).Holds (MonadExcept.throw e : ExceptT ε (StateM τ) α) post :=
  fun _ _ hst => ⟨rfl, hst, nofun⟩

/-- Nothing is done after a failure. -/
theorem throw_bind {e : ε} {f : α → ExceptT ε (StateM τ) β} {post : β → Prop} :
    (respecting same).Holds (MonadExcept.throw e >>= f) post :=
  fun _ _ hst => ⟨rfl, hst, nofun⟩

theorem ofExcept (y : Except ε α) :
    (respecting same).Holds (MonadExcept.ofExcept y : ExceptT ε (StateM τ) α) fun _ => True := by
  refine of_run fun s t hst => ?_
  rw [run_ofExcept, run_ofExcept]
  exact ⟨rfl, hst⟩

theorem modify {g : τ → τ} (h : ∀ s t, same s t → same (g s) (g t)) :
    (respecting same).Holds (modify g : ExceptT ε (StateM τ) Unit) fun _ => True :=
  of_run fun s t hst => ⟨rfl, h s t hst⟩

/-- What is done with a state depends on what it looks like alone. -/
theorem get_bind {f : τ → ExceptT ε (StateM τ) α} {post : α → Prop}
    (hf : ∀ s t, same s t → f s = f t) (h : ∀ s, (respecting same).Holds (f s) post) :
    (respecting same).Holds (get >>= f) post := by
  intro s t hst
  have hrun (u : τ) : (get >>= f).run u = (f u).run u := rfl
  rw [hrun, hrun, ← hf s t hst]
  exact h s s t hst

/-- What runs a computation and returns how it ended goes as the computation does. -/
theorem attempt {y : ExceptT ε (StateM τ) (Except ε α)} {post : α → Prop}
    (hy : ∀ t, y.run t = (.ok (x.run t).1, (x.run t).2)) (h : (respecting same).Holds x post) :
    (respecting same).Holds y fun _ => True := by
  refine of_run fun s t hst => ?_
  obtain ⟨hout, hst', -⟩ := h s t hst
  rw [hy, hy, hout]
  exact ⟨rfl, hst'⟩

end Respecting

/-! ### Computations that note what happens -/

/-- A computation that also keeps a list of what it has noted so far. -/
abbrev Noting (κ ε σ : Type) := ExceptT ε (StateM (σ × List κ))

namespace Noting
variable {κ ε σ α : Type}

def quiet (x : ExceptT ε (StateM σ) α) : Noting κ ε σ α :=
  fun (s, noted) => ((x.run s).1, ((x.run s).2, noted))

instance : MonadLift (ExceptT ε (StateM σ)) (Noting κ ε σ) := ⟨quiet⟩

def note (k : κ) : Noting κ ε σ Unit :=
  fun (s, noted) => (.ok (), (s, noted ++ [k]))

theorem keeping_quiet_ofExcept {inv : σ × List κ → Prop} {x : Except ε α} {post : α → Prop}
    (h : ∀ a, x = .ok a → post a) :
    (keeping inv).Holds (quiet (MonadExcept.ofExcept x) : Noting κ ε σ α) post := by
  rintro ⟨s, noted⟩ ht
  have hrun : (quiet (MonadExcept.ofExcept x) : Noting κ ε σ α).run (s, noted) =
      (x, (s, noted)) := by
    cases x <;> rfl
  rw [hrun]
  exact ⟨ht, h⟩

/-- A state with `inv` in which only `fine` things have been noted. -/
def StateOf (inv : σ → Prop) (fine : κ → Prop) (t : σ × List κ) : Prop :=
  inv t.1 ∧ ∀ k ∈ t.2, fine k

theorem stateOf_quiet {inv : σ → Prop} {fine : κ → Prop} {x : ExceptT ε (StateM σ) α}
    {post : α → Prop} (h : (keeping inv).Holds x post) :
    (keeping (StateOf inv fine)).Holds (quiet x) post := by
  intro t ht
  obtain ⟨hinv, hpost⟩ := h t.1 ht.1
  exact ⟨⟨hinv, ht.2⟩, hpost⟩

theorem ending_quiet {inv : σ → Prop} {fine : κ → Prop} {bad : ε → σ → Prop}
    {bad' : ε → σ × List κ → Prop} {x : ExceptT ε (StateM σ) α} {post : α → Prop}
    (h : (ending inv bad).Holds x post) (hbad : ∀ e u noted, bad e u → bad' e (u, noted)) :
    (ending (StateOf inv fine) bad').Holds (quiet x) post := by
  rintro ⟨s, noted⟩ ⟨hs, hnoted⟩
  have hrun {r : Except ε α} {u : σ} (hx : x.run s = (r, u)) :
      (quiet x : Noting κ ε σ α).run (s, noted) = (r, (u, noted)) := by
    change ((x.run s).1, ((x.run s).2, noted)) = _
    rw [hx]
  rcases h s hs with ⟨a, u, hx, hu, ha⟩ | ⟨e, u, hx, he⟩
  · exact .inl ⟨a, (u, noted), hrun hx, ⟨hu, hnoted⟩, ha⟩
  · exact .inr ⟨e, (u, noted), hrun hx, hbad e u noted he⟩

theorem stateOf_note {inv : σ → Prop} {fine : κ → Prop} {k : κ} (h : fine k) :
    (keeping (StateOf inv fine)).Holds (note k : Noting κ ε σ Unit) fun _ => True := by
  intro t ht
  refine ⟨⟨ht.1, fun j hj => ?_⟩, fun _ _ => trivial⟩
  rcases List.mem_append.mp hj with hj | hj
  · exact ht.2 j hj
  · rwa [List.mem_singleton.mp hj]

/-- From matching states, and as long as only `calm` things are noted, two computations end the same
way in matching states. -/
structure Agree (same : σ → σ → Prop) (calm : κ → Prop) (x : Noting κ ε σ α)
    (y : ExceptT ε (StateM σ) α) : Prop where
  grows : ∀ s noted, noted <+: (x.run (s, noted)).2.2
  ends : ∀ s t noted, same s t → (∀ k ∈ (x.run (s, noted)).2.2, calm k) →
    (x.run (s, noted)).1 = (y.run t).1 ∧ same (x.run (s, noted)).2.1 (y.run t).2

def agreeing (same : σ → σ → Prop) (calm : κ → Prop) :
    Simulation (Noting κ ε σ) (ExceptT ε (StateM σ)) where
  Rel := Agree same calm
  pure a := ⟨fun _ _ => List.prefix_rfl, fun _ _ _ h _ => ⟨rfl, h⟩⟩
  bind := by
    intro α β x y f g hx hf
    have hgrows (s : σ) (noted : List κ) :
        (x.run (s, noted)).2.2 <+: ((x >>= f).run (s, noted)).2.2 := by
      rw [run_bind]
      cases (x.run (s, noted)).1 with
      | error e => exact List.prefix_rfl
      | ok a => exact (hf a).grows _ _
    refine ⟨fun s noted => (hx.grows s noted).trans (hgrows s noted), ?_⟩
    intro s t noted hst hcalm
    obtain ⟨hout, hst'⟩ := hx.ends s t noted hst fun k hk => hcalm k ((hgrows s noted).mem hk)
    rw [run_bind] at hcalm ⊢
    rw [run_bind, ← hout]
    cases hrun : (x.run (s, noted)).1 with
    | error e => exact ⟨rfl, hst'⟩
    | ok a =>
      rw [hrun] at hcalm
      exact (hf a).ends _ _ _ hst' hcalm

variable {same : σ → σ → Prop} {calm : κ → Prop}

theorem agree_quiet {x y : ExceptT ε (StateM σ) α}
    (h : ∀ s t, same s t → (x.run s).1 = (y.run t).1 ∧ same (x.run s).2 (y.run t).2) :
    Agree same calm (quiet x) y :=
  ⟨fun _ _ => List.prefix_rfl, fun s t _ hst _ => h s t hst⟩

/-- What is noted at the start may be taken for calm. -/
theorem agree_note_bind {k : κ} {x : Noting κ ε σ α} {y : ExceptT ε (StateM σ) α}
    (hgrows : ∀ s noted, noted <+: (x.run (s, noted)).2.2)
    (h : calm k → Agree same calm x y) : Agree same calm (note k >>= fun _ => x) y := by
  have hrun (s : σ) (noted : List κ) :
      (note k >>= fun _ => x : Noting κ ε σ α).run (s, noted) = x.run (s, noted ++ [k]) :=
    run_bind_of_ok rfl
  constructor
  · intro s noted
    rw [hrun]
    exact (List.prefix_append noted [k]).trans (hgrows s _)
  · intro s t noted hst hcalm
    rw [hrun] at hcalm ⊢
    have hk : calm k := hcalm k ((hgrows s _).mem (by simp))
    exact (h hk).ends s t _ hst hcalm

theorem agree_quiet_self (x : ExceptT ε (StateM σ) α) : Agree Eq calm (quiet x) x := by
  refine agree_quiet fun s t hst => ?_
  rw [hst]
  exact ⟨rfl, rfl⟩

theorem Agree.note_bind {x : Noting κ ε σ α} {y : ExceptT ε (StateM σ) α}
    (h : Agree same calm x y) (k : κ) : Agree same calm (note k >>= fun _ => x) y :=
  agree_note_bind h.grows fun _ => h

end Noting

end DocFilter
