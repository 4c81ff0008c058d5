import DocFilter.Proofs.Filter.Untouched
import DocFilter.Proofs.Registry.Spelling

/-!
# What making a chain can come to

A built-in filter is made, or refused, of the options alone that it understands: what else is given
is named in a warning. So a chain of built-in filters comes to a filter or to a failure about one,
except that two arguments cannot be given as options and that the format of diagrams must be a text.
-/

namespace DocFilter

/-- Whether a computation comes to the same from everywhere, leaves the host as it is, and does
nothing but log. -/
def Host.Yields {φ α : Type} (x : Act (Host φ) α) (outcome : Except Failure α) : Prop :=
  ∀ h w, ∃ u, (merged x).run (h, w) = (outcome, (h, u)) ∧ w.OnlyLogged u

namespace Host.Yields
variable {φ α β : Type} {x : Act (Host φ) α} {outcome : Except Failure α}

theorem ofExcept (x : Except Failure α) : Yields (MonadExcept.ofExcept x : Act (Host φ) α) x :=
  fun h w => ⟨w, run_merged_ofExcept x (h, w), .refl w⟩

theorem pure (a : α) : Yields (Pure.pure a : Act (Host φ) α) (.ok a) :=
  fun _ w => ⟨w, rfl, .refl w⟩

theorem lift {x : Run α} (hx : ∀ w, ∃ u, x.run w = (outcome, u) ∧ w.OnlyLogged u) :
    Yields (liftM x : Act (Host φ) α) outcome := by
  intro h w
  obtain ⟨u, hrun, hlogs⟩ := hx w
  exact ⟨u, run_merged_lift hrun, hlogs⟩

theorem bind {f : α → Act (Host φ) β} {g : α → Except Failure β} (hx : Yields x outcome)
    (hf : ∀ a, Yields (f a) (g a)) : Yields (x >>= f) (outcome >>= g) := by
  intro h w
  obtain ⟨u, hrun, hlogs⟩ := hx h w
  rw [merged_bind]
  cases outcome with
  | error failure => exact ⟨u, run_bind_of_error hrun, hlogs⟩
  | ok a =>
    obtain ⟨v, hrest, hlogs'⟩ := hf a h u
    exact ⟨v, (run_bind_of_ok hrun).trans hrest, hlogs.trans hlogs'⟩

theorem create {make : φ → Fields → Act (Host φ) α} (m : Metadata φ) (given : Fields)
    (hmake : Yields (make m.factory (m.understood given)) outcome) :
    Yields (m.create make given) (m.reported outcome) := by
  intro h w
  have hwarned : w.OnlyLogged (m.warned given w) := by
    unfold Metadata.warned
    split
    · exact .refl w
    · exact .log w _
  obtain ⟨u, hrun, hlogs⟩ := hmake h (m.warned given w)
  exact ⟨u, by rw [m.run_create, hrun], hwarned.trans hlogs⟩

end Host.Yields

/-! ### Built-in filters -/

namespace Builtin
variable {b : Builtin} {given : Fields}

def made (b : Builtin) (given : Fields) : Except Failure Filter :=
  ((b.make given).run (.initial ⟨[]⟩ "/")).1

/-- The failure to make a diagram filter of a format that is no text and counts as given. -/
inductive NoFormat (given : Fields) : Failure → Prop where
  | kind {v : Json} : given.get? "default_format" = some v → v.text? = none → v.isTruthy = true →
      NoFormat given (.noAttribute s!"'{v.kindName}' object has no attribute 'lower'")

theorem isAboutArguments_of_depthLimit {v : Json} {failure : Failure}
    (h : Include.DepthLimit.ofOption v = .error failure) : failure.isAboutArguments = true := by
  unfold Include.DepthLimit.ofOption at h
  dsimp only at h
  repeat' split at h
  all_goals
    cases h
    try rfl

theorem isAboutArguments_of_filter {failure : Failure}
    (h : Include.filter given none = .error failure) : failure.isAboutArguments = true := by
  unfold Include.filter at h
  rcases bind_eq_error h with h | ⟨⟨s, command⟩, -, h⟩
  · unfold Include.Settings.ofOptions at h
    rcases bind_eq_error h with h | ⟨limit, -, h⟩
    · exact isAboutArguments_of_depthLimit h
    · dsimp only at h
      split at h <;> cases h
  · cases h

/-- An option that has a text as its default and is no text was given. -/
theorem given_of_not_text {key default : String}
    (h : ∀ name, optionOr given key (.str default) ≠ .str name) :
    ∃ v, given.get? key = some v ∧ optionOr given key (.str default) = v ∧ v.text? = none := by
  unfold optionOr at h ⊢
  cases hget : given.get? key with
  | none =>
    rw [hget] at h
    exact absurd rfl (h default)
  | some v =>
    rw [hget, Option.getD_some] at h
    refine ⟨v, rfl, rfl, ?_⟩
    cases v with
    | str name => exact absurd rfl (h name)
    | _ => rfl

theorem run_diagram_cases (given : Fields) :
    ∃ outcome, (∀ w, ∃ u, (Diagram.filter given).run w = (outcome, u) ∧ w.OnlyLogged u) ∧
      ((∃ f, outcome = .ok f) ∨ ∃ failure, outcome = .error failure ∧
        (failure.isAboutArguments = true ∨ Builtin.diagram = .diagram ∧ NoFormat given failure)) := by
  have hchosen {name : Option String} {k : Diagram.Format → Run Filter}
      (hk : ∀ format, ∃ f, k format = pure f) :
      ∃ f, ∀ w, ∃ u, (Diagram.chooseFormat name >>= k).run w = (.ok f, u) ∧ w.OnlyLogged u := by
    obtain ⟨format, hchoose⟩ := run_chooseFormat name
    obtain ⟨f, hf⟩ := hk format
    refine ⟨f, fun w => ?_⟩
    obtain ⟨u, hrun, hlogs⟩ := hchoose w
    exact ⟨u, by rw [run_bind_of_ok hrun, hf, run_pure], hlogs⟩
  unfold Diagram.filter
  dsimp only
  split
  · obtain ⟨f, hrun⟩ := hchosen (fun format => ⟨_, rfl⟩)
    exact ⟨_, hrun, .inl ⟨f, rfl⟩⟩
  · next hnotext =>
    obtain ⟨v, hget, hv, htext⟩ := given_of_not_text hnotext
    rw [hv]
    split
    · next htruthy =>
      refine ⟨_, fun w => ⟨w, rfl, .refl w⟩, .inr ⟨_, rfl, .inr ⟨rfl, ?_⟩⟩⟩
      exact .kind hget htext htruthy
    · obtain ⟨f, hrun⟩ := hchosen (fun format => ⟨_, rfl⟩)
      exact ⟨_, hrun, .inl ⟨f, rfl⟩⟩

/-- A filter is made the same wherever it is made. If it is not, then what it was given is at fault,
which is told as a fault of the filter unless it is the format of diagrams. -/
theorem run_make_cases (b : Builtin) (given : Fields) :
    ∃ outcome, (∀ w, ∃ u, (b.make given).run w = (outcome, u) ∧ w.OnlyLogged u) ∧
      ((∃ f, outcome = .ok f) ∨ ∃ failure, outcome = .error failure ∧
        (failure.isAboutArguments = true ∨ b = .diagram ∧ NoFormat given failure)) := by
  unfold make makeWith
  dsimp only
  cases hstrange : (Dictionary.keys given).find? (!(b.options.map (·.1)).contains ·) with
  | some key => exact ⟨_, fun w => ⟨w, rfl, .refl w⟩, .inr ⟨_, rfl, .inl rfl⟩⟩
  | none =>
    cases b with
    | script => exact ⟨_, fun w => ⟨w, rfl, .refl w⟩, .inl ⟨_, rfl⟩⟩
    | sql => exact ⟨_, fun w => ⟨w, rfl, .refl w⟩, .inl ⟨_, rfl⟩⟩
    | files =>
      refine ⟨_, fun w => ⟨w, run_ofExcept _ w, .refl w⟩, ?_⟩
      cases hmade : Include.filter given none with
      | ok f => exact .inl ⟨f, rfl⟩
      | error failure => exact .inr ⟨failure, rfl, .inl (isAboutArguments_of_filter hmade)⟩
    | diagram => exact run_diagram_cases given

theorem run_make (b : Builtin) (given : Fields) (w : World) :
    ∃ u, (b.make given).run w = (b.made given, u) ∧ w.OnlyLogged u := by
  obtain ⟨outcome, hrun, -⟩ := b.run_make_cases given
  obtain ⟨u, hinitial, -⟩ := hrun (.initial ⟨[]⟩ "/")
  rw [made, hinitial]
  exact hrun w

theorem made_cases (b : Builtin) (given : Fields) :
    (∃ f, b.made given = .ok f) ∨ ∃ failure, b.made given = .error failure ∧
      (failure.isAboutArguments = true ∨ b = .diagram ∧ NoFormat given failure) := by
  obtain ⟨outcome, hrun, hcases⟩ := b.run_make_cases given
  obtain ⟨u, hinitial, -⟩ := hrun (.initial ⟨[]⟩ "/")
  rw [made, hinitial]
  exact hcases

end Builtin

namespace Metadata
variable {φ : Type} (m : Metadata φ) (given : Fields)

theorem understood_understood : m.understood (m.understood given) = m.understood given := by
  unfold understood
  rw [List.filter_filter]
  simp

theorem strange_understood : m.strange (m.understood given) = [] := by
  unfold strange understood
  rw [List.filter_filter]
  simp [sorted]

end Metadata

/-! ### Chains -/

namespace Pipeline

variable {part : Except Failure (Metadata Builtin) × Fields}
variable {parts : List (Except Failure (Metadata Builtin) × Fields)}

/-- Whether no option has the name of an argument that a filter is made with. -/
def IsFree (given : Fields) : Prop :=
  Dictionary.has given "self" = false ∧ Dictionary.has given "name" = false

/-- The failures of a part of a chain that are none of its filter: an option with the name of another
argument, and a format of diagrams that is no text. -/
inductive Slips (part : Except Failure (Metadata Builtin) × Fields) : Failure → Prop where
  | argument {key : String} : key = "self" ∨ key = "name" → Dictionary.has part.2 key = true →
      Slips part (.wrongType s!"FilterRegistry.get_filter() got multiple values for argument '{key}'")
  | format {m : Metadata Builtin} {failure : Failure} : part.1 = .ok m → m.factory = .diagram →
      Builtin.NoFormat (m.understood part.2) failure → Slips part failure

/-- A part with those of its options that the filter understands. -/
def understoodPart {φ : Type} (part : Except Failure (Metadata φ) × Fields) :
    Except Failure (Metadata φ) × Fields :=
  (part.1, part.1.toOption.elim [] fun m => m.understood part.2)

def madePart (part : Except Failure (Metadata Builtin) × Fields) : Except Failure Filter := do
  Host.checkNames "FilterRegistry.get_filter()" ["self", "name"] part.2
  let m ← part.1
  m.reported (m.factory.made (m.understood part.2))

/-- What making the filters of a chain comes to. -/
def made (isSafe : Bool) :
    List (Except Failure (Metadata Builtin) × Fields) → Except Failure (List Filter)
  | [] => .ok []
  | part :: parts => do
    let f ← madePart part
    return taken isSafe f :: (← made isSafe parts)

theorem makePart_yields (part : Except Failure (Metadata Builtin) × Fields) :
    Host.Yields (makePart makeBuiltin part) (madePart part) := by
  apply (Host.Yields.ofExcept _).bind
  intro _
  apply (Host.Yields.ofExcept _).bind
  intro m
  exact .create m part.2 (.lift (m.factory.run_make _))

theorem makeParts_yields (isSafe : Bool)
    (parts : List (Except Failure (Metadata Builtin) × Fields)) :
    Host.Yields (makeParts makeBuiltin isSafe parts) (made isSafe parts) := by
  induction parts with
  | nil => exact .pure []
  | cons part parts ih =>
    apply (makePart_yields part).bind
    intro f
    apply ih.bind
    intro fs
    exact .pure _

theorem assemble_yields (isSafe : Bool)
    (parts : List (Except Failure (Metadata Builtin) × Fields)) :
    Host.Yields (assemble makeBuiltin isSafe parts)
      (made isSafe parts >>= fun fs => .ok (Filter.compose fs)) := by
  apply (makeParts_yields isSafe parts).bind
  intro fs h w
  exact ⟨_, rfl, .log w _⟩

theorem checkNames_cases (given : Fields) :
    (IsFree given ∧ Host.checkNames "FilterRegistry.get_filter()" ["self", "name"] given = .ok ()) ∨
    ∃ key, (key = "self" ∨ key = "name") ∧ Dictionary.has given key = true ∧
      Host.checkNames "FilterRegistry.get_filter()" ["self", "name"] given =
        .error (.wrongType s!"FilterRegistry.get_filter() got multiple values for argument '{key}'") := by
  unfold Host.checkNames IsFree
  cases hself : Dictionary.has given "self" with
  | true =>
    refine .inr ⟨"self", .inl rfl, hself, ?_⟩
    rw [List.find?_cons_of_pos hself]
    rfl
  | false =>
    cases hname : Dictionary.has given "name" with
    | true =>
      refine .inr ⟨"name", .inr rfl, hname, ?_⟩
      rw [List.find?_cons_of_neg (by simp [hself]), List.find?_cons_of_pos hname]
      rfl
    | false =>
      refine .inl ⟨⟨rfl, rfl⟩, ?_⟩
      rw [List.find?_cons_of_neg (by simp [hself]), List.find?_cons_of_neg (by simp [hname])]
      rfl

theorem madePart_cases
    (hfound : ∀ failure, part.1 = .error failure → failure.category? = some .filter) :
    (∃ f, madePart part = .ok f) ∨ ∃ failure, madePart part = .error failure ∧
      (failure.category? = some .filter ∨ Slips part failure) := by
  obtain ⟨found, given⟩ := part
  unfold madePart
  dsimp only
  rcases checkNames_cases given with ⟨-, hnames⟩ | ⟨key, hkey, hgiven, hnames⟩
  · rw [hnames]
    cases found with
    | error failure => exact .inr ⟨failure, rfl, .inl (hfound failure rfl)⟩
    | ok m =>
      change (∃ f, m.reported (m.factory.made (m.understood given)) = .ok f) ∨ ∃ failure,
        m.reported (m.factory.made (m.understood given)) = .error failure ∧ _
      rcases m.factory.made_cases (m.understood given) with ⟨f, hmade⟩ | ⟨failure, hmade, hcause⟩
      · rw [hmade]
        exact .inl ⟨f, rfl⟩
      · rw [hmade]
        refine .inr ⟨_, rfl, ?_⟩
        by_cases harguments : failure.isAboutArguments = true
        · left
          rw [if_pos harguments]
          rfl
        · right
          rw [if_neg harguments]
          obtain ⟨hdiagram, hformat⟩ := hcause.resolve_left harguments
          exact .format rfl hdiagram hformat
  · rw [hnames]
    exact .inr ⟨_, rfl, .inr (.argument hkey hgiven)⟩

/-- A chain of built-in filters is made, or the failure is one of a filter, or one of its parts
slips. -/
theorem made_cases (isSafe : Bool)
    (hfound : ∀ part ∈ parts, ∀ failure, part.1 = .error failure →
      failure.category? = some .filter) :
    (∃ fs, made isSafe parts = .ok fs) ∨ ∃ failure, made isSafe parts = .error failure ∧
      (failure.category? = some .filter ∨ ∃ part ∈ parts, Slips part failure) := by
  induction parts with
  | nil => exact .inl ⟨[], rfl⟩
  | cons part parts ih =>
    unfold made
    rcases madePart_cases (hfound part List.mem_cons_self) with ⟨f, hf⟩ | ⟨failure, hfails, hcause⟩
    · rw [hf]
      rcases ih fun part hpart => hfound part (List.mem_cons_of_mem _ hpart) with
        ⟨fs, hfs⟩ | ⟨failure, hfails, hcause⟩
      · rw [hfs]
        exact .inl ⟨_, rfl⟩
      · rw [hfails]
        refine .inr ⟨failure, rfl, ?_⟩
        rcases hcause with hfilter | ⟨part', hpart', hslips⟩
        · exact .inl hfilter
        · exact .inr ⟨part', List.mem_cons_of_mem _ hpart', hslips⟩
    · rw [hfails]
      refine .inr ⟨failure, rfl, ?_⟩
      rcases hcause with hfilter | hslips
      · exact .inl hfilter
      · exact .inr ⟨part, List.mem_cons_self, hslips⟩

theorem category_of_parts {h : Host Builtin} {options : Fields} {names : List String}
    (hparts : List.Forall₂ (Part h options) names parts) :
    ∀ part ∈ parts, ∀ failure, part.1 = .error failure → failure.category? = some .filter := by
  induction hparts with
  | nil =>
    intro part hpart
    cases hpart
  | @cons name part names parts hpart _ ih =>
    intro part' hpart' failure hfailure
    rcases List.mem_cons.mp hpart' with rfl | hpart'
    · rw [part_iff.mp hpart] at hfailure
      cases hfind : h.readied.find? name with
      | none =>
        rw [hfind] at hfailure
        cases hfailure
        rfl
      | some m =>
        rw [hfind] at hfailure
        cases hfailure
    · exact ih part' hpart' failure hfailure

/-! ### Options that are not understood -/

theorem IsFree.understood {φ : Type} {given : Fields} (hfree : IsFree given) (m : Metadata φ) :
    IsFree (m.understood given) := by
  have hkept {key : String} (hkey : Dictionary.has given key = false) :
      Dictionary.has (m.understood given) key = false := by
    simp only [Dictionary.has, List.any_eq_false, Metadata.understood, List.mem_filter] at hkey ⊢
    exact fun p hp => hkey p hp.1
  exact ⟨hkept hfree.1, hkept hfree.2⟩

theorem IsFree.checkNames {given : Fields} (hfree : IsFree given) :
    Host.checkNames "FilterRegistry.get_filter()" ["self", "name"] given = .ok () := by
  rcases checkNames_cases given with ⟨-, hnames⟩ | ⟨key, hkey, hgiven, -⟩
  · exact hnames
  · rcases hkey with rfl | rfl
    · rw [hfree.1] at hgiven
      cases hgiven
    · rw [hfree.2] at hgiven
      cases hgiven

/-- What a part comes to depends on nothing that its filter does not understand. -/
theorem madePart_understood (hfree : IsFree part.2) : madePart (understoodPart part) = madePart part := by
  obtain ⟨found, given⟩ := part
  unfold madePart understoodPart
  dsimp only
  rw [hfree.checkNames]
  cases found with
  | error failure => rfl
  | ok m =>
    change (do
      Host.checkNames "FilterRegistry.get_filter()" ["self", "name"] (m.understood given)
      m.reported (m.factory.made (m.understood (m.understood given)))) = _
    rw [(hfree.understood m).checkNames, m.understood_understood]
    rfl

theorem made_understood (isSafe : Bool) (hfree : ∀ part ∈ parts, IsFree part.2) :
    made isSafe (parts.map understoodPart) = made isSafe parts := by
  induction parts with
  | nil => rfl
  | cons part parts ih =>
    have hpart := madePart_understood (hfree part List.mem_cons_self)
    have hrest := ih fun part hpart => hfree part (List.mem_cons_of_mem _ hpart)
    rw [List.map_cons, made, hpart, hrest]
    rfl

section Warnings
variable {φ : Type}

/-- The filter of a part, made of the options that it understands after a warning about the rest. -/
def makeUnderstood (make : φ → Fields → Act (Host φ) Filter)
    (part : Except Failure (Metadata φ) × Fields) : Act (Host φ) Filter := do
  let m ← MonadExcept.ofExcept part.1
  (modify (m.warned part.2) : Run Unit)
  m.create make (m.understood part.2)

def makeAllUnderstood (make : φ → Fields → Act (Host φ) Filter) (isSafe : Bool) :
    List (Except Failure (Metadata φ) × Fields) → Act (Host φ) (List Filter)
  | [] => pure []
  | part :: parts => do
    let f ← makeUnderstood make part
    return taken isSafe f :: (← makeAllUnderstood make isSafe parts)

variable (make : φ → Fields → Act (Host φ) Filter)

theorem run_makePart_of_free {part : Except Failure (Metadata φ) × Fields}
    (hfree : IsFree part.2) (t : Host φ × World) :
    (merged (makePart make part)).run t = (merged (makeUnderstood make part)).run t := by
  obtain ⟨h, w⟩ := t
  unfold makePart makeUnderstood
  rw [hfree.checkNames, merged_bind, run_bind_of_ok (run_merged_ofExcept _ _)]
  apply run_merged_ofExcept_bind_congr
  intro m
  have hwarn : (merged (liftM (modify (m.warned part.2) : Run Unit) : Act (Host φ) Unit)).run (h, w) =
      (.ok (), (h, m.warned part.2 w)) := rfl
  have hagain : m.warned (m.understood part.2) (m.warned part.2 w) = m.warned part.2 w :=
    if_pos (m.strange_understood part.2)
  rw [merged_bind, run_bind_of_ok hwarn, m.run_create, m.run_create, hagain,
    m.understood_understood]

theorem run_makeParts_of_free (isSafe : Bool) {parts : List (Except Failure (Metadata φ) × Fields)}
    (hfree : ∀ part ∈ parts, IsFree part.2) (t : Host φ × World) :
    (merged (makeParts make isSafe parts)).run t =
      (merged (makeAllUnderstood make isSafe parts)).run t := by
  induction parts generalizing t with
  | nil => rfl
  | cons part parts ih =>
    unfold makeParts makeAllUnderstood
    apply run_merged_bind_congr (run_makePart_of_free make (hfree part List.mem_cons_self) t)
    intro f u _
    apply run_merged_bind_congr (ih (fun part hpart => hfree part (List.mem_cons_of_mem _ hpart)) u)
    intro _ _ _
    rfl

end Warnings

end Pipeline

/-- Beside any registry of built-in filters, making a chain comes to a filter, or to a failure about
one, or a part of the chain slips: its options have the name of another argument, or a format of
diagrams that is no text. If no option has such a name, then the chain is made of the options alone
that its filters understand, each after a warning about the rest; and it comes to what it would with
these options only. -/
theorem builtin_chain_made_or_filter_fault (h : Host Builtin) (w : World) (names : List String)
    {options : Fields} (htables : Pipeline.Tables options) (isSafe : Bool) :
    ∃ parts outcome r u, List.Forall₂ (Pipeline.Part h options) names parts ∧
      (merged (Pipeline.build makeBuiltin names options isSafe)).run (h, w) =
        (outcome, ({ h with registry := r }, u)) ∧ w.OnlyLogged u ∧
      ((∃ f, outcome = .ok f) ∨ ∃ failure, outcome = .error failure ∧
        (failure.category? = some .filter ∨ ∃ part ∈ parts, Pipeline.Slips part failure)) ∧
      ((∀ part ∈ parts, Pipeline.IsFree part.2) →
        (∃ t, w.OnlyLogged t.2 ∧
          (merged (Pipeline.build makeBuiltin names options isSafe)).run (h, w) =
            (merged (do
              Pipeline.compose (← Pipeline.makeAllUnderstood makeBuiltin isSafe parts))).run t) ∧
        ∀ t, ((merged (Pipeline.assemble makeBuiltin isSafe
          (parts.map Pipeline.understoodPart))).run t).1 = outcome) := by
  have hmake (b : Builtin) (given : Fields) : Host.Leaves (makeBuiltin b given) := .lift _
  obtain ⟨v, hready, hlogs⟩ := h.ensureReady_turns w
  obtain ⟨parts, hparts⟩ := Pipeline.forall₂_part h options names
  have hbuild := Pipeline.run_build hmake hready htables isSafe hparts
  obtain ⟨r, v, hlogs, hstart⟩ : ∃ r v, w.OnlyLogged v ∧
      (merged (Pipeline.build makeBuiltin names options isSafe)).run (h, w) =
        (merged (Pipeline.assemble makeBuiltin isSafe parts)).run ({ h with registry := r }, v) := by
    split at hbuild
    · exact ⟨h.registry, w, .refl w, hbuild⟩
    · exact ⟨h.readied, v, hlogs, hbuild⟩
  obtain ⟨u, hrun, hlogs'⟩ := Pipeline.assemble_yields isSafe parts { h with registry := r } v
  refine ⟨parts, _, r, u, hparts, hstart.trans hrun, hlogs.trans hlogs', ?_, ?_⟩
  · rcases Pipeline.made_cases isSafe (Pipeline.category_of_parts hparts) with
      ⟨fs, hfs⟩ | ⟨failure, hfails, hcause⟩
    · rw [hfs]
      exact .inl ⟨_, rfl⟩
    · rw [hfails]
      exact .inr ⟨failure, rfl, hcause⟩
  · intro hfree
    constructor
    · refine ⟨({ h with registry := r }, v), hlogs, hstart.trans ?_⟩
      apply run_merged_bind_congr (Pipeline.run_makeParts_of_free makeBuiltin isSafe hfree _)
      intro _ _ _
      rfl
    · intro t
      obtain ⟨u', hunderstood, -⟩ :=
        Pipeline.assemble_yields isSafe (parts.map Pipeline.understoodPart) t.1 t.2
      rw [hunderstood, Pipeline.made_understood isSafe hfree]

theorem builtin_chain_made_or_filter_fault_for_sql :
    let w := World.initial ⟨[]⟩ "/"
    let options := databaseOptions "sqlite-exec"
    Pipeline.Tables options ∧
    ∃ outcome r u,
      (merged (Pipeline.build makeBuiltin ["sqlite-exec"] options true)).run (builtinHost, w) =
        (outcome, ({ builtinHost with registry := r }, u)) ∧
      ((∃ f, outcome = .ok f) ∨ ∃ failure, outcome = .error failure ∧
        failure.category? = some .filter) := by
  intro w options
  have htables := tables_databaseOptions "sqlite-exec"
  obtain ⟨parts, outcome, r, u, hparts, hrun, -, hcases, -⟩ :=
    builtin_chain_made_or_filter_fault builtinHost w ["sqlite-exec"] htables true
  refine ⟨htables, outcome, r, u, hrun, ?_⟩
  rcases hcases with hmade | ⟨failure, hfails, hfilter | ⟨part, hpart, hslips⟩⟩
  · exact .inl hmade
  · exact .inr ⟨failure, hfails, hfilter⟩
  · exfalso
    obtain ⟨hcanonical, -⟩ := spells_sql.2.find?_eq
    have hfind : builtinHost.readied.find? "sqlite-exec" = some (Builtin.metadata id .sql) :=
      Builtin.find?_readied id .sql List.mem_cons_self
    cases hparts with
    | cons hsql hnone =>
      cases hnone
      obtain rfl := List.mem_singleton.mp hpart
      rw [Pipeline.part_iff.mp hsql, hcanonical, hfind] at hslips
      cases hslips with
      | argument hkey hgiven => rcases hkey with rfl | rfl <;> cases hgiven
      | format hm hdiagram =>
        cases hm
        cases hdiagram

/-- The complaint about an attribute that is missing, if a computation ended in one. -/
def attributeFault? {α : Type} : Except Failure α → Option String
  | .error (.noAttribute complaint) => some complaint
  | _ => none

theorem eq_error_of_attributeFault? {α : Type} {outcome : Except Failure α} {complaint : String}
    (h : attributeFault? outcome = some complaint) :
    outcome = .error (.noAttribute complaint) := by
  unfold attributeFault? at h
  split at h
  · cases h
    rfl
  · cases h

/-- An option that has the name of an argument, and a format of diagrams that is a number, end in
failures that are none of a filter. -/
theorem argument_names_and_formats_slip :
    let outcome (name : String) (given : Fields) :=
      ((merged (Pipeline.build makeBuiltin [name] [(name, .obj given)] true)).run
        (builtinHost, .initial ⟨[]⟩ "/")).1
    outcome "sqlite-exec" [("name", .str "x")] =
        .error (.wrongType "FilterRegistry.get_filter() got multiple values for argument 'name'") ∧
      outcome "plantuml" [("default_format", .int 5)] =
        .error (.noAttribute "'int' object has no attribute 'lower'") ∧
      (Failure.wrongType "").category? = none ∧ (Failure.noAttribute "").category? = none := by
  refine ⟨?_, ?_, rfl, rfl⟩
  · rfl
  · exact eq_error_of_attributeFault? (by decide +kernel)

end DocFilter
