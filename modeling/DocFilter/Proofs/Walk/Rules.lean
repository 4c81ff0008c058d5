import DocFilter.Document.Walk
import DocFilter.Proofs.Computation

/-!
# Rules for walks

What can be said of every call of an action can be said of a walk with it: what it returns, and that
it goes the same way as a walk with another action, which may belong to another monad.
-/

namespace DocFilter

/-- Relations between values, lists of items and lists of fields before and after a walk: values
that hold no others stay, and everything else is put together again from its parts. -/
structure Rebuilding (R : Json → Json → Prop) (Ri : List Json → List Json → Prop)
    (Rf : Fields → Fields → Prop) : Prop where
  leaf : ∀ v, (∀ items, v ≠ .arr items) → (∀ fields, v ≠ .obj fields) → R v v
  arr : ∀ {vs ws}, Ri vs ws → R (.arr vs) (.arr ws)
  obj : ∀ {fs gs}, Rf fs gs → (Json.obj gs).isNode = false → R (.obj fs) (.obj gs)
  items_nil : Ri [] []
  items_cons : ∀ {v w vs ws}, R v w → Ri vs ws →
    Ri (v :: vs) (if w.isNull && v.isNode then ws else w :: ws)
  fields_nil : Rf [] []
  fields_cons : ∀ {k v w fs gs}, R v w → Rf fs gs → Rf ((k, v) :: fs) ((k, w) :: gs)

/-- Nothing at all is said of the values. -/
theorem Rebuilding.trivial :
    Rebuilding (fun _ _ => True) (fun _ _ => True) (fun _ _ => True) :=
  ⟨fun _ _ _ => ⟨⟩, fun _ => ⟨⟩, fun _ _ => ⟨⟩, ⟨⟩, fun _ _ => ⟨⟩, ⟨⟩, fun _ _ => ⟨⟩⟩

namespace Logic
variable {m : Type → Type} [Monad m] {action : Json → m Json}
variable {R : Json → Json → Prop} {Ri : List Json → List Json → Prop} {Rf : Fields → Fields → Prop}

mutual

/-- What holds of each call of the action holds of the walk. -/
theorem walk (L : Logic m) (hR : Rebuilding R Ri Rf)
    (hnode : ∀ fs gs, Rf fs gs → (Json.obj gs).isNode = true →
      L.Holds (action (.obj gs)) (R (.obj fs))) (v : Json) :
    L.Holds (DocFilter.walk action v) (R v) := by
  match v with
  | .arr items =>
    rw [DocFilter.walk]
    exact L.bind (L.walkItems hR hnode items) fun ws hws => L.pure (hR.arr hws)
  | .obj fields =>
    rw [DocFilter.walk]
    refine L.bind (L.walkFields hR hnode fields) fun gs hgs => ?_
    cases hn : (Json.obj gs).isNode with
    | true => exact hnode fields gs hgs hn
    | false => exact L.pure (hR.obj hgs hn)
  | .null | .bool _ | .int _ | .float _ | .str _ | .pair _ _ | .table _ | .foreign _ =>
    simp only [DocFilter.walk]
    exact L.pure (hR.leaf _ (by simp) (by simp))

theorem walkItems (L : Logic m) (hR : Rebuilding R Ri Rf)
    (hnode : ∀ fs gs, Rf fs gs → (Json.obj gs).isNode = true →
      L.Holds (action (.obj gs)) (R (.obj fs))) (vs : List Json) :
    L.Holds (DocFilter.walkItems action vs) (Ri vs) := by
  match vs with
  | [] =>
    rw [DocFilter.walkItems]
    exact L.pure hR.items_nil
  | v :: vs =>
    rw [DocFilter.walkItems]
    refine L.bind (L.walk hR hnode v) fun w hw => ?_
    exact L.bind (L.walkItems hR hnode vs) fun ws hws => L.pure (hR.items_cons hw hws)

theorem walkFields (L : Logic m) (hR : Rebuilding R Ri Rf)
    (hnode : ∀ fs gs, Rf fs gs → (Json.obj gs).isNode = true →
      L.Holds (action (.obj gs)) (R (.obj fs))) (fs : List (String × Json)) :
    L.Holds (DocFilter.walkFields action fs) (Rf fs) := by
  match fs with
  | [] =>
    rw [DocFilter.walkFields]
    exact L.pure hR.fields_nil
  | (k, v) :: fs =>
    rw [DocFilter.walkFields]
    refine L.bind (L.walk hR hnode v) fun w hw => ?_
    exact L.bind (L.walkFields hR hnode fs) fun gs hgs => L.pure (hR.fields_cons hw hgs)

end

end Logic

namespace Simulation
variable {m n : Type → Type} [Monad m] [Monad n]
variable {f : Json → m Json} {g : Json → n Json}

mutual

/-- Walks go the same way if their actions do. -/
theorem walk (S : Simulation m n) (h : ∀ v, S.Rel (f v) (g v)) (v : Json) :
    S.Rel (DocFilter.walk f v) (DocFilter.walk g v) := by
  match v with
  | .arr items =>
    rw [DocFilter.walk, DocFilter.walk]
    exact S.bind (S.walkItems h items) fun ws => S.pure (Json.arr ws)
  | .obj fields =>
    rw [DocFilter.walk, DocFilter.walk]
    refine S.bind (S.walkFields h fields) fun gs => ?_
    split
    · exact h (.obj gs)
    · exact S.pure (Json.obj gs)
  | .null | .bool _ | .int _ | .float _ | .str _ | .pair _ _ | .table _ | .foreign _ =>
    simp only [DocFilter.walk]
    exact S.pure _

theorem walkItems (S : Simulation m n) (h : ∀ v, S.Rel (f v) (g v)) (vs : List Json) :
    S.Rel (DocFilter.walkItems f vs) (DocFilter.walkItems g vs) := by
  match vs with
  | [] =>
    rw [DocFilter.walkItems, DocFilter.walkItems]
    exact S.pure []
  | v :: vs =>
    rw [DocFilter.walkItems, DocFilter.walkItems]
    exact S.bind (S.walk h v) fun w => S.bind (S.walkItems h vs) fun ws => S.pure _

theorem walkFields (S : Simulation m n) (h : ∀ v, S.Rel (f v) (g v)) (fs : List (String × Json)) :
    S.Rel (DocFilter.walkFields f fs) (DocFilter.walkFields g fs) := by
  match fs with
  | [] =>
    rw [DocFilter.walkFields, DocFilter.walkFields]
    exact S.pure []
  | (k, v) :: fs =>
    rw [DocFilter.walkFields, DocFilter.walkFields]
    exact S.bind (S.walk h v) fun w => S.bind (S.walkFields h fs) fun gs => S.pure _

end

end Simulation

end DocFilter
