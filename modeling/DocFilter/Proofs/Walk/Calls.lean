import DocFilter.Document.Walk
import DocFilter.Proofs.Computation

/-!
# The calls that a walk makes

A walk is compared with the nodes of the value that it is given. The action may keep a state, may
fail, and may answer a node with anything; what each call was handed and how it ended is recorded.

`patched` says what a value becomes when its nodes, in the order of `nodes`, are answered with the
values of a list. The nodes inside a node stand directly before it in that order, so that a node at
place `i` with `k` nodes inside it is handed over with its fields patched by the answers from place
`i - k` on.
-/

namespace DocFilter

/-! ### Keys and nodes -/

theorem has_eq_any_keys (d : Fields) (key : String) :
    Fields.has d key = (Dictionary.keys d).any (· == key) := by
  simp [Fields.has, Dictionary.has, Dictionary.keys, List.any_map, Function.comp_def]

/-- Whether an object is a node depends on its keys alone. -/
theorem isNode_eq_of_keys_eq {fs gs : Fields} (h : Dictionary.keys fs = Dictionary.keys gs) :
    (Json.obj fs).isNode = (Json.obj gs).isNode := by
  simp only [Json.isNode, has_eq_any_keys, h]

theorem nodes_obj_of_isNode {fields : Fields} (h : (Json.obj fields).isNode = true) :
    nodes (.obj fields) = nodesOfFields fields ++ [.obj fields] := by
  rw [nodes, if_pos h]

theorem nodes_obj_of_not_isNode {fields : Fields} (h : (Json.obj fields).isNode = false) :
    nodes (.obj fields) = nodesOfFields fields := by
  rw [nodes, if_neg (by simp [h]), List.append_nil]

/-- A node is not null, so that a node left as it is stays in its list. -/
theorem isNull_and_isNode (v : Json) : (v.isNull && v.isNode) = false := by
  cases v <;> rfl

/-! ### What a value becomes under given answers -/

mutual

/-- A value with each of its nodes replaced by its answer. In a list a node answered with null is
left out; any other null stays. -/
def patched (answers : List Json) : Json → Json
  | .arr items => .arr (patchedItems answers items)
  | .obj fields =>
    if (Json.obj fields).isNode then (answers[(nodesOfFields fields).length]?).getD .null
    else .obj (patchedFields answers fields)
  | v => v

def patchedItems (answers : List Json) : List Json → List Json
  | [] => []
  | v :: vs =>
    let w := patched answers v
    let ws := patchedItems (answers.drop (nodes v).length) vs
    if v.isNode && w.isNull then ws else w :: ws

def patchedFields (answers : List Json) : List (String × Json) → List (String × Json)
  | [] => []
  | (k, v) :: fs => (k, patched answers v) :: patchedFields (answers.drop (nodes v).length) fs

end

@[simp] theorem keys_patchedFields (answers : List Json) (fields : Fields) :
    Dictionary.keys (patchedFields answers fields) = Dictionary.keys fields := by
  induction fields generalizing answers with
  | nil => rfl
  | cons f fs ih =>
    have h := ih (answers.drop (nodes f.2).length)
    simp only [Dictionary.keys] at h ⊢
    simp [patchedFields, h]

mutual

/-- Only the answers for a value's own nodes count. -/
theorem patched_append (v : Json) (answers more : List Json)
    (h : (nodes v).length ≤ answers.length) :
    patched (answers ++ more) v = patched answers v := by
  match v with
  | .arr items =>
    rw [patched, patched, patchedItems_append items answers more (by simpa [nodes] using h)]
  | .obj fields =>
    cases hn : (Json.obj fields).isNode with
    | true =>
      rw [nodes_obj_of_isNode hn, List.length_append, List.length_singleton] at h
      rw [patched, patched, if_pos hn, if_pos hn, List.getElem?_append_left (by omega)]
    | false =>
      rw [nodes_obj_of_not_isNode hn] at h
      rw [patched, patched, if_neg (by simp [hn]), if_neg (by simp [hn]),
        patchedFields_append fields answers more h]
  | .null | .bool _ | .int _ | .float _ | .str _ | .pair _ _ | .table _ | .foreign _ =>
    simp only [patched]

theorem patchedItems_append (vs : List Json) (answers more : List Json)
    (h : (nodesOfItems vs).length ≤ answers.length) :
    patchedItems (answers ++ more) vs = patchedItems answers vs := by
  match vs with
  | [] => simp only [patchedItems]
  | v :: vs =>
    rw [nodesOfItems, List.length_append] at h
    have hw := patched_append v answers more (by omega)
    have hd : (answers ++ more).drop (nodes v).length = answers.drop (nodes v).length ++ more :=
      List.drop_append_of_le_length (by omega)
    have hws := patchedItems_append vs (answers.drop (nodes v).length) more
      (by rw [List.length_drop]; omega)
    simp only [patchedItems, hw, hd, hws]

theorem patchedFields_append (fs : List (String × Json)) (answers more : List Json)
    (h : (nodesOfFields fs).length ≤ answers.length) :
    patchedFields (answers ++ more) fs = patchedFields answers fs := by
  match fs with
  | [] => simp only [patchedFields]
  | (k, v) :: fs =>
    rw [nodesOfFields, List.length_append] at h
    have hw := patched_append v answers more (by omega)
    have hd : (answers ++ more).drop (nodes v).length = answers.drop (nodes v).length ++ more :=
      List.drop_append_of_le_length (by omega)
    have hws := patchedFields_append fs (answers.drop (nodes v).length) more
      (by rw [List.length_drop]; omega)
    simp only [patchedFields, hw, hd, hws]

end

/-! ### Recorded calls -/

/-- One call of an action: the value that it was handed, and how it ended. -/
structure Call (ε : Type) where
  received : Json
  outcome : Except ε Json

def answersOf {ε : Type} (calls : List (Call ε)) : List Json :=
  calls.filterMap fun c => c.outcome.toOption

variable {ε σ : Type}

/-- An action that also records each of its calls after it has ended. -/
def recorded (action : Json → ExceptT ε (StateM σ) Json) (n : Json) : Noting (Call ε) ε σ Json :=
  fun (s, calls) =>
    let (outcome, s) := (action n).run s
    (outcome, (s, calls ++ [⟨n, outcome⟩]))

def AllReturned (calls : List (Call ε)) : Prop := ∀ c ∈ calls, ∃ a, c.outcome = .ok a

/-- The calls are handed the nodes of a list in order: the call at place `i` the node at place `i`,
its fields patched by the answers for the nodes inside it. -/
def Handed (ns : List Json) (calls : List (Call ε)) : Prop :=
  ∀ i c, calls[i]? = some c → ∃ fields, ns[i]? = some (.obj fields) ∧
    (nodesOfFields fields).length ≤ i ∧
    c.received = .obj (patchedFields
      ((answersOf calls).drop (i - (nodesOfFields fields).length)) fields)

/-- The calls end as the computation does: with a value made of all answers after a call for each
node, or with the failure of the last call. -/
def EndsAs {α : Type} (ns : List Json) (calls : List (Call ε)) (final : List Json → α) :
    Except ε α → Prop
  | .ok a => calls.length = ns.length ∧ AllReturned calls ∧ a = final (answersOf calls)
  | .error e => ∃ earlier form, calls = earlier ++ [⟨form, .error e⟩] ∧ AllReturned earlier

theorem answersOf_append (calls more : List (Call ε)) :
    answersOf (calls ++ more) = answersOf calls ++ answersOf more := by
  simp [answersOf]

theorem length_answersOf {calls : List (Call ε)} (h : AllReturned calls) :
    (answersOf calls).length = calls.length := by
  induction calls with
  | nil => rfl
  | cons c calls ih =>
    obtain ⟨a, ha⟩ := h c List.mem_cons_self
    have ht := ih fun c hc => h c (List.mem_cons_of_mem _ hc)
    simp only [answersOf, List.filterMap_cons, ha, Except.toOption, List.length_cons] at ht ⊢
    rw [ht]

theorem getElem?_answersOf {calls : List (Call ε)} (h : AllReturned calls) {i : Nat} {c : Call ε}
    (hc : calls[i]? = some c) {a : Json} (ha : c.outcome = .ok a) :
    (answersOf calls)[i]? = some a := by
  induction calls generalizing i with
  | nil => simp at hc
  | cons d calls ih =>
    obtain ⟨r, hr⟩ := h d List.mem_cons_self
    have hhead : answersOf (d :: calls) = r :: answersOf calls := by
      simp [answersOf, hr, Except.toOption]
    rw [hhead]
    cases i with
    | zero =>
      obtain rfl : d = c := by simpa using hc
      rw [hr] at ha
      cases ha
      rfl
    | succ i => exact ih (fun d hd => h d (List.mem_cons_of_mem _ hd)) (by simpa using hc)

theorem AllReturned.append {calls more : List (Call ε)} (h : AllReturned calls)
    (hm : AllReturned more) : AllReturned (calls ++ more) := by
  intro c hc
  rcases List.mem_append.mp hc with hc | hc
  · exact h c hc
  · exact hm c hc

theorem Handed.nil (ns : List Json) : Handed ns ([] : List (Call ε)) := by
  intro i c hc
  simp at hc

theorem Handed.weaken {ns : List Json} {calls : List (Call ε)} (h : Handed ns calls)
    (ms : List Json) : Handed (ns ++ ms) calls := by
  intro i c hc
  obtain ⟨fields, hn, hle, hr⟩ := h i c hc
  refine ⟨fields, ?_, hle, hr⟩
  rw [List.getElem?_append_left (List.getElem?_eq_some_iff.mp hn).1, hn]

/-- What a call is handed is settled by the answers before it. -/
theorem patchedFields_answersOf_append {calls : List (Call ε)} (hok : AllReturned calls)
    (more : List (Call ε)) {fields : Fields} {i : Nat} (hi : i ≤ calls.length)
    (hle : (nodesOfFields fields).length ≤ i) :
    patchedFields ((answersOf (calls ++ more)).drop (i - (nodesOfFields fields).length)) fields =
      patchedFields ((answersOf calls).drop (i - (nodesOfFields fields).length)) fields := by
  have hlen := length_answersOf hok
  rw [answersOf_append, List.drop_append_of_le_length (by omega)]
  exact patchedFields_append fields _ _ (by rw [List.length_drop]; omega)

theorem Handed.append {ns ms : List Json} {calls more : List (Call ε)} (h : Handed ns calls)
    (hok : AllReturned calls) (hlen : calls.length = ns.length) (hm : Handed ms more) :
    Handed (ns ++ ms) (calls ++ more) := by
  intro i c hc
  by_cases hi : i < calls.length
  · rw [List.getElem?_append_left hi] at hc
    obtain ⟨fields, hn, hle, hr⟩ := h i c hc
    refine ⟨fields, ?_, hle, ?_⟩
    · rw [List.getElem?_append_left (by omega), hn]
    · rw [hr, patchedFields_answersOf_append hok more (by omega) hle]
  · rw [List.getElem?_append_right (by omega)] at hc
    obtain ⟨fields, hn, hle, hr⟩ := hm _ c hc
    refine ⟨fields, ?_, by omega, ?_⟩
    · rw [List.getElem?_append_right (by omega), ← hlen, hn]
    · have hd : i - (nodesOfFields fields).length =
          (answersOf calls).length + (i - calls.length - (nodesOfFields fields).length) := by
        rw [length_answersOf hok]
        omega
      rw [hr, answersOf_append, hd, List.drop_length_add_append]

/-- After the nodes inside a node comes the call for the node itself. -/
theorem Handed.node {fields : Fields} {calls : List (Call ε)}
    (h : Handed (nodesOfFields fields) calls) (hok : AllReturned calls)
    (hlen : calls.length = (nodesOfFields fields).length) (outcome : Except ε Json) :
    Handed (nodesOfFields fields ++ [.obj fields])
      (calls ++ [⟨.obj (patchedFields (answersOf calls) fields), outcome⟩]) := by
  intro i c hc
  by_cases hi : i < calls.length
  · rw [List.getElem?_append_left hi] at hc
    obtain ⟨inner, hn, hle, hr⟩ := h i c hc
    refine ⟨inner, ?_, hle, ?_⟩
    · rw [List.getElem?_append_left (by omega), hn]
    · rw [hr, patchedFields_answersOf_append hok _ (by omega) hle]
  · rw [List.getElem?_append_right (by omega)] at hc
    obtain ⟨hlast, rfl⟩ : i = calls.length ∧ ⟨_, outcome⟩ = c := by
      rw [List.getElem?_singleton] at hc
      split at hc
      · exact ⟨by omega, Option.some.inj hc⟩
      · cases hc
    subst hlast
    refine ⟨fields, ?_, by omega, ?_⟩
    · rw [List.getElem?_append_right (by omega)]
      simp [hlen]
    · rw [patchedFields_answersOf_append hok _ (by omega) (by omega), hlen, Nat.sub_self,
        List.drop_zero]

/-! ### The calls of a walk -/

/-- A recorded computation does what the computation does, and adds to the record calls that are
handed the nodes `ns` and end as the computation. -/
def Records {α : Type} (x : Noting (Call ε) ε σ α) (y : ExceptT ε (StateM σ) α)
    (ns : List Json) (final : List Json → α) : Prop :=
  ∀ s log, ∃ calls, x.run (s, log) = ((y.run s).1, ((y.run s).2, log ++ calls)) ∧
    Handed ns calls ∧ EndsAs ns calls final (y.run s).1

theorem Records.pure {α : Type} {a : α} {final : List Json → α} (h : a = final []) :
    Records (σ := σ) (ε := ε) (pure a) (pure a) [] final := by
  intro s log
  refine ⟨[], ?_, Handed.nil [], rfl, ?_, h⟩
  · rw [List.append_nil]
    rfl
  · intro c hc
    cases hc

section Bind
variable {α β : Type} {x : Noting (Call ε) ε σ α} {y : ExceptT ε (StateM σ) α}
variable {f : α → Noting (Call ε) ε σ β} {g : α → ExceptT ε (StateM σ) β}
variable {ns ms : List Json} {final : List Json → α} {target : List Json → β}

/-- First the calls of one part, then those of the other. -/
theorem Records.bind (hx : Records x y ns final)
    (hf : ∀ as, as.length = ns.length →
      Records (f (final as)) (g (final as)) ms fun bs => target (as ++ bs)) :
    Records (x >>= f) (y >>= g) (ns ++ ms) target := by
  intro s log
  obtain ⟨calls, hrun, hh, he⟩ := hx s log
  cases hy : y.run s with
  | mk outcome t =>
    rw [hy] at hrun he
    cases outcome with
    | error e =>
      rw [run_bind_of_error hrun, run_bind_of_error hy]
      exact ⟨calls, rfl, hh.weaken ms, he⟩
    | ok a =>
      obtain ⟨hlen, hok, rfl⟩ := he
      have has := length_answersOf hok
      obtain ⟨more, hrun', hh', he'⟩ := hf (answersOf calls) (by omega) t (log ++ calls)
      rw [run_bind_of_ok hrun, run_bind_of_ok hy, hrun', List.append_assoc]
      refine ⟨calls ++ more, rfl, hh.append hok hlen hh', ?_⟩
      cases hg : ((g (final (answersOf calls))).run t).1 with
      | error e =>
        rw [hg] at he'
        obtain ⟨earlier, form, rfl, hok'⟩ := he'
        exact ⟨calls ++ earlier, form, by rw [List.append_assoc], hok.append hok'⟩
      | ok b =>
        rw [hg] at he'
        obtain ⟨hlen', hok', hb⟩ := he'
        refine ⟨by simp [hlen, hlen'], hok.append hok', ?_⟩
        rw [hb, answersOf_append]

/-- A last part that makes no calls. -/
theorem Records.bind_pure {h : α → β} (hx : Records x y ns final)
    (hh : ∀ as, as.length = ns.length → h (final as) = target as) :
    Records (x >>= fun a => Pure.pure (h a)) (y >>= fun a => Pure.pure (h a)) ns target := by
  rw [← List.append_nil ns]
  exact hx.bind fun as has => .pure (by rw [hh as has, List.append_nil])

end Bind

/-- The fields of a node are patched, and then the node is handed over. -/
theorem Records.bind_call (action : Json → ExceptT ε (StateM σ) Json) {fields : Fields}
    {x : Noting (Call ε) ε σ Fields} {y : ExceptT ε (StateM σ) Fields}
    {f : Fields → Noting (Call ε) ε σ Json}
    {g : Fields → ExceptT ε (StateM σ) Json}
    (hx : Records x y (nodesOfFields fields) fun as => patchedFields as fields)
    (hf : ∀ as, f (patchedFields as fields) = recorded action (.obj (patchedFields as fields)))
    (hg : ∀ as, g (patchedFields as fields) = action (.obj (patchedFields as fields))) :
    Records (x >>= f) (y >>= g) (nodesOfFields fields ++ [.obj fields])
      fun as => (as[(nodesOfFields fields).length]?).getD .null := by
  intro s log
  obtain ⟨calls, hrun, hh, he⟩ := hx s log
  cases hy : y.run s with
  | mk outcome t =>
    rw [hy] at hrun he
    cases outcome with
    | error e =>
      rw [run_bind_of_error hrun, run_bind_of_error hy]
      exact ⟨calls, rfl, hh.weaken _, he⟩
    | ok fs =>
      obtain ⟨hlen, hok, rfl⟩ := he
      rw [run_bind_of_ok hrun, run_bind_of_ok hy, hf, hg]
      let form := Json.obj (patchedFields (answersOf calls) fields)
      refine ⟨calls ++ [⟨form, ((action form).run t).1⟩], ?_, hh.node hok hlen _, ?_⟩
      · rw [← List.append_assoc]
        rfl
      · cases hw : ((action form).run t).1 with
        | error e => exact ⟨calls, form, rfl, hok⟩
        | ok w =>
          refine ⟨by simp [hlen], ?_, ?_⟩
          · refine hok.append fun c hc => ⟨w, ?_⟩
            rw [List.mem_singleton.mp hc]
          · have has : (answersOf calls).length = (nodesOfFields fields).length := by
              rw [length_answersOf hok, hlen]
            change w = ((answersOf (calls ++ [⟨form, .ok w⟩]))[_]?).getD .null
            rw [answersOf_append, List.getElem?_append_right (by omega), has, Nat.sub_self]
            rfl

mutual

theorem records_walk (action : Json → ExceptT ε (StateM σ) Json) (v : Json) :
    Records (walk (recorded action) v) (walk action v) (nodes v) fun as => patched as v := by
  match v with
  | .arr items =>
    simp only [walk, nodes, patched]
    exact (records_walkItems action items).bind_pure fun _ _ => rfl
  | .obj fields =>
    have hfs := records_walkFields action fields
    -- the keys do not change, so what is a node before is one afterwards
    have hkeys (as : List Json) : (Json.obj (patchedFields as fields)).isNode =
        (Json.obj fields).isNode := isNode_eq_of_keys_eq (keys_patchedFields as fields)
    cases hn : (Json.obj fields).isNode with
    | true =>
      simp only [walk, patched, nodes_obj_of_isNode hn, hn, if_true]
      refine hfs.bind_call action (fun as => ?_) (fun as => ?_)
      · rw [if_pos (by rw [hkeys, hn])]
      · rw [if_pos (by rw [hkeys, hn])]
    | false =>
      simp only [walk, patched, nodes_obj_of_not_isNode hn, hn]
      rw [← List.append_nil (nodesOfFields fields)]
      refine hfs.bind fun as _ => ?_
      rw [hkeys, hn, if_neg Bool.false_ne_true, if_neg Bool.false_ne_true]
      exact .pure (by rw [if_neg Bool.false_ne_true, List.append_nil])
  | .null | .bool _ | .int _ | .float _ | .str _ | .pair _ _ | .table _ | .foreign _ =>
    simp only [walk, nodes]
    exact .pure (by simp only [patched])

theorem records_walkItems (action : Json → ExceptT ε (StateM σ) Json) (vs : List Json) :
    Records (walkItems (recorded action) vs) (walkItems action vs) (nodesOfItems vs)
      fun as => patchedItems as vs := by
  match vs with
  | [] =>
    simp only [walkItems, nodesOfItems]
    exact .pure (by simp only [patchedItems])
  | v :: vs =>
    simp only [walkItems, nodesOfItems]
    refine (records_walk action v).bind fun as has => ?_
    refine (records_walkItems action vs).bind_pure fun bs _ => ?_
    rw [patchedItems, patched_append v as bs (by omega), ← has, List.drop_left, Bool.and_comm]

theorem records_walkFields (action : Json → ExceptT ε (StateM σ) Json)
    (fs : List (String × Json)) :
    Records (walkFields (recorded action) fs) (walkFields action fs) (nodesOfFields fs)
      fun as => patchedFields as fs := by
  match fs with
  | [] =>
    simp only [walkFields, nodesOfFields]
    exact .pure (by simp only [patchedFields])
  | (k, v) :: fs =>
    simp only [walkFields, nodesOfFields]
    refine (records_walk action v).bind fun as has => ?_
    refine (records_walkFields action fs).bind_pure fun bs _ => ?_
    rw [patchedFields, patched_append v as bs (by omega), ← has, List.drop_left]

end

/-! ### Actions that leave every node as it is -/

/-- A recorded computation that returns a value after calls that are handed exactly the nodes
`ns`. -/
def Echoes {α : Type} (x : Noting (Call ε) ε σ α) (a : α) (ns : List Json) :
    Prop :=
  ∀ s log, ∃ t calls, x.run (s, log) = (.ok a, (t, log ++ calls)) ∧ calls.map (·.received) = ns

theorem Echoes.pure {α : Type} (a : α) : Echoes (σ := σ) (ε := ε) (pure a) a [] := by
  intro s log
  refine ⟨s, [], ?_, rfl⟩
  rw [List.append_nil, run_pure]

theorem Echoes.bind {α β : Type} {x : Noting (Call ε) ε σ α} {a : α}
    {f : α → Noting (Call ε) ε σ β} {b : β} {ns ms : List Json}
    (hx : Echoes x a ns) (hf : Echoes (f a) b ms) : Echoes (x >>= f) b (ns ++ ms) := by
  intro s log
  obtain ⟨t, calls, hrun, hcalls⟩ := hx s log
  obtain ⟨u, more, hrun', hmore⟩ := hf t (log ++ calls)
  refine ⟨u, calls ++ more, ?_, ?_⟩
  · rw [run_bind_of_ok hrun, hrun', List.append_assoc]
  · rw [List.map_append, hcalls, hmore]

/-- The action answers every node with the node itself, whatever its state. -/
def KeepsNodes (action : Json → ExceptT ε (StateM σ) Json) : Prop :=
  ∀ n s, ((action n).run s).1 = .ok n

theorem echoes_recorded {action : Json → ExceptT ε (StateM σ) Json} (keeps : KeepsNodes action)
    (n : Json) : Echoes (recorded action n) n [n] := by
  intro s log
  refine ⟨((action n).run s).2, [⟨n, ((action n).run s).1⟩], ?_, rfl⟩
  rw [← keeps n s]
  rfl

mutual

theorem echoes_walk {action : Json → ExceptT ε (StateM σ) Json} (keeps : KeepsNodes action)
    (v : Json) : Echoes (walk (recorded action) v) v (nodes v) := by
  match v with
  | .arr items =>
    simp only [walk, nodes]
    rw [← List.append_nil (nodesOfItems items)]
    exact (echoes_walkItems keeps items).bind (.pure _)
  | .obj fields =>
    cases hn : (Json.obj fields).isNode with
    | true =>
      simp only [walk, nodes_obj_of_isNode hn]
      refine (echoes_walkFields keeps fields).bind ?_
      rw [hn, if_pos rfl]
      exact echoes_recorded keeps (.obj fields)
    | false =>
      simp only [walk, nodes_obj_of_not_isNode hn]
      rw [← List.append_nil (nodesOfFields fields)]
      refine (echoes_walkFields keeps fields).bind ?_
      rw [hn, if_neg Bool.false_ne_true]
      exact .pure _
  | .null | .bool _ | .int _ | .float _ | .str _ | .pair _ _ | .table _ | .foreign _ =>
    simp only [walk, nodes]
    exact .pure _

theorem echoes_walkItems {action : Json → ExceptT ε (StateM σ) Json} (keeps : KeepsNodes action)
    (vs : List Json) :
    Echoes (walkItems (recorded action) vs) vs (nodesOfItems vs) := by
  match vs with
  | [] =>
    simp only [walkItems, nodesOfItems]
    exact .pure _
  | v :: vs =>
    simp only [walkItems, nodesOfItems]
    refine (echoes_walk keeps v).bind ?_
    rw [← List.append_nil (nodesOfItems vs)]
    refine (echoes_walkItems keeps vs).bind ?_
    rw [isNull_and_isNode, if_neg Bool.false_ne_true]
    exact .pure _

theorem echoes_walkFields {action : Json → ExceptT ε (StateM σ) Json} (keeps : KeepsNodes action)
    (fs : List (String × Json)) :
    Echoes (walkFields (recorded action) fs) fs (nodesOfFields fs) := by
  match fs with
  | [] =>
    simp only [walkFields, nodesOfFields]
    exact .pure _
  | (k, v) :: fs =>
    simp only [walkFields, nodesOfFields]
    refine (echoes_walk keeps v).bind ?_
    rw [← List.append_nil (nodesOfFields fs)]
    exact (echoes_walkFields keeps fs).bind (.pure _)

end

/-- A walk calls its action once for each node, in the order of `nodes`, and for nothing else. Each
node is handed over with its own keys, and with its fields patched by the answers for the nodes
inside it. The result is the value patched by all answers; a failing call is the last one, and its
failure that of the walk. -/
theorem walk_calls_each_node_once (action : Json → ExceptT ε (StateM σ) Json) (v : Json) (s : σ) :
    ∃ calls outcome t,
      (walk (recorded action) v).run (s, []) = (outcome, (t, calls)) ∧
      (walk action v).run s = (outcome, t) ∧
      (∀ i c, calls[i]? = some c → ∃ fields, (nodes v)[i]? = some (.obj fields) ∧
        (nodesOfFields fields).length ≤ i ∧
        ∃ children, c.received = .obj children ∧
          Dictionary.keys children = Dictionary.keys fields ∧
          children = patchedFields
            ((answersOf calls).drop (i - (nodesOfFields fields).length)) fields) ∧
      (match outcome with
        | .ok w => calls.length = (nodes v).length ∧ (∀ c ∈ calls, ∃ a, c.outcome = .ok a) ∧
            w = patched (answersOf calls) v
        | .error e => ∃ earlier form, calls = earlier ++ [⟨form, .error e⟩] ∧
            ∀ c ∈ earlier, ∃ a, c.outcome = .ok a) ∧
      ((∀ n t, ((action n).run t).1 = .ok n) →
        outcome = .ok v ∧ calls.map (·.received) = nodes v) := by
  obtain ⟨calls, hrun, hh, he⟩ := records_walk action v s []
  rw [List.nil_append] at hrun
  refine ⟨calls, _, _, hrun, rfl, ?_, ?_, ?_⟩
  · intro i c hc
    obtain ⟨fields, hn, hle, hr⟩ := hh i c hc
    exact ⟨fields, hn, hle, _, hr, keys_patchedFields _ fields, rfl⟩
  · cases hy : ((walk action v).run s).1 with
    | ok w =>
      rw [hy] at he
      exact he
    | error e =>
      rw [hy] at he
      exact he
  · intro keeps
    obtain ⟨t, seen, hecho, hseen⟩ := echoes_walk keeps v s []
    rw [hrun, List.nil_append] at hecho
    injection hecho with hout hstate
    injection hstate with _ hcalls
    exact ⟨hout, by rw [hcalls, hseen]⟩

end DocFilter
