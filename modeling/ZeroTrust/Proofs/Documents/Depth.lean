/-
  `Proofs.Documents.Depth` — how deep the documents of policies are.

  A node of a tree takes up an object, and its children an array, or its condition an
  object. So the document of a tree is twice as deep as the tree is high
  (`Tree.depth_toJson`), and its depth is never odd. Nothing else in a policy is as
  deep as its tree.
-/
import ZeroTrust.Proofs.Json.ReadsBack
import ZeroTrust.Policy.Bundle

namespace ZeroTrust

open Json

/-! ### Members that may be left out -/

section Members

variable (name : String) (value : Option Json)

@[simp] theorem depthItems_memberOfOption :
    depthItems ((memberOfOption name value).map Prod.snd) = value.elim 0 depth := by
  cases value with
  | none => rfl
  | some v => exact Nat.max_zero _

/-- A member that is left out on a condition is one that may be left out. -/
theorem ite_eq_memberOfOption (omitted : Bool) (v : Json) :
    (if omitted then [] else [(name, v)]) =
      memberOfOption name (if omitted then none else some v) := by
  cases omitted <;> rfl

end Members

/-! ### Trees -/

theorem Condition.depth_toJson (c : Condition) : c.toJson.depth = 1 :=
  rfl

namespace Tree

mutual

/-- The greatest number of nodes below one another. -/
def height : Tree → Nat
  | leaf _ => 1
  | branch _ cs => 1 + heightList cs

/-- The greatest height of some trees. -/
def heightList : List Tree → Nat
  | [] => 0
  | t :: ts => max t.height (heightList ts)

end

theorem height_pos (t : Tree) : 0 < t.height := by
  cases t <;> rw [height] <;> omega

mutual

/-- **A document of a tree is twice as deep as the tree is high.** -/
theorem depth_toJson : ∀ t : Tree, t.toJson.depth = 2 * t.height
  | leaf c => by
    rw [toJson, depth_object, height]
    rfl
  | branch o cs => by
    rw [toJson, depth_object, height]
    simp only [List.map_cons, List.map_nil, depthItems, depth, depth_text,
      depthItems_toJsonList cs]
    omega

theorem depthItems_toJsonList : ∀ ts : List Tree, depthItems (toJsonList ts) = 2 * heightList ts
  | [] => rfl
  | t :: ts => by
    rw [toJsonList, depthItems, heightList, depth_toJson t, depthItems_toJsonList ts]
    omega

end

end Tree

/-! ### Policies -/

/-- The gateways of a policy are not as deep as its tree. -/
theorem AccessPolicy.depth_gateways_le (p : AccessPolicy) :
    (if p.gateways.isEmpty then none else some p.gateways.toJson).elim 0 depth ≤
      p.root.toJson.depth := by
  -- A list of names takes one level, and a tree at least two.
  have hroot : 0 < p.root.height := p.root.height_pos
  rw [Tree.depth_toJson]
  cases p.gateways.isEmpty with
  | true =>
    show 0 ≤ _
    omega
  | false =>
    show (ofList text p.gateways.toList).depth ≤ _
    rw [depth_ofList_text]
    omega

/-- A policy is as deep as its tree and one more. -/
theorem AccessPolicy.depth_toJson (p : AccessPolicy) :
    p.toJson.depth = 1 + p.root.toJson.depth := by
  have hgateways := p.depth_gateways_le
  rw [toJson, ite_eq_memberOfOption, depth_object]
  simp only [List.map_append, depthItems_append, depthItems_memberOfOption, depthItems,
    List.map_cons, List.map_nil, elim_depth_eq_zero depth_text,
    elim_depth_eq_zero fun t : Timestamp => depth_text (toString t), depth_text, depth_int,
    depth_bool]
  omega

theorem SignInPolicy.depth_toJson (p : SignInPolicy) :
    p.toJson.depth = 1 + p.root.toJson.depth := by
  rw [toJson, depth_object]
  simp only [List.map_append, depthItems_append, depthItems_memberOfOption, depthItems,
    List.map_cons, List.map_nil, elim_depth_eq_zero fun t : Timestamp => depth_text (toString t),
    depth_text, depth_int, depth_bool]
  omega

theorem Application.depth_toJson (a : Application) : a.toJson.depth = 2 := by
  rw [toJson, depth_object]
  simp [depthItems]

theorem Bundle.depth_toJson (b : Bundle) :
    b.toJson.depth = 1 + max (ofList AccessPolicy.toJson b.access).depth
      (max (ofList SignInPolicy.toJson b.signIn).depth
        (ofList Application.toJson b.applications).depth) := by
  rw [toJson, depth_object]
  simp [depthItems]

end ZeroTrust
