import Mathlib
import SchemaCheck.Proofs.Json.Reordering
import SchemaCheck.Proofs.Schema.Tree
import SchemaCheck.Proofs.Validation.Comparison

/-! Documents whose objects have their members in another order. Their reports have the same issues,
and in the same order unless a node looks at members that it does not declare. -/
namespace SchemaCheck

namespace Json.Reordered

variable {value other : Json}

theorem kind_eq (alike : value.Reordered other) : value.kind = other.kind := by
  cases alike <;> rfl

/-- Only scalars are identical to anything, and these are the same. -/
private theorem identical_eq (alike : value.Reordered other) :
    value.identical = other.identical := by
  cases alike <;> rfl

private theorem literalViolations_eq (alike : value.Reordered other) (assertions : Assertions) :
    assertions.literalViolations value = assertions.literalViolations other := by
  rw [Assertions.literalViolations, Assertions.literalViolations, alike.identical_eq]

theorem mismatch?_eq (alike : value.Reordered other) (assertions : Assertions) :
    assertions.mismatch? value = assertions.mismatch? other := by
  have admits (types : TypeSpec) : types.admits value = types.admits other := by
    rw [TypeSpec.admits, TypeSpec.admits, alike.kind_eq]
  simp only [Assertions.mismatch?, admits, alike.kind_eq]

end Json.Reordered

namespace Schema

/-- Members that are not declared are neither forbidden nor looked at. -/
def IgnoresExtras (schema : Schema) : Prop :=
  schema.additional ≠ some (.allowed false) ∧ ∀ child, schema.additional ≠ some (.schema child)

theorem IgnoresExtras.extraChildren_eq {schema : Schema} (ignores : schema.IgnoresExtras)
    (members : List (String × Json)) : schema.extraChildren members = [] := by
  rw [extraChildren]
  split
  · exact absurd ‹_› (ignores.2 _)
  · rfl

theorem IgnoresExtras.forbiddenNames_eq {schema : Schema} (ignores : schema.IgnoresExtras)
    (members : List (String × Json)) : schema.forbiddenNames members = [] := by
  rw [forbiddenNames]
  split
  · exact absurd ‹_› ignores.1
  · rfl

variable (schema : Schema)

private theorem ownOutcome_rearranged {value other : Json} (alike : value.Rearranged other)
    (path : Path) :
    schema.ownOutcome value path = schema.ownOutcome other path := by
  cases value with
  | object members =>
    cases alike.reordered with
    | @object _ moved others each order =>
      have missing : schema.missingNames members = schema.missingNames others := by
        refine List.filter_congr fun name _ => ?_
        rw [← Option.not_isSome, ← Option.not_isSome, isSome_eq_of_rel (alike.lookup name)]
      rw [ownOutcome, ownOutcome, missing, each.length_eq, order.length_eq]
  | array items =>
    cases alike.reordered with
    | array each => rw [ownOutcome, ownOutcome, each.length_eq]
  | _ =>
    cases alike.reordered
    rfl

private theorem extraChildren_perm {members others : List (String × Json)}
    (order : members.Perm others) :
    (schema.extraChildren members).Perm (schema.extraChildren others) := by
  rw [extraChildren, extraChildren]
  split
  · exact (order.filter _).map _
  · rfl

private theorem forbiddenNames_perm {members others : List (String × Json)}
    (order : members.Perm others) :
    (schema.forbiddenNames members).Perm (schema.forbiddenNames others) := by
  rw [forbiddenNames, forbiddenNames]
  split
  · exact (order.filter _).map _
  · rfl

end Schema

namespace Schema

/-- A direct subschema beside itself. -/
def Under (schema child twin : Schema) : Prop := child = twin ∧ child ∈ schema.subschemas

variable (schema : Schema)

private theorem under_declared :
    List.Forall₂ (Named schema.Under) schema.declared schema.declared :=
  List.forall₂_same.mpr fun (key, _) listed => .intro ⟨rfl, mem_subschemas.mpr (.inl ⟨key, listed⟩)⟩

theorem under_additional :
    Option.Rel (Additional.Rel schema.Under) schema.additional schema.additional := by
  rcases given : schema.additional with _ | flag | child
  · exact .none
  · exact .some (.allowed flag)
  · exact .some (.schema ⟨rfl, mem_subschemas.mpr (.inr (.inl given))⟩)

private theorem under_items : Option.Rel schema.Under schema.items schema.items := by
  rcases given : schema.items with _ | child
  · exact .none
  · exact .some ⟨rfl, mem_subschemas.mpr (.inr (.inr (.inl given)))⟩

end Schema

namespace Agreement

variable {agree : List Finding → List Finding → Prop} (law : Agreement agree) {schema : Schema}
  {run : Evaluation} {value other : Json}
  (order : (∀ {first second}, first.Perm second → agree first second) ∨ schema.IgnoresExtras)
  (alike : value.Rearranged other)

include law order alike

/-- Declared members are walked as they are declared, the others as they stand in the document. -/
private theorem children_rearranged (path : Path)
    (below : ∀ child ∈ schema.subschemas, ∀ value other : Json, value.Rearranged other →
      ∀ path, agree (run value child path).findings (run other child path).findings) :
    agree
      ((schema.children value).flatMap fun child =>
        (run child.2.1 child.2.2 (path.child child.1)).findings)
      ((schema.children other).flatMap fun child =>
        (run child.2.1 child.2.2 (path.child child.1)).findings) := by
  have beside (child twin : Step × Json × Schema)
      (same : Beside Json.Rearranged schema.Under child twin) :
      agree (run child.2.1 child.2.2 (path.child child.1)).findings
        (run twin.2.1 twin.2.2 (path.child twin.1)).findings := by
    rw [← same.step, ← same.schema.1]
    exact below _ same.schema.2 _ _ same.value _
  cases alike.reordered with
  | @object members _ others =>
    simp only [Schema.children, List.flatMap_append]
    refine law.append
      (law.flatMap (declaredChildren_beside schema.under_declared alike.lookup) beside) ?_
    rcases order with permuted | ignores
    · -- First from value to value in the document's order, then from one order to the other.
      obtain ⟨moved, each, order, _⟩ := alike.exists_members
      have extra := extraChildren_beside (fun _ => rfl) each schema.under_additional
      exact law.trans (law.flatMap extra beside)
        (permuted ((schema.extraChildren_perm order).flatMap_right _))
    · rw [ignores.extraChildren_eq, ignores.extraChildren_eq]
      exact law.refl _
  | array =>
    exact law.flatMap (itemChildren_beside schema.under_items alike.forall₂_items) beside
  | _ => exact law.refl _

private theorem closingOutcome_rearranged (path : Path) :
    agree (schema.closingOutcome value path).findings
      (schema.closingOutcome other path).findings := by
  cases alike.reordered with
  | @object members _ others =>
    rcases order with permuted | ignores
    · obtain ⟨moved, each, order, _⟩ := alike.exists_members
      rw [Schema.closingOutcome,
        forbiddenNames_eq (fun _ => rfl) each schema.under_additional]
      exact permuted ((schema.forbiddenNames_perm order).map _)
    · simp only [Schema.closingOutcome, ignores.forbiddenNames_eq]
      exact law.refl _
  | _ => exact law.refl _

private theorem nodeOutcome_rearranged (path : Path)
    (below : ∀ child ∈ schema.subschemas, ∀ value other : Json, value.Rearranged other →
      ∀ path, agree (run value child path).findings (run other child path).findings) :
    agree (schema.nodeOutcome run value path).findings
      (schema.nodeOutcome run other path).findings := by
  refine law.nodeOutcome ?_ (alike.reordered.literalViolations_eq _)
    (alike.reordered.mismatch?_eq _) (by rw [schema.ownOutcome_rearranged alike])
    (law.children_rearranged order alike path below)
    (law.closingOutcome_rearranged order alike path)
  refine law.branchOutcome path (List.forall₂_same.mpr fun branch listed => ?_)
    (matched_self fun branch listed => ?_) (matched_self fun branch listed => ?_)
  all_goals exact below branch (by simp [Schema.mem_subschemas, listed]) value other alike path

end Agreement

/-- One member order for the other changes at most the order of what is found. -/
theorem findings_evaluate_rearranged {agree : List Finding → List Finding → Prop}
    (law : Agreement agree) (limit budget : Nat) {value other : Json}
    (alike : value.Rearranged other) (schema : Schema)
    (order : (∀ {first second}, first.Perm second → agree first second) ∨
      ∀ node, schema.Contains node → node.IgnoresExtras) (path : Path) :
    agree (evaluate limit budget value schema path).findings
      (evaluate limit budget other schema path).findings := by
  induction budget generalizing value other schema path with
  | zero => exact law.refl _
  | succ budget ih =>
    have below (child : Schema) (member : child ∈ schema.subschemas) (value other : Json)
        (alike : value.Rearranged other) (path : Path) :
        agree (evaluate limit budget value child path).findings
          (evaluate limit budget other child path).findings :=
      ih alike child
        (order.imp_right fun ignores node inside => ignores node (.child member inside)) path
    have own := order.imp_right fun ignores => ignores schema .self
    exact law.nodeOutcome_rearranged own alike path below

/-- The order of members decides at most the order of issues, and not even that where every node
ignores the members it does not declare. -/
theorem member_order_moves_issues_only (options : ValidationOptions) (document other : Json)
    (schema : Schema) (distinct : document.Distinct) (reordered : document.Reordered other) :
    (report options document schema).Perm (report options other schema) ∧
      isValid options document schema = isValid options other schema ∧
      ((∀ node, schema.Contains node → node.IgnoresExtras) →
        report options document schema = report options other schema) := by
  have found {agree : List Finding → List Finding → Prop} (law : Agreement agree) :=
    findings_evaluate_rearranged law options.maxDepth (options.maxDepth + 1)
      ⟨reordered, distinct⟩ schema
  have permuted := found agreement_perm (.inl id) []
  refine ⟨permuted.map _, permuted.isEmpty_eq, fun ignores => ?_⟩
  exact congrArg _ (found agreement_eq (.inr ignores) [])

theorem member_order_moves_issues_only_two_depths :
    let text : Schema :=
      ⟨{ types := some (.single "string") }, none, none, none, none, none, none, []⟩
    let strict : Schema := ⟨{}, none, some (.schema text), none, none, none, none, []⟩
    let lenient : Schema := ⟨{}, some [("a", text), ("b", text)], none, none, none, none, none, []⟩
    let schema : Schema := ⟨{}, some [("list", strict)], some (.allowed false), none, none, none,
      none, []⟩
    let inner : List (String × Json) := [("a", .null), ("b", .bool true)]
    let document : Json := .object [("x", .null), ("list", .object inner), ("y", .null)]
    let other : Json := .object [("y", .null), ("x", .null), ("list", .object inner.reverse)]
    document.Distinct ∧ document.Reordered other ∧
      report ⟨2⟩ document schema = [⟨"$.list.a", "Expected type string, got null"⟩,
        ⟨"$.list.b", "Expected type string, got boolean"⟩,
        ⟨"$.x", "Additional properties are not allowed"⟩,
        ⟨"$.y", "Additional properties are not allowed"⟩] ∧
      report ⟨2⟩ document schema ≠ report ⟨2⟩ other schema ∧
      (report ⟨2⟩ document schema).Perm (report ⟨2⟩ other schema) ∧
      (∀ node, lenient.Contains node → node.IgnoresExtras) ∧
      report ⟨2⟩ (.object inner) lenient = report ⟨2⟩ (.object inner.reverse) lenient := by
  intro text strict lenient schema inner document other
  have names : (Json.object inner).Distinct := by
    simp [inner, Json.Distinct, Json.DistinctMembers]
  have swapped : (Json.object inner).Reordered (.object inner.reverse) :=
    .object (.cons (.intro .null) (.cons (.intro (.bool true)) .nil)) inner.reverse_perm.symm
  have distinct : document.Distinct := by
    simp [document, inner, Json.Distinct, Json.DistinctMembers]
  have reordered : document.Reordered other :=
    .object (.cons (.intro .null) (.cons (.intro swapped) (.cons (.intro .null) .nil)))
      (List.perm_append_singleton ("y", Json.null) [_, _])
  have ignores : ∀ node, lenient.Contains node → node.IgnoresExtras := by
    refine Schema.forall_contains (by simp [lenient, Schema.IgnoresExtras]) fun child member => ?_
    obtain rfl : child = text := by
      simpa [lenient, Schema.subschemas, Schema.declared, Schema.extraSchema?] using member
    exact Schema.forall_contains_of_leaf rfl (by simp [text, Schema.IgnoresExtras])
  exact ⟨distinct, reordered, by decide, by decide,
    (member_order_moves_issues_only ⟨2⟩ document other schema distinct reordered).1, ignores,
    (member_order_moves_issues_only ⟨2⟩ _ _ lenient names swapped).2.2 ignores⟩

end SchemaCheck
