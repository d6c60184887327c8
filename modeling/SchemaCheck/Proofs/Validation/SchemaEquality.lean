import Mathlib
import SchemaCheck.Proofs.Schema.Equality
import SchemaCheck.Proofs.Validation.Comparison
import SchemaCheck.Proofs.Validation.Fault

/-! Equal schemas validate alike. What equality forgets is the order of properties, the sign of zero
and the order of members in literals: it shows in the order of issues and in the text of literals,
and in nothing else. -/
namespace SchemaCheck

/-- Equal literals, with one text unless they are arrays or objects. -/
structure Json.ShownAlike (literal other : Json) : Prop where
  same : literal.Same other
  text : literal.kind ≠ .array → literal.kind ≠ .object → literal.literal = other.literal

theorem Json.Same.shownAlike {literal other : Json} (same : literal.Same other) :
    literal.ShownAlike other :=
  ⟨same, literal_eq_of_same same⟩

/-- One issue, or two of one place that name equal literals under `const` or under `enum`. -/
inductive Issue.Alike : Issue → Issue → Prop where
  | same (issue : Issue) : Alike issue issue
  | constant (path : String) {literal other : Json} (shown : literal.ShownAlike other) :
      Alike ⟨path, (Violation.differsFrom literal).message⟩
        ⟨path, (Violation.differsFrom other).message⟩
  | enumeration (path : String) {literals others : List Json}
      (shown : List.Forall₂ Json.ShownAlike literals others) :
      Alike ⟨path, (Violation.notAmong literals).message⟩
        ⟨path, (Violation.notAmong others).message⟩

/-- The findings correspond one to one, in any order, and are reported alike. -/
def ReportedAlike (findings others : List Finding) : Prop :=
  Matched (fun found met : Finding => found.issue.Alike met.issue) findings others

theorem joining_reportedAlike : Joining ReportedAlike where
  refl _ := matched_self fun finding _ => .same finding.issue
  append first rest := Matched.append first rest
  isEmpty matched := by
    rw [Bool.eq_iff_iff, List.isEmpty_iff, List.isEmpty_iff, matched.eq_nil_iff]

private theorem reportedAlike_of_issues_eq {findings others : List Finding}
    (same : findings.map Finding.issue = others.map Finding.issue) :
    ReportedAlike findings others := by
  rw [← List.forall₂_eq_eq_eq, List.forall₂_map_left_iff, List.forall₂_map_right_iff] at same
  exact .of_forall₂ (same.imp fun found met issues => issues ▸ .same found.issue)

theorem map_issue_located (path : Path) (violations : List Violation) :
    (Outcome.located path violations).findings.map Finding.issue =
      (violations.map Violation.message).map (Issue.mk path.render) := by
  simp [Finding.issue, Function.comp_def]

namespace Bound

variable (bound : Bound) {limit twin : Binary64} (same : limit.sameValue twin = true)

include same

theorem brokenBy_eq (measured : Binary64) :
    bound.brokenBy measured limit = bound.brokenBy measured twin := by
  have units : limit.units = twin.units := Binary64.sameValue_iff.mp same
  cases bound with
  | multipleOf => rw [brokenBy, brokenBy, Binary64.isMultipleOf_eq_of_sameValue same]
  | _ => simp only [brokenBy, Binary64.lt_iff, Binary64.le_iff, units]

private theorem message_violation_eq :
    (bound.violation limit).message = (bound.violation twin).message := by
  have shown : Violation.number limit = Violation.number twin :=
    NumberLayout.render_message_eq same
  cases bound with
  | minProperties | maxProperties | minItems | maxItems | minLength | maxLength =>
    exact congrArg (_ ++ · ++ _) shown
  | _ => exact congrArg (_ ++ ·) shown

end Bound

namespace Assertions.Alike

variable {assertions other : Assertions} (alike : assertions.Alike other)

include alike

/-- Equal limits are broken by the same numbers and written the same way. -/
private theorem map_message_breach (bound : Bound) (measured : Binary64) :
    (assertions.breach bound (bound.brokenBy measured) bound.violation).map Violation.message =
      (other.breach bound (bound.brokenBy measured) bound.violation).map Violation.message := by
  have limits := alike.bound bound
  rw [breach, breach]
  generalize assertions.bound bound = given, other.bound bound = regiven at limits
  cases limits with
  | none => rfl
  | @some limit twin same =>
    simp only [bound.brokenBy_eq same]
    split
    · simp only [List.map_cons, List.map_nil, bound.message_violation_eq same]
    · rfl

theorem patternOutcome_eq (text : String) (path : Path) :
    assertions.patternOutcome text path = other.patternOutcome text path := by
  rw [patternOutcome, patternOutcome, alike.pattern]

theorem formatViolations_eq (text : String) :
    assertions.formatViolations text = other.formatViolations text := by
  rw [formatViolations, formatViolations, alike.format]

theorem mismatch?_eq (value : Json) : assertions.mismatch? value = other.mismatch? value := by
  rw [mismatch?, mismatch?, alike.types]

end Assertions.Alike

namespace Schema.Alike

variable {schema other : Schema} (alike : schema.Alike other)

include alike

/-- `const` and `enum` match the same values, and only their literals may be written otherwise. -/
theorem literalViolations (value : Json) (path : Path) :
    ReportedAlike (Outcome.located path (schema.assertions.literalViolations value)).findings
      (Outcome.located path (other.assertions.literalViolations value)).findings := by
  have constants := alike.assertions.constant
  have enumerations := alike.assertions.enumeration
  simp only [Assertions.literalViolations, Outcome.findings_located, List.map_append]
  refine joining_reportedAlike.append ?constant ?enumeration
  case constant =>
    generalize schema.assertions.constant = given, other.assertions.constant = regiven at constants
    cases constants with
    | none => exact joining_reportedAlike.refl []
    | @some literal twin same =>
      simp only [Json.identical_eq_of_same same value]
      split
      · exact joining_reportedAlike.refl []
      · exact .of_forall₂ (.cons (.constant _ same.shownAlike) .nil)
  case enumeration =>
    generalize schema.assertions.enumeration = given,
      other.assertions.enumeration = regiven at enumerations
    cases enumerations with
    | none => exact joining_reportedAlike.refl []
    | @some literals twins each =>
      have judged : literals.map value.identical = twins.map value.identical :=
        map_eq_of_forall₂ each fun _ _ same => Json.identical_eq_of_same same value
      have listed : literals.any value.identical = twins.any value.identical := by
        simpa [List.any_map] using congrArg (List.any · id) judged
      simp only [listed]
      split
      · exact joining_reportedAlike.refl []
      · exact .of_forall₂ (.cons (.enumeration _ (each.imp fun _ _ => Json.Same.shownAlike)) .nil)

theorem ownOutcome (value : Json) (path : Path) :
    ReportedAlike (schema.ownOutcome value path).findings
      (other.ownOutcome value path).findings := by
  refine reportedAlike_of_issues_eq ?_
  have breach := alike.assertions.map_message_breach
  cases value with
  | object members =>
    have missing : schema.missingNames members = other.missingNames members := by
      rw [missingNames, missingNames, alike.assertions.required]
    have least := breach .minProperties (.ofInt members.length)
    have most := breach .maxProperties (.ofInt members.length)
    simp only [Bound.brokenBy, Bound.violation] at least most
    simp only [Schema.ownOutcome, Outcome.findings_append, List.map_append, map_issue_located,
      Assertions.countViolations, missing, least, most]
  | array items =>
    have least := breach .minItems (.ofInt items.length)
    have most := breach .maxItems (.ofInt items.length)
    simp only [Bound.brokenBy, Bound.violation] at least most
    simp only [Schema.ownOutcome, List.map_append, map_issue_located,
      Assertions.countViolations, least, most]
  | string text =>
    have least := breach .minLength (.ofInt (utf16Length text))
    have most := breach .maxLength (.ofInt (utf16Length text))
    simp only [Bound.brokenBy, Bound.violation] at least most
    simp only [Schema.ownOutcome, Assertions.stringOutcome, Outcome.findings_append,
      List.map_append, map_issue_located, Assertions.countViolations, least, most,
      alike.assertions.patternOutcome_eq, alike.assertions.formatViolations_eq]
  | number number =>
    have each (bound : Bound) := breach bound number.toBinary64
    have least := each .minimum
    have most := each .maximum
    have lower := each .exclusiveMinimum
    have upper := each .exclusiveMaximum
    have divisor := each .multipleOf
    simp only [Bound.brokenBy, Bound.violation] at least most lower upper divisor
    simp only [Schema.ownOutcome, Assertions.numberViolations_eq, Assertions.doubleViolations,
      List.map_append, map_issue_located, least, most, lower, upper, divisor]
  | _ => rfl

end Schema.Alike

namespace Schema

/-- Equal schemas. The first declares no property twice at any node, so neither does the other. -/
structure Twin (schema other : Schema) : Prop where
  same : schema.Same other
  keys : ∀ node, schema.Contains node → (node.declared.map Prod.fst).Nodup

namespace Twin

variable {schema other : Schema} (twin : schema.Twin other)

include twin

theorem alike : schema.Alike other := same_iff.mp twin.same

theorem below {child below : Schema} (member : child ∈ schema.subschemas)
    (same : child.Same below) : child.Twin below :=
  ⟨same, fun node inside => twin.keys node (.child member inside)⟩

theorem declared : Matched (Named Twin) schema.declared other.declared := by
  have same : SameDeclared schema.declared other.declared := by
    have properties := twin.alike.properties
    rw [Schema.declared, Schema.declared]
    generalize schema.properties = given, other.properties = regiven at properties
    cases properties with
    | none => exact ⟨rfl, by simp⟩
    | some same => exact same
  refine (same.matched (twin.keys schema .self)).with_mem.imp ?_
  rintro ⟨key, child⟩ _ ⟨listed, ⟨same⟩⟩
  exact .intro (twin.below (mem_subschemas.mpr (.inl ⟨key, listed⟩)) same)

theorem names_perm : (schema.declared.map Prod.fst).Perm (other.declared.map Prod.fst) := by
  refine twin.declared.map_perm fun entry below same => ?_
  cases same
  rfl

theorem additional : Option.Rel (Additional.Rel Twin) schema.additional other.additional := by
  refine rel_imp (rel_with_eq twin.alike.additional) ?_
  rintro _ _ ⟨given, same⟩
  cases same with
  | allowed flag => exact .allowed flag
  | schema same => exact .schema (twin.below (mem_subschemas.mpr (.inr (.inl given))) same)

theorem items : Option.Rel Twin schema.items other.items := by
  refine rel_imp (rel_with_eq twin.alike.items) ?_
  rintro child below ⟨given, same⟩
  exact twin.below (mem_subschemas.mpr (.inr (.inr (.inl given)))) same

theorem branches {branches others : Option (List Schema)}
    (each : Option.Rel (List.Forall₂ Same) branches others)
    (members : ∀ branch ∈ branches.getD [], branch ∈ schema.subschemas) :
    List.Forall₂ Twin (branches.getD []) (others.getD []) := by
  have listed := (List.forall₂_and_left _ _).mpr ⟨members, forall₂_getD each⟩
  exact listed.imp fun branch below inside => twin.below inside.1 inside.2

/-- The same values are walked, declared ones in the order of each side. -/
theorem children (value : Json) :
    Matched (Beside Eq Twin) (schema.children value) (other.children value) := by
  cases value with
  | object members =>
    have extra := extraChildren_beside (declares_eq_of_perm twin.names_perm) (named_self members)
      twin.additional
    exact (declaredChildren_matched twin.declared (Named.lookup (named_self members))).append
      (.of_forall₂ extra)
  | array values =>
    exact .of_forall₂ (itemChildren_beside twin.items (List.forall₂_same.mpr fun _ _ => rfl))
  | _ => exact .of_forall₂ .nil

theorem closingOutcome_eq (value : Json) (path : Path) :
    schema.closingOutcome value path = other.closingOutcome value path := by
  cases value with
  | object members =>
    rw [closingOutcome, closingOutcome, forbiddenNames_eq (declares_eq_of_perm twin.names_perm)
      (named_self members) twin.additional]
  | _ => rfl

theorem findings_nodeOutcome {run : Evaluation} (value : Json) (path : Path)
    (below : ∀ {child below : Schema}, child.Twin below → ∀ value path,
      ReportedAlike (run value child path).findings (run value below path).findings) :
    ReportedAlike (schema.nodeOutcome run value path).findings
      (other.nodeOutcome run value path).findings := by
  have branch (child twin : Schema) (same : child.Twin twin) := below same value path
  have allOf := twin.branches twin.alike.allOf fun branch listed => by simp [mem_subschemas, listed]
  have anyOf := twin.branches twin.alike.anyOf fun branch listed => by simp [mem_subschemas, listed]
  have oneOf := twin.branches twin.alike.oneOf fun branch listed => by simp [mem_subschemas, listed]
  refine joining_reportedAlike.nodeOutcome_of_parts ?branches
    (twin.alike.literalViolations value path) (twin.alike.assertions.mismatch?_eq value)
    (twin.alike.ownOutcome value path) ?children ?closing
  case branches =>
    exact joining_reportedAlike.branchOutcome path (allOf.imp branch)
      (.of_forall₂ (anyOf.imp branch)) (.of_forall₂ (oneOf.imp branch))
  case children =>
    refine (twin.children value).flatMap fun child twin beside => ?_
    rw [← beside.step, ← beside.value]
    exact below beside.schema child.2.1 (path.child child.1)
  case closing =>
    rw [twin.closingOutcome_eq]
    exact joining_reportedAlike.refl _

end Twin

end Schema

theorem findings_evaluate_twin (limit budget : Nat) (value : Json) {schema other : Schema}
    (twin : schema.Twin other) (path : Path) :
    ReportedAlike (evaluate limit budget value schema path).findings
      (evaluate limit budget value other path).findings := by
  induction budget generalizing value schema other path with
  | zero => exact joining_reportedAlike.refl _
  | succ budget ih =>
    exact twin.findings_nodeOutcome value path fun twin value path => ih value twin path

/-- Equal schemas report the same issues up to their order and to how arrays and objects are written
under `const` and `enum`, and they accept the same documents. No schema that is read or built entry
by entry declares a property twice. -/
theorem equal_schemas_report_alike (options : ValidationOptions) (document : Json)
    {schema other : Schema}
    (keys : ∀ node, schema.Contains node → (node.declared.map Prod.fst).Nodup)
    (same : schema.same other = true) :
    Matched Issue.Alike (report options document schema) (report options document other) ∧
      isValid options document schema = isValid options document other := by
  have found : ReportedAlike (validate options document schema).findings
      (validate options document other).findings :=
    findings_evaluate_twin options.maxDepth (options.maxDepth + 1) document ⟨same, keys⟩ []
  exact ⟨found.map fun _ _ alike => alike, joining_reportedAlike.isEmpty found⟩

/-- Properties in another order, zero with another sign, and a literal that is written otherwise. -/
theorem equal_schemas_report_alike_two_zeros :
    let zero (negative : Bool) : Json := .number (.double ⟨negative, 0, 0, by decide⟩)
    let constant (literal : Json) : Schema :=
      ⟨{ constant := some literal }, none, none, none, none, none, none, []⟩
    let text : Schema :=
      ⟨{ types := some (.single "string") }, none, none, none, none, none, none, []⟩
    let schema : Schema := ⟨{}, some [("x", text), ("y", constant (.array [zero true]))], none,
      none, none, some [constant (zero true)], none, []⟩
    let other : Schema := ⟨{}, some [("y", constant (.array [zero false])), ("x", text)], none,
      none, none, some [constant (zero false)], none, []⟩
    let document : Json := .object [("x", .null), ("y", .null)]
    schema.same other = true ∧
      report ⟨1⟩ document schema = [⟨"$", "Value does not match any of the allowed schemas"⟩,
        ⟨"$.x", "Expected type string, got null"⟩, ⟨"$.y", "Value must equal [-0.0]"⟩] ∧
      report ⟨1⟩ document other = [⟨"$", "Value does not match any of the allowed schemas"⟩,
        ⟨"$.y", "Value must equal [0.0]"⟩, ⟨"$.x", "Expected type string, got null"⟩] ∧
      Matched Issue.Alike (report ⟨1⟩ document schema) (report ⟨1⟩ document other) := by
  intro zero constant text schema other document
  have same : schema.same other = true := by decide +kernel
  have keys : ∀ node, schema.Contains node → (node.declared.map Prod.fst).Nodup := by
    refine Schema.forall_contains (by simp [schema, Schema.declared]) fun child member => ?_
    have leaf : child.subschemas = [] ∧ child.declared = [] := by
      simp only [schema, Schema.subschemas, Schema.declared, Schema.extraSchema?] at member
      simp at member
      rcases member with rfl | rfl | rfl <;> exact ⟨rfl, rfl⟩
    exact Schema.forall_contains_of_leaf leaf.1 (by simp [leaf.2])
  exact ⟨same, by decide, by decide, (equal_schemas_report_alike ⟨1⟩ document keys same).1⟩

end SchemaCheck
