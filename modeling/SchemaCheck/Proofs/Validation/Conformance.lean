import Mathlib
import SchemaCheck.Proofs.Validation.Quiet

/-! Conformance, by recursion on the schema and without issues: what an empty report means. -/
namespace SchemaCheck

namespace Assertions

/-- A number is no further than a limit that the schema sets. -/
def BoundHolds (assertions : Assertions) (bound : Bound) (holds : Binary64 → Prop) : Prop :=
  ∀ limit, assertions.bound bound = some limit → holds limit

def CountHolds (assertions : Assertions) (count : Nat) (least most : Bound) : Prop :=
  assertions.BoundHolds least (· ≤ .ofInt count) ∧ assertions.BoundHolds most (.ofInt count ≤ ·)

def NumberHolds (assertions : Assertions) (value : Binary64) : Prop :=
  assertions.BoundHolds .minimum (· ≤ value) ∧
  assertions.BoundHolds .maximum (value ≤ ·) ∧
  assertions.BoundHolds .exclusiveMinimum (· < value) ∧
  assertions.BoundHolds .exclusiveMaximum (value < ·) ∧
  assertions.BoundHolds .multipleOf (value.isMultipleOf · = true)

/-- A pattern that is not empty compiles and is found; a format that is known accepts. -/
def StringHolds (assertions : Assertions) (text : String) : Prop :=
  assertions.CountHolds (utf16Length text) .minLength .maxLength ∧
  (∀ source, assertions.pattern = some source → source ≠ "" →
    ∃ pattern, Pattern.compile? source = some pattern ∧ pattern.foundIn text = true) ∧
  ∀ name, assertions.format = some name → ∀ format, Format.ofName? name = some format →
    format.accepts text = true

def LiteralsHold (assertions : Assertions) (value : Json) : Prop :=
  (∀ literal, assertions.constant = some literal → value.identical literal = true) ∧
  ∀ literals, assertions.enumeration = some literals →
    ∃ literal ∈ literals, value.identical literal = true

end Assertions

/-- The value meets the schema, whatever the depth. -/
def Conforms (value : Json) (schema : Schema) : Prop :=
  (∀ branch ∈ schema.allOf.getD [], Conforms value branch) ∧
  (schema.anyOf.getD [] = [] ∨
    ∃ branch, ∃ _ : branch ∈ schema.anyOf.getD [], Conforms value branch) ∧
  (schema.oneOf.getD [] = [] ∨
    ∃! position : Fin (schema.oneOf.getD []).length,
      Conforms value ((schema.oneOf.getD []).get position)) ∧
  schema.assertions.LiteralsHold value ∧
  schema.assertions.TypeHolds value ∧
  match value with
  | .object members =>
    (∀ name ∈ schema.assertions.required.getD [], name ∈ members.map Prod.fst) ∧
    schema.assertions.CountHolds members.length .minProperties .maxProperties ∧
    (∀ key child item, (key, child) ∈ schema.declared → members.lookup key = some item →
      Conforms item child) ∧
    ∀ key item, (key, item) ∈ members → key ∉ schema.declared.map Prod.fst →
      schema.additional ≠ some (.allowed false) ∧
      ∀ child, schema.additional = some (.schema child) → Conforms item child
  | .array items =>
    schema.assertions.CountHolds items.length .minItems .maxItems ∧
    ∀ child, schema.items = some child → ∀ item ∈ items, Conforms item child
  | .string text => schema.assertions.StringHolds text
  | .number number => schema.assertions.NumberHolds number.toBinary64
  | _ => True
termination_by schema.height
decreasing_by
  all_goals
    apply Schema.height_lt_of_mem
    rw [Schema.mem_subschemas]
    grind

namespace Assertions

theorem breach_eq_nil_iff (assertions : Assertions) (bound : Bound) (broken : Binary64 → Bool)
    (violation : Binary64 → Violation) :
    assertions.breach bound broken violation = [] ↔
      assertions.BoundHolds bound fun limit => broken limit = false := by
  cases found : assertions.bound bound <;> simp [breach, BoundHolds, found]

theorem countViolations_eq_nil_iff (assertions : Assertions) (count : Nat) (least most : Bound)
    (tooFew tooMany : Binary64 → Violation) :
    assertions.countViolations count least most tooFew tooMany = [] ↔
      assertions.CountHolds count least most := by
  simp only [countViolations, List.append_eq_nil_iff, breach_eq_nil_iff, CountHolds,
    decide_eq_false_iff_not, Binary64.not_lt]

/-- An integral number has an integral double, so only the bounds and the divisor count. -/
theorem numberViolations_eq_nil_iff (assertions : Assertions) (number : Json.Number) :
    assertions.numberViolations number = [] ↔ assertions.NumberHolds number.toBinary64 := by
  rw [numberViolations_eq]
  simp only [doubleViolations, List.append_eq_nil_iff, breach_eq_nil_iff, NumberHolds,
    decide_eq_false_iff_not, Binary64.not_lt, Binary64.not_le, Bool.not_eq_false', and_assoc]

theorem passes_patternOutcome (assertions : Assertions) (text : String) (path : Path) :
    (assertions.patternOutcome text path).passes = true ↔
      ∀ source, assertions.pattern = some source → source ≠ "" →
        ∃ pattern, Pattern.compile? source = some pattern ∧ pattern.foundIn text = true := by
  cases given : assertions.pattern with
  | none => simp [patternOutcome, given]
  | some source =>
    by_cases blank : source = ""
    · simp [patternOutcome, given, blank]
    · cases compiled : Pattern.compile? source <;>
        simp [patternOutcome, given, blank, compiled, Outcome.passes_iff]

theorem formatViolations_eq_nil_iff (assertions : Assertions) (text : String) :
    assertions.formatViolations text = [] ↔
      ∀ name, assertions.format = some name → ∀ format, Format.ofName? name = some format →
        format.accepts text = true := by
  cases given : assertions.format with
  | none => simp [formatViolations, given]
  | some name => cases known : Format.ofName? name <;> simp [formatViolations, given, known]

theorem passes_stringOutcome (assertions : Assertions) (text : String) (path : Path) :
    (assertions.stringOutcome text path).passes = true ↔ assertions.StringHolds text := by
  simp only [stringOutcome, Outcome.passes_append, Outcome.passes_located,
    countViolations_eq_nil_iff, passes_patternOutcome, formatViolations_eq_nil_iff, StringHolds,
    and_assoc]

theorem literalViolations_eq_nil_iff (assertions : Assertions) (value : Json) :
    assertions.literalViolations value = [] ↔ assertions.LiteralsHold value := by
  rw [literalViolations, List.append_eq_nil_iff, LiteralsHold]
  apply and_congr
  · cases given : assertions.constant <;> simp
  · cases given : assertions.enumeration <;> simp

end Assertions

namespace Schema

theorem passes_ownOutcome_object (schema : Schema) (members : List (String × Json)) (path : Path) :
    (schema.ownOutcome (.object members) path).passes = true ↔
      (∀ name ∈ schema.assertions.required.getD [], name ∈ members.map Prod.fst) ∧
      schema.assertions.CountHolds members.length .minProperties .maxProperties := by
  have missing (name : String) :
      (members.lookup name).isNone = false ↔ name ∈ members.map Prod.fst := by
    rw [← Bool.not_eq_true, Option.isNone_iff_eq_none, lookup_eq_none_iff_not_mem, not_not]
  simp only [ownOutcome, Outcome.passes_append, Outcome.passes_located,
    Assertions.countViolations_eq_nil_iff]
  simp [Outcome.passes_iff, keyFindings, missingNames, ← missing]

theorem passes_closingOutcome_object (schema : Schema) (members : List (String × Json))
    (path : Path) :
    (schema.closingOutcome (.object members) path).passes = true ↔
      ∀ key item, (key, item) ∈ members → key ∉ schema.declared.map Prod.fst →
        schema.additional ≠ some (.allowed false) := by
  have reported : (schema.closingOutcome (.object members) path).passes = true ↔
      schema.forbiddenNames members = [] := by
    simp [closingOutcome, keyFindings, Outcome.passes_iff]
  rw [reported]
  by_cases forbidden : schema.additional = some (.allowed false)
  · have names : schema.forbiddenNames members = (schema.extras members).map Prod.fst := by
      simp [forbiddenNames, forbidden]
    rw [names, List.map_eq_nil_iff, List.eq_nil_iff_forall_not_mem]
    simp [mem_extras, forbidden]
  · have none : schema.forbiddenNames members = [] := by
      unfold forbiddenNames
      split
      · contradiction
      · rfl
    simp [none, forbidden]

private theorem forall_mem_children_object (schema : Schema) (members : List (String × Json))
    (holds : Step × Json × Schema → Prop) :
    (∀ child ∈ schema.children (.object members), holds child) ↔
      (∀ key child item, (key, child) ∈ schema.declared → members.lookup key = some item →
        holds (.key key, item, child)) ∧
      ∀ key item, (key, item) ∈ members → key ∉ schema.declared.map Prod.fst →
        ∀ child, schema.additional = some (.schema child) → holds (.key key, item, child) := by
  simp only [children, List.mem_append, or_imp, forall_and, mem_declaredChildren,
    mem_extraChildren, mem_extras]
  apply and_congr
  · constructor
    · intro all key child item declared present
      exact all _ ⟨key, child, item, declared, present, rfl⟩
    · rintro all _ ⟨key, child, item, declared, present, rfl⟩
      exact all key child item declared present
  · constructor
    · intro all key item member undeclared child given
      exact all _ ⟨key, item, child, given, ⟨member, undeclared⟩, rfl⟩
    · rintro all _ ⟨key, item, child, given, ⟨member, undeclared⟩, rfl⟩
      exact all key item member undeclared child given

private theorem forall_mem_children_array (schema : Schema) (items : List Json)
    (holds : Json → Schema → Prop) :
    (∀ child ∈ schema.children (.array items), holds child.2.1 child.2.2) ↔
      ∀ child, schema.items = some child → ∀ item ∈ items, holds item child := by
  simp only [children, mem_itemChildren]
  constructor
  · intro all child given item member
    obtain ⟨position, found⟩ := List.mem_iff_getElem?.mp member
    exact all _ ⟨position, item, child, given, found, rfl⟩
  · rintro all _ ⟨position, item, child, given, found, rfl⟩
    exact all child given item (List.mem_of_getElem? found)

end Schema

private theorem countP_eq_one_iff_existsUnique {α : Type} (items : List α) (holds : α → Bool) :
    items.countP holds = 1 ↔ ∃! position : Fin items.length, holds (items.get position) = true := by
  have counted : items.countP holds =
      (Finset.univ.filter fun position => holds (items.get position) = true).card := by
    conv_lhs => rw [← List.map_getElem_finRange items, List.countP_map]
    rw [← List.toFinset_finRange, (List.nodup_finRange items.length).card_eq_countP]
    simp [Function.comp_def]
  rw [counted, Fintype.existsUnique_iff_card_one]

/-- A budget beyond the schema's height decides conformance. The induction is on the budget; every
subschema is lower than its schema. -/
theorem passes_evaluate_iff_conforms (limit budget : Nat) (value : Json) (schema : Schema)
    (path : Path) (enough : schema.height < budget) :
    (evaluate limit budget value schema path).passes = true ↔ Conforms value schema := by
  induction budget generalizing value schema path with
  | zero => cases enough
  | succ budget ih =>
    have below (child : Schema) (member : child ∈ schema.subschemas) (value : Json) (path : Path) :
        (evaluate limit budget value child path).passes = true ↔ Conforms value child := by
      have lower := Schema.height_lt_of_mem member
      exact ih value child path (by omega)
    have children : (∀ child ∈ schema.children value,
          (evaluate limit budget child.2.1 child.2.2 (path.child child.1)).passes = true) ↔
        ∀ child ∈ schema.children value, Conforms child.2.1 child.2.2 :=
      forall₂_congr fun child member =>
        below child.2.2 (Schema.mem_subschemas_of_mem_children member) ..
    simp only [Schema.mem_subschemas] at below
    rw [evaluate, Schema.passes_nodeOutcome, Schema.passes_branchOutcome, Conforms.eq_def]
    simp only [and_assoc, Assertions.literalViolations_eq_nil_iff, Assertions.mismatch_eq_none_iff,
      countP_eq_one_iff_existsUnique, exists_prop]
    refine and_congr ?allOf (and_congr ?anyOf (and_congr ?oneOf
      (and_congr Iff.rfl (and_congr Iff.rfl ?own))))
    case allOf => exact forall₂_congr fun branch member => below branch (by simp [member]) ..
    case anyOf =>
      refine or_congr Iff.rfl (exists_congr fun branch => and_congr_right fun member => ?_)
      exact below branch (by simp [member]) ..
    case oneOf =>
      refine or_congr Iff.rfl (existsUnique_congr fun position => ?_)
      exact below _ (by simp) ..
    case own =>
      rw [children]
      cases value with
      | object members =>
        rw [Schema.passes_ownOutcome_object, Schema.forall_mem_children_object,
          Schema.passes_closingOutcome_object]
        simp only [and_assoc, imp_and, forall_and]
        constructor
        · rintro ⟨required, count, declared, extra, forbidden⟩
          exact ⟨required, count, declared, forbidden, extra⟩
        · rintro ⟨required, count, declared, forbidden, extra⟩
          exact ⟨required, count, declared, extra, forbidden⟩
      | array items =>
        rw [Schema.forall_mem_children_array]
        simp [Schema.ownOutcome, Schema.closingOutcome, Outcome.passes_located,
          Assertions.countViolations_eq_nil_iff]
      | string text =>
        simp [Schema.ownOutcome, Schema.children, Schema.closingOutcome,
          Assertions.passes_stringOutcome]
      | number number =>
        simp [Schema.ownOutcome, Schema.children, Schema.closingOutcome, Outcome.passes_located,
          Assertions.numberViolations_eq_nil_iff]
      | null => simp [Schema.ownOutcome, Schema.children, Schema.closingOutcome]
      | bool flag => simp [Schema.ownOutcome, Schema.children, Schema.closingOutcome]

instance (value : Json) (schema : Schema) : Decidable (Conforms value schema) :=
  decidable_of_iff _
    (passes_evaluate_iff_conforms 0 (schema.height + 1) value schema [] (Nat.lt_succ_self _))

/-- A report is empty exactly if the document conforms, where the limit is no less than the height
of the schema or was at least not reached. -/
theorem report_empty_iff_conforms (options : ValidationOptions) (document : Json) (schema : Schema)
    (complete : schema.height ≤ options.maxDepth ∨
      ∀ event ∈ (validate options document schema).events, event.level ≠ .warn) :
    (report options document schema = [] ↔ Conforms document schema) ∧
    (isValid options document schema = true ↔ Conforms document schema) := by
  have passes :
      (evaluate options.maxDepth (options.maxDepth + 1) document schema []).passes = true ↔
        Conforms document schema := by
    rcases complete with shallow | quiet
    · exact passes_evaluate_iff_conforms _ _ _ _ _ (Nat.lt_succ_of_le shallow)
    · have larger := evaluate_eq_of_quiet options.maxDepth
        (quiet_append.mp quiet).1 (Nat.le_add_right (options.maxDepth + 1) schema.height)
      rw [← larger]
      exact passes_evaluate_iff_conforms _ _ _ _ _ (by omega)
  constructor
  · rw [report, List.map_eq_nil_iff, ← passes, Outcome.passes_iff]
    rfl
  · rw [← passes]
    rfl

theorem report_empty_iff_conforms_null_for_text :
    let text : Schema :=
      ⟨{ types := some (.single "string") }, none, none, none, none, none, none, []⟩
    let schema : Schema := ⟨{}, some [("name", text)], none, none, none, none, none, []⟩
    schema.height ≤ 1 ∧ ¬ Conforms (.object [("name", .null)]) schema ∧
      Conforms (.object [("name", .string "a")]) schema := by
  intro text schema
  have shallow : schema.height ≤ 1 := by
    simp [schema, text, Schema.height_le_iff, Schema.height_eq_zero_iff, Schema.subschemas,
      Schema.declared, Schema.extraSchema?]
  have decides (document : Json) := (report_empty_iff_conforms ⟨1⟩ document schema (.inl shallow)).2
  exact ⟨shallow, fun conforms => absurd ((decides _).mpr conforms) (by decide),
    (decides _).mp (by decide)⟩

end SchemaCheck
