import Mathlib
import SchemaCheck.Proofs.Path
import SchemaCheck.Proofs.Validation.Keywords
import SchemaCheck.Proofs.Validation.Wording

/-! Issues as text: at one node they tell the keywords apart. -/
namespace SchemaCheck

section SameIssue

variable {judge : Schema → Bool} {visit : Visit} {keyword other : Keyword} {entry position : Nat}
  {finding found : Finding}

theorem Breaks.keyword_wording (broken : Breaks judge visit keyword entry finding) :
    finding.violation.wording.keyword = some keyword := by
  cases broken with
  | bound typed given applies broken => rename_i bound _ _; cases bound <;> rfl
  | _ => rfl

/-- At one node a message belongs to one keyword. -/
theorem Breaks.keyword_eq_of_message (first : Breaks judge visit keyword entry finding)
    (second : Breaks judge visit other position found)
    (same : finding.violation.message = found.violation.message) : keyword = other := by
  have worded := first.keyword_wording
  rw [Violation.wording_eq_of_message same, second.keyword_wording] at worded
  exact (Option.some.inj worded).symm

private theorem finding_eq_of_issue (first : Breaks judge visit keyword entry finding)
    (second : Breaks judge visit keyword position found) (same : finding.issue = found.issue) :
    finding = found := by
  have place : finding.path.render = found.path.render := congrArg Issue.path same
  by_cases required : keyword = .required
  · subst required
    cases first with
    | required => cases second with
      | required => rw [Path.child_key_injective place]
  by_cases additional : keyword = .additionalProperties
  · subst additional
    cases first with
    | additional => cases second with
      | additional => rw [Path.child_key_injective place]
  -- every other keyword has one entry, and `faults` holds one finding for it
  obtain rfl := first.entry_eq_zero required additional
  obtain rfl := second.entry_eq_zero required additional
  have listed := (visit.mem_faults judge).mpr first
  have present := (visit.mem_faults judge).mpr second
  exact congrArg Prod.snd
    (List.inj_on_of_nodup_map (visit.nodup_faults judge keyword) listed present rfl)

/-- At one node an issue comes from one keyword, with one finding. -/
theorem Breaks.eq_of_issue (first : Breaks judge visit keyword entry finding)
    (second : Breaks judge visit other position found) (same : finding.issue = found.issue) :
    keyword = other ∧ finding = found := by
  obtain rfl := first.keyword_eq_of_message second (congrArg Issue.message same)
  exact ⟨rfl, finding_eq_of_issue first second same⟩

private theorem position_eq_of_nodup {α : Type} {items : List α} {position other : Nat} {item : α}
    (distinct : items.Nodup) (listed : items[position]? = some item)
    (found : items[other]? = some item) : position = other := by
  obtain ⟨inside, _⟩ := List.getElem?_eq_some_iff.mp listed
  exact (List.getElem?_inj inside distinct).mp (listed.trans found.symm)

private theorem listed_key {members : List (String × Json)} {position : Nat} {key : String}
    {item : Json} (listed : members[position]? = some (key, item)) :
    (members.map Prod.fst)[position]? = some key := by
  simp [listed]

/-- Without repeated names an issue is brought up once at a node. -/
theorem Breaks.entry_eq_of_issue (first : Breaks judge visit keyword entry finding)
    (second : Breaks judge visit keyword position found) (same : finding.issue = found.issue)
    (names : (visit.schema.assertions.required.getD []).Nodup)
    (keys : ∀ members, visit.value = .object members → (members.map Prod.fst).Nodup) :
    entry = position := by
  have place : finding.path.render = found.path.render := congrArg Issue.path same
  by_cases required : keyword = .required
  · subst required
    cases first with
    | @required _ _ _ name _ _ given listed _ => cases second with
      | @required _ _ _ other _ _ again found _ =>
        obtain rfl : name = other := Path.child_key_injective place
        obtain rfl := Option.some.inj (given.symm.trans again)
        rw [given] at names
        exact position_eq_of_nodup names listed found
  by_cases additional : keyword = .additionalProperties
  · subst additional
    cases first with
    | @additional members _ key _ _ object _ listed _ => cases second with
      | @additional others _ other _ _ alike _ found _ =>
        obtain rfl : key = other := Path.child_key_injective place
        obtain rfl : members = others := Json.object.inj (object.symm.trans alike)
        exact position_eq_of_nodup (keys members object) (listed_key listed) (listed_key found)
  rw [first.entry_eq_zero required additional, second.entry_eq_zero required additional]

end SameIssue
end SchemaCheck
