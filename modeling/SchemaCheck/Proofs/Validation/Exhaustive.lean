import Mathlib
import SchemaCheck.Proofs.Validation.Messages
import SchemaCheck.Proofs.Validation.Trace

/-! Reports are exhaustive and exact: what is in them, and how often. -/
namespace SchemaCheck

/-- A finding of a validation, from the node at the end of a route: the node lies beyond the limit,
or it is within and breaks a keyword. Branches are judged one level further down. -/
inductive Reported (limit : Nat) (document : Json) (schema : Schema) : Source → Finding → Prop where
  | tooDeep {route : List Turn} {visit : Visit}
      (reached : Reaches limit ⟨[], document, schema⟩ route visit (limit + 1)) :
      Reported limit document schema (route, none) ⟨visit.path, .tooDeep⟩
  | breaks {route : List Turn} {visit : Visit} {level entry : Nat} {keyword : Keyword}
      {finding : Finding} (reached : Reaches limit ⟨[], document, schema⟩ route visit level)
      (within : level ≤ limit)
      (broken : Breaks (visit.judge limit (limit - level)) visit keyword entry finding) :
      Reported limit document schema (route, some (keyword, entry)) finding

theorem reported_iff_mem_trace {limit : Nat} {document : Json} {schema : Schema} {source : Source}
    {finding : Finding} :
    Reported limit document schema source finding ↔
      (source, finding) ∈ Visit.trace limit (limit + 1) ⟨[], document, schema⟩ := by
  rw [Visit.mem_trace]
  constructor
  · intro reported
    cases reported with
    | tooDeep reached =>
      obtain ⟨leads, spent, _⟩ := reaches_iff_leads.mp reached
      exact ⟨_, 0, leads, by simpa using spent, .tooDeep⟩
    | breaks reached within broken =>
      obtain ⟨leads, rfl, _⟩ := reaches_iff_leads.mp reached
      exact ⟨_, _, leads, by simp only; omega, .breaks broken⟩
  · obtain ⟨route, broken⟩ := source
    rintro ⟨visit, remaining, leads, spent, adds⟩
    cases adds with
    | tooDeep => exact .tooDeep (reaches_iff_leads.mpr ⟨leads, by simpa using spent, le_rfl⟩)
    | @breaks budget _ _ _ broken =>
      simp only at spent
      have rest : limit - route.length = budget := by omega
      have within : route.length ≤ limit := by omega
      exact .breaks (reaches_iff_leads.mpr ⟨leads, rfl, by omega⟩) within (rest ▸ broken)

theorem report_perm_trace (options : ValidationOptions) (document : Json) (schema : Schema) :
    (report options document schema).Perm
      ((Visit.trace options.maxDepth (options.maxDepth + 1) ⟨[], document, schema⟩).map
        fun found => found.2.issue) := by
  have same := (Visit.map_snd_trace_perm options.maxDepth (options.maxDepth + 1)
    ⟨[], document, schema⟩).map Finding.issue
  rw [List.map_map] at same
  exact same.symm

/-- Keys that occur once are counted by the set of the chosen ones. -/
private theorem countP_eq_encard {α β : Type} (entries : List (α × β)) (chosen : β → Prop)
    [DecidablePred chosen] (keys : (entries.map Prod.fst).Nodup) :
    (entries.countP (fun entry => chosen entry.2) : ℕ∞) =
      Set.encard {key | ∃ value, (key, value) ∈ entries ∧ chosen value} := by
  classical
  have selected : ((entries.filter fun entry => chosen entry.2).map Prod.fst).Nodup :=
    keys.sublist (List.filter_sublist.map Prod.fst)
  have members : {key | ∃ value, (key, value) ∈ entries ∧ chosen value} =
      (((entries.filter fun entry => chosen entry.2).map Prod.fst).toFinset : Set α) := by
    ext key
    simp
  rw [members, Set.encard_coe_eq_coe_finsetCard, List.toFinset_card_of_nodup selected,
    List.length_map, List.countP_eq_length_filter]

/-- No node reached lists a required name twice or looks at an object with a key twice. -/
def WithoutRepeats (limit : Nat) (document : Json) (schema : Schema) : Prop :=
  ∀ route visit level, Reaches limit ⟨[], document, schema⟩ route visit level →
    (visit.schema.assertions.required.getD []).Nodup ∧
    ∀ members, visit.value = .object members → (members.map Prod.fst).Nodup

theorem Reported.entry_unique {limit : Nat} {document : Json} {schema : Schema}
    {route : List Turn} {broken other : Option (Keyword × Nat)} {finding found : Finding}
    (distinct : WithoutRepeats limit document schema)
    (first : Reported limit document schema (route, broken) finding)
    (second : Reported limit document schema (route, other) found)
    (same : finding.issue = found.issue) : broken = other := by
  cases first with
  | tooDeep reached => cases second with
    | tooDeep => rfl
    | breaks beside within _ =>
      obtain ⟨_, deep, _⟩ := reaches_iff_leads.mp reached
      obtain ⟨_, shallow, _⟩ := reaches_iff_leads.mp beside
      omega
  | breaks reached within broken => cases second with
    | tooDeep beside =>
      obtain ⟨_, shallow, _⟩ := reaches_iff_leads.mp reached
      obtain ⟨_, deep, _⟩ := reaches_iff_leads.mp beside
      omega
    | breaks beside _ again =>
      obtain ⟨names, keys⟩ := distinct _ _ _ reached
      obtain ⟨leads, rfl, _⟩ := reaches_iff_leads.mp reached
      obtain ⟨alike, rfl, _⟩ := reaches_iff_leads.mp beside
      obtain rfl := leads.unique alike
      obtain ⟨rfl, _⟩ := broken.eq_of_issue again same
      rw [broken.entry_eq_of_issue again same names keys]

/-- An issue is in the report if a node on some route gives rise to it, and as often as there are
routes and broken entries that do; without repeated names, as often as there are routes. -/
theorem report_exhaustive_and_exact (options : ValidationOptions) (document : Json)
    (schema : Schema) (issue : Issue) :
    (issue ∈ report options document schema ↔
      ∃ source finding, Reported options.maxDepth document schema source finding ∧
        finding.issue = issue) ∧
    ((report options document schema).count issue : ℕ∞) =
      Set.encard {source | ∃ finding,
        Reported options.maxDepth document schema source finding ∧ finding.issue = issue} ∧
    (WithoutRepeats options.maxDepth document schema →
      ((report options document schema).count issue : ℕ∞) =
        Set.encard {route | ∃ broken finding,
          Reported options.maxDepth document schema (route, broken) finding ∧
            finding.issue = issue}) := by
  have same := report_perm_trace options document schema
  have counted : ((report options document schema).count issue : ℕ∞) =
      Set.encard {source | ∃ finding,
        Reported options.maxDepth document schema source finding ∧ finding.issue = issue} := by
    have once := Visit.nodup_trace options.maxDepth (options.maxDepth + 1) ⟨[], document, schema⟩
    simp only [reported_iff_mem_trace]
    rw [← countP_eq_encard _ (fun finding => finding.issue = issue) once, same.count_eq,
      List.count, List.countP_map]
    rfl
  refine ⟨?member, counted, fun distinct => ?routes⟩
  case member =>
    rw [same.mem_iff, List.mem_map]
    simp [reported_iff_mem_trace]
  case routes =>
    rw [counted]
    have single : Set.InjOn Prod.fst {source : Source | ∃ finding,
        Reported options.maxDepth document schema source finding ∧ finding.issue = issue} := by
      rintro ⟨route, broken⟩ ⟨finding, first, rfl⟩ ⟨_, other⟩ ⟨found, second, alike⟩ rfl
      rw [Reported.entry_unique distinct first second alike.symm]
    rw [← single.encard_image]
    congr 1
    ext route
    simp

theorem report_exhaustive_and_exact_two_routes :
    let text : Schema :=
      ⟨{ types := some (.single "string") }, none, none, none, none, none, none, []⟩
    let schema : Schema := ⟨{}, none, none, none, some [text, text], none, none, []⟩
    WithoutRepeats 1 .null schema ∧
      Set.encard {route | ∃ broken finding, Reported 1 .null schema (route, broken) finding ∧
        finding.issue = ⟨"$", "Expected type string, got null"⟩} = 2 := by
  intro text schema
  have distinct : WithoutRepeats 1 .null schema := by
    intro route visit level reached
    have place : visit.value = .null ∧ (visit.schema = schema ∨ visit.schema = text) := by
      induction reached with
      | origin => exact ⟨rfl, .inl rfl⟩
      | descend _ _ next ih =>
        obtain ⟨null, place⟩ := ih
        have member := next.mem_subschemas
        constructor
        · cases next with
          | branch => exact null
          | _ => cases null
        · rcases place with place | place <;>
            simp [place, schema, text, Schema.subschemas, Schema.declared, Schema.extraSchema?]
              at member ⊢
          exact .inr member
    obtain ⟨null, place | place⟩ := place <;> simp [null, place, schema, text]
  refine ⟨distinct, ?_⟩
  rw [← (report_exhaustive_and_exact ⟨1⟩ .null schema _).2.2 distinct]
  have counted : (report ⟨1⟩ .null schema).count ⟨"$", "Expected type string, got null"⟩ = 2 := by
    decide
  rw [counted]
  rfl

end SchemaCheck
