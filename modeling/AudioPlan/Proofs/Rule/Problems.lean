import AudioPlan.Proofs.Rule.Validation

/-!
# The problems of a document

A document is validated rule by rule, and no rule hides the problems of another one.  So the
problems of two lists of rules, one behind the other, are those of the first list followed by those
of the second, whose rules count on from there (`validate_append`).

* `Issue.path_behind` says how the path of a problem shows the rule that it is in;
* `Checked.issues_items_append` and `Checked.issues_items_add` say what the checks of a list of
  items find, at any position;
* `problems_list` says that what they find in the rules of a document is what is reported of it.
-/

namespace AudioPlan

/-! ## Places -/

/-- A position that counts on from a number; the name of a field stays. -/
def Step.behind (n : Nat) : Step → Step
  | .item position => .item (position + n)
  | .field name => .field name

/-- A problem of a rule, behind a number of other rules. -/
def Issue.behind (n : Nat) (i : Issue) : Issue :=
  { i with place := i.place.modifyHead (Step.behind n) }

/-- A problem in the rule at a position. -/
def Issue.InRule (position : Nat) (i : Issue) : Prop :=
  ∃ rest, i.place = .item position :: rest

/-- The path is written step by step behind what stands before it. -/
theorem foldl_appendTo (path : String) (steps : List Step) :
    steps.foldl Step.appendTo path = path ++ steps.foldl Step.appendTo "" := by
  induction steps generalizing path with
  | nil => simp
  | cons step steps ih =>
    have hstep : step.appendTo path = path ++ step.appendTo "" := by
      cases step with
      | field name => simp [Step.appendTo, String.append_assoc]
      | item position => simp [Step.appendTo, toString, String.append_assoc]
    rw [List.foldl_cons, List.foldl_cons, ih, ih (step.appendTo ""), hstep, String.append_assoc]

/-- The path of a problem in a rule starts with the position of the rule.  Behind other rules it is
the same path but for that position. -/
theorem Issue.path_behind {i : Issue} {position : Nat} (h : i.InRule position) (n : Nat) :
    ∃ tail : String, i.path = s!"rules[{position}]" ++ tail ∧
      (i.behind n).path = s!"rules[{position + n}]" ++ tail := by
  obtain ⟨rest, hplace⟩ := h
  have hpath : ∀ (position : Int), (Step.item position :: rest).foldl Step.appendTo "rules" =
      s!"rules[{position}]" ++ rest.foldl Step.appendTo "" := by
    intro position
    rw [List.foldl_cons, foldl_appendTo]
    rfl
  refine ⟨rest.foldl Step.appendTo "", ?_, ?_⟩
  · rw [Issue.path, hplace, hpath]
    rfl
  · have hbehind : (i.behind n).place = .item ((position + n : Nat) : Int) :: rest := by
      rw [Issue.behind, hplace]
      rfl
    rw [Issue.path, hbehind, hpath]
    rfl

/-! ## Checks of items -/

namespace Checked

variable {α : Type} {check : Value → Checked α}

theorem issues_under (step : Step) (x : Checked α) :
    (x.under step).issues = x.issues.map (Issue.under step) := by
  cases x with
  | good a => rfl
  | bad first rest => rfl

/-- The items of a second list are checked at the positions behind the first one. -/
theorem issues_items_append (position : Nat) (vs ws : List Value) :
    (items check position (vs ++ ws)).issues =
      (items check position vs).issues ++ (items check (position + vs.length) ws).issues := by
  induction vs generalizing position with
  | nil => rfl
  | cons v vs ih =>
    rw [List.cons_append, items, items, issues_both, issues_both, ih, List.append_assoc,
      List.length_cons, Nat.add_assoc, Nat.add_comm 1]

/-- At other positions the items have the same problems. -/
theorem issues_items_add (position n : Nat) (vs : List Value) :
    (items check (position + n) vs).issues =
      (items check position vs).issues.map (Issue.behind n) := by
  induction vs generalizing position with
  | nil => rfl
  | cons v vs ih =>
    have hunder : Issue.under (.item ((position + n : Nat) : Int)) =
        Issue.behind n ∘ Issue.under (.item position) := rfl
    rw [items, items, issues_both, issues_both, issues_under, issues_under, List.map_append,
      List.map_map, hunder, Nat.add_right_comm, ih]

/-- Every problem is in one of the items. -/
theorem inRule_of_mem_issues {position : Nat} {vs : List Value} {i : Issue}
    (hi : i ∈ (items check position vs).issues) :
    ∃ k < vs.length, i.InRule (position + k) := by
  induction vs generalizing position with
  | nil => exact absurd hi List.not_mem_nil
  | cons v vs ih =>
    rw [items, issues_both, List.mem_append, issues_under] at hi
    rcases hi with hi | hi
    · obtain ⟨j, -, rfl⟩ := List.mem_map.1 hi
      exact ⟨0, Nat.zero_lt_succ _, j.place, rfl⟩
    · obtain ⟨k, hk, hrule⟩ := ih hi
      refine ⟨k + 1, Nat.succ_lt_succ hk, ?_⟩
      rw [Nat.add_assoc, Nat.add_comm 1] at hrule
      exact hrule

end Checked

/-! ## Documents -/

/-- The problems that are reported of a document. -/
def problems (d : Value) : List Issue :=
  match validate d with
  | .ok _ => []
  | .error rejection => rejection.allIssues

/-- The problems that are found in the rules of a document. -/
def ruleIssues (rules : List Value) : List Issue :=
  (Checked.items checkRule 0 rules).issues

/-- Rules without a problem make a rule set, the others are rejected with all their problems. -/
theorem validate_list (rules : List Value) :
    (ruleIssues rules = [] ∧ ∃ rs, validate (.list rules) = .ok rs) ∨
      ∃ first rest, ruleIssues rules = first :: rest ∧
        validate (.list rules) = .error (.ofIssues first rest) := by
  rw [validate, ruleIssues]
  cases Checked.items checkRule 0 rules with
  | good read => exact .inl ⟨rfl, ⟨read⟩, rfl⟩
  | bad first rest => exact .inr ⟨first, rest, rfl, rfl⟩

theorem Rejection.ofIssues_eq_uncountable_iff {first : Issue} {rest : List Issue} :
    Rejection.ofIssues first rest = .uncountable ↔
      ∃ i ∈ first :: rest, i.cause = .uncountable := by
  rw [Rejection.ofIssues]
  split
  · rename_i hany
    simpa using hany
  · rename_i hany
    simpa using hany

/-- The problems of a document are reported unless one of them is that of a pattern with too many
rounds. -/
theorem validate_eq_uncountable_iff {rules : List Value} :
    validate (.list rules) = .error .uncountable ↔
      ∃ i ∈ ruleIssues rules, i.cause = .uncountable := by
  rcases validate_list rules with ⟨hnil, rs, hrs⟩ | ⟨first, rest, hissues, hrejected⟩
  · simp [hnil, hrs]
  · rw [hissues, hrejected, Except.error.injEq, Rejection.ofIssues_eq_uncountable_iff]

/-- A rejection whose problems are reported starts with the first of them. -/
theorem validate_eq_error {rules : List Value} {rejection : Rejection}
    (hreported : validate (.list rules) ≠ .error .uncountable)
    (h : validate (.list rules) = .error rejection) :
    ∃ first rest, rejection = .issues first rest ∧ ruleIssues rules = first :: rest := by
  rcases validate_list rules with ⟨-, rs, hrs⟩ | ⟨first, rest, hissues, hrejected⟩
  · rw [hrs] at h
    cases h
  · rw [hrejected] at h hreported
    cases h
    refine ⟨first, rest, ?_, hissues⟩
    rw [Rejection.ofIssues] at hreported ⊢
    split at hreported
    · exact absurd rfl hreported
    · rename_i hany
      rw [if_neg hany]

/-- What is reported is what was found. -/
theorem problems_list {rules : List Value} (h : validate (.list rules) ≠ .error .uncountable) :
    problems (.list rules) = ruleIssues rules := by
  rcases validate_list rules with ⟨hnil, rs, hrs⟩ | ⟨_, _, -, hrejected⟩
  · rw [problems, hrs, hnil]
  · obtain ⟨first, rest, hrejection, hissues⟩ := validate_eq_error h hrejected
    rw [problems, hrejected, hrejection, hissues]
    rfl

theorem ruleIssues_append (d e : List Value) :
    ruleIssues (d ++ e) = ruleIssues d ++ (ruleIssues e).map (Issue.behind d.length) := by
  rw [ruleIssues, Checked.issues_items_append, Checked.issues_items_add]
  rfl

/-- Two lists of rules whose problems are reported have their problems reported together. -/
theorem validate_append_ne_uncountable {d e : List Value}
    (hd : validate (.list d) ≠ .error .uncountable)
    (he : validate (.list e) ≠ .error .uncountable) :
    validate (.list (d ++ e)) ≠ .error .uncountable := by
  rw [ne_eq, validate_eq_uncountable_iff] at hd he ⊢
  rintro ⟨i, hi, hcause⟩
  rw [ruleIssues_append, List.mem_append, List.mem_map] at hi
  rcases hi with hi | ⟨j, hj, rfl⟩
  · exact hd ⟨i, hi, hcause⟩
  · exact he ⟨j, hj, hcause⟩

/-- Two lists of rules make a rule set together if each of them makes one. -/
theorem validate_append_eq_ok {d e : List Value} {rs : RuleSet} :
    validate (.list (d ++ e)) = .ok rs ↔ ∃ first second, validate (.list d) = .ok first ∧
      validate (.list e) = .ok second ∧ rs.rules = first.rules ++ second.rules := by
  simp only [validate_eq_ok, Value.list.injEq, exists_eq_left']
  constructor
  · intro hrules
    have hflip : List.Forall₂ (fun r v => checkRule v = .good r) rs.rules (d ++ e) := hrules.flip
    exact ⟨⟨rs.rules.take d.length⟩, ⟨rs.rules.drop d.length⟩,
      (List.forall₂_take_append _ _ _ hflip).flip, (List.forall₂_drop_append _ _ _ hflip).flip,
      (List.take_append_drop _ _).symm⟩
  · rintro ⟨first, second, hfirst, hsecond, hrules⟩
    rw [hrules]
    exact List.rel_append hfirst hsecond

/-- Two lists of rules, one behind the other, are a rule set exactly when both are, and its rules
are those of both.  Otherwise all problems of the first list are reported and then all problems of
the second, whose rules count on from there; the rejection has the place and the wording of the
first problem. -/
theorem validate_append {d e : List Value} (hd : validate (.list d) ≠ .error .uncountable)
    (he : validate (.list e) ≠ .error .uncountable) :
    (∀ rs, validate (.list (d ++ e)) = .ok rs ↔ ∃ first second, validate (.list d) = .ok first ∧
      validate (.list e) = .ok second ∧ rs.rules = first.rules ++ second.rules) ∧
    (∀ rejection, validate (.list (d ++ e)) = .error rejection → ∃ first rest,
      rejection.allIssues = first :: rest ∧
      first :: rest = problems (.list d) ++ (problems (.list e)).map (Issue.behind d.length) ∧
      rejection.path = first.path ∧ rejection.message = first.path ++ ": " ++ first.message) ∧
    ∀ i ∈ problems (.list e), ∃ (k : Nat) (tail : String), k < e.length ∧
      i.path = s!"rules[{k}]" ++ tail ∧
      (i.behind d.length).path = s!"rules[{k + d.length}]" ++ tail ∧
      (i.behind d.length).cause = i.cause := by
  rw [problems_list hd, problems_list he]
  refine ⟨fun _ => validate_append_eq_ok, ?_, ?_⟩
  · intro rejection h
    obtain ⟨first, rest, rfl, hissues⟩ :=
      validate_eq_error (validate_append_ne_uncountable hd he) h
    refine ⟨first, rest, rfl, ?_, rfl, rfl⟩
    rw [← hissues, ruleIssues_append]
  · intro i hi
    obtain ⟨k, hk, hrule⟩ := Checked.inRule_of_mem_issues hi
    rw [Nat.zero_add] at hrule
    obtain ⟨tail, hpath, hbehind⟩ := Issue.path_behind hrule d.length
    exact ⟨k, tail, hk, hpath, hbehind, rfl⟩

/-- A rule without codecs. -/
def rulesWithoutCodecs : List Value :=
  [.map [("match", .map [("bitrate", .text "many")]), ("operations", .list [])]]

/-- A rule with an operation that is none, and a text in place of a rule. -/
def rulesWithoutOperation : List Value :=
  [.map [("match", .map [("codecs", .text "*")]), ("operations", .list [.map []])], .text "rule"]

/-- Two problems of the first list and two of the second, one behind the other. -/
theorem validate_append_problems :
    validate (.list rulesWithoutCodecs) ≠ .error .uncountable ∧
      validate (.list rulesWithoutOperation) ≠ .error .uncountable ∧
      ∃ rejection, validate (.list (rulesWithoutCodecs ++ rulesWithoutOperation)) =
          .error rejection ∧
        rejection.allIssues.map Issue.path = ["rules[0].match.codecs", "rules[0].match.bitrate",
          "rules[1].operations[0]", "rules[2]"] ∧
        rejection.message = "rules[0].match.codecs: Field required" := by
  have hd : problems (.list rulesWithoutCodecs) =
      [⟨[.item 0, .field "match", .field "codecs"], .missing⟩,
        ⟨[.item 0, .field "match", .field "bitrate"], .badCondition "many"⟩] := by
    decide +kernel
  have he : problems (.list rulesWithoutOperation) =
      [⟨[.item 0, .field "operations", .item 0], .notOneOperation⟩,
        ⟨[.item 1], .notObject .rule⟩] := by
    decide +kernel
  have hreported : ∀ v, validate v = .error .uncountable → problems v = [] := by
    intro v hv
    rw [problems, hv]
    rfl
  have hdreported : validate (.list rulesWithoutCodecs) ≠ .error .uncountable := by
    intro h
    rw [hreported _ h] at hd
    cases hd
  have hereported : validate (.list rulesWithoutOperation) ≠ .error .uncountable := by
    intro h
    rw [hreported _ h] at he
    cases he
  obtain ⟨hok, herror, -⟩ := validate_append hdreported hereported
  refine ⟨hdreported, hereported, ?_⟩
  cases hboth : validate (.list (rulesWithoutCodecs ++ rulesWithoutOperation)) with
  | ok rs =>
    obtain ⟨first, -, hfirst, -⟩ := (hok rs).1 hboth
    rw [problems, hfirst] at hd
    cases hd
  | error rejection =>
    obtain ⟨first, rest, hissues, happend, -, hmessage⟩ := herror rejection hboth
    rw [hd, he] at happend
    refine ⟨rejection, rfl, ?_, ?_⟩
    · rw [hissues, happend]
      decide +kernel
    · rw [hmessage, (List.cons.inj happend).1]
      decide +kernel

end AudioPlan
