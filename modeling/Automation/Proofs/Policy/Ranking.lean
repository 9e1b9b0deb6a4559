import Automation.Policy.Matcher
import Mathlib.Algebra.BigOperators.Group.List.Basic
import Mathlib.Algebra.GroupWithZero.Nat
import Mathlib.Data.List.Pairwise
import Mathlib.Data.List.Perm.Basic

/-!
# The order of actions

The policies that apply to an event are ranked: the highest priority comes first, and policies of
equal priority keep the order in which they are configured. There is one ranking of a list of
policies, and the actions asked for are those of the policies in that ranking, one policy after the
other.

## Main definitions

* `Policy.Ranks` — a list ranks the policies of another one that apply to an event.

## Main statements

* `Policy.ranks_applicable`, `Policy.Ranks.eq` — there is a ranking, and only one.
* `Policy.matchActions_ranked` — the actions asked for, and what they do not depend on.
-/

namespace Automation

/-- A stable sort leaves elements in their order that are tied with each other. -/
theorem filter_mergeSort_of_tied {α : Type} {le : α → α → Bool}
    (htrans : ∀ a b c, le a b = true → le b c = true → le a c = true)
    (htotal : ∀ a b, (le a b || le b a) = true) {keep : α → Bool}
    (htied : ∀ a b, keep a = true → keep b = true → le a b = true) (l : List α) :
    (l.mergeSort le).filter keep = l.filter keep := by
  have hsorted : (l.filter keep).Pairwise fun a b => le a b = true := by
    refine List.pairwise_of_forall_mem_list fun a ha b hb => ?_
    exact htied a b (List.of_mem_filter ha) (List.of_mem_filter hb)
  have hsublist : (l.filter keep).Sublist ((l.mergeSort le).filter keep) := by
    have h := (List.sublist_mergeSort htrans htotal hsorted List.filter_sublist).filter keep
    simpa only [List.filter_filter, Bool.and_self] using h
  exact (hsublist.eq_of_length ((List.mergeSort_perm l le).filter keep).length_eq.symm).symm

namespace Policy

/-- The policies of a list that apply to an event, the highest priority first and those of one
priority as they are configured. -/
structure Ranks (event : Event) (policies ranking : List Policy) : Prop where
  descending : ranking.Pairwise fun p q => q.priority ≤ p.priority
  configured : ∀ level : Int, ranking.filter (fun p => p.priority = level) =
    policies.filter fun p => p.applies event && decide (p.priority = level)

variable {event : Event} {policies others ranking ranking' : List Policy}

theorem ranks_applicable (event : Event) (policies : List Policy) :
    Ranks event policies (applicable event policies) := by
  have htrans : ∀ p q r : Policy, decide (q.priority ≤ p.priority) = true →
      decide (r.priority ≤ q.priority) = true → decide (r.priority ≤ p.priority) = true := by
    intro p q r hpq hqr
    rw [decide_eq_true_eq] at hpq hqr ⊢
    exact Int.le_trans hqr hpq
  have htotal : ∀ p q : Policy,
      (decide (q.priority ≤ p.priority) || decide (p.priority ≤ q.priority)) = true := by
    intro p q
    rw [Bool.or_eq_true, decide_eq_true_eq, decide_eq_true_eq]
    exact Int.le_total q.priority p.priority
  constructor
  · have h := List.pairwise_mergeSort htrans htotal (policies.filter (·.applies event))
    exact h.imp of_decide_eq_true
  · intro level
    rw [applicable, filter_mergeSort_of_tied htrans htotal, List.filter_filter]
    · exact congrArg (policies.filter ·) (funext fun p => Bool.and_comm _ _)
    · intro p q hp hq
      rw [decide_eq_true_eq] at hp hq ⊢
      exact Int.le_of_eq (hq.trans hp.symm)

theorem mem_iff_of_filter_eq (h : ∀ level : Int, ranking.filter (fun p => p.priority = level) =
    ranking'.filter fun p => p.priority = level) (p : Policy) : p ∈ ranking ↔ p ∈ ranking' := by
  have hp : p ∈ ranking.filter (fun q => q.priority = p.priority) ↔
      p ∈ ranking'.filter fun q => q.priority = p.priority := by rw [h]
  simpa using hp

/-- A list that is ordered by priority is known from the policies that it has of each priority. -/
theorem eq_of_filter_eq (h : ranking.Pairwise fun p q => q.priority ≤ p.priority)
    (h' : ranking'.Pairwise fun p q => q.priority ≤ p.priority)
    (heq : ∀ level : Int, ranking.filter (fun p => p.priority = level) =
      ranking'.filter fun p => p.priority = level) : ranking = ranking' := by
  induction ranking generalizing ranking' with
  | nil =>
    cases ranking' with
    | nil => rfl
    | cons q rest' =>
      exact absurd ((mem_iff_of_filter_eq heq q).mpr List.mem_cons_self) List.not_mem_nil
  | cons p rest ih =>
    cases ranking' with
    | nil => exact absurd ((mem_iff_of_filter_eq heq p).mp List.mem_cons_self) List.not_mem_nil
    | cons q rest' =>
      obtain ⟨hhead, htail⟩ := List.pairwise_cons.mp h
      obtain ⟨hhead', htail'⟩ := List.pairwise_cons.mp h'
      -- both heads have the highest priority that there is, so both are the first of it
      have hle : p.priority ≤ q.priority := by
        rcases List.mem_cons.mp ((mem_iff_of_filter_eq heq p).mp List.mem_cons_self) with rfl | hp
        · exact Int.le_refl _
        · exact hhead' p hp
      have hge : q.priority ≤ p.priority := by
        rcases List.mem_cons.mp ((mem_iff_of_filter_eq heq q).mpr List.mem_cons_self) with rfl | hq
        · exact Int.le_refl _
        · exact hhead q hq
      have hequal : q.priority = p.priority := Int.le_antisymm hge hle
      have hlevel := heq p.priority
      rw [List.filter_cons_of_pos (by simp), List.filter_cons_of_pos (by simp [hequal])] at hlevel
      obtain rfl : p = q := (List.cons.inj hlevel).1
      have hrest : rest = rest' := by
        refine ih htail htail' fun level => ?_
        have hlevel := heq level
        rw [List.filter_cons, List.filter_cons] at hlevel
        split at hlevel
        · exact (List.cons.inj hlevel).2
        · exact hlevel
      rw [hrest]

/-- There is one ranking only. -/
theorem Ranks.eq (h : Ranks event policies ranking) (h' : Ranks event policies ranking') :
    ranking = ranking' :=
  eq_of_filter_eq h.descending h'.descending fun level =>
    (h.configured level).trans (h'.configured level).symm

theorem matchActions_eq_of_ranks (h : Ranks event policies ranking) :
    matchActions event policies = ranking.flatMap Policy.actions := by
  rw [matchActions, (ranks_applicable event policies).eq h]

/-- Actions come as often as the policies that apply have them. -/
theorem count_matchActions (event : Event) (policies : List Policy) (action : Action) :
    (matchActions event policies).count action =
      ((policies.filter (·.applies event)).map fun p => p.actions.count action).sum := by
  rw [matchActions, List.count_flatMap]
  exact ((List.mergeSort_perm _ _).map _).sum_eq

/-- What is asked for depends on the policies of each priority that apply, and on their order. -/
theorem matchActions_eq_of_filter_eq
    (h : ∀ level : Int, others.filter (fun p => p.applies event && decide (p.priority = level)) =
      policies.filter fun p => p.applies event && decide (p.priority = level)) :
    matchActions event others = matchActions event policies := by
  have hranks := ranks_applicable event policies
  have hothers : Ranks event others (applicable event policies) :=
    ⟨hranks.descending, fun level => (hranks.configured level).trans (h level).symm⟩
  exact matchActions_eq_of_ranks hothers

theorem matchActions_insert {front skipped back : List Policy}
    (h : ∀ p ∈ skipped, p.applies event = false) :
    matchActions event (front ++ skipped ++ back) = matchActions event (front ++ back) := by
  refine matchActions_eq_of_filter_eq fun level => ?_
  have hnone : skipped.filter (fun p => p.applies event && decide (p.priority = level)) = [] := by
    refine List.filter_eq_nil_iff.mpr fun p hp => ?_
    simp [h p hp]
  rw [List.filter_append, List.filter_append, hnone, List.append_nil, List.filter_append]

/-- Rankings of the same policies in another order have the same priorities one after the other, and
the same policies of each priority. -/
theorem Ranks.perm (hperm : policies.Perm others) (h : Ranks event policies ranking)
    (h' : Ranks event others ranking') :
    ranking.map Policy.priority = ranking'.map Policy.priority ∧
      ∀ level : Int, (ranking.filter fun p => p.priority = level).Perm
        (ranking'.filter fun p => p.priority = level) := by
  have hlevel : ∀ level : Int, (ranking.filter fun p => p.priority = level).Perm
      (ranking'.filter fun p => p.priority = level) := by
    intro level
    rw [h.configured, h'.configured]
    exact hperm.filter _
  refine ⟨?_, hlevel⟩
  have hpriorities : (ranking.map Policy.priority).Perm (ranking'.map Policy.priority) := by
    rw [h.eq (ranks_applicable event policies), h'.eq (ranks_applicable event others)]
    refine List.Perm.map _ ((List.mergeSort_perm _ _).trans ?_)
    exact (hperm.filter _).trans (List.mergeSort_perm _ _).symm
  refine hpriorities.eq_of_pairwise (fun m n _ _ hmn hnm => Int.le_antisymm hnm hmn) ?_ ?_
  · exact List.pairwise_map.mpr h.descending
  · exact List.pairwise_map.mpr h'.descending

/-- The actions asked for are those of the policies that apply, in their ranking, each policy's own
in their own order. Each action comes as often as the policies that apply have it. Policies that do
not apply can be put in or left out anywhere. A change in the order of the policies changes nothing
but the places of policies of one priority among themselves, and nothing at all when the policies of
each priority that apply keep their order. -/
theorem matchActions_ranked (event : Event) (policies : List Policy) :
    (∃ ranking, Ranks event policies ranking) ∧
      (∀ ranking, Ranks event policies ranking →
        matchActions event policies = ranking.flatMap Policy.actions) ∧
      (∀ action, (matchActions event policies).count action =
        ((policies.filter (·.applies event)).map fun p => p.actions.count action).sum) ∧
      (∀ front skipped back, policies = front ++ back →
        (∀ p ∈ skipped, p.applies event = false) →
          matchActions event (front ++ skipped ++ back) = matchActions event policies) ∧
      (∀ others ranking ranking', policies.Perm others → Ranks event policies ranking →
        Ranks event others ranking' →
          matchActions event others = ranking'.flatMap Policy.actions ∧
          ranking.map Policy.priority = ranking'.map Policy.priority ∧
          ∀ level : Int, (ranking.filter fun p => p.priority = level).Perm
            (ranking'.filter fun p => p.priority = level)) ∧
      ∀ others, (∀ level : Int,
        others.filter (fun p => p.applies event && decide (p.priority = level)) =
          policies.filter fun p => p.applies event && decide (p.priority = level)) →
        matchActions event others = matchActions event policies := by
  refine ⟨⟨_, ranks_applicable event policies⟩, fun _ => matchActions_eq_of_ranks,
    count_matchActions event policies, ?_, ?_, fun _ => matchActions_eq_of_filter_eq⟩
  · rintro front skipped back rfl hskipped
    exact matchActions_insert hskipped
  · intro others ranking ranking' hperm h h'
    exact ⟨matchActions_eq_of_ranks h', h.perm hperm h'⟩

/-- A missed call. -/
def missedCall : Event := ⟨.number 1, "acme", .number 42, "call.missed", [], ⟨0, 0⟩⟩

/-- A rule that puts a label on what fits a pattern. -/
def labelRule (pattern label : String) (priority : Int) : Policy :=
  ⟨pattern, none, [⟨"add_label", [("label", .str label)]⟩], priority⟩

theorem matchActions_ranked_missedCall :
    let late := labelRule "*" "late" 1
    let early := labelRule "call.*" "early" 5
    let next := labelRule "call.missed" "next" 5
    let mail := labelRule "mail.*" "mail" 9
    matchActions missedCall [late, early, next] =
        early.actions ++ next.actions ++ late.actions ∧
      (matchActions missedCall [late, early, next]).count ⟨"add_label", [("label", .str "next")]⟩ =
        1 ∧
      matchActions missedCall [late, mail, early, next] =
        matchActions missedCall [late, early, next] ∧
      matchActions missedCall [late, next, early] =
        next.actions ++ early.actions ++ late.actions ∧
      matchActions missedCall [early, late, next] =
        matchActions missedCall [late, early, next] := by
  intro late early next mail
  have hranks : ∀ first second : Policy, first.priority = 5 → second.priority = 5 →
      first.applies missedCall = true → second.applies missedCall = true →
        Ranks missedCall [late, first, second] [first, second, late] := by
    intro first second hfirst hsecond happlies happlies'
    have hlate : late.priority = 1 ∧ late.applies missedCall = true := by decide
    refine ⟨by simp [hfirst, hsecond, hlate], fun level => ?_⟩
    by_cases hfive : level = 5
    · simp [hfirst, hsecond, happlies, happlies', hlate, hfive]
    · simp [List.filter_cons, hfirst, hsecond, happlies, happlies', hlate, Ne.symm hfive]
  have hearly := hranks early next rfl rfl (by decide) (by decide)
  have hnext := hranks next early rfl rfl (by decide) (by decide)
  obtain ⟨-, hactions, hcount, hskip, hperm, hsame⟩ :=
    matchActions_ranked missedCall [late, early, next]
  refine ⟨hactions _ hearly, (hcount _).trans (by decide), ?_, ?_, hsame _ fun level => ?_⟩
  · exact hskip [late] [mail] [early, next] rfl (by decide)
  · exact (hperm _ _ _ ((List.Perm.swap next early []).cons late) hearly hnext).1
  · have hlate : late.priority = 1 ∧ early.priority = 5 ∧ next.priority = 5 := by decide
    by_cases hfive : level = 5
    · simp [List.filter_cons, hlate, hfive]
    · simp [List.filter_cons, hlate, Ne.symm hfive]

end Policy

end Automation
