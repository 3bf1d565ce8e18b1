import Runbook.Proofs.Document.Span
import Runbook.Proofs.Run.Call

/-!
# The order of steps

The steps of a plan are the directives that name a phase, stably sorted by the order in which the
phases run. A stable sort puts the groups of its keys one behind the other, which is how a plan
holds its steps.
-/

namespace Runbook

section Sorting

variable {α : Type} (key : α → Nat)

theorem decide_key_trans (a b c : α) (hab : decide (key a ≤ key b) = true)
    (hbc : decide (key b ≤ key c) = true) : decide (key a ≤ key c) = true := by
  simp only [decide_eq_true_eq] at hab hbc ⊢
  omega

theorem decide_key_total (a b : α) :
    (decide (key a ≤ key b) || decide (key b ≤ key a)) = true := by
  simp only [Bool.or_eq_true, decide_eq_true_eq]
  omega

/-- Sorting by a key leaves entries of the same key in their order. -/
theorem filter_mergeSort_key (l : List α) (k : Nat) :
    (l.mergeSort fun a b => key a ≤ key b).filter (key · = k) = l.filter (key · = k) := by
  have level : (l.filter (key · = k)).Pairwise fun a b => decide (key a ≤ key b) = true := by
    refine List.pairwise_filter.mpr (List.pairwise_of_forall fun a b ha hb => ?_)
    simp only [decide_eq_true_eq] at ha hb ⊢
    omega
  have kept := (List.sublist_mergeSort (decide_key_trans key) (decide_key_total key) level
    List.filter_sublist).filter (key · = k)
  have perm := (List.mergeSort_perm l fun a b => decide (key a ≤ key b)).filter (key · = k)
  simp only [List.filter_filter, Bool.and_self] at kept
  exact (kept.eq_of_length perm.length_eq.symm).symm

/-- A list that is sorted by a key has the entries of its least key in front. -/
theorem filter_append_filter_of_sorted {l : List α} {k : Nat}
    (sorted : l.Pairwise fun a b => key a ≤ key b) (least : ∀ a ∈ l, k ≤ key a) :
    l.filter (key · = k) ++ l.filter (key · ≠ k) = l := by
  induction l with
  | nil => rfl
  | cons a l ih =>
      rw [List.pairwise_cons] at sorted
      rw [List.forall_mem_cons] at least
      by_cases ha : key a = k
      · simpa [ha] using ih sorted.2 least.2
      · have none : l.filter (key · = k) = [] := by
          rw [List.filter_eq_nil_iff]
          intro b hb
          have above := sorted.1 b hb
          simp only [decide_eq_true_eq]
          omega
        have all : l.filter (key · ≠ k) = l := by
          rw [List.filter_eq_self]
          intro b hb
          have above := sorted.1 b hb
          simp only [decide_eq_true_eq]
          omega
        rw [List.filter_cons_of_neg (by simpa using ha), List.filter_cons_of_pos (by simpa using ha),
          none, all, List.nil_append]

/-- A list that is sorted by a key consists of its groups, one for each key in turn. -/
theorem flatMap_filter_of_sorted {l : List α} {keys : List Nat}
    (increasing : keys.Pairwise (· < ·)) (sorted : l.Pairwise fun a b => key a ≤ key b)
    (covered : ∀ a ∈ l, key a ∈ keys) : keys.flatMap (fun k => l.filter (key · = k)) = l := by
  induction keys generalizing l with
  | nil =>
      cases l with
      | nil => rfl
      | cons a l => exact absurd (covered a List.mem_cons_self) List.not_mem_nil
  | cons k keys ih =>
      rw [List.pairwise_cons] at increasing
      have least : ∀ a ∈ l, k ≤ key a := by
        intro a ha
        obtain same | later := List.mem_cons.mp (covered a ha)
        · exact Nat.le_of_eq same.symm
        · exact Nat.le_of_lt (increasing.1 _ later)
      have behind : ∀ a ∈ l.filter (key · ≠ k), key a ∈ keys := by
        intro a ha
        obtain ⟨mem, other⟩ := List.mem_filter.mp ha
        exact (List.mem_cons.mp (covered a mem)).resolve_left (by simpa using other)
      have same : keys.map (fun k' => l.filter (key · = k')) =
          keys.map fun k' => (l.filter (key · ≠ k)).filter (key · = k') := by
        refine List.map_congr_left fun k' hk => ?_
        have later := increasing.1 k' hk
        rw [List.filter_filter]
        refine List.filter_congr fun a _ => ?_
        by_cases ha : key a = k'
        · simp [ha, Nat.ne_of_gt later]
        · simp [ha]
      have rest := ih increasing.2 (sorted.filter (key · ≠ k)) behind
      rw [List.flatMap_def, ← same, ← List.flatMap_def] at rest
      rw [List.flatMap_cons, rest, filter_append_filter_of_sorted key sorted least]

/-- Sorting by a key puts the groups of the keys one behind the other. -/
theorem mergeSort_key_eq_flatMap {l : List α} {keys : List Nat}
    (increasing : keys.Pairwise (· < ·)) (covered : ∀ a ∈ l, key a ∈ keys) :
    (l.mergeSort fun a b => key a ≤ key b) = keys.flatMap fun k => l.filter (key · = k) := by
  have sorted : (l.mergeSort fun a b => key a ≤ key b).Pairwise fun a b => key a ≤ key b := by
    have ordered := List.pairwise_mergeSort (decide_key_trans key) (decide_key_total key) l
    simpa only [decide_eq_true_eq] using ordered
  have kept : ∀ a ∈ l.mergeSort (fun a b => key a ≤ key b), key a ∈ keys := by
    intro a ha
    exact covered a ((List.mergeSort_perm l _).mem_iff.mp ha)
  have groups := flatMap_filter_of_sorted key increasing sorted kept
  simpa only [filter_mergeSort_key] using groups.symm

end Sorting

namespace Phase

/-- The place of a phase in the order in which the phases run. -/
def rank (phase : Phase) : Nat := all.idxOf phase

theorem mem_all (phase : Phase) : phase ∈ all := by cases phase <;> decide

theorem rank_inj {a b : Phase} : a.rank = b.rank ↔ a = b := by
  cases a <;> cases b <;> decide

theorem name_inj {a b : Phase} : a.name = b.name ↔ a = b := by
  cases a <;> cases b <;> decide

theorem ofName?_eq_some_iff {s : String} {phase : Phase} :
    ofName? s = some phase ↔ s = phase.name := by
  constructor
  · intro h
    simpa [ofName?, eq_comm] using List.find?_some h
  · rintro rfl
    cases phase <;> decide

theorem ofName?_eq_none_iff {s : String} : ofName? s = none ↔ ∀ phase : Phase, s ≠ phase.name := by
  simp [Option.eq_none_iff_forall_ne_some, ofName?_eq_some_iff]

end Phase

namespace Plan

/-- The directives that name a phase, each with its phase, in document order. -/
def assigned (directives : List Directive) : List (Phase × Directive) :=
  directives.filterMap fun directive => (Phase.ofName? directive.kind).map (·, directive)

/-- The directives that name a phase, stably sorted by the order in which the phases run. -/
def inRunOrder (directives : List Directive) : List (Phase × Directive) :=
  (assigned directives).mergeSort fun a b => a.1.rank ≤ b.1.rank

theorem assigned_cons (directive : Directive) (directives : List Directive) :
    assigned (directive :: directives) =
      ((Phase.ofName? directive.kind).map (·, directive)).toList ++ assigned directives := by
  rw [assigned, List.filterMap_cons]
  cases Phase.ofName? directive.kind <;> rfl

/-- The directives of a phase are those whose kind is its name. -/
theorem filter_assigned (directives : List Directive) (phase : Phase) :
    (assigned directives).filter (·.1.rank = phase.rank) =
      (directives.filter fun directive => directive.kind = phase.name).map (phase, ·) := by
  induction directives with
  | nil => rfl
  | cons directive directives ih =>
      rw [assigned_cons, List.filter_append, ih]
      cases h : Phase.ofName? directive.kind with
      | none =>
          simp [Phase.ofName?_eq_none_iff.mp h phase]
      | some named =>
          have kind := Phase.ofName?_eq_some_iff.mp h
          by_cases same : named = phase
          · simp [kind, same]
          · simp [kind, Phase.rank_inj, Phase.name_inj, same]

/-- The agenda of a plan is given by the directives of its document in run order. -/
theorem agenda_ofDirectives (metadata : Metadata) (directives : List Directive) :
    (ofDirectives metadata directives).agenda Phase.all =
      (inRunOrder directives).map fun item => (item.1, stepOf item.2) := by
  have increasing : (Phase.all.map Phase.rank).Pairwise (· < ·) := by decide
  have covered : ∀ item ∈ assigned directives, item.1.rank ∈ Phase.all.map Phase.rank :=
    fun item _ => List.mem_map_of_mem (Phase.mem_all item.1)
  have groups := mergeSort_key_eq_flatMap (fun item : Phase × Directive => item.1.rank)
    increasing covered
  simp only [List.flatMap_map, filter_assigned] at groups
  rw [inRunOrder, groups, agenda, List.map_flatMap]
  simp [ofDirectives, stepsOf, Function.comp_def]

/-- The contents in run order are those of one phase after the other. -/
theorem map_content_inRunOrder (directives : List Directive) :
    (inRunOrder directives).map (·.2.content) =
      Phase.all.flatMap fun phase =>
        (directives.filter fun directive => directive.kind = phase.name).map (·.content) := by
  have agenda := congrArg (List.map fun item => item.2.shell) (agenda_ofDirectives [] directives)
  rw [List.map_map] at agenda
  refine agenda.symm.trans ?_
  simp [Plan.agenda, ofDirectives, stepsOf, stepOf, List.map_flatMap, Function.comp_def]

theorem map_snd_assigned (directives : List Directive) :
    (assigned directives).map Prod.snd =
      directives.filter fun directive => directive.kind ∈ Phase.all.map Phase.name := by
  induction directives with
  | nil => rfl
  | cons directive directives ih =>
      rw [assigned_cons, List.map_append, ih]
      cases h : Phase.ofName? directive.kind with
      | none =>
          have unnamed : directive.kind ∉ Phase.all.map Phase.name := by
            intro mem
            obtain ⟨phase, -, same⟩ := List.mem_map.mp mem
            exact Phase.ofName?_eq_none_iff.mp h phase same.symm
          rw [List.filter_cons_of_neg (by simpa using unnamed)]
          rfl
      | some named =>
          have kind := Phase.ofName?_eq_some_iff.mp h
          have mem : directive.kind ∈ Phase.all.map Phase.name := by
            rw [kind]
            exact List.mem_map_of_mem (Phase.mem_all named)
          rw [List.filter_cons_of_pos (by simpa using mem)]
          rfl

/-- The run order holds the directives that name a phase, each as often as the document does. -/
theorem inRunOrder_perm (directives : List Directive) :
    ((inRunOrder directives).map Prod.snd).Perm
      (directives.filter fun directive => directive.kind ∈ Phase.all.map Phase.name) := by
  rw [← map_snd_assigned]
  exact (List.mergeSort_perm _ _).map Prod.snd

theorem allSteps_eq_map_agenda (plan : Plan) :
    plan.allSteps = (plan.agenda Phase.all).map Prod.snd := by
  simp [allSteps, agenda, List.map_flatMap, Function.comp_def]

/-- The steps of the plan of a document have places of their own, in whatever phases they are. -/
theorem nodup_identities (metadata : Metadata) (text source : String) :
    ((ofDirectives metadata (Directive.ofText text source)).allSteps.map Step.identity).Nodup := by
  have places : (ofDirectives metadata (Directive.ofText text source)).allSteps.map Step.identity =
      ((inRunOrder (Directive.ofText text source)).map Prod.snd).map Directive.place := by
    rw [allSteps_eq_map_agenda, agenda_ofDirectives]
    simp [Function.comp_def, Step.identity, Directive.place, stepOf]
  have perm := (inRunOrder_perm (Directive.ofText text source)).map Directive.place
  rw [places, perm.nodup_iff]
  exact (Directive.nodup_places text source).sublist (List.filter_sublist.map _)

end Plan

end Runbook
