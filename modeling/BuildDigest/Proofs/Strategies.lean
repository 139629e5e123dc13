import BuildDigest.Summary.Tests

set_option autoImplicit false

namespace BuildDigest.Summary

namespace Strategy

-- The strategy of attempts that tell theirs: none, the one that they share, or a word for several.
inductive Common (told : List String) : String → Prop where
  | none (nobody : told = []) : Common told unset
  | one (s : String) (somebody : told ≠ []) (same : ∀ t ∈ told, t = s) : Common told s
  | several (s t : String) (first : s ∈ told) (second : t ∈ told) (differ : s ≠ t) :
      Common told mixed

theorem Common.unique (told : List String) (s t : String) (left : Common told s)
    (right : Common told t) : s = t := by
  cases left with
  | none nobody =>
    subst nobody
    cases right with
    | none => rfl
    | one _ somebody => exact absurd rfl somebody
    | several _ _ first => exact absurd first List.not_mem_nil
  | one _ somebody same =>
    obtain ⟨a, member⟩ := List.exists_mem_of_ne_nil told somebody
    cases right with
    | none nobody => exact absurd nobody somebody
    | one _ _ alike => exact (same a member).symm.trans (alike a member)
    | several x y first second differ =>
      exact absurd ((same x first).trans (same y second).symm) differ
  | several x y first second differ =>
    cases right with
    | none nobody =>
      subst nobody
      exact absurd first List.not_mem_nil
    | one _ _ same => exact absurd ((same x first).trans (same y second).symm) differ
    | several => rfl

theorem join_mixed (told : List String) : told.foldl join mixed = mixed := by
  induction told with
  | nil => rfl
  | cons t rest ih =>
    have step : join mixed t = mixed := by
      by_cases same : mixed = t
      · subst same
        rfl
      · exact (if_neg (by decide)).trans (if_pos same)
    rw [List.foldl_cons, step, ih]

theorem join_known (s : String) (known : s ≠ unset) (told : List String) :
    (told.foldl join s = s ∧ ∀ t ∈ told, t = s) ∨
      (told.foldl join s = mixed ∧ ∃ t ∈ told, s ≠ t) := by
  induction told with
  | nil => exact .inl ⟨rfl, fun t member => absurd member List.not_mem_nil⟩
  | cons t rest ih =>
    rw [List.foldl_cons, join, if_neg known]
    by_cases same : s = t
    · subst same
      rw [if_neg (not_not_intro rfl)]
      rcases ih with ⟨joined, agree⟩ | ⟨joined, t, member, differ⟩
      · exact .inl ⟨joined, List.forall_mem_cons.2 ⟨rfl, agree⟩⟩
      · exact .inr ⟨joined, t, List.mem_cons_of_mem _ member, differ⟩
    · rw [if_pos same]
      exact .inr ⟨join_mixed rest, t, List.mem_cons_self, same⟩

-- The attempts at the head that tell the word for none are passed over.
theorem join_unset (told : List String) :
    Common (told.dropWhile (· = unset)) (told.foldl join unset) := by
  induction told with
  | nil => exact .none rfl
  | cons t rest ih =>
    have step : join unset t = t := if_pos rfl
    rw [List.foldl_cons, step]
    by_cases silent : t = unset
    · subst silent
      rw [List.dropWhile_cons_of_pos (by simp)]
      exact ih
    · rw [List.dropWhile_cons_of_neg (by simpa using silent)]
      rcases join_known t silent rest with ⟨joined, agree⟩ | ⟨joined, other, member, differ⟩
      · rw [joined]
        exact .one t (List.cons_ne_nil _ _) (List.forall_mem_cons.2 ⟨rfl, agree⟩)
      · rw [joined]
        exact .several t other List.mem_cons_self (List.mem_cons_of_mem _ member) differ

-- Attempts that tell the word for none, and behind them others that all tell one strategy.
def Eclipsed (told : List String) : Prop :=
  ∃ n m s, told = List.replicate (n + 1) unset ++ List.replicate (m + 1) s ∧
    s ≠ unset ∧ s ≠ mixed

theorem Eclipsed.joined (told : List String) (eclipsed : Eclipsed told) :
    ∃ s, told.foldl join unset = s ∧ s ≠ mixed ∧ Common told mixed := by
  obtain ⟨n, m, s, rfl, known, single⟩ := eclipsed
  refine ⟨s, ?_, single, .several unset s (by simp) (by simp) known.symm⟩
  have found := join_unset (List.replicate (n + 1) unset ++ List.replicate (m + 1) s)
  have passed : (List.replicate (n + 1) unset ++ List.replicate (m + 1) s).dropWhile (· = unset) =
      List.replicate (m + 1) s := by
    rw [List.dropWhile_append_of_pos (by simp), List.replicate_succ,
      List.dropWhile_cons_of_neg (by simpa using known)]
  rw [passed] at found
  exact found.unique _ _ _ (.one s (by simp) fun t member => List.eq_of_mem_replicate member)

theorem common_joined_iff (told : List String) :
    Common told (told.foldl join unset) ↔ ¬Eclipsed told := by
  constructor
  · intro common eclipsed
    obtain ⟨s, joined, single, mixes⟩ := eclipsed.joined told
    exact single (joined.symm.trans (common.unique told _ _ mixes))
  · intro visible
    have found := join_unset told
    have whole := List.takeWhile_append_dropWhile (p := (· = unset)) (l := told)
    have silent : ∀ t ∈ told.takeWhile (· = unset), t = unset := fun t member =>
      of_decide_eq_true (List.all_eq_true.1 List.all_takeWhile t member)
    have speaks := List.head?_dropWhile_not (· = unset) told
    generalize told.takeWhile (· = unset) = head at whole silent
    generalize told.dropWhile (· = unset) = rest at whole speaks found
    generalize told.foldl join unset = joined at found ⊢
    subst whole
    cases found with
    | none nobody =>
      subst nobody
      rw [List.append_nil]
      by_cases nobody : head = []
      · exact .none nobody
      · exact .one unset nobody silent
    | one _ somebody same =>
      by_cases first : head = []
      · subst first
        exact .one joined somebody same
      · obtain ⟨u, others, rfl⟩ := List.exists_cons_of_ne_nil somebody
        obtain ⟨t, before, rfl⟩ := List.exists_cons_of_ne_nil first
        have u_joined : u = joined := same u List.mem_cons_self
        have known : joined ≠ unset := u_joined ▸ of_decide_eq_false speaks
        by_cases single : joined = mixed
        · rw [single] at known ⊢
          exact .several unset mixed (List.mem_append_left _ (silent t List.mem_cons_self ▸
            List.mem_cons_self)) (List.mem_append_right _ (by simp [u_joined, single])) known.symm
        · refine absurd ⟨before.length, others.length, joined, ?_, known, single⟩ visible
          rw [List.eq_replicate_of_mem silent, List.eq_replicate_of_mem same]
          simp
    | several x y first second differ =>
      exact .several x y (List.mem_append_right _ first) (List.mem_append_right _ second) differ

end Strategy

namespace Tally

def counted (rs : List TestResult) : List TestResult :=
  rs.filter (·.status ≠ .noStatus)

def strategies (rs : List TestResult) : List String :=
  (counted rs).map (·.executionInfo.strategy)

theorem add_each (rs : List TestResult) (t : Tally) :
    rs.foldl add t =
      { cachedLocally := t.cachedLocally && (counted rs).all (·.cachedLocally)
        cachedRemotely := t.cachedRemotely && (counted rs).all (·.executionInfo.cachedRemotely)
        strategy := (strategies rs).foldl Strategy.join t.strategy } := by
  induction rs generalizing t with
  | nil => simp [counted, strategies]
  | cons r rest ih =>
    rw [List.foldl_cons, ih, add]
    by_cases silent : r.status = .noStatus
    · simp [counted, strategies, silent]
    · simp [counted, strategies, silent, Bool.and_assoc]

-- The strategy is the one that the attempts have in common behind those that tell the word for
-- none, and so the one that all of them have in common unless that is eclipsed.
theorem common_of_results (rs : List TestResult) :
    (ofResults rs).cachedLocally = (counted rs).all (·.cachedLocally) ∧
    (ofResults rs).cachedRemotely = (counted rs).all (·.executionInfo.cachedRemotely) ∧
    Strategy.Common ((strategies rs).dropWhile (· = Strategy.unset)) (ofResults rs).strategy ∧
    (Strategy.Common (strategies rs) (ofResults rs).strategy ↔
      ¬Strategy.Eclipsed (strategies rs)) := by
  have whole : ofResults rs = _ := add_each rs {}
  rw [whole]
  exact ⟨rfl, rfl, Strategy.join_unset _, Strategy.common_joined_iff _⟩

theorem unset_strategy_eclipsed :
    let rs : List TestResult :=
      [{ status := .passed, executionInfo := { strategy := "INITIALIZED" } },
        { status := .passed, executionInfo := { strategy := "remote" } }]
    Strategy.Common (strategies rs) Strategy.mixed ∧ (ofResults rs).strategy = "remote" := by
  intro rs
  exact ⟨.several "INITIALIZED" "remote" (by decide) (by decide) (by decide), rfl⟩

end Tally

end BuildDigest.Summary
