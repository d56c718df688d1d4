import Mathlib.Data.List.Forall2
import RemoteCall.CallError
/-!
# The canonical form of an error

An error is a tree whose leaves are failures. Its canonical form is found by walking through the tree
and collecting the leaves, so it depends on the list of leaves and on nothing else about the tree
(`normalize_eq_ofLeaves`). `ofLeaves` makes an error in canonical form from any list of failures and
`leaves` gets the list back, so that canonical errors and lists of failures correspond to each other
(`leaves_ofLeaves`, `ofLeaves_leaves_iff`). All that is said about canonical forms here follows from
these two facts.
-/

namespace RemoteCall.CallError

/-! ## Canonical errors -/

/-- Whether an error is a single failure. -/
def isFailure : CallError → Bool
  | failure _ => true
  | composite _ => false

/-- Whether an error is in canonical form: a single failure, or any number of failures side by side
other than one. -/
def IsCanonical : CallError → Prop
  | failure _ => True
  | composite causes => causes.length ≠ 1 ∧ ∀ e ∈ causes, e.isFailure

instance : DecidablePred IsCanonical
  | failure _ => inferInstanceAs (Decidable True)
  | composite causes =>
    inferInstanceAs (Decidable (causes.length ≠ 1 ∧ ∀ e ∈ causes, e.isFailure))

/-- The error in canonical form that has the given leaves. -/
def ofLeaves : List Failure → CallError
  | [f] => failure f
  | fs => composite (fs.map failure)

theorem ofLeaves_of_length_ne {fs : List Failure} (h : fs.length ≠ 1) :
    ofLeaves fs = composite (fs.map failure) := by
  match fs, h with
  | [], _ => rfl
  | [f], h => exact absurd rfl h
  | f :: g :: fs, _ => rfl

/-! ## Leaves -/

variable {d e : CallError} {causes causes' : List CallError}

theorem leavesOfAll_eq_flatMap (causes : List CallError) :
    leavesOfAll causes = causes.flatMap leaves := by
  induction causes with
  | nil => rfl
  | cons e es ih => rw [leavesOfAll, ih, List.flatMap_cons]

/-- Causes that are failures are their own leaves. -/
theorem leavesOfAll_map_failure (fs : List Failure) : leavesOfAll (fs.map failure) = fs := by
  rw [leavesOfAll_eq_flatMap, List.flatMap_map]
  exact List.flatMap_singleton' fs

/-- Causes with the same leaves, one by one, have the same leaves together. -/
theorem leavesOfAll_congr (h : List.Forall₂ (fun d e => e.leaves = d.leaves) causes causes') :
    leavesOfAll causes' = leavesOfAll causes := by
  induction h with
  | nil => rfl
  | cons hleaves _ ih => rw [leavesOfAll, leavesOfAll, hleaves, ih]

/-- No leaf is lost or added when an error is made from leaves. -/
@[simp]
theorem leaves_ofLeaves (fs : List Failure) : (ofLeaves fs).leaves = fs := by
  by_cases hone : fs.length = 1
  · obtain ⟨f, rfl⟩ := List.length_eq_one_iff.1 hone
    rfl
  · rw [ofLeaves_of_length_ne hone]
    exact leavesOfAll_map_failure fs

/-- An error that is made from leaves is canonical. -/
theorem isCanonical_ofLeaves (fs : List Failure) : (ofLeaves fs).IsCanonical := by
  by_cases hone : fs.length = 1
  · obtain ⟨f, rfl⟩ := List.length_eq_one_iff.1 hone
    trivial
  · rw [ofLeaves_of_length_ne hone]
    refine ⟨by simpa using hone, fun cause hcause => ?_⟩
    obtain ⟨f, -, rfl⟩ := List.mem_map.1 hcause
    rfl

/-- Causes none of which is a composite are the failures of a list. -/
theorem exists_eq_map_failure (h : ∀ e ∈ causes, e.isFailure) :
    ∃ fs : List Failure, causes = fs.map failure := by
  induction causes with
  | nil => exact ⟨[], rfl⟩
  | cons e es ih =>
    obtain ⟨he, hes⟩ := List.forall_mem_cons.1 h
    obtain ⟨fs, rfl⟩ := ih hes
    match e, he with
    | failure f, _ => exact ⟨f :: fs, rfl⟩

/-- The errors that are made from their leaves are the canonical ones. -/
theorem ofLeaves_leaves_iff : ofLeaves e.leaves = e ↔ e.IsCanonical := by
  refine ⟨fun h => h ▸ isCanonical_ofLeaves e.leaves, fun h => ?_⟩
  match e, h with
  | failure f, _ => rfl
  | composite causes, ⟨hlength, hcauses⟩ =>
    obtain ⟨fs, rfl⟩ := exists_eq_map_failure hcauses
    show ofLeaves (leavesOfAll (fs.map failure)) = composite (fs.map failure)
    rw [leavesOfAll_map_failure]
    exact ofLeaves_of_length_ne (by simpa using hlength)

/-! ## The walk through the tree -/

mutual

/-- The walk through an error finds its leaves. -/
theorem flattenOnto_eq (found : Array CallError) :
    (e : CallError) → (flattenOnto found e).toList = found.toList ++ e.leaves.map failure
  | failure _ => Array.toList_push
  | composite causes => flattenAllOnto_eq found causes

/-- The walk through several errors finds their leaves, one error after the other. -/
theorem flattenAllOnto_eq (found : Array CallError) : (causes : List CallError) →
    (flattenAllOnto found causes).toList = found.toList ++ (leavesOfAll causes).map failure
  | [] => (List.append_nil _).symm
  | e :: es => by
    -- What was found in the first error stands in front of what is found in the others.
    rw [flattenAllOnto, flattenAllOnto_eq _ es, flattenOnto_eq found e, leavesOfAll, List.map_append,
      List.append_assoc]

end

/-- The canonical form of an error depends on its leaves only. -/
theorem normalize_eq_ofLeaves (e : CallError) : e.normalize = ofLeaves e.leaves := by
  match e with
  | failure f => rfl
  | composite causes =>
    have hfound : (flattenAllOnto #[] causes).toList = (leavesOfAll causes).map failure :=
      flattenAllOnto_eq #[] causes
    rw [normalize, hfound]
    show _ = ofLeaves (leavesOfAll causes)
    match leavesOfAll causes with
    | [] => rfl
    | [f] => rfl
    | f :: g :: fs => rfl

/-- The canonical form has the leaves of the error. -/
@[simp]
theorem leaves_normalize (e : CallError) : e.normalize.leaves = e.leaves := by
  rw [normalize_eq_ofLeaves, leaves_ofLeaves]

/-- Two errors have one canonical form exactly if they have the same leaves. -/
theorem normalize_eq_normalize_iff : d.normalize = e.normalize ↔ d.leaves = e.leaves := by
  constructor
  · intro h
    rw [← leaves_normalize d, h, leaves_normalize]
  · intro h
    rw [normalize_eq_ofLeaves, normalize_eq_ofLeaves, h]

/-- The canonical form of an error tells its leaves, all of them and in order, and nothing else:

* it has the same leaves, and it is canonical: no composite is within another, and none has just one
  cause;
* an error with one leaf becomes this leaf, and a composite with any other number of leaves, be it
  none, becomes the composite of its leaves;
* bringing it into canonical form again changes nothing, and the errors that do not change are the
  canonical ones;
* two errors have one canonical form exactly if they have the same leaves;
* it makes no difference whether causes of a composite are brought into canonical form first, all of
  them or any of them. -/
theorem canonical_form_tells_the_leaves (e : CallError) :
    e.normalize.leaves = e.leaves ∧
    e.normalize.IsCanonical ∧
    (∀ f, e.leaves = [f] → e.normalize = failure f) ∧
    (∀ causes, e = composite causes → e.leaves.length ≠ 1 →
      e.normalize = composite (e.leaves.map failure)) ∧
    e.normalize.normalize = e.normalize ∧
    (e.normalize = e ↔ e.IsCanonical) ∧
    (∀ d : CallError, d.normalize = e.normalize ↔ d.leaves = e.leaves) ∧
    (∀ causes, (composite (causes.map normalize)).normalize = (composite causes).normalize) ∧
    (∀ causes causes', List.Forall₂ (fun c c' => c' = c ∨ c' = c.normalize) causes causes' →
      (composite causes').normalize = (composite causes).normalize) := by
  have hchosen : ∀ causes causes', List.Forall₂ (fun c c' => c' = c ∨ c' = c.normalize) causes
      causes' → (composite causes').normalize = (composite causes).normalize := by
    intro causes causes' h
    apply normalize_eq_normalize_iff.2
    apply leavesOfAll_congr
    refine h.imp fun c c' hc' => ?_
    obtain rfl | rfl := hc'
    · rfl
    · exact leaves_normalize c
  refine ⟨leaves_normalize e, ?_, ?_, ?_, ?_, ?_, fun d => normalize_eq_normalize_iff, ?_, hchosen⟩
  · rw [normalize_eq_ofLeaves]
    exact isCanonical_ofLeaves _
  · intro f hleaf
    rw [normalize_eq_ofLeaves, hleaf]
    rfl
  · intro causes _ hlength
    rw [normalize_eq_ofLeaves, ofLeaves_of_length_ne hlength]
  · exact normalize_eq_normalize_iff.2 (leaves_normalize e)
  · rw [normalize_eq_ofLeaves]
    exact ofLeaves_leaves_iff
  · intro causes
    apply hchosen
    exact List.forall₂_map_right_iff.2 (List.forall₂_same.2 fun c _ => .inr rfl)

/-- A composite without causes beside a failure: the failure is the only leaf, and it is left alone
or joined by the leaf beside it. -/
theorem one_failure_in_two_composites :
    let single := composite [composite [], composite [failure .noRuntime]]
    let both := composite [single, failure .dispatcherClosed]
    let flat := composite [failure .noRuntime, failure .dispatcherClosed]
    single.leaves = [.noRuntime] ∧ single.normalize = failure .noRuntime ∧
    both.leaves.length ≠ 1 ∧ both.normalize = flat ∧
    List.Forall₂ (fun c c' => c' = c ∨ c' = c.normalize) [single, failure .dispatcherClosed]
      [failure .noRuntime, failure .dispatcherClosed] ∧
    flat.normalize = both.normalize := by
  intro single both flat
  obtain ⟨-, -, hone, -⟩ := canonical_form_tells_the_leaves single
  obtain ⟨-, -, -, hmany, -, -, -, -, hchosen⟩ := canonical_form_tells_the_leaves both
  have hsingle : single.normalize = failure .noRuntime := hone .noRuntime rfl
  have hcauses : List.Forall₂ (fun c c' => c' = c ∨ c' = c.normalize)
      [single, failure .dispatcherClosed] [failure .noRuntime, failure .dispatcherClosed] :=
    .cons (.inr hsingle.symm) (.cons (.inl rfl) .nil)
  exact ⟨rfl, hsingle, by decide, hmany _ rfl (by decide), hcauses, hchosen _ _ hcauses⟩

end RemoteCall.CallError
